import StructuralCast.Member

/-!
Contract: what a registry knows about one type.

A type is declared under a key, which fixes its name and kind, and defined once, which fixes its
base, interfaces and members. `TypeInfo.define` is the second step.
-/

namespace StructuralCast

open Text

inductive TypeKind where
  | classType
  | structType
  | interface
  | delegate
  | enumType
  | genericParam
  | primitive
deriving DecidableEq

namespace TypeKind

def dump : TypeKind → String
  | classType => "Class"
  | structType => "Struct"
  | interface => "Interface"
  | delegate => "Delegate"
  | enumType => "Enum"
  | genericParam => "GenericParam"
  | primitive => "Primitive"

/-- Kinds whose types descend from `object` when they name no other base. -/
def descendsFromObject : TypeKind → Bool
  | classType | structType | enumType | delegate => true
  | interface | genericParam | primitive => false

end TypeKind

structure TypeFlags where
  valueType : Bool
  isSealed : Bool
  isAbstract : Bool
  isStatic : Bool
deriving DecidableEq

namespace TypeFlags

def empty : TypeFlags := ⟨false, false, false, false⟩

def union (left right : TypeFlags) : TypeFlags :=
  ⟨left.valueType || right.valueType, left.isSealed || right.isSealed,
   left.isAbstract || right.isAbstract, left.isStatic || right.isStatic⟩

/-- The flags that a kind brings with it. -/
def ofKind : TypeKind → TypeFlags
  | .structType | .enumType => { empty with valueType := true, isSealed := true }
  | .delegate => { empty with isSealed := true }
  | .interface => { empty with isAbstract := true }
  | .classType | .genericParam | .primitive => empty

end TypeFlags

/-- Who declares a generic parameter. -/
inductive GenericOwner where
  | type (id : TypeId)
  | method (declaring : TypeId) (name : String)
deriving DecidableEq

/-- What a type is declared under. -/
inductive TypeKey where
  | named (path : String)
  | constructed (definition : String) (args : List TypeId)
  | genericParam (owner : GenericOwner) (position : Nat)
deriving DecidableEq

namespace GenericOwner

def dump : GenericOwner → String
  | type id => Dump.tuple "Type" [id.dump]
  | method declaring name =>
    Dump.record "Method" [("declaring", declaring.dump), ("method", Quoted.encode name)]

end GenericOwner

namespace TypeKey

def dump : TypeKey → String
  | named path => Dump.tuple "Named" [Quoted.encode path]
  | constructed definition args =>
    Dump.record "Constructed"
      [("definition", Quoted.encode definition), ("args", Dump.list (args.map TypeId.dump))]
  | genericParam owner position =>
    Dump.record "GenericParam" [("owner", owner.dump), ("position", toString position)]

end TypeKey

/-- What `define` attaches to a declared type. -/
structure Definition where
  base : Option TypeId
  interfaces : List TypeId
  methods : List Method
  properties : List Property
  events : List Event
  fields : List Field
  variants : List Variant
  invoke : Option Signature
  genericArity : Nat
  flags : TypeFlags
deriving DecidableEq

namespace Definition

def empty : Definition :=
  { base := none, interfaces := [], methods := [], properties := [], events := [], fields := [],
    variants := [], invoke := none, genericArity := 0, flags := TypeFlags.empty }

/-- Every type that a definition mentions, in the order in which they are checked. -/
def referencedTypes (definition : Definition) : List TypeId :=
  definition.base.toList ++ definition.interfaces ++
    definition.methods.flatMap (fun method => method.params ++ [method.result]) ++
    definition.properties.flatMap (fun property => property.index ++ [property.type]) ++
    definition.events.map Event.handler ++
    definition.fields.map Field.type ++
    definition.invoke.toList.flatMap (fun signature => signature.params ++ [signature.result])

end Definition

/-- A declared type together with its definition, which is empty until it is given. -/
structure TypeInfo extends Definition where
  id : TypeId
  name : String
  key : TypeKey
  kind : TypeKind
  defined : Bool
deriving DecidableEq

namespace TypeInfo

def declared (id : TypeId) (name : String) (key : TypeKey) (kind : TypeKind) : TypeInfo :=
  { Definition.empty with
    flags := TypeFlags.ofKind kind, id := id, name := name, key := key, kind := kind,
    defined := false }

/-- What is said about an id that was never given out: a type without members, named by its id. -/
def unissued (id : TypeId) : TypeInfo := declared id id.dump (.named id.dump) .primitive

/-- Attaches a definition. Without a base, types that descend from `object` get that one. -/
def define (info : TypeInfo) (definition : Definition) : TypeInfo :=
  { definition with
    base := definition.base <|>
      (if info.kind.descendsFromObject ∧ info.id ≠ .object then some .object else none)
    flags := info.flags.union definition.flags
    id := info.id, name := info.name, key := info.key, kind := info.kind, defined := true }

def isValueType (info : TypeInfo) : Bool := info.flags.valueType

def isInterface (info : TypeInfo) : Bool := info.kind = .interface

def isDelegate (info : TypeInfo) : Bool := info.kind = .delegate

def isEnum (info : TypeInfo) : Bool := info.kind = .enumType

def genericPosition? (info : TypeInfo) : Option Nat :=
  match info.key with
  | .genericParam _ position => some position
  | _ => none

def methodsNamed (info : TypeInfo) (name : String) : List Method :=
  info.methods.filter (·.name = name)

def propertyNamed? (info : TypeInfo) (name : String) : Option Property :=
  info.properties.find? (·.name = name)

def eventNamed? (info : TypeInfo) (name : String) : Option Event :=
  info.events.find? (·.name = name)

def variantNamed? (info : TypeInfo) (name : String) : Option Variant :=
  info.variants.find? (·.name = name)

def variantValued? (info : TypeInfo) (value : Int64) : Option Variant :=
  info.variants.find? (·.value = value)

end TypeInfo
end StructuralCast
