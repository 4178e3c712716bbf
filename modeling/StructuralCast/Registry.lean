import StructuralCast.TypeInfo
import StructuralCast.Error

/-!
Contract: the types that a host has registered.

A registry holds one `TypeInfo` per id, in order of registration. `declare` gives a key its id,
`define` attaches a definition to an id once, and both refuse without changing anything. `register`
does the one and then the other, so a key stays declared when its definition is refused.

The first ids are primitives, the ids after them up to `TypeId.firstDynamic` are reserved: these
have names, but their keys cannot be looked up.
-/

namespace StructuralCast

open Text

structure Registry where
  types : Array TypeInfo

namespace Registry

def primitive (id : TypeId) (kind : TypeKind) (flags : TypeFlags) (base : Option TypeId) :
    TypeInfo :=
  let name := id.primitiveName?.getD "<primitive>"
  { TypeInfo.declared id name (.named name) kind with flags := flags, base := base, defined := true }

def scalarFlags : TypeFlags := { TypeFlags.empty with valueType := true, isSealed := true }

def primitives : List TypeInfo :=
  [ primitive .object .classType TypeFlags.empty none,
    primitive .void .primitive TypeFlags.empty none,
    primitive .bool .primitive scalarFlags (some .object),
    primitive .int .primitive scalarFlags (some .object),
    primitive .float .primitive scalarFlags (some .object),
    primitive .text .classType { TypeFlags.empty with isSealed := true } (some .object) ]

def reserved (raw : Nat) : TypeInfo :=
  let name := "<reserved " ++ toString raw ++ ">"
  { TypeInfo.declared ⟨raw⟩ name (.named name) .primitive with defined := true }

/-- The registry before a host registers anything. -/
def initial : Registry :=
  let free := List.range' primitives.length (TypeId.firstDynamic - primitives.length)
  ⟨(primitives ++ free.map reserved).toArray⟩

def size (registry : Registry) : Nat := registry.types.size

/-- Every id that has been given out. -/
def ids (registry : Registry) : List TypeId := (List.range registry.size).map TypeId.mk

def issued (registry : Registry) (id : TypeId) : Bool := id.raw < registry.size

theorem mem_ids_iff {registry : Registry} {id : TypeId} :
    id ∈ registry.ids ↔ registry.issued id = true := by
  obtain ⟨raw⟩ := id
  simp [ids, issued]

def find? (registry : Registry) (id : TypeId) : Option TypeInfo := registry.types[id.raw]?

/-- What is known about an id; an id that was never given out has no members. -/
def info (registry : Registry) (id : TypeId) : TypeInfo :=
  (registry.find? id).getD (TypeInfo.unissued id)

def name (registry : Registry) (id : TypeId) : String :=
  if id.isAbsent then "<none>" else (registry.info id).name

def kind (registry : Registry) (id : TypeId) : TypeKind := (registry.info id).kind

def isValueType (registry : Registry) (id : TypeId) : Bool := (registry.info id).isValueType

/-- Whether an id belongs to a reserved slot. -/
def isReserved (id : TypeId) : Bool := !id.isPrimitive && id.raw < TypeId.firstDynamic

/-- The type that is declared under a key. Keys that can be looked up are unique, so a search of the
types does what a table of the keys would do. -/
def lookup (registry : Registry) (key : TypeKey) : Option TypeId :=
  (registry.types.find? fun info => info.key = key && !isReserved info.id).map TypeInfo.id

/-- The name of a type that is declared under a key. -/
def keyName (registry : Registry) : TypeKey → String
  | .named path => path
  | .constructed definition args =>
    let argName (id : TypeId) := ((registry.find? id).map TypeInfo.name).getD "?"
    definition ++ "<" ++ Dump.commaSeparated (args.map argName) ++ ">"
  | .genericParam _ position => "T" ++ toString position

/-- The text by which a type is told apart from another one of the same key. -/
def portrait (registry : Registry) (id : TypeId) : String :=
  match registry.find? id with
  | some info =>
    info.name ++ " (" ++ info.kind.dump ++ ", " ++ id.dump ++ ", key " ++ info.key.dump ++ ")"
  | none => id.dump

def add (registry : Registry) (name : String) (key : TypeKey) (kind : TypeKind) :
    Registry × TypeId :=
  let id : TypeId := ⟨registry.size⟩
  (⟨registry.types.push (TypeInfo.declared id name key kind)⟩, id)

def declare (registry : Registry) (key : TypeKey) (kind : TypeKind) :
    Except RegistryError (Registry × TypeId) :=
  let name := registry.keyName key
  match registry.lookup key with
  | some existing =>
    .error (.ambiguousTypes (registry.portrait existing)
      (name ++ " (" ++ kind.dump ++ ", key " ++ key.dump ++ ")"))
  | none => .ok (registry.add name key kind)

/-- The generic parameter of an owner at a position, declared on first use. -/
def genericParam (registry : Registry) (owner : GenericOwner) (position : Nat) (name : String) :
    Registry × TypeId :=
  let key := TypeKey.genericParam owner position
  match registry.lookup key with
  | some existing => (registry, existing)
  | none => registry.add name key .genericParam

def define (registry : Registry) (id : TypeId) (definition : Definition) :
    Except RegistryError Registry :=
  match registry.find? id with
  | none => .error (.unknownType id)
  | some current =>
    match definition.referencedTypes.find? fun mentioned => !registry.issued mentioned with
    | some unknown => .error (.unknownType unknown)
    | none =>
      if current.defined then .error (.alreadyDefined current.name)
      else .ok ⟨registry.types.setIfInBounds id.raw (current.define definition)⟩

def register (registry : Registry) (key : TypeKey) (kind : TypeKind) (definition : Definition) :
    Registry × Except RegistryError TypeId :=
  match registry.declare key kind with
  | .error cause => (registry, .error cause)
  | .ok (declared, id) =>
    match declared.define id definition with
    | .error cause => (declared, .error cause)
    | .ok defined => (defined, .ok id)

/-- Objects are made of classes that are neither primitive nor abstract nor static. -/
def instantiable (registry : Registry) (id : TypeId) : Except RegistryError TypeInfo :=
  match registry.find? id with
  | none => .error (.unknownType id)
  | some info =>
    if info.kind ≠ .classType ∨ id.isPrimitive ∨ info.flags.isAbstract ∨ info.flags.isStatic then
      .error (.notInstantiable info.name)
    else .ok info

def dump (registry : Registry) : String :=
  Dump.openRecord "TypeRegistry" [("types", toString registry.size)]

end Registry
end StructuralCast
