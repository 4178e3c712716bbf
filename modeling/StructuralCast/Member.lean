import StructuralCast.TypeId
import StructuralCast.Text.Dump
import StructuralCast.Text.Quoted

/-!
Contract: what a type declares.

Methods, properties and events are what a shape asks for and what a source type offers; fields
only say that a type cannot be a shape. A body is the name of a routine of the host: this library
never looks inside one, it only decides when to run it and on what.
-/

namespace StructuralCast

open Text

/-- A routine of the host, as the host numbers them. -/
structure RoutineId where
  index : Nat
deriving DecidableEq

inductive Visibility where
  | visible
  | internal
  | hidden
deriving DecidableEq

namespace Visibility

def dump : Visibility → String
  | visible => "Public"
  | internal => "Internal"
  | hidden => "Private"

end Visibility

inductive MemberKind where
  | method
  | property
  | indexer
  | event
  | field
deriving DecidableEq

namespace MemberKind

def word : MemberKind → String
  | method => "method"
  | property => "property"
  | indexer => "indexer"
  | event => "event"
  | field => "field"

end MemberKind

structure Method where
  name : String
  params : List TypeId
  result : TypeId
  isStatic : Bool
  genericArity : Nat
  visibility : Visibility
  body : Option RoutineId
deriving DecidableEq

namespace Method

def isPublic (method : Method) : Bool := method.visibility = .visible

def dump (method : Method) : String :=
  Dump.record "MethodDef"
    [("name", Quoted.encode method.name),
     ("params", Dump.list (method.params.map TypeId.dump)),
     ("ret", method.result.dump),
     ("is_static", toString method.isStatic),
     ("generic_arity", toString method.genericArity),
     ("visibility", method.visibility.dump),
     ("has_body", toString method.body.isSome)]

end Method

/-- One direction of a property. -/
structure Accessor where
  visibility : Visibility
  body : Option RoutineId
deriving DecidableEq

namespace Accessor

def isPublic (accessor : Accessor) : Bool := accessor.visibility = .visible

end Accessor

/-- A property with index types is an indexer. -/
structure Property where
  name : String
  type : TypeId
  index : List TypeId
  getter : Option Accessor
  setter : Option Accessor
  isStatic : Bool
deriving DecidableEq

namespace Property

def canRead (property : Property) : Bool := property.getter.isSome

def canWrite (property : Property) : Bool := property.setter.isSome

def kind (property : Property) : MemberKind :=
  if property.index.isEmpty then .property else .indexer

def dump (property : Property) : String :=
  Dump.record "PropertyDef"
    [("name", Quoted.encode property.name),
     ("ty", property.type.dump),
     ("index", Dump.list (property.index.map TypeId.dump)),
     ("can_read", toString property.canRead),
     ("can_write", toString property.canWrite),
     ("is_static", toString property.isStatic)]

end Property

structure Event where
  name : String
  handler : TypeId
  isStatic : Bool
deriving DecidableEq

structure Field where
  name : String
  type : TypeId
  isStatic : Bool
deriving DecidableEq

/-- A named value of an enum type. -/
structure Variant where
  name : String
  value : Int64
deriving DecidableEq

/-- What a delegate takes and gives back. -/
structure Signature where
  params : List TypeId
  result : TypeId
deriving DecidableEq

/-- A member that an adapter can implement. -/
inductive Member where
  | method (method : Method)
  | property (property : Property)
  | event (event : Event)
deriving DecidableEq

namespace Member

def kind : Member → MemberKind
  | method _ => .method
  | property p => p.kind
  | event _ => .event

def name : Member → String
  | method m => m.name
  | property p => p.name
  | event e => e.name

/-- Parameter types of a method, index types of a property. -/
def params : Member → List TypeId
  | method m => m.params
  | property p => p.index
  | event _ => []

/-- Result type of a method, type of a property, handler type of an event. -/
def result : Member → TypeId
  | method m => m.result
  | property p => p.type
  | event e => e.handler

def isStatic : Member → Bool
  | method m => m.isStatic
  | property p => p.isStatic
  | event e => e.isStatic

def genericArity : Member → Nat
  | method m => m.genericArity
  | property _ => 0
  | event _ => 0

/-- Whether two members ask for the same thing; bodies and visibility do not count. -/
def sameSignature (left right : Member) : Bool :=
  left.kind = right.kind && left.name = right.name && left.params = right.params &&
    left.result = right.result && left.isStatic = right.isStatic &&
    left.genericArity = right.genericArity

end Member
end StructuralCast
