import StructuralCast.Factory
import StructuralCast.Text.Decimal

/-!
Contract: the values that flow through members, callables and events.

Scalars, enum and struct values are what they say. Texts, objects, callables and wrappers also have
an identity, their `Allocation`. Wrappers are the adapters that an engine makes, the proxies of the
host, and two sorts of callables: those that an engine makes over a callable, and those of the host
that show what is behind them, whatever their routine does. `Value.facade?` gives what a wrapper shows
and wraps, and `Value.peel` takes wrappers off until a plain value, or a wrapper around null, is left.
-/

namespace StructuralCast

/-- The identity of a text or a wrapper, by the order in which they were made. -/
structure Ref where
  number : Nat
deriving DecidableEq

/-- The handler list that an adapter keeps for a relayed event. -/
structure RelayId where
  index : Nat
deriving DecidableEq

/-- An object; its fields and handlers are kept by the world it lives in. -/
structure Instance where
  number : Nat
  type : TypeId
  typeName : String
deriving DecidableEq

/-- The body of a callable of the host that shows something else: the shape that it presents, the name
of it, and the routine that it runs. -/
structure HostBody where
  shape : TypeId
  shapeName : String
  routine : RoutineId

mutual

inductive Value where
  | null
  | bool (truth : Bool)
  | int (number : Int64)
  | float (bits : UInt64)
  | text (ref : Ref) (content : String)
  | enumeration (type : TypeId) (value : Int64)
  | struct (type : TypeId) (fields : List Value)
  | object (handle : Instance)
  | callable (callable : Callable)
  | adapter (ref : Ref) (factory : Factory) (source : Value) (relays : List (Option RelayId))
  | proxy (ref : Ref) (shape : TypeId) (shapeName : String) (inner : Value)

inductive Callable where
  | native (number : Nat) (type : TypeId) (routine : RoutineId)
  | adapted (ref : Ref) (factory : DelegateFactory) (inner : Callable)
  | foreign (ref : Ref) (type : TypeId) (body : HostBody) (inner : Value)

end

/-- What makes two things of one content different: what they are, and which of these. -/
inductive Allocation where
  | object (number : Nat)
  | native (number : Nat)
  | text (ref : Ref)
  | callable (ref : Ref)
  | wrapper (ref : Ref)
deriving DecidableEq

namespace Callable

def type : Callable → TypeId
  | native _ type _ => type
  | adapted _ factory _ => factory.target
  | foreign _ type _ _ => type

def allocation : Callable → Allocation
  | native number _ _ => .native number
  | adapted ref _ _ => .callable ref
  | foreign ref _ _ _ => .callable ref

/-- Callables are handlers, and handlers are the same when they are one allocation. -/
def same (left right : Callable) : Bool := left.allocation = right.allocation

/-- What a callable shows of itself as a wrapper: its shape, the name of it, and what it wraps. -/
def facade? : Callable → Option (TypeId × String × Value)
  | native _ _ _ => none
  | adapted _ factory inner => some (factory.target, factory.targetName, .callable inner)
  | foreign _ _ body inner => some (body.shape, body.shapeName, inner)

end Callable

/-- An adapter of an engine, taken out of its value. -/
structure Adapter where
  ref : Ref
  factory : Factory
  source : Value
  relays : List (Option RelayId)

namespace Value

def isNull : Value → Bool
  | null => true
  | _ => false

/-- The type of a value; null has none. A wrapper has the type of its shape. -/
def type? : Value → Option TypeId
  | null => none
  | bool _ => some .bool
  | int _ => some .int
  | float _ => some .float
  | text _ _ => some .text
  | enumeration type _ => some type
  | struct type _ => some type
  | object o => some o.type
  | callable c => some c.type
  | adapter _ factory _ _ => some factory.shape
  | proxy _ shape _ _ => some shape

def allocation? : Value → Option Allocation
  | text ref _ => some (.text ref)
  | object o => some (.object o.number)
  | callable c => some c.allocation
  | adapter ref _ _ _ => some (.wrapper ref)
  | proxy ref _ _ _ => some (.wrapper ref)
  | _ => none

/-- Whether two values are one allocation. -/
def sameAllocation (left right : Value) : Bool :=
  match left.allocation?, right.allocation? with
  | some one, some other => one = other
  | _, _ => false

def facade? : Value → Option (TypeId × String × Value)
  | callable c => c.facade?
  | adapter _ factory source _ => some (factory.shape, factory.shapeName, source)
  | proxy _ shape shapeName inner => some (shape, shapeName, inner)
  | _ => none

def adapter? : Value → Option Adapter
  | adapter ref factory source relays => some ⟨ref, factory, source, relays⟩
  | _ => none

end Value

/-- The name of the type of a value. -/
def Registry.typeName (registry : Registry) (value : Value) : String :=
  match value.type? with
  | some type => registry.name type
  | none => "null"

mutual

/-- What is left when all wrappers are taken off. A wrapper around null is not taken off. -/
def Value.peel : Value → Value
  | .adapter ref factory source relays =>
    if source.isNull then .adapter ref factory source relays else source.peel
  | .proxy ref shape shapeName inner =>
    if inner.isNull then .proxy ref shape shapeName inner else inner.peel
  | .callable c => c.peel
  | .null => .null
  | .bool truth => .bool truth
  | .int number => .int number
  | .float bits => .float bits
  | .text ref content => .text ref content
  | .enumeration type value => .enumeration type value
  | .struct type fields => .struct type fields
  | .object o => .object o

def Callable.peel : Callable → Value
  | .native number type routine => .callable (.native number type routine)
  | .adapted _ _ inner => inner.peel
  | .foreign ref type body inner =>
    if inner.isNull then .callable (.foreign ref type body inner) else inner.peel

end

mutual

/-- Takes off what engines put on: adapters of instances, and callables over callables. -/
def Value.unadapt : Value → Value
  | .adapter ref factory source relays =>
    if factory.isStatic then .adapter ref factory source relays else source.unadapt
  | .callable c => .callable c.unadapt
  | .proxy ref shape shapeName inner => .proxy ref shape shapeName inner
  | .null => .null
  | .bool truth => .bool truth
  | .int number => .int number
  | .float bits => .float bits
  | .text ref content => .text ref content
  | .enumeration type value => .enumeration type value
  | .struct type fields => .struct type fields
  | .object o => .object o

def Callable.unadapt : Callable → Callable
  | .native number type routine => .native number type routine
  | .adapted _ _ inner => inner.unadapt
  | .foreign ref type body inner => .foreign ref type body inner

end

end StructuralCast
