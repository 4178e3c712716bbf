import StructuralCast.Conversion
import StructuralCast.Resolution

/-!
Contract: the tables by which adapters forward.

A factory has one slot per member of its shape: the bound member and the conversions for what goes
in and what comes out. `Registry.synthesize` plans the conversions of a blueprint. An event whose
handler type differs from that of its source has a relay plan; all others subscribe directly.

A delegate factory is the same for callables: one signature and its conversions.
-/

namespace StructuralCast

open Text

/-- An engine, by the order in which the engines were made. -/
structure EngineId where
  index : Nat
deriving DecidableEq

structure MethodSlot where
  name : String
  params : List TypeId
  result : TypeId
  source : Method
  argConversions : List Conversion
  resultConversion : Conversion
deriving DecidableEq

structure PropertySlot where
  name : String
  type : TypeId
  index : List TypeId
  readable : Bool
  writable : Bool
  source : Property
  indexConversions : List Conversion
  onGet : Conversion
  onSet : Conversion
deriving DecidableEq

/-- How the arguments of a source event become those of a shape event, and results come back. -/
structure RelayPlan where
  argConversions : List Conversion
  resultConversion : Conversion
deriving DecidableEq

structure EventSlot where
  name : String
  handler : TypeId
  sourceEvent : String
  sourceHandler : TypeId
  relay : Option RelayPlan
deriving DecidableEq

inductive Slot where
  | method (slot : MethodSlot)
  | property (slot : PropertySlot)
  | event (slot : EventSlot)
deriving DecidableEq

/-- The table that every adapter of one source type onto one shape shares. -/
structure Factory where
  engine : EngineId
  blueprint : Blueprint
  shapeName : String
  slots : List Slot
deriving DecidableEq

structure DelegateFactory where
  engine : EngineId
  target : TypeId
  source : TypeId
  targetName : String
  params : List TypeId
  result : TypeId
  argConversions : List Conversion
  resultConversion : Conversion
deriving DecidableEq

namespace MethodSlot

def dump (slot : MethodSlot) : String :=
  Dump.record "MethodSlot"
    [("name", Quoted.encode slot.name),
     ("params", Dump.list (slot.params.map TypeId.dump)),
     ("ret", slot.result.dump),
     ("source", slot.source.dump),
     ("args", Dump.list (slot.argConversions.map Conversion.dump)),
     ("result", slot.resultConversion.dump)]

end MethodSlot

namespace PropertySlot

def dump (slot : PropertySlot) : String :=
  Dump.record "PropertySlot"
    [("name", Quoted.encode slot.name),
     ("ty", slot.type.dump),
     ("index", Dump.list (slot.index.map TypeId.dump)),
     ("readable", toString slot.readable),
     ("writable", toString slot.writable),
     ("source", slot.source.dump),
     ("index_args", Dump.list (slot.indexConversions.map Conversion.dump)),
     ("on_get", slot.onGet.dump),
     ("on_set", slot.onSet.dump)]

end PropertySlot

namespace RelayPlan

def dump (plan : RelayPlan) : String :=
  Dump.record "RelayPlan"
    [("args", Dump.list (plan.argConversions.map Conversion.dump)),
     ("result", plan.resultConversion.dump)]

end RelayPlan

namespace EventSlot

def dump (slot : EventSlot) : String :=
  Dump.record "EventSlot"
    [("name", Quoted.encode slot.name),
     ("handler", slot.handler.dump),
     ("source_event", Quoted.encode slot.sourceEvent),
     ("source_handler", slot.sourceHandler.dump),
     ("relay", Dump.option (slot.relay.map RelayPlan.dump))]

end EventSlot

namespace Slot

def method? : Slot → Option MethodSlot
  | method slot => some slot
  | _ => none

def property? : Slot → Option PropertySlot
  | property slot => some slot
  | _ => none

def event? : Slot → Option EventSlot
  | event slot => some slot
  | _ => none

end Slot

namespace Factory

def shape (factory : Factory) : TypeId := factory.blueprint.shape

def source (factory : Factory) : TypeId := factory.blueprint.source

def isStatic (factory : Factory) : Bool := factory.blueprint.isStatic

def methods (factory : Factory) : List MethodSlot := factory.slots.filterMap Slot.method?

def properties (factory : Factory) : List PropertySlot := factory.slots.filterMap Slot.property?

def events (factory : Factory) : List EventSlot := factory.slots.filterMap Slot.event?

/-- An engine makes at most one factory for a shape, a source type and a side. -/
def same (left right : Factory) : Bool :=
  left.engine = right.engine && left.shape = right.shape && left.source = right.source &&
    left.isStatic = right.isStatic

def dump (factory : Factory) : String :=
  Dump.record "AdapterFactory"
    [("shape", Quoted.encode factory.shapeName),
     ("source", factory.source.dump),
     ("is_static", toString factory.isStatic),
     ("methods", toString factory.methods.length),
     ("properties", toString factory.properties.length),
     ("events", toString factory.events.length)]

end Factory

namespace DelegateFactory

/-- An engine makes at most one delegate factory for a pair of types. -/
def same (left right : DelegateFactory) : Bool :=
  left.engine = right.engine && left.target = right.target && left.source = right.source

def dump (factory : DelegateFactory) : String :=
  Dump.openRecord "DelegateFactory"
    [("to", Quoted.encode factory.targetName), ("from", factory.source.dump)]

end DelegateFactory

namespace Registry

/-- Relaying needs two delegate types of one arity. -/
def planRelay (registry : Registry) (target source : TypeId) : Except CastError RelayPlan :=
  match (registry.info target).invoke, (registry.info source).invoke with
  | some wanted, some offered =>
    if wanted.params.length = offered.params.length then do
      let args ← registry.planConversions wanted.params offered.params
      let result ← registry.planConversion offered.result wanted.result
      return ⟨args, result⟩
    else .error (.noConversion (registry.info source).name (registry.info target).name)
  | _, _ => .error (.noConversion (registry.info source).name (registry.info target).name)

def planSlot (registry : Registry) : Binding → Except CastError Slot
  | .method _ required provided => do
    let args ← registry.planConversions provided.params required.params
    let result ← registry.planConversion required.result provided.result
    return .method
      { name := required.name, params := required.params, result := required.result,
        source := provided, argConversions := args, resultConversion := result }
  | .property _ required provided => do
    let index ← registry.planConversions provided.index required.index
    let onGet ← registry.planConversion required.type provided.type
    let onSet ← registry.planConversion provided.type required.type
    return .property
      { name := required.name, type := required.type, index := required.index,
        readable := required.canRead, writable := required.canWrite, source := provided,
        indexConversions := index, onGet := onGet, onSet := onSet }
  | .event _ required provided => do
    let relay ←
      if required.handler = provided.handler then pure none
      else some <$> registry.planRelay required.handler provided.handler
    return .event
      { name := required.name, handler := required.handler, sourceEvent := provided.name,
        sourceHandler := provided.handler, relay := relay }

/-- Plans every conversion of a blueprint. -/
def synthesize (registry : Registry) (engine : EngineId) (blueprint : Blueprint) :
    Except CastError Factory := do
  let slots ← blueprint.bindings.mapM registry.planSlot
  return { engine := engine, blueprint := blueprint, shapeName := registry.name blueprint.shape,
           slots := slots }

/-- Plans the conversions between two delegate types. -/
def synthesizeDelegate (registry : Registry) (engine : EngineId) (target source : TypeId) :
    Except CastError DelegateFactory :=
  match (registry.info target).invoke, (registry.info source).invoke with
  | some wanted, some offered => do
    let args ← registry.planConversions offered.params wanted.params
    let result ← registry.planConversion wanted.result offered.result
    return { engine := engine, target := target, source := source,
             targetName := (registry.info target).name, params := wanted.params,
             result := wanted.result, argConversions := args, resultConversion := result }
  | _, _ => .error (.invalidCast (registry.name source) (registry.name target))

end Registry
end StructuralCast
