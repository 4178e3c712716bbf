import StructuralCast.Script.Operand
import StructuralCast.Cast

/-!
Contract: what a script may do with engines.

A name holds an engine as one of its owners. Values are evaluated first, then types are looked up,
then the engine.
-/

namespace StructuralCast.Script

open Run

variable (eval : Term → Run Value)

/-- Gives an engine a name; the engine that had it before loses an owner. -/
def nameEngine (name : String) (id : EngineId) : Run Unit := do
  let earlier := (← session).engines.find? name
  modify fun world => world.retain id
  modifySession fun s => { s with engines := s.engines.bind name id }
  match earlier with
  | some other => modify fun world => world.release other
  | none => return ()

/-- Makes an engine under a name. -/
def makeEngine (name : String) (config : Config) : Run Unit := do
  let (id, world) := (← get).addEngine config
  set world
  nameEngine name id

def performEngine (engine : String) : EngineOperation Term → Run Answer
  | .newEngine name config => do
    makeEngine name config
    return .settings config
  | .cloneEngine name existing => do
    let id ← engineNamed existing
    nameEngine name id
    return .settings ((← get).engine id).config
  | .dropEngine => do
    match (← session).engines.find? engine with
    | some id =>
      modifySession fun s => { s with engines := s.engines.erase engine }
      modify fun world => world.release id
      return .truth true
    | none => return .truth false
  | .cast value target => do
    let operand ← eval value
    let targetId ← resolveType target
    let id ← engineNamed engine
    return .value (← Fault.ofCast (Cast.cast id targetId operand))
  | .canCast target source => do
    let (targetId, sourceId, id) ← operands target source
    return .truth (← Action.onEngine id (Engine.canCast (← registry) targetId sourceId))
  | .canCastValue value target => do
    let operand ← eval value
    let targetId ← resolveType target
    let id ← engineNamed engine
    return .truth (← Fault.ofCast (Cast.canCastValue id targetId operand))
  | .prepare target source => do
    let (targetId, sourceId, id) ← operands target source
    let known ← registry
    Fault.ofCast (Action.withEngine id (Engine.prepare known targetId sourceId))
    return .done
  | .isPrepared target source => do
    let (targetId, sourceId, id) ← operands target source
    return .truth (((← get).engine id).isPrepared (← registry) targetId sourceId)
  | .staticCast shape source => do
    let (shapeId, sourceId, id) ← operands shape source
    return .value (← Fault.ofCast (Cast.staticCast id shapeId sourceId))
  | .canStaticCast shape source => do
    let (shapeId, sourceId, id) ← operands shape source
    return .truth (← Action.onEngine id (Engine.canStaticCast (← registry) shapeId sourceId))
  | .isStaticPrepared shape source => do
    let (shapeId, sourceId, id) ← operands shape source
    return .truth (((← get).engine id).statics.contains shapeId sourceId)
  | .prepareStatic shape source => do
    let (shapeId, sourceId, id) ← operands shape source
    let _ ← Fault.ofCast (Cast.staticCast id shapeId sourceId)
    return .done
  | .uncast value => do
    let operand ← eval value
    let _ ← engineNamed engine
    return .value operand.unadapt
  | .delegateFactory target source => do
    let (targetId, sourceId, id) ← operands target source
    let known ← registry
    let factory ← Fault.ofCast
      (Action.withEngine id (Engine.requestDelegateFactory known targetId sourceId))
    let earlier := (← session).delegateFactories.find? fun seen =>
      seen.target = targetId && seen.source = sourceId
    modifySession fun s => { s with delegateFactories := factory :: s.delegateFactories }
    return .delegateFactory factory (earlier.map factory.same)
  | .counts => do
    let state := (← get).engine (← engineNamed engine)
    return .counts state.verdictCount state.factoryCount
  | .engineDump => do
    let state := (← get).engine (← engineNamed engine)
    return .text (state.dump (← registry))
where
  operands (target source : TypeRef) : Run (TypeId × TypeId × EngineId) := do
    let targetId ← resolveType target
    let sourceId ← resolveType source
    return (targetId, sourceId, ← engineNamed engine)

end StructuralCast.Script
