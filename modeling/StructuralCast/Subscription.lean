import StructuralCast.Argument

/-!
Contract: subscribing to the events of a shape through an adapter.

A subscription goes to the list that the adapter keeps when the event is relayed, and to the source
otherwise. Null is no handler and no error; a handler has to be a callable of the handler type.
-/

namespace StructuralCast.Adapter

variable {σ : Type}

/-- The events of an adapter with the lists that it keeps for them. -/
def eventLists (adapter : Adapter) : List (EventSlot × Option RelayId) :=
  adapter.factory.events.zip adapter.relays

/-- The event of a name. -/
def event? (adapter : Adapter) (name : String) : Except CallError (EventSlot × Option RelayId) :=
  match adapter.eventLists.find? (·.1.name = name) with
  | some found => .ok found
  | none => .error (.unknownMember adapter.factory.shapeName name)

/-- What a value is as a handler: nothing, a callable, or a mistake. -/
def handler? (registry : Registry) (slot : EventSlot) (value : Value) :
    Except CallError (Option Callable) :=
  let mismatch := CallError.typeMismatch (registry.name slot.handler) (registry.typeName value)
  match value with
  | .null => .ok none
  | .callable c =>
    if registry.assignable slot.handler c.type then .ok (some c) else .error mismatch
  | _ => .error mismatch

def subscribe (adapter : Adapter) (name : String) (value : Value) : Action σ CallError Unit :=
  Action.holding adapter.factory.engine do
    let registry := (← MonadState.get).registry
    let (slot, list) ← Action.raising (adapter.event? name)
    match ← Action.raising (handler? registry slot value) with
    | none => return ()
    | some c =>
      match list with
      | some id => Action.setRelayHandlers id ((← Action.relayHandlers id) ++ [c])
      | none =>
        let key ← Action.raising
          (Cast.eventKey registry adapter.factory adapter.source slot.sourceEvent)
        Action.subscribe key (.direct c)

/-- Takes away the last subscription of a handler, and tells whether there was one. -/
def unsubscribe (adapter : Adapter) (name : String) (value : Value) : Action σ CallError Bool :=
  Action.holding adapter.factory.engine do
    let registry := (← MonadState.get).registry
    let (slot, list) ← Action.raising (adapter.event? name)
    match ← Action.raising (handler? registry slot value) with
    | none => return false
    | some c =>
      match list with
      | some id =>
        match Multicast.removeLast? (·.same c) (← Action.relayHandlers id) with
        | some rest =>
          Action.setRelayHandlers id rest
          return true
        | none => return false
      | none =>
        let key ← Action.raising
          (Cast.eventKey registry adapter.factory adapter.source slot.sourceEvent)
        Action.unsubscribe key c

end StructuralCast.Adapter
