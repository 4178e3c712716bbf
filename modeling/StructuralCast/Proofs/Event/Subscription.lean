import StructuralCast.Proofs.Event.Multicast
import StructuralCast.Proofs.Event.Wrapping

/-!
Contract: where a subscription goes.

The callables that hear of the events of an object are subscribed at a `Place`: at one of its events, or
at a list that an adapter keeps for a relayed event. `World.Alters` says that a world differs from another
one at a single place only. Whoever subscribes or unsubscribes, through an adapter or directly, alters
the one place that this is about, if anything: no other list, no other event and no relay.
-/

namespace StructuralCast

open Step

variable {σ : Type}

inductive Place where
  | list (id : RelayId)
  | event (name : String)
deriving DecidableEq

/-- The callables that are subscribed at a place of an object, in order. -/
def World.subscribedAt (world : World σ) (number : Nat) : Place → List Callable
  | .list id => world.listOf id
  | .event name => (world.handlersOf number name).filterMap Handler.callable?

/-- Where an adapter subscribes handlers of an event, if it is its own list or an event of the object. -/
def Adapter.place? (adapter : Adapter) (number : Nat) (name : String) : Option Place :=
  match adapter.event? name with
  | .ok (_, some id) => some (.list id)
  | .ok (slot, none) =>
    if adapter.factory.watches adapter.source number then some (.event slot.sourceEvent) else none
  | .error _ => none

/-- The lists of an adapter are there. -/
def Adapter.Listed (adapter : Adapter) (world : World σ) : Prop :=
  ∀ id ∈ adapter.lists, id.index < world.relayed.size

/-- Some callables are subscribed at a place, and nothing else about the object has changed. -/
structure World.Alters (number : Nat) (place : Place) (callables : List Callable)
    (before after : World σ) : Prop where
  here : after.subscribedAt number place = callables
  elsewhere : ∀ other, other ≠ place →
    after.subscribedAt number other = before.subscribedAt number other
  relays : ∀ event, (after.handlersOf number event).filterMap Handler.relay? =
    (before.handlersOf number event).filterMap Handler.relay?
  size : after.relayed.size = before.relayed.size

namespace World

variable {before after : World σ} {number : Nat}

theorem alters_list {id : RelayId} {callables : List Callable} (listed : id.index < before.relayed.size)
    (sameEvents : after.events = before.events)
    (relayed : after.relayed = before.relayed.setIfInBounds id.index callables) :
    Alters number (.list id) callables before after := by
  have lists (other : RelayId) :
      after.listOf other = if other = id then callables else before.listOf other := by
    rw [listOf, relayed, Array.getD_eq_getD_getElem?, Array.getElem?_setIfInBounds]
    by_cases same : other = id
    · subst same
      rw [if_pos rfl, if_pos listed, if_pos rfl, Option.getD_some]
    · have differs : ¬ id.index = other.index :=
        fun equal => same (congrArg RelayId.mk equal.symm)
      rw [if_neg differs, if_neg same, listOf, Array.getD_eq_getD_getElem?]
  refine ⟨?_, fun other different => ?_, fun event => ?_, ?_⟩
  · rw [subscribedAt, lists, if_pos rfl]
  · cases other with
    | list id' =>
        have differs : ¬ id' = id := fun same => different (congrArg Place.list same)
        rw [subscribedAt, subscribedAt, lists, if_neg differs]
    | event name => rw [subscribedAt, subscribedAt, handlersOf, sameEvents, handlersOf]
  · rw [handlersOf, sameEvents, handlersOf]
  · rw [relayed, Array.size_setIfInBounds]

theorem alters_event {name : String} {handlers : List Handler}
    (relays : handlers.filterMap Handler.relay? =
      (before.handlersOf number name).filterMap Handler.relay?)
    (events : after.events = before.events.set ⟨.object number, name⟩ handlers)
    (sameLists : after.relayed = before.relayed) :
    Alters number (.event name) (handlers.filterMap Handler.callable?) before after := by
  have handlersOf_eq (event : String) :
      after.handlersOf number event = if event = name then handlers else before.handlersOf number event := by
    rw [handlersOf, events, EventTable.handlers_set]
    by_cases same : event = name
    · subst same
      rw [if_pos rfl, if_pos rfl]
    · have differs : ¬ (⟨.object number, event⟩ : EventKey) = ⟨.object number, name⟩ :=
        fun equal => same (congrArg EventKey.event equal)
      rw [if_neg differs, if_neg same, handlersOf]
  refine ⟨?_, fun other different => ?_, fun event => ?_, ?_⟩
  · rw [subscribedAt, handlersOf_eq, if_pos rfl]
  · cases other with
    | list id => rw [subscribedAt, subscribedAt, listOf, sameLists, listOf]
    | event other =>
        have differs : ¬ other = name := fun same => different (congrArg Place.event same)
        rw [subscribedAt, subscribedAt, handlersOf_eq, if_neg differs]
  · rw [handlersOf_eq]
    split
    case isTrue same => rw [same, relays]
    case isFalse => rfl
  · rw [sameLists]

/-- Whether an engine is kept alive meanwhile makes no difference. -/
theorem Alters.holding {place : Place} {callables : List Callable} {engine : EngineId}
    (alters : Alters number place callables (before.retain engine) after) :
    Alters number place callables before (after.release engine) :=
  ⟨alters.here, alters.elsewhere, alters.relays, alters.size⟩

end World

/-! ### Directly at an event -/

namespace Action

variable {ε : Type} {before after : World σ} {number : Nat} {name : String} {c : Callable}

theorem alters_subscribe {outcome : Except ε Unit}
    (ran : (subscribe ⟨.object number, name⟩ (.direct c)).run before = (outcome, after)) :
    World.Alters number (.event name) (before.subscribedAt number (.event name) ++ [c]) before after := by
  have callables : before.subscribedAt number (.event name) ++ [c] =
      (before.handlersOf number name ++ [Handler.direct c]).filterMap Handler.callable? := by
    rw [List.filterMap_append]
    rfl
  cases ran
  rw [callables]
  apply World.alters_event
  · rw [List.filterMap_append]
    exact List.append_nil _
  · rfl
  · rfl

theorem alters_unsubscribe
    (ran : (unsubscribe ⟨.object number, name⟩ c : Action σ ε Bool).run before = (.ok true, after)) :
    ∃ rest, Multicast.removeLast? (·.same c) (before.subscribedAt number (.event name)) = some rest ∧
      World.Alters number (.event name) rest before after := by
  rw [run_unsubscribe] at ran
  split at ran
  case h_1 handlers removes =>
    cases ran
    refine ⟨handlers.filterMap Handler.callable?, ?_, World.alters_event ?_ rfl rfl⟩
    · rw [World.subscribedAt, Multicast.removeLast?_filterMap (Handler.isCallable_eq c),
        World.handlersOf, removes, Option.map_some]
    · exact Multicast.filterMap_of_removeLast? Handler.relay?_of_isCallable removes
  case h_2 => cases ran

end Action

/-! ### Through an adapter -/

namespace Adapter

variable {α : Type} {adapter : Adapter} {name : String} {before after : World σ}

/-- What subscribing and unsubscribing have in common: the slot and the handler are looked up first. -/
def handling (adapter : Adapter) (name : String) (value : Value) (idle : α)
    (use : Registry → EventSlot → Option RelayId → Callable → Action σ CallError α) :
    Action σ CallError α :=
  Action.holding adapter.factory.engine do
    let registry := (← MonadState.get).registry
    let (slot, list) ← Action.raising (adapter.event? name)
    match ← Action.raising (handler? registry slot value) with
    | none => return idle
    | some c => use registry slot list c

/-- Adds a handler where an event of an adapter goes. -/
def subscribeAt (adapter : Adapter) (registry : Registry) (slot : EventSlot) (list : Option RelayId)
    (c : Callable) : Action σ CallError Unit :=
  match list with
  | some id => do Action.setRelayHandlers id ((← Action.relayHandlers id) ++ [c])
  | none => do
    let key ← Action.raising
      (Cast.eventKey registry adapter.factory adapter.source slot.sourceEvent)
    Action.subscribe key (.direct c)

/-- Takes a handler away where an event of an adapter goes. -/
def unsubscribeAt (adapter : Adapter) (registry : Registry) (slot : EventSlot) (list : Option RelayId)
    (c : Callable) : Action σ CallError Bool :=
  match list with
  | some id => do
    match Multicast.removeLast? (·.same c) (← Action.relayHandlers id) with
    | some rest =>
      Action.setRelayHandlers id rest
      return true
    | none => return false
  | none => do
    let key ← Action.raising
      (Cast.eventKey registry adapter.factory adapter.source slot.sourceEvent)
    Action.unsubscribe key c

theorem subscribe_eq (value : Value) : (adapter.subscribe name value : Action σ CallError Unit) =
    adapter.handling name value () adapter.subscribeAt := rfl

theorem unsubscribe_eq (value : Value) : (adapter.unsubscribe name value : Action σ CallError Bool) =
    adapter.handling name value false adapter.unsubscribeAt := rfl

/-- Null is no handler, and every handler is a callable. -/
theorem eq_of_handler? {registry : Registry} {slot : EventSlot} {value : Value} {found : Option Callable}
    (handles : handler? registry slot value = .ok found) :
    value = (found.map Value.callable).getD .null := by
  cases value with
  | null =>
      cases handles
      rfl
  | callable c =>
      unfold handler? at handles
      dsimp only at handles
      split at handles
      case isTrue =>
        cases handles
        rfl
      case isFalse => cases handles
  | _ => cases handles

/-- Either no handler is found and nothing happens to events, or the handler is used, and the engine is
kept alive meanwhile. -/
theorem cases_of_handling {value : Value} {idle : α}
    {use : Registry → EventSlot → Option RelayId → Callable → Action σ CallError α}
    {outcome : Except CallError α}
    (ran : (adapter.handling name value idle use).run before = (outcome, after)) :
    (after.events = before.events ∧ after.relayed = before.relayed ∧
        ∀ answer, outcome = .ok answer → value = .null ∧ answer = idle) ∨
      ∃ slot list c ended, adapter.event? name = .ok (slot, list) ∧ value = .callable c ∧
        (use before.registry slot list c).run (before.retain adapter.factory.engine) = (outcome, ended) ∧
        after = ended.release adapter.factory.engine := by
  have holds : (adapter.handling name value idle use).run before =
      if before.isAlive adapter.factory.engine then
        let held := ExceptT.run (do
          let (slot, list) ← Action.raising (adapter.event? name)
          match ← Action.raising (handler? before.registry slot value) with
          | none => return idle
          | some c => use before.registry slot list c) (before.retain adapter.factory.engine)
        (held.1, held.2.release adapter.factory.engine)
      else (.error .engineDropped, before) := rfl
  rw [holds] at ran
  split at ran
  case isFalse =>
    cases ran
    exact .inl ⟨rfl, rfl, fun _ impossible => by cases impossible⟩
  case isTrue =>
    dsimp only at ran
    cases finds : adapter.event? name with
    | error cause =>
        rw [finds] at ran
        cases ran
        exact .inl ⟨rfl, rfl, fun _ impossible => by cases impossible⟩
    | ok found =>
        obtain ⟨slot, list⟩ := found
        rw [finds] at ran
        cases handles : handler? before.registry slot value with
        | error cause =>
            simp only [Action.raising, run_bind, run_mk_pure, handles] at ran
            cases ran
            exact .inl ⟨rfl, rfl, fun _ impossible => by cases impossible⟩
        | ok handler =>
            simp only [Action.raising, run_bind, run_mk_pure, handles] at ran
            cases handler with
            | none =>
                cases ran
                refine .inl ⟨rfl, rfl, fun answer same => ?_⟩
                cases same
                exact ⟨eq_of_handler? handles, rfl⟩
            | some c =>
                obtain ⟨rfl, rfl⟩ := Prod.mk.inj ran
                exact .inr ⟨slot, list, c, _, rfl, eq_of_handler? handles, rfl, rfl⟩

theorem run_relayHandlers {ε : Type} (id : RelayId) :
    (Action.relayHandlers id : Action σ ε (List Callable)).run before = (.ok (before.listOf id), before) :=
  rfl

theorem run_subscribeAt_list (registry : Registry) (slot : EventSlot) (id : RelayId) (c : Callable) :
    (adapter.subscribeAt registry slot (some id) c).run before =
      (.ok (), { before with
        relayed := before.relayed.setIfInBounds id.index (before.listOf id ++ [c]) }) := rfl

theorem run_unsubscribeAt_list (registry : Registry) (slot : EventSlot) (id : RelayId) (c : Callable) :
    (adapter.unsubscribeAt registry slot (some id) c).run before =
      match Multicast.removeLast? (·.same c) (before.listOf id) with
      | some rest =>
        (.ok true, { before with relayed := before.relayed.setIfInBounds id.index rest })
      | none => (.ok false, before) := by
  rw [unsubscribeAt, run_bind, run_relayHandlers]
  dsimp only
  cases Multicast.removeLast? (·.same c) (before.listOf id) with
  | none => rfl
  | some rest => rfl

/-- An event of the source is used directly if it has events of its own. -/
theorem run_subscribeAt_event (registry : Registry) (slot : EventSlot) (c : Callable) :
    (adapter.subscribeAt registry slot none c).run before =
      match Cast.eventKey registry adapter.factory adapter.source slot.sourceEvent with
      | .ok key => (Action.subscribe key (.direct c)).run before
      | .error cause => (.error cause, before) := by
  rw [subscribeAt, Action.raising, run_bind, run_mk_pure]
  cases Cast.eventKey registry adapter.factory adapter.source slot.sourceEvent with
  | error cause => rfl
  | ok key => rfl

theorem run_unsubscribeAt_event (registry : Registry) (slot : EventSlot) (c : Callable) :
    (adapter.unsubscribeAt registry slot none c).run before =
      match Cast.eventKey registry adapter.factory adapter.source slot.sourceEvent with
      | .ok key => (Action.unsubscribe key c).run before
      | .error cause => (.error cause, before) := by
  rw [unsubscribeAt, Action.raising, run_bind, run_mk_pure]
  cases Cast.eventKey registry adapter.factory adapter.source slot.sourceEvent with
  | error cause => rfl
  | ok key => rfl

/-- What is refused changes nothing about events, nor does null, which is no handler. -/
theorem same_of_subscribe {value : Value} {outcome : Except CallError Unit}
    (ran : (adapter.subscribe name value).run before = (outcome, after))
    (idle : value = .null ∨ outcome ≠ .ok ()) :
    after.events = before.events ∧ after.relayed = before.relayed := by
  rw [subscribe_eq] at ran
  rcases cases_of_handling ran with ⟨events, lists, _⟩ | ⟨slot, list, c, ended, _, rfl, used, rfl⟩
  · exact ⟨events, lists⟩
  · have failed : outcome ≠ .ok () := by
      rcases idle with impossible | failed
      · cases impossible
      · exact failed
    cases list with
    | some id =>
        rw [run_subscribeAt_list] at used
        cases used
        exact absurd rfl failed
    | none =>
        rw [run_subscribeAt_event] at used
        split at used
        case h_1 =>
          cases used
          exact absurd rfl failed
        case h_2 =>
          cases used
          exact ⟨rfl, rfl⟩

theorem same_of_unsubscribe {value : Value} {outcome : Except CallError Bool}
    (ran : (adapter.unsubscribe name value).run before = (outcome, after))
    (missed : outcome ≠ .ok true) :
    after.events = before.events ∧ after.relayed = before.relayed := by
  rw [unsubscribe_eq] at ran
  rcases cases_of_handling ran with ⟨events, lists, _⟩ | ⟨slot, list, c, ended, _, rfl, used, rfl⟩
  · exact ⟨events, lists⟩
  · cases list with
    | some id =>
        rw [run_unsubscribeAt_list] at used
        split at used
        case h_1 =>
          cases used
          exact absurd rfl missed
        case h_2 =>
          cases used
          exact ⟨rfl, rfl⟩
    | none =>
        rw [run_unsubscribeAt_event] at used
        split at used
        case h_1 key _ =>
          rw [Action.run_unsubscribe] at used
          split at used
          case h_1 =>
            cases used
            exact absurd rfl missed
          case h_2 =>
            cases used
            exact ⟨rfl, rfl⟩
        case h_2 =>
          cases used
          exact ⟨rfl, rfl⟩

/-- A list that an adapter finds is one of its lists. -/
theorem mem_lists_of_event? {slot : EventSlot} {id : RelayId}
    (finds : adapter.event? name = .ok (slot, some id)) : id ∈ adapter.lists := by
  unfold event? at finds
  split at finds
  case h_1 found isFound =>
    cases finds
    have member := List.mem_of_find?_eq_some isFound
    exact List.reduceOption_mem_iff.2 (List.of_mem_zip member).2
  case h_2 => cases finds

/-- A handler is added at the place that the event goes to. -/
theorem alters_subscribe {number : Nat} {place : Place} {c : Callable} (listed : adapter.Listed before)
    (goes : adapter.place? number name = some place)
    (ran : (adapter.subscribe name (.callable c)).run before = (.ok (), after)) :
    World.Alters number place (before.subscribedAt number place ++ [c]) before after := by
  rw [subscribe_eq] at ran
  rcases cases_of_handling ran with ⟨_, _, answers⟩ | ⟨slot, list, c, ended, finds, same, used, rfl⟩
  · cases (answers () rfl).1
  · cases same
    rw [place?, finds] at goes
    cases list with
    | some id =>
        cases goes
        rw [run_subscribeAt_list] at used
        cases used
        exact World.alters_list (listed id (mem_lists_of_event? finds)) rfl rfl
    | none =>
        dsimp only at goes
        split at goes
        case isFalse => cases goes
        case isTrue watches =>
          cases goes
          rw [run_subscribeAt_event, Cast.eventKey_of_watches watches] at used
          exact (Action.alters_subscribe used).holding

/-- A handler is taken away at the place that the event goes to. -/
theorem alters_unsubscribe {number : Nat} {place : Place} {c : Callable}
    (listed : adapter.Listed before) (goes : adapter.place? number name = some place)
    (ran : (adapter.unsubscribe name (.callable c)).run before = (.ok true, after)) :
    ∃ rest, Multicast.removeLast? (·.same c) (before.subscribedAt number place) = some rest ∧
      World.Alters number place rest before after := by
  rw [unsubscribe_eq] at ran
  rcases cases_of_handling ran with ⟨_, _, answers⟩ | ⟨slot, list, c, ended, finds, same, used, rfl⟩
  · cases (answers true rfl).1
  · cases same
    rw [place?, finds] at goes
    cases list with
    | some id =>
        cases goes
        rw [run_unsubscribeAt_list] at used
        split at used
        case h_1 rest removes =>
          cases used
          exact ⟨rest, removes, World.alters_list (listed id (mem_lists_of_event? finds)) rfl rfl⟩
        case h_2 => cases used
    | none =>
        dsimp only at goes
        split at goes
        case isFalse => cases goes
        case isTrue watches =>
          cases goes
          rw [run_unsubscribeAt_event, Cast.eventKey_of_watches watches] at used
          obtain ⟨rest, removes, alters⟩ := Action.alters_unsubscribe used
          exact ⟨rest, removes, alters.holding⟩

end Adapter
end StructuralCast
