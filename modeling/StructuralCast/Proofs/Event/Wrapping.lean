import Mathlib.Data.List.ReduceOption
import StructuralCast.Subscription
import StructuralCast.Proofs.Conversion

/-!
Contract: what wrapping does to events.

`World.Gains` says which handler lists are new in a world, and which relays were subscribed to events of
objects since, after all handlers that were there before; nothing else about events has changed. Gains
add up. `World.Connects` are the gains from making some adapters: one new list and one relay for each
relayed slot, and the relay is put on the event of the source that the slot goes to.

A world is `World.Undisturbed` if no more than that has happened to its events. Casts and conversions
leave a world undisturbed, failed or not (`undisturbed_cast`, `undisturbed_convertAll`), since a source
without events of its own is found out before anything is subscribed.

Events of types are left out here: a type may be defined anew, and its events start afresh then.
-/

namespace StructuralCast

open Step

/-- Whether the events that a factory goes to are those of an object. -/
def Factory.watches (factory : Factory) (source : Value) (number : Nat) : Bool :=
  match source with
  | .object o => !factory.isStatic && o.number = number
  | _ => false

/-- The relay for a slot on an event of an object, if the slot is relayed and goes there. -/
def Factory.relayAt? (factory : Factory) (source : Value) (number : Nat) (event : String) :
    EventSlot × Option RelayId → Option Relay
  | (slot, some id) =>
    if factory.watches source number && slot.sourceEvent = event then
      slot.relay.map fun plan => ⟨id, plan, factory.engine⟩
    else none
  | (_, none) => none

/-- Each slot has a list if it is relayed. -/
def Relayed (slots : List EventSlot) (lists : List (Option RelayId)) : Prop :=
  List.Forall₂ (fun slot list => list.isSome = slot.relay.isSome) slots lists

/-- There is one relay for each relayed slot that goes to an event of the object. -/
theorem Relayed.length_relays {factory : Factory} {source : Value} {number : Nat}
    (watches : factory.watches source number = true) {slots : List EventSlot}
    {lists : List (Option RelayId)} (relayed : Relayed slots lists) (event : String) :
    ((slots.zip lists).filterMap (factory.relayAt? source number event)).length =
      slots.countP fun slot => slot.relay.isSome && slot.sourceEvent = event := by
  induction relayed with
  | nil => rfl
  | @cons slot list _ _ here _ inductionHypothesis =>
      rw [List.zip_cons_cons, List.countP_cons, ← inductionHypothesis]
      cases list with
      | none =>
          have direct : slot.relay.isSome = false := here.symm
          rw [List.filterMap_cons_none rfl, direct]
          rfl
      | some id =>
          obtain ⟨plan, isRelayed⟩ := Option.isSome_iff_exists.1 here.symm
          by_cases goes : slot.sourceEvent = event
          · have isRelay : factory.relayAt? source number event (slot, some id) =
                some ⟨id, plan, factory.engine⟩ := by
              simp [Factory.relayAt?, watches, goes, isRelayed]
            rw [List.filterMap_cons_some isRelay, isRelayed]
            simp [goes]
          · have noRelay : factory.relayAt? source number event (slot, some id) = none := by
              simp [Factory.relayAt?, goes]
            rw [List.filterMap_cons_none noRelay]
            simp [goes]

namespace Adapter

/-- The handler lists of an adapter. -/
def lists (adapter : Adapter) : List RelayId := adapter.relays.reduceOption

/-- The relays of an adapter on an event of an object, in the order of its slots. -/
def relaysAt (adapter : Adapter) (number : Nat) (event : String) : List Relay :=
  adapter.eventLists.filterMap (adapter.factory.relayAt? adapter.source number event)

theorem mem_lists_of_mem_relaysAt (adapter : Adapter) {number : Nat} {event : String} {relay : Relay}
    (member : relay ∈ adapter.relaysAt number event) : relay.id ∈ adapter.lists := by
  obtain ⟨⟨slot, list⟩, entry, isRelay⟩ := List.mem_filterMap.1 member
  cases list with
  | none => cases isRelay
  | some id =>
      have isThere : some id ∈ adapter.relays := (List.of_mem_zip entry).2
      rw [Factory.relayAt?] at isRelay
      split at isRelay
      case isTrue =>
        obtain ⟨plan, _, rfl⟩ := Option.map_eq_some_iff.1 isRelay
        exact List.reduceOption_mem_iff.2 isThere
      case isFalse => cases isRelay

end Adapter

namespace World

variable {σ : Type}

/-- The handlers of an event of an object. -/
def handlersOf (world : World σ) (number : Nat) (event : String) : List Handler :=
  world.events.handlers ⟨.object number, event⟩

/-- The handlers of a list that an adapter keeps. -/
def listOf (world : World σ) (id : RelayId) : List Callable := world.relayed.getD id.index []

/-- What is new about the events of objects: some handler lists, which are empty, and relays, which are
subscribed after all other handlers. -/
structure Gains (lists : List RelayId) (relays : Nat → String → List Relay)
    (before after : World σ) : Prop where
  numbers : lists.map RelayId.index = List.range' before.relayed.size lists.length
  relayed : after.relayed.toList = before.relayed.toList ++ List.replicate lists.length []
  handlers : ∀ number event, after.handlersOf number event =
    before.handlersOf number event ++ (relays number event).map .relay

variable {before between after : World σ} {lists lists' : List RelayId}
  {relays relays' : Nat → String → List Relay}

/-- A change that is not about events. -/
theorem Gains.nothing (sameEvents : after.events = before.events)
    (sameLists : after.relayed = before.relayed) : Gains [] (fun _ _ => []) before after := by
  refine ⟨rfl, ?_, fun number event => ?_⟩
  · rw [sameLists, List.length_nil, List.replicate_zero, List.append_nil]
  · rw [handlersOf, sameEvents, List.map_nil, List.append_nil, handlersOf]

theorem Gains.size (gains : Gains lists relays before after) :
    after.relayed.size = before.relayed.size + lists.length := by
  rw [← Array.length_toList, gains.relayed, List.length_append, List.length_replicate,
    Array.length_toList]

theorem Gains.append (first : Gains lists relays before between)
    (second : Gains lists' relays' between after) :
    Gains (lists ++ lists') (fun number event => relays number event ++ relays' number event)
      before after := by
  refine ⟨?_, ?_, fun number event => ?_⟩
  · rw [List.map_append, first.numbers, second.numbers, first.size, List.length_append,
      List.range'_append_1]
  · rw [second.relayed, first.relayed, List.append_assoc, List.replicate_append_replicate,
      List.length_append]
  · rw [second.handlers, first.handlers, List.append_assoc, List.map_append]

/-- A list that is not there has no handlers. -/
theorem listOf_of_le {world : World σ} {id : RelayId} (beyond : world.relayed.size ≤ id.index) :
    world.listOf id = [] := by
  rw [listOf, Array.getD_eq_getD_getElem?, Array.getElem?_eq_none beyond]
  rfl

/-- No list gets handlers: those that were there before are as they were, and new ones are empty. -/
theorem Gains.listOf (gains : Gains lists relays before after) (id : RelayId) :
    after.listOf id = before.listOf id := by
  simp only [World.listOf, Array.getD_eq_getD_getElem?, ← Array.getElem?_toList]
  rw [gains.relayed]
  by_cases there : id.index < before.relayed.toList.length
  · rw [List.getElem?_append_left there]
  · have beyond : before.relayed.toList.length ≤ id.index := by omega
    rw [List.getElem?_append_right beyond, List.getElem?_eq_none beyond, List.getElem?_replicate]
    split
    case isTrue => rfl
    case isFalse => rfl

/-- What the making of some adapters does to the events of objects. -/
def Connects (made : List Adapter) (before after : World σ) : Prop :=
  Gains (made.flatMap Adapter.lists) (fun number event => made.flatMap (·.relaysAt number event))
    before after

/-- The lists of new adapters are new. -/
theorem Connects.bounds {made : List Adapter} (connects : Connects made before after) {id : RelayId}
    (listed : id ∈ made.flatMap Adapter.lists) :
    before.relayed.size ≤ id.index ∧ id.index < after.relayed.size := by
  have numbered : id.index ∈ (made.flatMap Adapter.lists).map RelayId.index :=
    List.mem_map_of_mem listed
  rw [connects.numbers, List.mem_range'_1] at numbered
  rw [connects.size]
  exact numbered

theorem Connects.append {made made' : List Adapter} (first : Connects made before between)
    (second : Connects made' between after) : Connects (made ++ made') before after := by
  unfold Connects
  simp only [List.flatMap_append]
  exact Gains.append first second

/-- Nothing has happened to the events of objects but that some adapters were made. -/
def Undisturbed (before after : World σ) : Prop := ∃ made, Connects made before after

theorem Connects.undisturbed {made : List Adapter} (connects : Connects made before after) :
    Undisturbed before after := ⟨made, connects⟩

theorem undisturbed_of_same (sameEvents : after.events = before.events)
    (sameLists : after.relayed = before.relayed) : Undisturbed before after :=
  ⟨[], Gains.nothing sameEvents sameLists⟩

instance : IsPreorder (World σ) Undisturbed where
  refl _ := undisturbed_of_same rfl rfl
  trans _ _ _ := fun ⟨_, first⟩ ⟨_, second⟩ => (first.append second).undisturbed

theorem Undisturbed.listOf (undisturbed : Undisturbed before after) (id : RelayId) :
    after.listOf id = before.listOf id := by
  obtain ⟨_, connects⟩ := undisturbed
  exact Gains.listOf connects id

end World

/-! ### Handlers of an event -/

namespace Action

variable {σ ε : Type} {world : World σ}

/-- A subscription is made after all others, and for its own event. -/
theorem handlersOf_subscribe (key : EventKey) (handler : Handler) (number : Nat) (event : String) :
    ((subscribe key handler : Action σ ε Unit).run world).2.handlersOf number event =
      world.handlersOf number event ++ if key = ⟨.object number, event⟩ then [handler] else [] := by
  show World.handlersOf (if keepsHandlers world.registry key then _ else world) number event = _
  by_cases same : key = ⟨.object number, event⟩
  · subst same
    have keeps : keepsHandlers world.registry ⟨.object number, event⟩ = true := rfl
    rw [if_pos keeps, if_pos rfl, World.handlersOf, EventTable.handlers_set, if_pos rfl]
    rfl
  · rw [if_neg same, List.append_nil]
    split
    case isTrue =>
      rw [World.handlersOf, EventTable.handlers_set, if_neg fun equal => same equal.symm]
      rfl
    case isFalse => rfl

theorem run_unsubscribe (key : EventKey) (c : Callable) :
    (unsubscribe key c : Action σ ε Bool).run world =
      match Multicast.removeLast? (Handler.isCallable c) (world.events.handlers key) with
      | some rest => (.ok true, { world with events := world.events.set key rest })
      | none => (.ok false, world) := by
  unfold unsubscribe
  rw [run_bind, run_get]
  dsimp only
  cases Multicast.removeLast? (Handler.isCallable c) (world.events.handlers key) with
  | none => rfl
  | some rest => rfl

/-- The last subscription of a callable is taken away, and only for its own event. -/
theorem handlersOf_unsubscribe (key : EventKey) (c : Callable) (number : Nat) (event : String) :
    ((unsubscribe key c : Action σ ε Bool).run world).2.handlersOf number event =
      if key = ⟨.object number, event⟩ then
        (Multicast.removeLast? (Handler.isCallable c) (world.handlersOf number event)).getD
          (world.handlersOf number event)
      else world.handlersOf number event := by
  rw [run_unsubscribe]
  by_cases same : key = ⟨.object number, event⟩
  · subst same
    rw [if_pos rfl]
    cases removes : Multicast.removeLast? (Handler.isCallable c) (world.handlersOf number event) with
    | none =>
        rw [World.handlersOf] at removes
        rw [removes]
        rfl
    | some rest =>
        rw [World.handlersOf] at removes
        rw [removes]
        show EventTable.handlers (world.events.set _ rest) _ = rest
        rw [EventTable.handlers_set, if_pos rfl]
  · rw [if_neg same]
    split
    case h_1 rest _ =>
      show EventTable.handlers (world.events.set key rest) _ = _
      rw [EventTable.handlers_set, if_neg fun equal => same equal.symm]
      rfl
    case h_2 => rfl

theorem relayed_unsubscribe (key : EventKey) (c : Callable) :
    ((unsubscribe key c : Action σ ε Bool).run world).2.relayed = world.relayed := by
  rw [run_unsubscribe]
  split
  case h_1 => rfl
  case h_2 => rfl

theorem relayed_subscribe (key : EventKey) (handler : Handler) :
    ((subscribe key handler : Action σ ε Unit).run world).2.relayed = world.relayed := by
  show World.relayed (if keepsHandlers world.registry key then _ else world) = _
  split
  case isTrue => rfl
  case isFalse => rfl

end Action

/-! ### Making an adapter -/

namespace Cast

variable {σ : Type} {before after : World σ} {factory : Factory} {source : Value}

theorem eventKey_of_watches {number : Nat} (watches : factory.watches source number = true)
    (registry : Registry) (event : String) :
    eventKey registry factory source event = .ok ⟨.object number, event⟩ := by
  cases source with
  | object o =>
      obtain ⟨side, same⟩ := Bool.and_eq_true_iff.1 watches
      rw [eventKey, if_neg (by simpa using side), of_decide_eq_true same]
  | _ => cases watches

/-- A relay is subscribed where the events of the source are kept. -/
theorem relayAt?_of_eventKey {registry : Registry} {slot : EventSlot} {plan : RelayPlan}
    (isRelayed : slot.relay = some plan) {key : EventKey}
    (keyed : eventKey registry factory source slot.sourceEvent = .ok key) (id : RelayId)
    (number : Nat) (event : String) :
    factory.relayAt? source number event (slot, some id) =
      if key = ⟨.object number, event⟩ then some ⟨id, plan, factory.engine⟩ else none := by
  unfold eventKey at keyed
  split at keyed
  case isTrue side =>
    cases keyed
    have elsewhere : factory.watches source number = false := by
      cases source with
      | object o => simp [Factory.watches, side]
      | _ => rfl
    simp [Factory.relayAt?, elsewhere]
  case isFalse side =>
    cases source with
    | object o =>
        cases keyed
        simp [Factory.relayAt?, Factory.watches, side, isRelayed]
    | _ => cases keyed

/-- Whether the events of a source are kept anywhere does not depend on the event. -/
theorem eventKey_ok_of_ok {registry : Registry} {event : String} {key : EventKey}
    (keyed : eventKey registry factory source event = .ok key) (registry' : Registry)
    (event' : String) :
    ∃ key', eventKey registry' factory source event' = .ok key' := by
  unfold eventKey at keyed ⊢
  split at keyed
  case isTrue side =>
    rw [if_pos side]
    exact ⟨_, rfl⟩
  case isFalse side =>
    rw [if_neg side]
    cases source with
    | object o => exact ⟨_, rfl⟩
    | _ => cases keyed

/-- A new list and its relay on the event of a slot. -/
def join (factory : Factory) (plan : RelayPlan) (key : EventKey) : Action σ CallError RelayId := do
  let id ← Action.newRelayList
  Action.subscribe key (.relay ⟨id, plan, factory.engine⟩)
  return id

/-- A slot that is not relayed takes no part. -/
theorem connect_cons_direct {slot : EventSlot} {rest : List EventSlot} (direct : slot.relay = none) :
    (connect factory source (slot :: rest) : Action σ CallError _) =
      connect factory source rest >>= fun others => pure (none :: others) := by
  rw [connect, direct, pure_bind]

theorem run_connect_cons {slot : EventSlot} {rest : List EventSlot} {plan : RelayPlan}
    (isRelayed : slot.relay = some plan) {key : EventKey}
    (keyed : eventKey before.registry factory source slot.sourceEvent = .ok key) :
    (connect factory source (slot :: rest)).run before =
      (connect factory source rest >>= fun others =>
        pure (some ⟨before.relayed.size⟩ :: others)).run ((join factory plan key).run before).2 := by
  rw [connect, isRelayed]
  dsimp only
  rw [run_bind, run_get]
  dsimp only
  rw [keyed]
  rfl

/-- A source without events of its own is found out at the first relayed slot, before anything is done. -/
theorem run_connect_cons_error {slot : EventSlot} {rest : List EventSlot} {plan : RelayPlan}
    (isRelayed : slot.relay = some plan) {cause : CallError}
    (unkeyed : eventKey before.registry factory source slot.sourceEvent = .error cause) :
    (connect factory source (slot :: rest)).run before = (.error cause, before) := by
  rw [connect, isRelayed]
  dsimp only
  rw [run_bind, run_get]
  dsimp only
  rw [unkeyed]
  rfl

theorem gains_of_join {slot : EventSlot} {plan : RelayPlan} (isRelayed : slot.relay = some plan)
    {key : EventKey} (keyed : eventKey before.registry factory source slot.sourceEvent = .ok key) :
    World.Gains [⟨before.relayed.size⟩]
      (fun number event =>
        (factory.relayAt? source number event (slot, some ⟨before.relayed.size⟩)).toList)
      before ((join factory plan key).run before).2 := by
  have joins : ((join factory plan key).run before).2 =
      ((Action.subscribe key (.relay ⟨⟨before.relayed.size⟩, plan, factory.engine⟩) :
        Action σ CallError Unit).run { before with relayed := before.relayed.push [] }).2 := rfl
  refine ⟨rfl, ?_, fun number event => ?_⟩
  · rw [joins, Action.relayed_subscribe, Array.toList_push]
    rfl
  · rw [joins, Action.handlersOf_subscribe, relayAt?_of_eventKey isRelayed keyed]
    by_cases same : key = ⟨.object number, event⟩
    · rw [if_pos same, if_pos same]
      rfl
    · rw [if_neg same, if_neg same]
      rfl

/-- One slot is connected, if it is relayed, and then the others. -/
theorem cases_of_connect_cons {slot : EventSlot} {rest : List EventSlot} {lists : List (Option RelayId)}
    (connects : (connect factory source (slot :: rest)).run before = (.ok lists, after)) :
    (slot.relay = none ∧ ∃ others, lists = none :: others ∧
        (connect factory source rest).run before = (.ok others, after)) ∨
      ∃ plan key others, slot.relay = some plan ∧
        eventKey before.registry factory source slot.sourceEvent = .ok key ∧
        lists = some ⟨before.relayed.size⟩ :: others ∧
        (connect factory source rest).run ((join factory plan key).run before).2 = (.ok others, after) := by
  cases isRelayed : slot.relay with
  | none =>
      rw [connect_cons_direct isRelayed] at connects
      obtain ⟨others, between, connected, connects⟩ := ok_of_run_bind connects
      cases connects
      exact .inl ⟨rfl, others, rfl, connected⟩
  | some plan =>
      cases keyed : eventKey before.registry factory source slot.sourceEvent with
      | error cause =>
          rw [run_connect_cons_error isRelayed keyed] at connects
          cases connects
      | ok key =>
          rw [run_connect_cons isRelayed keyed] at connects
          obtain ⟨others, between, connected, connects⟩ := ok_of_run_bind connects
          cases connects
          exact .inr ⟨plan, key, others, rfl, rfl, rfl, connected⟩

/-- Connecting the slots of a factory subscribes one relay for each relayed slot. -/
theorem gains_of_connect {slots : List EventSlot} {lists : List (Option RelayId)}
    (connects : (connect factory source slots).run before = (.ok lists, after)) :
    World.Gains lists.reduceOption
      (fun number event => (slots.zip lists).filterMap (factory.relayAt? source number event))
      before after := by
  induction slots generalizing before lists with
  | nil =>
      cases connects
      exact .nothing rfl rfl
  | cons slot rest inductionHypothesis =>
      rcases cases_of_connect_cons connects with
        ⟨_, others, rfl, connected⟩ | ⟨plan, key, others, isRelayed, keyed, rfl, connected⟩
      · exact inductionHypothesis connected
      · have gains := (gains_of_join isRelayed keyed).append (inductionHypothesis connected)
        have inOrder (number : Nat) (event : String) :
            ((slot :: rest).zip (some ⟨before.relayed.size⟩ :: others)).filterMap
                (factory.relayAt? source number event) =
              (factory.relayAt? source number event (slot, some ⟨before.relayed.size⟩)).toList ++
                (rest.zip others).filterMap (factory.relayAt? source number event) := by
          rw [List.zip_cons_cons, List.filterMap_cons]
          cases factory.relayAt? source number event (slot, some ⟨before.relayed.size⟩) with
          | none => rfl
          | some relay => rfl
        simp only [inOrder]
        exact gains

theorem relayed_of_connect {slots : List EventSlot} {lists : List (Option RelayId)}
    (connects : (connect factory source slots).run before = (.ok lists, after)) :
    Relayed slots lists := by
  induction slots generalizing before lists with
  | nil =>
      cases connects
      exact .nil
  | cons slot rest inductionHypothesis =>
      rcases cases_of_connect_cons connects with
        ⟨direct, others, rfl, connected⟩ | ⟨plan, key, others, isRelayed, _, rfl, connected⟩
      · apply List.Forall₂.cons
        · rw [direct]
          rfl
        · exact inductionHypothesis connected
      · apply List.Forall₂.cons
        · rw [isRelayed]
          rfl
        · exact inductionHypothesis connected

/-- A source with events of its own is connected without failure. -/
theorem connect_ok {event : String} {registry : Registry} {key : EventKey}
    (keyed : eventKey registry factory source event = .ok key) (slots : List EventSlot)
    (world : World σ) : ∃ lists after, (connect factory source slots).run world = (.ok lists, after) := by
  induction slots generalizing world with
  | nil => exact ⟨[], world, rfl⟩
  | cons slot rest inductionHypothesis =>
      have finish (list : Option RelayId) (between : World σ) : ∃ lists after,
          (connect factory source rest >>= fun others => pure (list :: others)).run between =
            (.ok lists, after) := by
        obtain ⟨others, after, connected⟩ := inductionHypothesis between
        rw [run_bind, connected]
        exact ⟨list :: others, after, rfl⟩
      cases isRelayed : slot.relay with
      | none =>
          rw [connect_cons_direct isRelayed]
          exact finish none world
      | some plan =>
          obtain ⟨here, keyedHere⟩ := eventKey_ok_of_ok keyed world.registry slot.sourceEvent
          rw [run_connect_cons isRelayed keyedHere]
          exact finish _ _

/-- What cannot be connected has not been connected in part. -/
theorem same_of_connect_error {slots : List EventSlot} {cause : CallError}
    (fails : (connect factory source slots).run before = (.error cause, after)) :
    after = before := by
  induction slots generalizing before with
  | nil => cases fails
  | cons slot rest inductionHypothesis =>
      cases isRelayed : slot.relay with
      | none =>
          rw [connect_cons_direct isRelayed, run_bind] at fails
          cases connected : (connect factory source rest).run before with
          | mk outcome between =>
              rw [connected] at fails
              cases outcome with
              | ok others => cases fails
              | error reason =>
                  cases fails
                  exact inductionHypothesis connected
      | some plan =>
          cases keyed : eventKey before.registry factory source slot.sourceEvent with
          | error reason =>
              rw [run_connect_cons_error isRelayed keyed] at fails
              cases fails
              rfl
          | ok key =>
              -- the source has events of its own, so no slot can be the one that fails
              obtain ⟨lists, between, succeeds⟩ := connect_ok keyed (slot :: rest) before
              rw [fails] at succeeds
              cases succeeds

/-- What is made of a factory is an adapter, and no more than its connection happens to events. -/
theorem connects_of_adapt {made : Value}
    (adapts : (adapt factory source).run before = (.ok made, after)) :
    ∃ ref relays, made = .adapter ref factory source relays ∧
      Relayed factory.events relays ∧
        World.Connects [⟨ref, factory, source, relays⟩] before after := by
  unfold adapt at adapts
  obtain ⟨relays, between, connected, adapts⟩ := ok_of_run_bind adapts
  cases adapts
  refine ⟨_, relays, rfl, relayed_of_connect connected, ?_⟩
  have gains := gains_of_connect connected
  refine ⟨?_, ?_, fun number event => ?_⟩
  · rw [List.flatMap_singleton]
    exact gains.numbers
  · rw [List.flatMap_singleton]
    exact gains.relayed
  · rw [List.flatMap_singleton]
    exact gains.handlers number event

theorem undisturbed_connect (factory : Factory) (source : Value) :
    Leads World.Undisturbed before (connect factory source factory.events) := by
  unfold Leads
  cases connected : (connect factory source factory.events).run before with
  | mk outcome after =>
      cases outcome with
      | error cause =>
          rw [same_of_connect_error connected]
          exact refl_of World.Undisturbed before
      | ok relays =>
          have adapts : (adapt factory source).run before =
              (.ok (.adapter ⟨after.nextRef⟩ factory source relays),
                { after with nextRef := after.nextRef + 1 }) := by
            rw [adapt, run_bind, connected]
            rfl
          obtain ⟨_, _, _, _, connects⟩ := connects_of_adapt adapts
          exact ⟨_, connects.numbers, connects.relayed, connects.handlers⟩

/-! ### Casts and conversions -/

/-- A cast does nothing to the events of objects but to make adapters. -/
theorem undisturbed_cast (engine : EngineId) (target : TypeId) (value : Value) :
    Leads World.Undisturbed before (cast engine target value) :=
  leads_cast (fun factory source _ => undisturbed_connect factory source)
    (fun _ => World.undisturbed_of_same rfl rfl) (fun _ => World.undisturbed_of_same rfl rfl)
    (fun _ => World.undisturbed_of_same rfl rfl) value

/-- An adapter that is made of an object is connected to the object. -/
theorem connects_of_cast {engine : EngineId} {target : TypeId} {object : Instance} {adapter : Adapter}
    {made : Value} (isMade : made.adapter? = some adapter)
    (casts : (cast engine target (.object object)).run before = (.ok made, after)) :
    adapter.source = .object object ∧ Relayed adapter.factory.events adapter.relays ∧
      World.Connects [adapter] before after := by
  obtain ⟨_, ⟨isNull, _⟩ | ⟨_, _, rfl⟩ | ⟨_, _, strategy, _, ran⟩⟩ := cases_of_cast casts
  · cases isNull
  · cases isMade
  · cases strategy with
    | interface =>
        obtain ⟨factory, between, searched, adapts⟩ := adapts_of_interface ran
        obtain ⟨ref, relays, rfl, relayed, connects⟩ := connects_of_adapt adapts
        obtain ⟨_, rfl⟩ := Prod.mk.inj searched
        cases isMade
        exact ⟨rfl, relayed, connects.numbers, connects.relayed, connects.handlers⟩
    | delegate => cases ran
    | enumText => cases ran
    | genericParam =>
        cases ran
        cases isMade

end Cast

namespace Action

variable {σ : Type} {world : World σ}

theorem undisturbed_convert (id : EngineId) (conversion : Conversion) (value : Value) :
    Leads World.Undisturbed world (convert id conversion value) :=
  leads_convert (Cast.undisturbed_cast id) conversion value

theorem undisturbed_convertAll (id : EngineId) (pairs : List (Conversion × Value)) :
    Leads World.Undisturbed world (convertAll id pairs) :=
  leads_convertAll (fun _ => Cast.undisturbed_cast id) pairs

end Action
end StructuralCast
