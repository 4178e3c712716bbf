import StructuralCast.Proofs.Event.Notification
import StructuralCast.Proofs.Event.Raising
import StructuralCast.Proofs.Event.Subscription
import StructuralCast.Proofs.Forwarding.Slot

/-!
Contract: the events of an object that has been wrapped, over a whole session.

A `Deed` is what one operation does to the events of an object, and `Deed.Done` which operations do it:
the object is wrapped, a callable is subscribed or unsubscribed, through any adapter or directly, and
operations that are refused, casts of other values and raised events, which do nothing of the kind.
A `Course` is any sequence of these, with a log of the deeds.

`Accounts` is what the log says about the world at the end. At each place the callables are those that
the deeds at this very place leave, in order. The relays on the object are those that there were, and
one for each relayed slot of each adapter that was made since, for a list of its own.

`Course.delivers` puts this together with what raising an event does: whatever has gone before, the
event calls each handler once for each time that it is subscribed.
-/

namespace StructuralCast

open Step

variable {σ : Type}

/-! ### Deeds -/

/-- What an operation does to the events of an object. -/
inductive Deed where
  | subscribed (place : Place) (c : Callable)
  | unsubscribed (place : Place) (c : Callable)
  | wrapped (registry : Registry) (adapter : Adapter)
  | other

namespace Deed

/-- What a deed leaves of the callables at a place. -/
def leave (place : Place) (callables : List Callable) : Deed → List Callable
  | subscribed there c => if there = place then callables ++ [c] else callables
  | unsubscribed there c =>
    if there = place then (Multicast.removeLast? (·.same c) callables).getD callables else callables
  | _ => callables

/-- Whether a deed subscribes a callable at a place. -/
def adds (place : Place) (c : Callable) : Deed → Bool
  | subscribed there c' => there = place && c'.same c
  | _ => false

/-- Whether a deed takes a subscription of a callable at a place away. -/
def takes (place : Place) (c : Callable) : Deed → Bool
  | unsubscribed there c' => there = place && c'.same c
  | _ => false

/-- The adapters that are made in a deed. -/
inductive Makes : Deed → List Adapter → Prop where
  | subscribed (place : Place) (c : Callable) : Makes (.subscribed place c) []
  | unsubscribed (place : Place) (c : Callable) : Makes (.unsubscribed place c) []
  | wrapped (registry : Registry) (adapter : Adapter) : Makes (.wrapped registry adapter) [adapter]
  | other (made : List Adapter) : Makes .other made

/-- The operations that do a deed. -/
inductive Done (host : Host σ) (object : Instance) : Deed → World σ → World σ → Prop where
  | wrap {engine : EngineId} {shape : TypeId} {made : Value} {adapter : Adapter} {before after : World σ}
      (planned : before.Planned engine) (isMade : made.adapter? = some adapter)
      (ran : (Cast.cast engine shape (.object object)).run before = (.ok made, after)) :
      Done host object (.wrapped before.registry adapter) before after
  | subscribe {adapter : Adapter} {name : String} {place : Place} {c : Callable} {before after : World σ}
      (listed : adapter.Listed before) (goes : adapter.place? object.number name = some place)
      (ran : (adapter.subscribe name (.callable c)).run before = (.ok (), after)) :
      Done host object (.subscribed place c) before after
  | attach {name : String} {c : Callable} {before after : World σ}
      (ran : (Action.subscribe ⟨.object object.number, name⟩ (.direct c) :
        Action σ CallError Unit).run before = (.ok (), after)) :
      Done host object (.subscribed (.event name) c) before after
  | unsubscribe {adapter : Adapter} {name : String} {place : Place} {c : Callable}
      {before after : World σ} (listed : adapter.Listed before)
      (goes : adapter.place? object.number name = some place)
      (ran : (adapter.unsubscribe name (.callable c)).run before = (.ok true, after)) :
      Done host object (.unsubscribed place c) before after
  | detach {name : String} {c : Callable} {before after : World σ}
      (ran : (Action.unsubscribe ⟨.object object.number, name⟩ c :
        Action σ CallError Bool).run before = (.ok true, after)) :
      Done host object (.unsubscribed (.event name) c) before after
  | refuse {adapter : Adapter} {name : String} {value : Value} {outcome : Except CallError Unit}
      {before after : World σ}
      (ran : (adapter.subscribe name value).run before = (outcome, after))
      (idle : value = .null ∨ outcome ≠ .ok ()) : Done host object .other before after
  | miss {adapter : Adapter} {name : String} {value : Value} {outcome : Except CallError Bool}
      {before after : World σ}
      (ran : (adapter.unsubscribe name value).run before = (outcome, after))
      (missed : outcome ≠ .ok true) : Done host object .other before after
  | missDirect {name : String} {c : Callable} {before after : World σ}
      (ran : (Action.unsubscribe ⟨.object object.number, name⟩ c :
        Action σ CallError Bool).run before = (.ok false, after)) :
      Done host object .other before after
  | cast (engine : EngineId) (target : TypeId) (value : Value) (before : World σ) :
      Done host object .other before ((Cast.cast engine target value).run before).2
  | raise {number : Nat} {event : String} {before : World σ}
      (calm : Calm host (before.Hears number event) before) (args : List Value) :
      Done host object .other before ((Action.raise host ⟨.object number, event⟩ args).run before).2

end Deed

/-- A world that deeds lead to, with a log of them. -/
inductive Course (host : Host σ) (object : Instance) (start : World σ) : List Deed → World σ → Prop where
  | start : Course host object start [] start
  | step {log : List Deed} {deed : Deed} {between after : World σ}
      (course : Course host object start log between) (done : deed.Done host object between after) :
      Course host object start (log ++ [deed]) after

/-! ### Relays -/

namespace World

variable {number : Nat} {before between after : World σ}

/-- The relays of some adapters are the only new ones on an object, and their lists are new. -/
structure Grows (number : Nat) (made : List Adapter) (before after : World σ) : Prop where
  numbers : (made.flatMap Adapter.lists).map RelayId.index =
    List.range' before.relayed.size (made.flatMap Adapter.lists).length
  size : after.relayed.size = before.relayed.size + (made.flatMap Adapter.lists).length
  relays : ∀ event, (after.handlersOf number event).filterMap Handler.relay? =
    (before.handlersOf number event).filterMap Handler.relay? ++
      made.flatMap (·.relaysAt number event)

theorem Grows.append {made made' : List Adapter} (first : Grows number made before between)
    (second : Grows number made' between after) : Grows number (made ++ made') before after := by
  refine ⟨?_, ?_, fun event => ?_⟩
  · rw [List.flatMap_append, List.map_append, first.numbers, second.numbers, first.size,
      List.length_append, List.range'_append_1]
  · rw [List.flatMap_append, List.length_append, second.size, first.size, Nat.add_assoc]
  · rw [second.relays, first.relays, List.flatMap_append, List.append_assoc]

theorem Alters.grows {place : Place} {callables : List Callable}
    (alters : Alters number place callables before after) : Grows number [] before after := by
  refine ⟨rfl, alters.size, fun event => ?_⟩
  rw [alters.relays, List.flatMap_nil, List.append_nil]

theorem Connects.grows {made : List Adapter} (connects : Connects made before after) (number : Nat) :
    Grows number made before after := by
  refine ⟨connects.numbers, connects.size, fun event => ?_⟩
  rw [connects.handlers, List.filterMap_append, Handler.relays_of_relays]

/-- Making adapters subscribes no callable. -/
theorem Undisturbed.subscribedAt (undisturbed : Undisturbed before after) (number : Nat)
    (place : Place) : after.subscribedAt number place = before.subscribedAt number place := by
  cases place with
  | list id => exact undisturbed.listOf id
  | event name =>
      obtain ⟨made, connects⟩ := undisturbed
      rw [World.subscribedAt, connects.handlers, List.filterMap_append, Handler.callables_of_relays,
        List.append_nil]
      rfl

end World

/-! ### Accounts -/

/-- What is known of an adapter that an object was wrapped in: it has its lists, each relayed event
converts between the handler types as planned, and has one relay on the event of the object. -/
structure Adapter.Joined (registry : Registry) (number : Nat) (adapter : Adapter) (world : World σ) :
    Prop where
  listed : adapter.Listed world
  plans : ∀ slot ∈ adapter.factory.events, ∀ plan ∈ slot.relay,
    registry.planRelay slot.handler slot.sourceHandler = .ok plan
  relays : ∀ event, (adapter.relaysAt number event).length =
    adapter.factory.events.countP fun slot => slot.relay.isSome && slot.sourceEvent = event

/-- What a log says about the world at its end. -/
structure Accounts (object : Instance) (start : World σ) (log : List Deed) (world : World σ) : Prop where
  callables : ∀ place, world.subscribedAt object.number place =
    log.foldl (fun callables deed => deed.leave place callables)
      (start.subscribedAt object.number place)
  counts : ∀ place c,
    (world.subscribedAt object.number place).countP (·.same c) + log.countP (Deed.takes place c) =
      (start.subscribedAt object.number place).countP (·.same c) + log.countP (Deed.adds place c)
  relays : ∃ made : List (List Adapter), List.Forall₂ Deed.Makes log made ∧
    World.Grows object.number made.flatten start world
  wrapped : ∀ registry adapter, .wrapped registry adapter ∈ log →
    adapter.Joined registry object.number world

namespace Deed

variable {host : Host σ} {object : Instance} {deed : Deed} {before after : World σ}

/-- What one deed does. -/
structure Leaves (object : Instance) (deed : Deed) (made : List Adapter) (before after : World σ) :
    Prop where
  makes : deed.Makes made
  callables : ∀ place, after.subscribedAt object.number place =
    deed.leave place (before.subscribedAt object.number place)
  counts : ∀ place c,
    (after.subscribedAt object.number place).countP (·.same c) + (deed.takes place c).toNat =
      (before.subscribedAt object.number place).countP (·.same c) + (deed.adds place c).toNat
  grows : World.Grows object.number made before after
  wrapped : ∀ registry adapter, deed = .wrapped registry adapter →
    adapter.Joined registry object.number after

/-- One callable more at a place. -/
theorem leaves_subscribed {place : Place} {c : Callable}
    (alters : World.Alters object.number place (before.subscribedAt object.number place ++ [c])
      before after) : Leaves object (.subscribed place c) [] before after := by
  refine ⟨.subscribed place c, fun other => ?_, fun other c' => ?_, alters.grows, ?_⟩
  · by_cases same : place = other
    · subst same
      rw [leave, if_pos rfl, alters.here]
    · rw [leave, if_neg same, alters.elsewhere other fun equal => same equal.symm]
  · by_cases same : place = other
    · subst same
      rw [alters.here, List.countP_append, List.countP_singleton]
      simp only [takes, adds, Bool.toNat_false, decide_true, Bool.true_and]
      cases c.same c' <;> rfl
    · rw [alters.elsewhere other fun equal => same equal.symm]
      simp only [takes, adds, same, decide_false, Bool.false_and]
  · intro registry adapter impossible
    cases impossible

/-- The last subscription of a callable less at a place. -/
theorem leaves_unsubscribed {place : Place} {c : Callable} {rest : List Callable}
    (removes : Multicast.removeLast? (·.same c) (before.subscribedAt object.number place) = some rest)
    (alters : World.Alters object.number place rest before after) :
    Leaves object (.unsubscribed place c) [] before after := by
  refine ⟨.unsubscribed place c, fun other => ?_, fun other c' => ?_, alters.grows, ?_⟩
  · by_cases same : place = other
    · subst same
      rw [leave, if_pos rfl, alters.here, removes, Option.getD_some]
    · rw [leave, if_neg same, alters.elsewhere other fun equal => same equal.symm]
  · by_cases same : place = other
    · subst same
      -- Any callable that is the same may be the one taken away; all of these count alike.
      have answers (other : Callable) (isMatch : other.same c = true) : other.same c' = c.same c' :=
        Callable.same_eq_of_same isMatch c'
      have counted := Multicast.countP_of_removeLast? answers removes
      simpa only [alters.here, takes, adds, decide_true, Bool.true_and, Bool.toNat_false,
        Nat.add_zero] using counted
    · rw [alters.elsewhere other fun equal => same equal.symm]
      simp only [takes, adds, same, decide_false, Bool.false_and]
  · intro registry adapter impossible
    cases impossible

theorem leaves_other {made : List Adapter} (connects : World.Connects made before after) :
    Leaves object .other made before after := by
  have same := connects.undisturbed.subscribedAt object.number
  refine ⟨.other made, same, fun place c => ?_, connects.grows object.number, ?_⟩
  · rw [same]
    rfl
  · intro registry adapter impossible
    cases impossible

/-- The object is wrapped in one more adapter. -/
theorem leaves_wrapped {engine : EngineId} {shape : TypeId} {made : Value} {adapter : Adapter}
    (planned : before.Planned engine) (isMade : made.adapter? = some adapter)
    (ran : (Cast.cast engine shape (.object object)).run before = (.ok made, after)) :
    Leaves object (.wrapped before.registry adapter) [adapter] before after := by
  obtain ⟨isSource, relayed, connects⟩ := Cast.connects_of_cast isMade ran
  have same := connects.undisturbed.subscribedAt object.number
  refine ⟨.wrapped before.registry adapter, same, fun place c => ?_, connects.grows object.number, ?_⟩
  · rw [same]
    rfl
  · intro registry adapter' isWrapped
    cases isWrapped
    have plans : ∃ owner, before.registry.Plans engine false shape owner adapter.factory := by
      have makes := Cast.made_of_cast planned ran
      cases makes with
      | adapter ref factory relays owner plans =>
          cases isMade
          exact ⟨owner, plans⟩
      | _ => cases isMade
    obtain ⟨owner, plans⟩ := plans
    have watches : adapter.factory.watches adapter.source object.number = true := by
      rw [isSource, Factory.watches, plans.subject.2.2.2, decide_eq_true rfl]
      rfl
    refine ⟨fun id listed => ?_, fun slot member plan isRelayed => ?_, relayed.length_relays watches⟩
    · rw [← List.flatMap_singleton Adapter.lists adapter] at listed
      exact (connects.bounds listed).2
    · rcases plans.event member with ⟨_, direct⟩ | ⟨_, plan', planned', isRelayed'⟩
      · rw [direct] at isRelayed
        cases isRelayed
      · rw [isRelayed'] at isRelayed
        cases isRelayed
        exact planned'

/-- Every operation leaves what its deed says. -/
theorem Done.leaves (done : deed.Done host object before after) :
    ∃ made, Leaves object deed made before after := by
  cases done with
  | wrap planned isMade ran => exact ⟨_, leaves_wrapped planned isMade ran⟩
  | subscribe listed goes ran =>
      exact ⟨_, leaves_subscribed (Adapter.alters_subscribe listed goes ran)⟩
  | attach ran => exact ⟨_, leaves_subscribed (Action.alters_subscribe ran)⟩
  | unsubscribe listed goes ran =>
      obtain ⟨rest, removes, alters⟩ := Adapter.alters_unsubscribe listed goes ran
      exact ⟨_, leaves_unsubscribed removes alters⟩
  | detach ran =>
      obtain ⟨rest, removes, alters⟩ := Action.alters_unsubscribe ran
      exact ⟨_, leaves_unsubscribed removes alters⟩
  | refuse ran idle =>
      obtain ⟨events, lists⟩ := Adapter.same_of_subscribe ran idle
      obtain ⟨made, connects⟩ := World.undisturbed_of_same events lists
      exact ⟨made, leaves_other connects⟩
  | miss ran missed =>
      obtain ⟨events, lists⟩ := Adapter.same_of_unsubscribe ran missed
      obtain ⟨made, connects⟩ := World.undisturbed_of_same events lists
      exact ⟨made, leaves_other connects⟩
  | missDirect ran =>
      rw [Action.run_unsubscribe] at ran
      split at ran
      case h_1 => cases ran
      case h_2 =>
        cases ran
        obtain ⟨made, connects⟩ := refl_of World.Undisturbed before
        exact ⟨made, leaves_other connects⟩
  | cast engine target value =>
      obtain ⟨made, connects⟩ := Cast.undisturbed_cast engine target value
      exact ⟨made, leaves_other connects⟩
  | raise calm args =>
      obtain ⟨made, connects⟩ := (notifies_raise before _ _ args calm).undisturbed calm
      exact ⟨made, leaves_other connects⟩

end Deed

/-! ### Courses -/

namespace Accounts

variable {object : Instance} {start between after : World σ} {log : List Deed} {deed : Deed}
  {made : List Adapter}

theorem initial : Accounts object start [] start := by
  refine ⟨fun _ => rfl, fun _ _ => rfl, ⟨[], .nil, rfl, rfl, fun event => ?_⟩, ?_⟩
  · rw [List.flatten_nil, List.flatMap_nil, List.append_nil]
  · exact fun _ _ member => absurd member List.not_mem_nil

/-- One more deed. -/
theorem step (accounts : Accounts object start log between)
    (leaves : deed.Leaves object made between after) : Accounts object start (log ++ [deed]) after := by
  refine ⟨fun place => ?_, fun place c => ?_, ?_, fun registry adapter member => ?_⟩
  · rw [List.foldl_append, ← accounts.callables, leaves.callables]
    rfl
  · have before := accounts.counts place c
    have now := leaves.counts place c
    rw [List.countP_append, List.countP_append, List.countP_singleton, List.countP_singleton]
    cases taken : deed.takes place c <;> cases added : deed.adds place c <;>
      simp only [taken, added, Bool.toNat_true, Bool.toNat_false, if_true, Bool.false_eq_true,
        if_false] at now ⊢ <;>
      omega
  · obtain ⟨parts, makes, grows⟩ := accounts.relays
    refine ⟨parts ++ [made], List.rel_append makes (.cons leaves.makes .nil), ?_⟩
    rw [List.flatten_append, List.flatten_singleton]
    exact grows.append leaves.grows
  · rcases List.mem_append.1 member with earlier | now
    · have joined := accounts.wrapped registry adapter earlier
      have grown := leaves.grows.size
      refine ⟨fun id listed => ?_, joined.plans, joined.relays⟩
      have there := joined.listed id listed
      omega
    · exact leaves.wrapped registry adapter (List.mem_singleton.1 now).symm

end Accounts

section Courses

variable {host : Host σ} {object : Instance} {start world : World σ} {log : List Deed}

theorem Course.accounts (course : Course host object start log world) :
    Accounts object start log world := by
  induction course with
  | start => exact .initial
  | step _ done inductionHypothesis =>
      obtain ⟨made, leaves⟩ := done.leaves
      exact inductionHypothesis.step leaves

end Courses

/-! ### An instance -/

namespace Announcer

/-- A handler for the event of the shape. -/
def report : Callable := .native 1 ⟨17⟩ ⟨1⟩

/-- A world with an engine that is alive. -/
def session : World (List HostCall) :=
  { World.initial [] with
    registry := Registry.announcing
    engines := #[{ Engine.fresh ⟨0⟩ Config.standard with owners := 1 }] }

/-- What the object is wrapped in. -/
def reporter : Adapter :=
  { ref := ⟨0⟩
    factory :=
      { engine := ⟨0⟩
        blueprint := ⟨⟨18⟩, ⟨19⟩, false, [.event ⟨18⟩ ⟨"Said", ⟨17⟩, false⟩ ⟨"Said", ⟨16⟩, false⟩]⟩
        shapeName := "Reporter"
        slots := [.event ⟨"Said", ⟨17⟩, "Said", ⟨16⟩, some ⟨[.identity], .identity⟩⟩] }
    source := .object object
    relays := [some ⟨0⟩] }

def wrapped : World (List HostCall) :=
  ((Cast.cast ⟨0⟩ ⟨18⟩ (.object object)).run session).2

def reporting (world : World (List HostCall)) : World (List HostCall) :=
  ((reporter.subscribe "Said" (.callable report)).run world).2

def silent (world : World (List HostCall)) : World (List HostCall) :=
  ((reporter.unsubscribe "Said" (.callable report)).run world).2

end Announcer
end StructuralCast
