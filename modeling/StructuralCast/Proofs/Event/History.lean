import StructuralCast.Proofs.Event.Cancellation
import StructuralCast.Proofs.Event.Wrapping
import StructuralCast.Proofs.Forwarding.Conveyance

/-!
Contract: the events of a world, whatever handlers do while they run.

Raising an event calls the handlers that are subscribed at that moment. What they do meanwhile, to this
event or to others, takes part in the worlds that they run in, but not in which of them run (`Raises`).

`World.Logged` is what is done to events, with a log: subscriptions, unsubscriptions and events that are
raised, whose handlers may do anything of the kind, to any depth. Raising an event adds nothing of its own
to the log. So whatever calls each other in whatever way, the log alone says which handlers an event has
in the end. `Dependable` puts this together with what each operation does, and `events_dependable` says
that it is true of every host and every world.
-/

namespace StructuralCast

open Step Multicast

variable {σ : Type}

/-! ### Raising an event -/

/-- A call of a handler, with the worlds before and after it. -/
structure HandlerCall (σ : Type) where
  handler : Handler
  before : World σ
  outcome : Except CallError Value
  after : World σ

/-- What it comes to that handlers are called one after the other, up to the first failure; `last` is the
result without any calls. -/
structure Raises (host : Host σ) (args : List Value) (handlers : List Handler) (last : Option Value)
    (start : World σ) (calls : List (HandlerCall σ))
    (ended : Except CallError (Option Value) × World σ) : Prop where
  ran : ∀ call ∈ calls,
    (call.handler.invoke host args).run call.before = (call.outcome, call.after)
  /-- Each call starts in the world that the call before it has left. -/
  sequence : calls.map HandlerCall.before ++ [ended.2] = start :: calls.map HandlerCall.after
  /-- All are called and the last result counts, or the last one that is called fails. -/
  came :
    (∃ results : List Value, calls.map HandlerCall.handler = handlers ∧
      calls.map HandlerCall.outcome = results.map .ok ∧ ended.1 = .ok (results.getLast?.or last)) ∨
    (∃ (results : List Value) (cause : CallError), calls.map HandlerCall.handler <+: handlers ∧
      calls.map HandlerCall.outcome = results.map .ok ++ [.error cause] ∧ ended.1 = .error cause)

section Raising

variable {host : Host σ} {args : List Value} {handler : Handler} {handlers rest : List Handler}
  {last : Option Value} {start between : World σ} {calls calls' : List (HandlerCall σ)}
  {ended : Except CallError (Option Value) × World σ}

theorem getLast?_cons_or (head : Value) (tail : List Value) :
    (head :: tail).getLast?.or last = tail.getLast?.or (some head) := by
  rw [List.getLast?_cons]
  cases tail.getLast? with
  | some _ => rfl
  | none => rfl

theorem Raises.done : Raises host args [] last start [] (.ok last, start) where
  ran := by simp
  sequence := rfl
  came := .inl ⟨[], rfl, rfl, rfl⟩

theorem Raises.fail {cause : CallError}
    (ran : (handler.invoke host args).run start = (.error cause, between)) :
    Raises host args (handler :: rest) last start [⟨handler, start, .error cause, between⟩]
      (.error cause, between) where
  ran := by simpa using ran
  sequence := rfl
  came := .inr ⟨[], cause, List.prefix_append [handler] rest, rfl, rfl⟩

theorem Raises.next {result : Value} (ran : (handler.invoke host args).run start = (.ok result, between))
    (raises : Raises host args rest (some result) between calls ended) :
    Raises host args (handler :: rest) last start (⟨handler, start, .ok result, between⟩ :: calls)
      ended where
  ran := List.forall_mem_cons.2 ⟨ran, raises.ran⟩
  sequence := congrArg (List.cons start) raises.sequence
  came := by
    rcases raises.came with ⟨results, all, outcomes, answer⟩ | ⟨results, cause, some, outcomes, fails⟩
    · refine .inl ⟨result :: results, congrArg (List.cons handler) all,
        congrArg (List.cons (Except.ok result)) outcomes, ?_⟩
      rw [answer, getLast?_cons_or]
    · exact .inr ⟨result :: results, cause, List.cons_prefix_cons.2 ⟨rfl, some⟩,
        congrArg (List.cons (Except.ok result)) outcomes, fails⟩

/-- Handlers that are given are called one after the other, whatever they do to worlds. -/
theorem exists_raises (host : Host σ) (args : List Value) (handlers : List Handler)
    (last : Option Value) (start : World σ) :
    ∃ calls, Raises host args handlers last start calls
      ((runAfter (Handler.invoke host args) last handlers).run start) := by
  induction handlers generalizing last start with
  | nil => exact ⟨[], .done⟩
  | cons handler rest inductionHypothesis =>
      rw [runAfter, run_bind]
      cases ran : (handler.invoke host args).run start with
      | mk outcome between =>
          cases outcome with
          | error cause => exact ⟨_, .fail ran⟩
          | ok result =>
              obtain ⟨calls, raises⟩ := inductionHypothesis (some result) between
              exact ⟨_, .next ran raises⟩

/-- The first call is of the first handler, and it fails, or the others follow. -/
theorem Raises.cases (raises : Raises host args (handler :: rest) last start calls ended) :
    (∃ cause between, (handler.invoke host args).run start = (.error cause, between) ∧
        calls = [⟨handler, start, .error cause, between⟩]) ∨
      ∃ result between more, (handler.invoke host args).run start = (.ok result, between) ∧
        calls = ⟨handler, start, .ok result, between⟩ :: more ∧
        Raises host args rest (some result) between more ended := by
  obtain ⟨ran, sequence, came⟩ := raises
  cases calls with
  | nil =>
      rcases came with ⟨results, all, _, _⟩ | ⟨results, cause, _, outcomes, _⟩
      · cases all
      · exact absurd outcomes.symm (by simp)
  | cons call more =>
      obtain ⟨called, before, outcome, between⟩ := call
      obtain ⟨rfl, sequenceMore⟩ := List.cons.inj sequence
      obtain ⟨ranFirst, ranMore⟩ := List.forall_mem_cons.1 ran
      rcases came with ⟨results, all, outcomes, answer⟩ | ⟨results, cause, some, outcomes, fails⟩
      · obtain ⟨rfl, allMore⟩ := List.cons.inj all
        cases results with
        | nil => cases outcomes
        | cons result results =>
            obtain ⟨rfl, outcomesMore⟩ := List.cons.inj outcomes
            rw [getLast?_cons_or] at answer
            exact .inr ⟨result, between, more, ranFirst, rfl, ranMore, sequenceMore,
              .inl ⟨results, allMore, outcomesMore, answer⟩⟩
      · obtain ⟨rfl, someMore⟩ := List.cons_prefix_cons.1 some
        cases results with
        | nil =>
            obtain ⟨rfl, none⟩ := List.cons.inj outcomes
            obtain rfl := List.map_eq_nil_iff.1 none
            exact .inl ⟨cause, between, ranFirst, rfl⟩
        | cons result results =>
            obtain ⟨rfl, outcomesMore⟩ := List.cons.inj outcomes
            exact .inr ⟨result, between, more, ranFirst, rfl, ranMore, sequenceMore,
              .inr ⟨results, cause, someMore, outcomesMore, fails⟩⟩

/-- No other calls come to the same. -/
theorem Raises.unique (raises : Raises host args handlers last start calls ended)
    (raises' : Raises host args handlers last start calls' ended) : calls' = calls := by
  induction handlers generalizing last start calls calls' with
  | nil =>
      have nothing {calls : List (HandlerCall σ)}
          (raises : Raises host args [] last start calls ended) : calls = [] := by
        rcases raises.came with ⟨_, all, _⟩ | ⟨_, _, some, _⟩
        · exact List.map_eq_nil_iff.1 all
        · exact List.map_eq_nil_iff.1 (List.prefix_nil.1 some)
      rw [nothing raises, nothing raises']
  | cons handler rest inductionHypothesis =>
      rcases raises.cases with ⟨cause, between, ran, rfl⟩ | ⟨result, between, more, ran, rfl, further⟩
      · rcases raises'.cases with ⟨_, _, ran', rfl⟩ | ⟨_, _, _, ran', _, _⟩
        · cases ran.symm.trans ran'
          rfl
        · cases ran.symm.trans ran'
      · rcases raises'.cases with ⟨_, _, ran', _⟩ | ⟨_, _, more', ran', rfl, further'⟩
        · cases ran.symm.trans ran'
        · cases ran.symm.trans ran'
          rw [inductionHypothesis further further']

end Raising

/-! ### Subscriptions and unsubscriptions -/

namespace Action

variable {ε : Type} {world : World σ}

theorem run_subscribe {key : EventKey} (keeps : keepsHandlers world.registry key = true)
    (handler : Handler) : (subscribe key handler : Action σ ε Unit).run world =
      (.ok (), { world with
        events := world.events.set key (world.events.handlers key ++ [handler]) }) := by
  rw [subscribe, run_modify, if_pos keeps]

/-- The handlers of an event after a subscription. -/
theorem handlers_subscribe {key : EventKey} (keeps : keepsHandlers world.registry key = true)
    (handler : Handler) (other : EventKey) :
    ((subscribe key handler : Action σ ε Unit).run world).2.events.handlers other =
      if other = key then world.events.handlers key ++ [handler] else world.events.handlers other := by
  rw [run_subscribe keeps]
  exact EventTable.handlers_set ..

/-- The handlers of an event after an unsubscription. -/
theorem handlers_unsubscribe (key : EventKey) (c : Callable) (other : EventKey) :
    ((unsubscribe key c : Action σ ε Bool).run world).2.events.handlers other =
      if other = key then (Change.unsubscribed c).leave (world.events.handlers key)
      else world.events.handlers other := by
  rw [run_unsubscribe, Change.leave]
  cases removeLast? (Handler.isCallable c) (world.events.handlers key) with
  | some rest => exact EventTable.handlers_set ..
  | none =>
      dsimp only
      split
      case isTrue same => rw [same]; rfl
      case isFalse => rfl

end Action

namespace World

/-- What is done to events between two worlds, with a log of it. To raise an event is to do what its
handlers do, one after the other, and these may do anything of the kind. -/
inductive Logged : World σ → List (EventKey × Change) → World σ → Prop where
  | other {before after : World σ} (same : after.events = before.events) : Logged before [] after
  | subscribe {world : World σ} {key : EventKey}
      (keeps : Action.keepsHandlers world.registry key = true) (handler : Handler) :
      Logged world [(key, .subscribed handler)]
        ((Action.subscribe key handler : Action σ CallError Unit).run world).2
  | unsubscribe (world : World σ) (key : EventKey) (c : Callable) :
      Logged world [(key, .unsubscribed c)]
        ((Action.unsubscribe key c : Action σ CallError Bool).run world).2
  | raise {host : Host σ} {world : World σ} {key : EventKey} {args : List Value}
      {calls : List (HandlerCall σ)}
      (raises : Raises host args (world.events.handlers key) none world calls
        ((Action.raise host key args).run world))
      (logs : HandlerCall σ → List (EventKey × Change))
      (each : ∀ call ∈ calls, Logged call.before (logs call) call.after) :
      Logged world (calls.flatMap logs) ((Action.raise host key args).run world).2
  | append {before between after : World σ} {log log' : List (EventKey × Change)}
      (first : Logged before log between) (further : Logged between log' after) :
      Logged before (log ++ log') after

/-- What is done to one event. -/
def changesAt (key : EventKey) (log : List (EventKey × Change)) : List Change :=
  log.filterMap fun entry => if entry.1 = key then some entry.2 else none

/-- Each event goes through its own changes, in the order of the log. -/
def Applies (before : World σ) (log : List (EventKey × Change)) (after : World σ) : Prop :=
  ∀ key, after.events.handlers key =
    (changesAt key log).foldl Change.leave (before.events.handlers key)

variable {before between after : World σ} {log log' : List (EventKey × Change)}

theorem Applies.append (first : Applies before log between) (further : Applies between log' after) :
    Applies before (log ++ log') after := by
  intro key
  rw [further, first, changesAt, changesAt, changesAt, List.filterMap_append, List.foldl_append]

theorem applies_change {changed : EventKey} {change : Change}
    (handlers : ∀ key, after.events.handlers key =
      if key = changed then change.leave (before.events.handlers changed)
      else before.events.handlers key) : Applies before [(changed, change)] after := by
  intro key
  rw [handlers]
  by_cases same : key = changed
  · subst same
    simp [changesAt]
  · simp [changesAt, same, Ne.symm same]

/-- Worlds that follow each other, each by a log of its own. -/
theorem applies_of_sequence {calls : List (HandlerCall σ)}
    {logs : HandlerCall σ → List (EventKey × Change)}
    (sequence : calls.map HandlerCall.before ++ [after] = before :: calls.map HandlerCall.after)
    (each : ∀ call ∈ calls, Applies call.before (logs call) call.after) :
    Applies before (calls.flatMap logs) after := by
  induction calls generalizing before with
  | nil =>
      obtain ⟨rfl, _⟩ := List.cons.inj sequence
      exact fun _ => rfl
  | cons call more inductionHypothesis =>
      obtain ⟨rfl, rest⟩ := List.cons.inj sequence
      obtain ⟨first, others⟩ := List.forall_mem_cons.1 each
      exact first.append (inductionHypothesis rest others)

/-- A log tells what has become of the handlers of each event. -/
theorem Logged.applies (logged : Logged before log after) : Applies before log after := by
  induction logged with
  | other same =>
      intro key
      rw [same]
      rfl
  | subscribe keeps handler => exact applies_change (Action.handlers_subscribe keeps handler)
  | unsubscribe world key c => exact applies_change (Action.handlers_unsubscribe key c)
  | raise raises _ _ inductionHypothesis =>
      exact applies_of_sequence raises.sequence inductionHypothesis
  | append _ _ firstHypothesis furtherHypothesis => exact firstHypothesis.append furtherHypothesis

/-- Something is done to events, and nothing else happens to them. -/
def Logs (before after : World σ) : Prop := ∃ log, Logged before log after

instance : IsPreorder (World σ) Logs where
  refl _ := ⟨[], .other rfl⟩
  trans _ _ _ := fun ⟨log, first⟩ ⟨log', further⟩ => ⟨log ++ log', first.append further⟩

end World

/-! ### Hosts -/

/-- Whatever routines do, there is a log of what they do to events. -/
def Host.Tidy (host : Host σ) : Prop := ∀ request world, Leads World.Logs world (host request)

section Hosts

variable {host : Host σ} {world : World σ}

theorem Action.logs_subscribe (key : EventKey) (handler : Handler) :
    Leads World.Logs world (subscribe key handler : Action σ CallError Unit) := by
  by_cases keeps : keepsHandlers world.registry key = true
  · exact ⟨_, .subscribe keeps handler⟩
  · refine ⟨[], .other ?_⟩
    show (if keepsHandlers world.registry key then _ else world).events = world.events
    rw [if_neg keeps]

/-- A cast does nothing to events but subscribe the relays of a new adapter. -/
theorem Cast.logs_cast (id : EngineId) (world : World σ) (target : TypeId) (value : Value) :
    Leads World.Logs world (cast id target value) := by
  have lists (between : World σ) :
      World.Logs between { between with relayed := between.relayed.push [] } := ⟨[], .other rfl⟩
  have numbers (between : World σ) :
      World.Logs between { between with nextRef := between.nextRef + 1 } := ⟨[], .other rfl⟩
  have connects (factory : Factory) (source : Value) (between : World σ) :
      Leads World.Logs between (connect factory source factory.events) :=
    leads_connect lists (fun _ key relay => Action.logs_subscribe key (.relay relay)) factory source _
  exact leads_cast connects numbers (fun _ => ⟨[], .other rfl⟩) (fun _ => ⟨[], .other rfl⟩) value

/-- What the routines of a tidy host do when an event is raised makes up the log of that. -/
theorem Host.Tidy.logs_raise (tidy : host.Tidy) (key : EventKey) (args : List Value) :
    Leads World.Logs world (Action.raise host key args) := by
  obtain ⟨calls, raises⟩ := exists_raises host args (world.events.handlers key) none world
  have each : ∀ call ∈ calls, ∃ log, World.Logged call.before log call.after := by
    intro call member
    have leads : Leads World.Logs call.before (call.handler.invoke host args) :=
      Handler.leads_invoke (fun _ _ => ⟨[], .other rfl⟩) (fun _ _ => ⟨[], .other rfl⟩) Cast.logs_cast
        tidy call.handler args call.before
    exact leads.related_of_run (raises.ran call member)
  choose! logs logged using each
  exact ⟨_, .raise raises logs logged⟩

end Hosts

/-! ### The whole contract -/

/-- What can be relied on of the events of a world, whatever handlers do while they run. -/
structure Dependable (host : Host σ) (world : World σ) : Prop where
  /-- An event calls the handlers that it has when it is raised. -/
  raised : ∀ key args, ∃! calls, Raises host args (world.events.handlers key) none world calls
    ((Action.raise host key args).run world)
  subscribed : ∀ key handler, Action.keepsHandlers world.registry key = true →
    ∃ after, (Action.subscribe key handler : Action σ CallError Unit).run world = (.ok (), after) ∧
      after.events.handlers key = world.events.handlers key ++ [handler] ∧
      ∀ other, other ≠ key → after.events.handlers other = world.events.handlers other
  missed : ∀ key c, (∀ handler ∈ world.events.handlers key, handler.isCallable c = false) →
    (Action.unsubscribe key c : Action σ CallError Bool).run world = (.ok false, world)
  /-- Of a callable that is subscribed, the last subscription is taken away. -/
  unsubscribed : ∀ key c, (∃ handler ∈ world.events.handlers key, handler.isCallable c = true) →
    ∃ front taken back after,
      (Action.unsubscribe key c : Action σ CallError Bool).run world = (.ok true, after) ∧
      world.events.handlers key = front ++ taken :: back ∧ taken.isCallable c = true ∧
      (∀ later ∈ back, later.isCallable c = false) ∧ after.events.handlers key = front ++ back ∧
      ∀ other, other ≠ key → after.events.handlers other = world.events.handlers other
  /-- A subscription that is taken away at once leaves no trace. -/
  restored : ∀ key c, Action.keepsHandlers world.registry key = true →
    ∃ after, (do
        Action.subscribe key (.direct c)
        Action.unsubscribe key c : Action σ CallError Bool).run world = (.ok true, after) ∧
      ∀ other, after.events.handlers other = world.events.handlers other
  /-- Each event has the subscriptions that are left of those that there were and of those since. -/
  later : ∀ log later, World.Logged world log later → ∀ key,
    later.events.handlers key =
      survivors ((world.events.handlers key).map .subscribed ++ World.changesAt key log)
  /-- Where routines do nothing else to events, raising an event does not either. -/
  tidy : host.Tidy → ∀ key args, ∃ log,
    World.Logged world log ((Action.raise host key args).run world).2

section Contract

variable {world : World σ}

theorem Multicast.removeLast?_concat {matching : Handler → Bool} {last : Handler}
    (isMatch : matching last = true) (handlers : List Handler) :
    removeLast? matching (handlers ++ [last]) = some handlers := by
  rw [removeLast?, List.reverse_concat, removeFirst?, if_pos isMatch, Option.map_some,
    List.reverse_reverse]

/-- Whatever handlers do, the events of a world can be relied on. -/
theorem events_dependable (host : Host σ) (world : World σ) : Dependable host world := by
  refine
    { raised := fun key args => ?raised
      subscribed := fun key handler keeps =>
        ⟨_, Action.run_subscribe keeps handler, ?here, fun other different => ?elsewhere⟩
      missed := fun key c absent => ?missed
      unsubscribed := fun key c present => ?unsubscribed
      restored := fun key c keeps => ?restored
      later := fun log later logged key => ?later
      tidy := fun tidy key args => tidy.logs_raise key args }
  case raised =>
    obtain ⟨calls, raises⟩ := exists_raises host args (world.events.handlers key) none world
    exact ⟨calls, raises, fun _ raises' => raises.unique raises'⟩
  case here => rw [EventTable.handlers_set, if_pos rfl]
  case elsewhere => rw [EventTable.handlers_set, if_neg different]
  case missed =>
    rcases removeLast?_cases (Handler.isCallable c) (world.events.handlers key) with
      ⟨none, _⟩ | ⟨front, taken, back, whole, isTaken, _, _⟩
    · rw [Action.run_unsubscribe, none]
    · rw [absent taken (by simp [whole])] at isTaken
      cases isTaken
  case unsubscribed =>
    rcases removeLast?_cases (Handler.isCallable c) (world.events.handlers key) with
      ⟨_, others⟩ | ⟨front, taken, back, whole, isTaken, others, removes⟩
    · obtain ⟨handler, member, isCallable⟩ := present
      rw [others handler member] at isCallable
      cases isCallable
    · refine ⟨front, taken, back, { world with events := world.events.set key (front ++ back) }, ?_,
        whole, isTaken, others, ?_, fun other different => ?_⟩
      · rw [Action.run_unsubscribe, removes]
      · rw [EventTable.handlers_set, if_pos rfl]
      · rw [EventTable.handlers_set, if_neg different]
  case restored =>
    have isCallable : (Handler.direct c).isCallable c = true := decide_eq_true rfl
    let handlers := world.events.handlers key
    refine ⟨{ world with
        events := (world.events.set key (handlers ++ [.direct c])).set key handlers }, ?_, fun other => ?_⟩
    · rw [run_bind, Action.run_subscribe keeps]
      dsimp only
      rw [Action.run_unsubscribe, EventTable.handlers_set, if_pos rfl, removeLast?_concat isCallable]
    · rw [EventTable.handlers_set, EventTable.handlers_set]
      split
      case isTrue same => rw [same]
      case isFalse => rfl
  case later => rw [logged.applies, foldl_leave_from]

end Contract

/-! ### An instance -/

namespace Ticker

def tick : EventKey := ⟨.object 0, "Tick"⟩

def once : Callable := .native 0 ⟨17⟩ ⟨0⟩

def echo : Callable := .native 1 ⟨17⟩ ⟨1⟩

/-- One handler unsubscribes itself and raises the event again, and the other one is subscribed once more
whenever it runs. -/
def hosts : Nat → Host Unit
  | 0, _ => return .null
  | depth + 1, request =>
    if request.routine = ⟨0⟩ then do
      let _ ← Action.unsubscribe tick once
      let _ ← Action.raise (hosts depth) tick []
      return .int 1
    else do
      Action.subscribe tick (.direct echo)
      return .int 2

def ticking : World Unit :=
  { World.initial () with events := EventTable.empty.set tick [.direct once, .direct echo] }

/-- Both handlers are called, although the first one is gone by the time that the second one is called.
The second one is called again within the first one, so it is there three times in the end. -/
theorem ticking_dependable :
    let raised := (Action.raise (hosts 2) tick []).run ticking
    let log := [(tick, .unsubscribed once), (tick, .subscribed (.direct echo)),
      (tick, .subscribed (.direct echo))]
    raised.1 = .ok (some (.int 2)) ∧ World.Logged ticking log raised.2 ∧
      raised.2.events.handlers tick = [.direct echo, .direct echo, .direct echo] := by
  intro raised log
  let silenced := ((Action.unsubscribe tick once : Action Unit CallError Bool).run ticking).2
  let echoed := ((Action.raise (hosts 1) tick []).run silenced).2
  -- Within the first handler, the event has one handler left to call.
  have inner : World.Logged silenced [(tick, .subscribed (.direct echo))] echoed :=
    .raise (.next rfl .done) (fun _ => [(tick, .subscribed (.direct echo))])
      (List.forall_mem_singleton.2 (.subscribe rfl (.direct echo)))
  have first : World.Logged ticking
      [(tick, .unsubscribed once), (tick, .subscribed (.direct echo))] echoed :=
    .append (.unsubscribe ticking tick once) inner
  let calls : List (HandlerCall Unit) := [⟨.direct once, ticking, .ok (.int 1), echoed⟩,
    ⟨.direct echo, echoed, .ok (.int 2), raised.2⟩]
  have raises : Raises (hosts 2) [] (ticking.events.handlers tick) none ticking calls
      ((Action.raise (hosts 2) tick []).run ticking) := .next rfl (.next rfl .done)
  let logs (call : HandlerCall Unit) : List (EventKey × Change) :=
    if call.handler.isCallable once then [(tick, .unsubscribed once), (tick, .subscribed (.direct echo))]
    else [(tick, .subscribed (.direct echo))]
  have each : ∀ call ∈ calls, World.Logged call.before (logs call) call.after :=
    List.forall_mem_cons.2 ⟨first, List.forall_mem_singleton.2 (.subscribe rfl (.direct echo))⟩
  have logged : World.Logged ticking log raised.2 := .raise raises logs each
  exact ⟨rfl, logged, (events_dependable (hosts 2) ticking).later log raised.2 logged tick⟩

end Ticker
end StructuralCast
