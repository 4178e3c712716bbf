import StructuralCast.Invocation
import StructuralCast.Proofs.Event.Multicast
import StructuralCast.Proofs.Event.Wrapping

/-!
Contract: raising an event of an object that has been wrapped.

`World.Alongside` are two runs from one world. Both subscribe callables to events of objects and take
them away again, and in one of them values are cast besides, any number of times. The second run has the
handlers of the first, in their order, and between them relays that nobody hears
(`World.Alongside.beside`).

A relay that nobody hears runs nothing. But it is a handler, and the result of the last handler is the
result of the event, so `raise_alongside` finds two ways in which raising may differ: where such a relay
is the last handler, a result or the lack of one becomes null.
-/

namespace StructuralCast

open Step

variable {σ : Type}

/-! ### Two runs -/

/-- Whether a handler is not a relay for a list that was made after a number of others. -/
def Handler.isBefore (count : Nat) : Handler → Bool
  | .direct _ => true
  | .relay r => r.id.index < count

/-- What is taken away is no relay, so relays may be left out before. -/
theorem Handler.removeLast?_isBefore (c : Callable) (count : Nat) (handlers : List Handler) :
    Multicast.removeLast? (isCallable c) (handlers.filter (isBefore count)) =
      (Multicast.removeLast? (isCallable c) handlers).map (List.filter (isBefore count)) := by
  have parts (handler : Handler) : handler.isCallable c =
      (Option.guard (isBefore count) handler).any (isCallable c) := by
    cases handler with
    | direct other => rfl
    | relay r =>
        rw [Option.guard]
        split
        case isTrue => rfl
        case isFalse => rfl
  rw [← List.filterMap_eq_filter]
  exact Multicast.removeLast?_filterMap parts handlers

namespace World

/-- Every relay on an event of an object is for a list that there is. -/
def Rooted (world : World σ) : Prop :=
  ∀ number event relay, Handler.relay relay ∈ world.handlersOf number event →
    relay.id.index < world.relayed.size

/-- Nobody hears the lists from one number up to another. -/
def Unheard (first last : Nat) (world : World σ) : Prop :=
  ∀ id : RelayId, first ≤ id.index → id.index < last → world.listOf id = []

/-- Two runs from one world, where the second one casts values besides what the first one does. -/
inductive Alongside (start : World σ) : World σ → World σ → Prop where
  | start : Alongside start start start
  | cast {plain wrapped : World σ} (alongside : Alongside start plain wrapped) (engine : EngineId)
      (target : TypeId) (value : Value) :
      Alongside start plain ((Cast.cast engine target value).run wrapped).2
  | subscribe {plain wrapped : World σ} (alongside : Alongside start plain wrapped) (number : Nat)
      (event : String) (c : Callable) :
      Alongside start
        ((Action.subscribe ⟨.object number, event⟩ (.direct c) : Action σ CallError Unit).run plain).2
        ((Action.subscribe ⟨.object number, event⟩ (.direct c) : Action σ CallError Unit).run wrapped).2
  | unsubscribe {plain wrapped : World σ} (alongside : Alongside start plain wrapped) (number : Nat)
      (event : String) (c : Callable) :
      Alongside start
        ((Action.unsubscribe ⟨.object number, event⟩ c : Action σ CallError Bool).run plain).2
        ((Action.unsubscribe ⟨.object number, event⟩ c : Action σ CallError Bool).run wrapped).2

/-- What the two runs come to: the second has the handlers of the first, and relays for new lists. -/
structure Beside (start plain wrapped : World σ) : Prop where
  rooted : wrapped.Rooted
  lists : ∀ id, wrapped.listOf id = start.listOf id
  grown : start.relayed.size ≤ wrapped.relayed.size
  handlers : ∀ number event, plain.handlersOf number event =
    (wrapped.handlersOf number event).filter (Handler.isBefore start.relayed.size)

variable {start plain wrapped after : World σ}

theorem Beside.unheard (beside : Beside start plain wrapped) (last : Nat) :
    wrapped.Unheard start.relayed.size last := by
  intro id since _
  rw [beside.lists, listOf_of_le since]

theorem Rooted.beside (rooted : start.Rooted) : Beside start start start := by
  refine ⟨rooted, fun _ => rfl, le_rfl, fun number event => ?_⟩
  symm
  apply List.filter_eq_self.2
  intro handler subscribed
  cases handler with
  | direct c => rfl
  | relay relay => exact decide_eq_true (rooted number event relay subscribed)

/-- The relays of new adapters are for lists that are new. -/
theorem Connects.relay_bounds {made : List Adapter} (connects : Connects made plain after)
    {number : Nat} {event : String} {relay : Relay}
    (isMade : relay ∈ made.flatMap (·.relaysAt number event)) :
    plain.relayed.size ≤ relay.id.index ∧ relay.id.index < after.relayed.size := by
  obtain ⟨adapter, member, atEvent⟩ := List.mem_flatMap.1 isMade
  apply connects.bounds
  exact List.mem_flatMap.2 ⟨adapter, member, adapter.mem_lists_of_mem_relaysAt atEvent⟩

theorem Beside.cast (beside : Beside start plain wrapped) (undisturbed : Undisturbed wrapped after) :
    Beside start plain after := by
  obtain ⟨made, connects⟩ := undisturbed
  have size : after.relayed.size = wrapped.relayed.size + (made.flatMap Adapter.lists).length :=
    connects.size
  have grown := beside.grown
  refine ⟨?_, fun id => ?_, ?_, fun number event => ?_⟩
  · intro number event relay subscribed
    rw [connects.handlers, List.mem_append] at subscribed
    rcases subscribed with before | new
    · have there := beside.rooted number event relay before
      omega
    · obtain ⟨relay', isMade, same⟩ := List.mem_map.1 new
      cases same
      exact (connects.relay_bounds isMade).2
  · rw [connects.listOf, beside.lists]
  · omega
  · have noneNew : ((made.flatMap (·.relaysAt number event)).map Handler.relay).filter
        (Handler.isBefore start.relayed.size) = [] := by
      apply List.filter_eq_nil_iff.2
      intro handler new
      obtain ⟨relay, isMade, rfl⟩ := List.mem_map.1 new
      have since := (connects.relay_bounds isMade).1
      have notBefore : ¬ relay.id.index < start.relayed.size := by omega
      simpa [Handler.isBefore] using notBefore
    rw [connects.handlers, List.filter_append, noneNew, List.append_nil]
    exact beside.handlers number event

/-- One more handler in both runs. -/
theorem Beside.subscribe (beside : Beside start plain wrapped) (number : Nat) (event : String)
    (c : Callable) :
    Beside start
      ((Action.subscribe ⟨.object number, event⟩ (.direct c) : Action σ CallError Unit).run plain).2
      ((Action.subscribe ⟨.object number, event⟩ (.direct c) : Action σ CallError Unit).run wrapped).2 := by
  refine ⟨fun number' event' relay subscribed => ?_, ?_, ?_, fun number' event' => ?_⟩
  · rw [Action.handlersOf_subscribe, List.mem_append] at subscribed
    rw [Action.relayed_subscribe]
    rcases subscribed with before | new
    · exact beside.rooted number' event' relay before
    · split at new
      case isTrue => cases List.mem_singleton.1 new
      case isFalse => cases new
  · intro id
    rw [World.listOf, Action.relayed_subscribe]
    exact beside.lists id
  · rw [Action.relayed_subscribe]
    exact beside.grown
  · rw [Action.handlersOf_subscribe, Action.handlersOf_subscribe, List.filter_append,
      beside.handlers]
    congr 1
    split
    case isTrue => rfl
    case isFalse => rfl

/-- One handler less in both runs, or in neither. -/
theorem Beside.unsubscribe (beside : Beside start plain wrapped) (number : Nat) (event : String)
    (c : Callable) :
    Beside start
      ((Action.unsubscribe ⟨.object number, event⟩ c : Action σ CallError Bool).run plain).2
      ((Action.unsubscribe ⟨.object number, event⟩ c : Action σ CallError Bool).run wrapped).2 := by
  refine ⟨fun number' event' relay subscribed => ?_, ?_, ?_, fun number' event' => ?_⟩
  · rw [Action.relayed_unsubscribe]
    apply beside.rooted number' event'
    rw [Action.handlersOf_unsubscribe] at subscribed
    split at subscribed
    case isTrue =>
      cases removes : Multicast.removeLast? (Handler.isCallable c)
          (wrapped.handlersOf number' event') with
      | none =>
          rw [removes] at subscribed
          exact subscribed
      | some rest =>
          rw [removes] at subscribed
          exact Multicast.mem_of_removeLast? removes subscribed
    case isFalse => exact subscribed
  · intro id
    rw [World.listOf, Action.relayed_unsubscribe]
    exact beside.lists id
  · rw [Action.relayed_unsubscribe]
    exact beside.grown
  · rw [Action.handlersOf_unsubscribe, Action.handlersOf_unsubscribe, beside.handlers,
      Handler.removeLast?_isBefore]
    split
    case isTrue =>
      cases Multicast.removeLast? (Handler.isCallable c) (wrapped.handlersOf number' event') with
      | none => rfl
      | some rest => rfl
    case isFalse => rfl

/-- Casting changes nothing about handlers but that relays for new lists are among them. -/
theorem Alongside.beside (rooted : start.Rooted) (alongside : Alongside start plain wrapped) :
    Beside start plain wrapped := by
  induction alongside with
  | start => exact rooted.beside
  | cast _ engine target value inductionHypothesis =>
      exact inductionHypothesis.cast (Cast.undisturbed_cast engine target value)
  | subscribe _ number event c inductionHypothesis =>
      exact inductionHypothesis.subscribe number event c
  | unsubscribe _ number event c inductionHypothesis =>
      exact inductionHypothesis.unsubscribe number event c

end World

/-! ### Raising -/

/-- Steps that come to the same in worlds that are near each other, and keep the worlds near. -/
def Step.Steady {ε α : Type} (near : World σ → World σ → Prop) (alike : α → α → Prop)
    (step : Action σ ε α) : Prop :=
  ∀ world world', near world world' →
    Agree False alike (step.run world).1 (step.run world').1 ∧
      near (step.run world).2 (step.run world').2

/-- Results so far: they are alike, or null is the second one, for its last handler was not heard. -/
inductive Settles (alike : Value → Value → Prop) : Bool → Option Value → Option Value → Prop where
  | heard {last last' : Option Value} (results : Option.Rel alike last last') :
      Settles alike true last last'
  | unheard (last : Option Value) : Settles alike false last (some .null)

namespace Relay

/-- A relay that nobody hears does nothing. -/
theorem invoke_unheard (host : Host σ) (relay : Relay) (args : List Value) {world : World σ}
    (unheard : world.listOf relay.id = []) :
    (relay.invoke host args).run world = (.ok .null, world) := by
  unfold invoke
  rw [run_bind]
  have listed : (Action.relayHandlers relay.id : Action σ CallError _).run world = (.ok [], world) := by
    rw [← unheard]
    rfl
  rw [listed]
  rfl

end Relay

section Raising

variable {near : World σ → World σ → Prop} {alike : Value → Value → Prop} {first last : Nat}

/-- Handlers that nobody hears make no difference but to the result so far. -/
theorem agree_runAfter (quiet : ∀ world world', near world world' → world'.Unheard first last)
    (host : Host σ) (args : List Value) (handlers : List Handler)
    (listed : ∀ relay, Handler.relay relay ∈ handlers → relay.id.index < last)
    (steady : ∀ handler ∈ handlers.filter (Handler.isBefore first),
      Steady near alike (handler.invoke host args))
    {heard : Bool} {result result' : Option Value} (settles : Settles alike heard result result')
    {world world' : World σ} (isNear : near world world') :
    let run := (Multicast.runAfter (Handler.invoke host args) result
      (handlers.filter (Handler.isBefore first))).run world
    let run' := (Multicast.runAfter (Handler.invoke host args) result' handlers).run world'
    Agree False (Settles alike ((handlers.getLast?.map (Handler.isBefore first)).getD heard))
      run.1 run'.1 ∧ near run.2 run'.2 := by
  -- On the handlers of the wrapped run: a relay that nobody hears is a step of that run alone and settles
  -- its result as null, until a handler that both runs have settles it anew.
  induction handlers generalizing heard result result' world world' with
  | nil => exact ⟨.ok settles, isNear⟩
  | cons head tail inductionHypothesis =>
      have further (relay : Relay) (member : Handler.relay relay ∈ tail) : relay.id.index < last :=
        listed relay (List.mem_cons_of_mem head member)
      have isLast : (((head :: tail).getLast?).map (Handler.isBefore first)).getD heard =
          (tail.getLast?.map (Handler.isBefore first)).getD (head.isBefore first) := by
        rw [List.getLast?_cons]
        cases tail.getLast? with
        | none => rfl
        | some handler => rfl
      rw [isLast]
      cases isOld : head.isBefore first with
      | false =>
          cases head with
          | direct c => cases isOld
          | relay r =>
              have since : first ≤ r.id.index := by simpa [Handler.isBefore] using isOld
              have unheard := quiet world world' isNear r.id since
                (listed r List.mem_cons_self)
              rw [List.filter_cons_of_neg (by simp [isOld])] at steady ⊢
              have silent : (Handler.invoke host args (.relay r)).run world' = (.ok .null, world') :=
                r.invoke_unheard host args unheard
              dsimp only
              rw [Multicast.runAfter, run_bind, silent]
              exact inductionHypothesis further steady (.unheard result) isNear
      | true =>
          rw [List.filter_cons_of_pos isOld] at steady ⊢
          obtain ⟨agree, remain⟩ := steady head List.mem_cons_self world world' isNear
          have others (handler : Handler)
              (member : handler ∈ tail.filter (Handler.isBefore first)) :
              Steady near alike (handler.invoke host args) :=
            steady handler (List.mem_cons_of_mem head member)
          dsimp only
          rw [Multicast.runAfter, Multicast.runAfter, run_bind, run_bind]
          cases ran : (head.invoke host args).run world with
          | mk outcome after =>
              cases ran' : (head.invoke host args).run world' with
              | mk outcome' after' =>
                  rw [ran, ran'] at agree remain
                  cases agree with
                  | ok results =>
                      exact inductionHypothesis further others (.heard (.some results)) remain
                  | error cause => exact ⟨.error cause, remain⟩
                  | left impossible => exact impossible.elim
                  | right impossible => exact impossible.elim

end Raising

/-- Casts that nobody subscribes through leave every event of an object its handlers, in their order, and
put relays between them that nobody hears.

To raise an event is then to run those handlers, and if they do the same in both runs, it does the same
in both: it fails for one cause, or its results are alike, unless a relay that nobody hears is the last
handler; then the result is null. -/
theorem raise_alongside {start plain wrapped : World σ} (rooted : start.Rooted)
    (alongside : World.Alongside start plain wrapped) (host : Host σ) (number : Nat) (event : String)
    (args : List Value) :
    let raise := Action.raise host ⟨.object number, event⟩ args
    let count := start.relayed.size
    let size := wrapped.relayed.size
    let handlers := plain.handlersOf number event
    let heard := (wrapped.handlersOf number event).getLast?.all (Handler.isBefore count)
    (wrapped.handlersOf number event).filter (Handler.isBefore count) = handlers ∧
    wrapped.Unheard count size ∧
    ((∀ handler ∈ handlers, ∀ world,
        Leads (Keeps (World.Unheard count size)) world (handler.invoke host args)) →
      let run := (Multicast.run (Handler.invoke host args) handlers).run wrapped
      Agree False (Settles Eq heard) run.1 (raise.run wrapped).1 ∧ (raise.run wrapped).2 = run.2) ∧
    ∀ (near : World σ → World σ → Prop) (alike : Value → Value → Prop), near plain wrapped →
      (∀ world world', near world world' → world'.Unheard count size) →
      (∀ handler ∈ handlers, Steady near alike (handler.invoke host args)) →
      Agree False (Settles alike heard) (raise.run plain).1 (raise.run wrapped).1 ∧
        near (raise.run plain).2 (raise.run wrapped).2 := by
  intro raise count size handlers heard
  have beside := alongside.beside rooted
  have same : (wrapped.handlersOf number event).filter (Handler.isBefore count) = handlers :=
    (beside.handlers number event).symm
  have isHeard : heard =
      ((wrapped.handlersOf number event).getLast?.map (Handler.isBefore count)).getD true := by
    show Option.all _ _ = _
    cases (wrapped.handlersOf number event).getLast? with
    | none => rfl
    | some handler => rfl
  refine ⟨same, beside.unheard size, fun keeps => ?_, fun near alike isNear quiet steady => ?_⟩
  · -- Within the wrapped world the two runs are one, so "near" is to be equal, and nobody to hear.
    have steady (handler : Handler) (subscribed : handler ∈ handlers) :
        Steady (fun world world' => world = world' ∧ world'.Unheard count size) Eq
          (handler.invoke host args) := by
      rintro world _ ⟨rfl, unheard⟩
      exact ⟨.same _, rfl, keeps handler subscribed world unheard⟩
    have quiet (world world' : World σ) (isNear : world = world' ∧ world'.Unheard count size) :
        world'.Unheard count size := isNear.2
    have compared := agree_runAfter quiet host args (wrapped.handlersOf number event)
      (fun relay => beside.rooted number event relay) (by rw [same]; exact steady)
      (.heard (.none)) ⟨rfl, beside.unheard size⟩
    rw [same, ← isHeard] at compared
    exact ⟨compared.1, compared.2.1.symm⟩
  · have compared := agree_runAfter quiet host args (wrapped.handlersOf number event)
      (fun relay => beside.rooted number event relay) (by rw [same]; exact steady)
      (.heard (.none)) isNear
    rw [same, ← isHeard] at compared
    exact compared

/-! ### An instance -/

/-- Class 19 has an event with handlers of delegate type 16. Shape 18 asks for one with handlers of
delegate type 17, which take any object. -/
def Registry.announcing : Registry :=
  let delegate (param : TypeId) : Definition :=
    { Definition.empty with invoke := some ⟨[param], .int⟩ }
  let announcer (handler : TypeId) : Definition :=
    { Definition.empty with events := [⟨"Said", handler, false⟩] }
  let notice := (Registry.initial.register (.named "Notice") .delegate (delegate .text)).1
  let report := (notice.register (.named "Report") .delegate (delegate .object)).1
  let reporter := (report.register (.named "Reporter") .interface (announcer ⟨17⟩)).1
  (reporter.register (.named "Announcer") .classType (announcer ⟨16⟩)).1

namespace Announcer

/-- An object of the class. -/
def object : Instance := ⟨0, ⟨19⟩, "Announcer"⟩

/-- A handler for its event, which the host answers with a number. -/
def notice : Callable := .native 0 ⟨16⟩ ⟨0⟩

def host : Host Unit := fun _ => return .int 5

def start : World Unit := Cast.newcomer Registry.announcing

def listen (world : World Unit) : World Unit :=
  ((Action.subscribe ⟨.object 0, "Said"⟩ (.direct notice) : Action Unit CallError Unit).run world).2

def wrap (world : World Unit) : World Unit := ((Cast.cast ⟨0⟩ ⟨18⟩ (.object object)).run world).2

def raise : Action Unit CallError (Option Value) :=
  Action.raise host ⟨.object 0, "Said"⟩ [.text ⟨0⟩ "hello"]

/-- With one handler from before the object is wrapped and one from after, the event answers as it does
when the object is never wrapped. -/
theorem answers_alongside :
    (raise.run (listen (listen start))).1 = .ok (some (.int 5)) ∧
      (raise.run (listen (wrap (listen start)))).1 = .ok (some (.int 5)) := by
  have rooted : start.Rooted := fun _ _ _ subscribed => absurd subscribed List.not_mem_nil
  have alongside : World.Alongside start (listen (listen start)) (listen (wrap (listen start))) :=
    ((World.Alongside.start.subscribe 0 "Said" notice).cast ⟨0⟩ ⟨18⟩ (.object object)).subscribe
      0 "Said" notice
  obtain ⟨_, unheard, _, compares⟩ :=
    raise_alongside rooted alongside host 0 "Said" [.text ⟨0⟩ "hello"]
  have steady (handler : Handler) (subscribed : handler ∈ (listen (listen start)).handlersOf 0 "Said") :
      Steady (fun _ world' => world'.Unheard start.relayed.size (listen (wrap (listen start))).relayed.size)
        Eq (handler.invoke host [.text ⟨0⟩ "hello"]) := by
    have handlers : (listen (listen start)).handlersOf 0 "Said" = [.direct notice, .direct notice] := rfl
    rw [handlers] at subscribed
    obtain rfl : handler = .direct notice := by simpa using subscribed
    exact fun _ _ isNear => ⟨.ok rfl, isNear⟩
  obtain ⟨agree, _⟩ := compares _ Eq unheard (fun _ _ isNear => isNear) steady
  have plain : (raise.run (listen (listen start))).1 = .ok (some (.int 5)) := rfl
  have heard : ((listen (wrap (listen start))).handlersOf 0 "Said").getLast?.all
      (Handler.isBefore start.relayed.size) = true := by
    decide +kernel
  change Agree False (Settles Eq _) (raise.run (listen (listen start))).1
    (raise.run (listen (wrap (listen start)))).1 at agree
  rw [heard, plain] at agree
  refine ⟨plain, ?_⟩
  generalize (raise.run (listen (wrap (listen start)))).1 = outcome at agree ⊢
  cases agree with
  | ok settles =>
      cases settles with
      | heard results =>
          cases results with
          | some same => rw [← same]
  | right impossible => exact impossible.elim

/-- An object whose event answered a number answers null when it has been wrapped. -/
theorem null_of_wrapped :
    ¬ ∀ (world after : World Unit) (host : Host Unit) (engine : EngineId) (shape : TypeId)
      (object : Instance) (adapter : Adapter) (made : Value) (event : String) (args : List Value),
      made.adapter? = some adapter →
      (Cast.cast engine shape (.object object)).run world = (.ok made, after) →
        ((Action.raise host ⟨.object object.number, event⟩ args).run after).1 =
          ((Action.raise host ⟨.object object.number, event⟩ args).run world).1 := by
  intro claimed
  have facts : (((Cast.cast ⟨0⟩ ⟨18⟩ (.object object)).run (listen start)).1.toOption.bind
      Value.adapter?).isSome = true := by
    decide +kernel
  obtain ⟨adapter, isMade⟩ := Option.isSome_iff_exists.1 facts
  obtain ⟨made, found, isAdapter⟩ := Option.bind_eq_some_iff.1 isMade
  have same := claimed (listen start) (wrap (listen start)) host ⟨0⟩ ⟨18⟩ object adapter made "Said"
    [.text ⟨0⟩ "hello"] isAdapter (Prod.ext (ok_of_toOption found) rfl)
  let isNull (outcome : Except CallError (Option Value)) : Option (Option Bool) :=
    outcome.toOption.map fun answer => answer.map Value.isNull
  have differs : isNull (raise.run (wrap (listen start))).1 ≠ isNull (raise.run (listen start)).1 := by
    decide +kernel
  exact differs (congrArg isNull same)

end Announcer
end StructuralCast
