import StructuralCast.Proofs.Event.Wrapping
import StructuralCast.Proofs.Forwarding.Abreast
import StructuralCast.Proofs.Forwarding.Access

/-!
Contract: which routines an operation has the host run.

`Consults` is about an operation for all hosts at once, from the world that it starts in. The errands are
run in order, and nothing else is. The operation may fail at any time and leave the rest undone; it
succeeds only when all have been run, each of them once; and an errand that fails ends it, for the cause
that the host has given. Consultations are put together from steps that no host is needed for and from
one errand after the other (`Consults.precede`, `Consults.proceed`, `Consults.holding`).

The errand of a use is the body of the member that it ends at, through adapters over adapters. The errand
of a callable is the routine at the bottom of it, and those of a relay are the errands of its handlers.
-/

namespace StructuralCast

open Step

variable {σ α β γ : Type} {world : World σ}

/-- A routine, and what it is run on. -/
structure Errand where
  routine : RoutineId
  receiver : Value

def HostCall.errand (request : HostCall) : Errand := ⟨request.routine, request.receiver⟩

/-- How something goes on that runs these errands in order, unless it fails before it gets to the end. -/
inductive Consults : List Errand → (Host σ → Except CallError α × World σ) → Prop where
  | fails {errands : List Errand} {course : Host σ → Except CallError α × World σ}
      (cause : CallError) (last : World σ) (always : ∀ host, course host = (.error cause, last)) :
      Consults errands course
  | ends {course : Host σ → Except CallError α × World σ} (answer : α) (last : World σ)
      (always : ∀ host, course host = (.ok answer, last)) : Consults [] course
  | asks {errands : List Errand} {course : Host σ → Except CallError α × World σ} (request : HostCall)
      (between : World σ)
      (finish : Except CallError Value × World σ → Host σ → Except CallError α × World σ)
      (always : ∀ host, course host = finish ((host request).run between) host)
      (stopped : ∀ cause after, ∃ last, ∀ host, finish (.error cause, after) host = (.error cause, last))
      (goesOn : ∀ answer after, Consults errands (finish (.ok answer, after))) :
      Consults (request.errand :: errands) course

namespace Consults

variable {errands further : List Errand} {course course' : Host σ → Except CallError α × World σ}

theorem congr (consults : Consults errands course) (same : ∀ host, course' host = course host) :
    Consults errands course' := by
  rwa [funext same]

/-- What no host is needed for runs no errand. -/
theorem idle (outcome : Except CallError α × World σ) : Consults [] fun _ => outcome := by
  obtain ⟨ended, last⟩ := outcome
  cases ended with
  | ok answer => exact .ends answer last fun _ => rfl
  | error cause => exact .fails cause last fun _ => rfl

theorem request (request : HostCall) :
    Consults [request.errand] fun host : Host σ => (host request).run world := by
  refine .asks request world (fun ran _ => ran) (fun _ => rfl) (fun cause after => ?_) fun answer after => ?_
  · exact ⟨after, fun _ => rfl⟩
  · exact .ends answer after fun _ => rfl

/-- Something is made of the outcome, and a failure is left as it is. -/
theorem carry (consults : Consults errands course)
    {finish : Except CallError α × World σ → Except CallError β × World σ}
    (unchanged : ∀ cause after, ∃ last, finish (.error cause, after) = (.error cause, last)) :
    Consults errands fun host => finish (course host) := by
  induction consults with
  | fails cause after always =>
      obtain ⟨last, stops⟩ := unchanged cause after
      exact .fails cause last fun host => by rw [always, stops]
  | ends answer after always => exact (idle (finish (.ok answer, after))).congr fun host => by rw [always]
  | asks request between inner always stopped _ inductionHypothesis =>
      refine .asks request between (fun ran host => finish (inner ran host)) ?_ ?_ inductionHypothesis
      · exact fun host => by rw [always]
      · intro cause after
        obtain ⟨stop, stops⟩ := stopped cause after
        obtain ⟨last, leaves⟩ := unchanged cause stop
        exact ⟨last, fun host => by rw [stops, leaves]⟩

/-- First some errands, and then others. -/
theorem proceed (consults : Consults errands course) {next : Host σ → α → Action σ CallError β}
    (rest : ∀ answer after, Consults further fun host => (next host answer).run after) :
    Consults (errands ++ further) fun host => StructuralCast.proceed (next host) (course host) := by
  induction consults with
  | fails cause last always => exact .fails cause last fun host => by rw [always]; rfl
  | ends answer last always => exact (rest answer last).congr fun host => by rw [always]; rfl
  | asks request between finish always stopped _ inductionHypothesis =>
      refine .asks request between
        (fun ran host => StructuralCast.proceed (next host) (finish ran host)) ?_ ?_ inductionHypothesis
      · exact fun host => by rw [always]
      · intro cause after
        obtain ⟨last, stops⟩ := stopped cause after
        exact ⟨last, fun host => by rw [stops]; rfl⟩

/-- A step before, which no host is needed for. -/
theorem precede {step : Action σ CallError γ} {next : γ → Host σ → Action σ CallError α}
    (rest : ∀ value between, step.run world = (.ok value, between) →
      Consults errands fun host => (next value host).run between) :
    Consults errands fun host => (step >>= fun value => next value host).run world := by
  cases ran : step.run world with
  | mk outcome between =>
      cases outcome with
      | error cause => exact .fails cause between fun host => by rw [run_bind_eq_proceed, ran]; rfl
      | ok value =>
          exact (rest value between ran).congr fun host => by rw [run_bind_eq_proceed, ran]; rfl

/-- Steps after, which may run errands as well. -/
theorem follow {operation : Host σ → Action σ CallError α}
    (consults : Consults errands fun host => (operation host).run world)
    {next : Host σ → α → Action σ CallError β}
    (rest : ∀ answer after, Consults further fun host => (next host answer).run after) :
    Consults (errands ++ further) fun host => (operation host >>= next host).run world :=
  (consults.proceed rest).congr fun _ => run_bind_eq_proceed _ _

/-- A step after, which no host is needed for. -/
theorem settle {operation : Host σ → Action σ CallError α}
    (consults : Consults errands fun host => (operation host).run world)
    (step : α → Action σ CallError β) :
    Consults errands fun host => (operation host >>= step).run world := by
  have back : Consults (errands ++ []) fun host => (operation host >>= step).run world :=
    consults.follow fun answer after => idle ((step answer).run after)
  rwa [List.append_nil] at back

theorem holding {operation : Host σ → Action σ CallError α} (id : EngineId)
    (consults : Consults errands fun host => (operation host).run (world.retain id)) :
    Consults errands fun host => (Action.holding id (operation host)).run world := by
  by_cases alive : world.isAlive id = true
  · let finish (ran : Except CallError α × World σ) := (ran.1, ran.2.release id)
    have unchanged : ∀ cause after, ∃ last, finish (.error cause, after) = (.error cause, last) :=
      fun _ after => ⟨after.release id, rfl⟩
    exact (consults.carry unchanged).congr fun host => run_holding alive (operation host)
  · exact .fails .engineDropped world fun _ => if_neg alive

end Consults

/-! ### Uses -/

/-- The body of the member, if it has one, on what the member is used on. -/
def Performance.errand? (performance : Performance) : Option Errand :=
  performance.performer.body?.map fun routine => ⟨routine, performance.receiver⟩

theorem Performs.consults {registry : Registry} {performance? : Option Performance}
    {operation : Host σ → Action σ CallError α}
    (performs : Performs registry performance? world operation) :
    Consults (performance?.bind Performance.errand?).toList fun host => (operation host).run world := by
  cases performs with
  | refuses cause after _ always => exact .fails cause after always
  | passes request fitting between _ finish always stopped _ =>
      obtain ⟨performance, isPerformance, body, receiver⟩ := fitting
      obtain rfl := Option.mem_def.1 isPerformance
      have isErrand : performance.errand? = some request.errand := by
        rw [Performance.errand?, body, Option.map_some, ← receiver]
        rfl
      rw [Option.bind_some, isErrand]
      refine .asks request between (fun ran _ => finish ran) always (fun cause after => ?_) fun answer after => ?_
      · obtain ⟨last, stops⟩ := stopped cause after
        exact ⟨last, fun _ => stops⟩
      · exact .idle (finish (.ok answer, after))

/-! ### Callables -/

/-- The routine of the host that a callable comes down to. -/
def Callable.errand : Callable → Errand
  | native _ _ routine => ⟨routine, .null⟩
  | adapted _ _ inner => inner.errand
  | foreign _ _ body _ => ⟨body.routine, .null⟩

/-- A callable over callables runs the routine that they come down to. -/
theorem Callable.consults : (c : Callable) → (world : World σ) → (args : List Value) →
    Consults [c.errand] fun host => (c.invoke host args).run world
  | .native _ _ routine, _, args => by
    simp only [invoke]
    exact Consults.request ⟨routine, .null, args, .null⟩
  | .foreign _ _ body _, _, args => by
    simp only [invoke]
    exact Consults.request ⟨body.routine, .null, args, .null⟩
  | .adapted _ factory inner, world, args => by
    simp only [invoke, DelegateFactory.forward]
    refine Consults.holding factory.engine ?_
    refine Consults.precede fun _ checked _ => Consults.precede fun converted between _ => ?_
    exact (inner.consults between converted).settle fun result =>
      if factory.result = .void then return .null
      else Action.convert factory.engine factory.resultConversion result

/-! ### Relays -/

theorem Callable.consults_all (handlers : List Callable) (world : World σ) (given : List Value)
    (last : Option Value) :
    Consults (handlers.map errand)
      fun host => (Multicast.runAfter (invoke host given) last handlers).run world := by
  induction handlers generalizing world last with
  | nil => exact .ends last world fun _ => rfl
  | cons head rest inductionHypothesis =>
      rw [List.map_cons, ← List.singleton_append]
      exact (head.consults world given).follow fun answer after =>
        inductionHypothesis after (some answer)

/-- A relay runs the errands of the handlers that are in its list when it is invoked. -/
theorem Relay.consults (relay : Relay) (world : World σ) (args : List Value) :
    Consults ((world.listOf relay.id).map Callable.errand) fun host =>
      (relay.invoke host args).run world := by
  unfold Relay.invoke
  refine Consults.precede fun handlers same reads => ?_
  obtain ⟨isList, rfl⟩ := Prod.mk.inj reads
  obtain rfl : world.listOf relay.id = handlers := Except.ok.inj isList
  cases list : world.listOf relay.id with
  | nil => exact .ends .null _ fun _ => rfl
  | cons head rest =>
      simp only [List.isEmpty_cons, Bool.false_eq_true, if_false]
      split
      case isTrue => exact .fails _ world fun _ => rfl
      case isFalse =>
        refine Consults.holding relay.engine (Consults.precede fun given between _ => ?_)
        exact (Callable.consults_all (head :: rest) between given none).settle fun last =>
          Action.convert relay.engine relay.plan.resultConversion (last.getD .null)

end StructuralCast
