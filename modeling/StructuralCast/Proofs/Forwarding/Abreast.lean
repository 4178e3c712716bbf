import StructuralCast.Proofs.Cast.Alike

/-!
Contract: two operations that go on side by side.

`Abreast` compares two operations of two engines without knowing what they run. Either both fail for
the same cause before they run anything, or both make requests that are alike: for one routine, on one
receiver, with arguments that are alike. What fails then fails both, and answers that are alike come to
the same. Both operations may go on in worlds of their own, as long as these tend the engines.

`Refuses` and `Passes` say this of one operation, so each step before or after it, and holding an engine,
is dealt with once for both.
-/

namespace StructuralCast

open Step

/-- A world that tends an engine which is alive, and so may be used. -/
structure World.Ready {σ : Type} (registry : Registry) (id : EngineId) (world : World σ) : Prop where
  tending : world.Tending registry id
  alive : world.isAlive id = true

/-- Requests to run one routine on one receiver, with values that are alike. -/
structure HostCall.Alike (request request' : HostCall) : Prop where
  routine : request.routine = request'.routine
  receiver : request.receiver = request'.receiver
  args : List.Forall₂ Value.Alike request.args request'.args
  assigned : request.assigned.Alike request'.assigned

/-- A host that runs nothing, and fails by what it is asked to run. -/
def Host.reporting {σ : Type} (report : RoutineId → CallError) : Host σ :=
  fun request => throw (report request.routine)

variable {σ α β γ δ : Type} {registry : Registry} {id id' : EngineId} {world world' between : World σ}

/-! ### One operation -/

/-- Whatever the host does, the operation fails, for it runs nothing. -/
def Refuses (world : World σ) (operation : Host σ → Action σ CallError α) (cause : CallError) : Prop :=
  ∃ after, ∀ host, (operation host).run world = (.error cause, after)

/-- Whatever the host does, the operation makes one request, and ends by what has come of it. A failure
of the request is a failure of the operation. -/
structure Passes (registry : Registry) (id : EngineId) (world : World σ)
    (operation : Host σ → Action σ CallError α) (request : HostCall)
    (finish : Except CallError Value × World σ → Except CallError α × World σ) : Prop where
  always : ∃ between, between.Tending registry id ∧
    ∀ host, (operation host).run world = finish ((host request).run between)
  stopped : ∀ cause after, (finish (.error cause, after)).1 = .error cause
  tends : ∀ ran, ran.2.Tending registry id → (finish ran).2.Tending registry id

/-- The rest of an operation after the outcome of its first part. -/
def proceed (next : α → Action σ CallError β) :
    Except CallError α × World σ → Except CallError β × World σ
  | (.ok answer, after) => (next answer).run after
  | (.error cause, after) => (.error cause, after)

theorem run_bind_eq_proceed (step : Action σ CallError α) (next : α → Action σ CallError β) :
    (step >>= next).run world = proceed next (step.run world) := by
  rw [run_bind]
  obtain ⟨outcome, after⟩ := step.run world
  cases outcome with
  | ok answer => rfl
  | error cause => rfl

section Single

variable {operation : Host σ → Action σ CallError α} {cause : CallError} {request : HostCall}
  {finish : Except CallError Value × World σ → Except CallError α × World σ}
  {step : Action σ CallError γ} {next : γ → Host σ → Action σ CallError α} {value : γ}
  {back : α → Action σ CallError β}

theorem Refuses.at_step (fails : (step.run world).1 = .error cause) :
    Refuses world (fun host => step >>= fun value => next value host) cause := by
  refine ⟨(step.run world).2, fun host => ?_⟩
  rw [run_bind_eq_proceed, show step.run world = (.error cause, _) from Prod.ext fails rfl]
  rfl

theorem Refuses.after_step (ran : step.run world = (.ok value, between))
    (refuses : Refuses between (next value) cause) :
    Refuses world (fun host => step >>= fun value => next value host) cause := by
  obtain ⟨after, always⟩ := refuses
  refine ⟨after, fun host => ?_⟩
  rw [run_bind_eq_proceed, ran]
  exact always host

theorem Refuses.follow (refuses : Refuses world operation cause) :
    Refuses world (fun host => operation host >>= back) cause := by
  obtain ⟨after, always⟩ := refuses
  refine ⟨after, fun host => ?_⟩
  rw [run_bind_eq_proceed, always]
  rfl

theorem run_holding (alive : world.isAlive id = true) (action : Action σ CallError α) :
    (Action.holding id action).run world =
      ((action.run (world.retain id)).1, (action.run (world.retain id)).2.release id) :=
  if_pos alive

theorem Refuses.holding (alive : world.isAlive id = true)
    (refuses : Refuses (world.retain id) operation cause) :
    Refuses world (fun host => Action.holding id (operation host)) cause := by
  obtain ⟨after, always⟩ := refuses
  refine ⟨after.release id, fun host => ?_⟩
  rw [run_holding alive, always]

theorem Passes.after_step (ran : step.run world = (.ok value, between))
    (passes : Passes registry id between (next value) request finish) :
    Passes registry id world (fun host => step >>= fun value => next value host) request finish := by
  obtain ⟨⟨start, tending, always⟩, stopped, tends⟩ := passes
  refine ⟨⟨start, tending, fun host => ?_⟩, stopped, tends⟩
  rw [run_bind_eq_proceed, ran]
  exact always host

theorem Passes.follow (passes : Passes registry id world operation request finish)
    (tendsBack : ∀ answer after, Leads (Keeps (World.Tending registry id)) after (back answer)) :
    Passes registry id world (fun host => operation host >>= back) request
      fun ran => proceed back (finish ran) := by
  obtain ⟨⟨start, tending, always⟩, stopped, tends⟩ := passes
  refine ⟨⟨start, tending, fun host => ?_⟩, fun cause after => ?_, fun ran tending => ?_⟩
  · rw [run_bind_eq_proceed, always]
  · rw [show finish (.error cause, after) = (.error cause, _) from Prod.ext (stopped cause after) rfl]
    rfl
  · have tendingThen := tends ran tending
    generalize finish ran = finished at tendingThen ⊢
    obtain ⟨outcome, after⟩ := finished
    cases outcome with
    | ok answer => exact tendsBack answer after tendingThen
    | error cause => exact tendingThen

theorem Passes.holding (alive : world.isAlive id = true)
    (passes : Passes registry id (world.retain id) operation request finish) :
    Passes registry id world (fun host => Action.holding id (operation host)) request
      fun ran => ((finish ran).1, (finish ran).2.release id) := by
  obtain ⟨⟨start, tending, always⟩, stopped, tends⟩ := passes
  refine ⟨⟨start, tending, fun host => ?_⟩, stopped, fun ran tending => (tends ran tending).release id⟩
  rw [run_holding alive, always]

end Single

/-! ### Two operations -/

/-- How two operations go on side by side, for all that the host may do. With an excuse one of them may
fail alone, before it runs anything or after. -/
inductive Abreast (registry : Registry) (id id' : EngineId) (excuse : Prop) (alike : α → β → Prop)
    (world world' : World σ) (operation : Host σ → Action σ CallError α)
    (operation' : Host σ → Action σ CallError β) : Prop where
  | refuse (cause : CallError) (first : Refuses world operation cause)
      (second : Refuses world' operation' cause)
  | left (excused : excuse) (cause : CallError) (first : Refuses world operation cause)
  | right (excused : excuse) (cause : CallError) (second : Refuses world' operation' cause)
  | pass (request request' : HostCall) (requests : request.Alike request')
      (finish : Except CallError Value × World σ → Except CallError α × World σ)
      (finish' : Except CallError Value × World σ → Except CallError β × World σ)
      (first : Passes registry id world operation request finish)
      (second : Passes registry id' world' operation' request' finish')
      (handed : ∀ answer answer' after after', after.Tending registry id →
        after'.Tending registry id' → answer.Alike answer' →
          Agree excuse alike (finish (.ok answer, after)).1 (finish' (.ok answer', after')).1)

namespace Abreast

variable {excuse : Prop} {alike : α → β → Prop} {operation : Host σ → Action σ CallError α}
  {operation' : Host σ → Action σ CallError β}

theorem throw (cause : CallError) :
    Abreast registry id id' excuse alike world world' (fun _ => throw cause) fun _ => throw cause :=
  .refuse cause ⟨world, fun _ => rfl⟩ ⟨world', fun _ => rfl⟩

/-- Making alike requests, and nothing else. -/
theorem run {request request' : HostCall} (requests : request.Alike request')
    (tending : world.Tending registry id) (tending' : world'.Tending registry id') :
    Abreast registry id id' excuse Value.Alike world world' (fun host => host request)
      fun host => host request' := by
  refine .pass request request' requests (fun ran => ran) (fun ran => ran) ?_ ?_ ?_
  · exact ⟨⟨world, tending, fun _ => rfl⟩, fun _ _ => rfl, fun _ tending => tending⟩
  · exact ⟨⟨world', tending', fun _ => rfl⟩, fun _ _ => rfl, fun _ tending => tending⟩
  · exact fun _ _ _ _ _ _ answers => .ok answers

/-- A host that fails by what it is asked to run makes both operations fail alike, unless there is an
excuse. -/
theorem fail_alike (abreast : Abreast registry id id' False alike world world' operation operation')
    (report : RoutineId → CallError) :
    ∃ cause, ((operation (Host.reporting report)).run world).1 = .error cause ∧
      ((operation' (Host.reporting report)).run world').1 = .error cause := by
  cases abreast with
  | refuse cause first second =>
      obtain ⟨after, always⟩ := first
      obtain ⟨after', always'⟩ := second
      exact ⟨cause, by rw [always], by rw [always']⟩
  | left impossible => exact impossible.elim
  | right impossible => exact impossible.elim
  | pass request request' requests finish finish' first second handed =>
      obtain ⟨between, _, always⟩ := first.always
      obtain ⟨between', _, always'⟩ := second.always
      refine ⟨report request.routine, ?_, ?_⟩
      · rw [always]
        exact first.stopped _ between
      · rw [always', requests.routine]
        exact second.stopped _ between'

/-- Steps before the operations. -/
theorem precede {results : γ → δ → Prop} {step : Action σ CallError γ} {step' : Action σ CallError δ}
    {next : γ → Host σ → Action σ CallError α} {next' : δ → Host σ → Action σ CallError β}
    (agree : Agree excuse results (step.run world).1 (step'.run world').1)
    (rest : ∀ value value' between between', step.run world = (.ok value, between) →
      step'.run world' = (.ok value', between') → results value value' →
        Abreast registry id id' excuse alike between between' (next value) (next' value')) :
    Abreast registry id id' excuse alike world world'
      (fun host => step >>= fun value => next value host)
      fun host => step' >>= fun value => next' value host := by
  cases ran : step.run world with
  | mk outcome between =>
      cases ran' : step'.run world' with
      | mk outcome' between' =>
          rw [ran, ran'] at agree
          cases agree with
          | error cause => exact .refuse cause (.at_step (by rw [ran])) (.at_step (by rw [ran']))
          | left excused cause => exact .left excused cause (.at_step (by rw [ran]))
          | right excused _ cause => exact .right excused cause (.at_step (by rw [ran']))
          | ok alikes =>
              cases rest _ _ between between' ran ran' alikes with
              | refuse cause first second =>
                  exact .refuse cause (first.after_step ran) (second.after_step ran')
              | left excused cause first => exact .left excused cause (first.after_step ran)
              | right excused cause second => exact .right excused cause (second.after_step ran')
              | pass request request' requests finish finish' first second handed =>
                  exact .pass request request' requests finish finish' (first.after_step ran)
                    (second.after_step ran') handed

/-- Steps after the operations. -/
theorem follow {results : γ → δ → Prop} {back : α → Action σ CallError γ}
    {back' : β → Action σ CallError δ}
    (abreast : Abreast registry id id' excuse alike world world' operation operation')
    (tends : ∀ answer after, Leads (Keeps (World.Tending registry id)) after (back answer))
    (tends' : ∀ answer after, Leads (Keeps (World.Tending registry id')) after (back' answer))
    (agree : ∀ answer answer' after after', after.Tending registry id → after'.Tending registry id' →
      alike answer answer' →
        Agree excuse results ((back answer).run after).1 ((back' answer').run after').1) :
    Abreast registry id id' excuse results world world' (fun host => operation host >>= back)
      fun host => operation' host >>= back' := by
  cases abreast with
  | refuse cause first second => exact .refuse cause first.follow second.follow
  | left excused cause first => exact .left excused cause first.follow
  | right excused cause second => exact .right excused cause second.follow
  | pass request request' requests finish finish' first second handed =>
      refine .pass request request' requests _ _ (first.follow tends) (second.follow tends') ?_
      intro answer answer' after after' tending tending' answers
      have finished := handed answer answer' after after' tending tending' answers
      have tendingThen := first.tends (.ok answer, after) tending
      have tendingThen' := second.tends (.ok answer', after') tending'
      generalize finish (.ok answer, after) = ran at finished tendingThen ⊢
      generalize finish' (.ok answer', after') = ran' at finished tendingThen' ⊢
      obtain ⟨outcome, last⟩ := ran
      obtain ⟨outcome', last'⟩ := ran'
      cases finished with
      | ok alikes => exact agree _ _ last last' tendingThen tendingThen' alikes
      | error cause => exact .error cause
      | left excused cause => exact .left excused cause _
      | right excused _ cause => exact .right excused _ cause

/-- Both engines are kept alive during the operations. -/
theorem holding (ready : world.Ready registry id) (ready' : world'.Ready registry id')
    (held : (world.retain id).Tending registry id → (world'.retain id').Tending registry id' →
      Abreast registry id id' excuse alike (world.retain id) (world'.retain id') operation
        operation') :
    Abreast registry id id' excuse alike world world'
      (fun host => Action.holding id (operation host))
      fun host => Action.holding id' (operation' host) := by
  obtain ⟨tending, alive⟩ := ready
  obtain ⟨tending', alive'⟩ := ready'
  cases held (tending.retain id) (tending'.retain id') with
  | refuse cause first second => exact .refuse cause (first.holding alive) (second.holding alive')
  | left excused cause first => exact .left excused cause (first.holding alive)
  | right excused cause second => exact .right excused cause (second.holding alive')
  | pass request request' requests finish finish' first second handed =>
      exact .pass request request' requests _ _ (first.holding alive) (second.holding alive') handed

/-- Both look at their worlds first. -/
theorem looked {next : World σ → Host σ → Action σ CallError α}
    {next' : World σ → Host σ → Action σ CallError β}
    (rest : Abreast registry id id' excuse alike world world' (next world) (next' world')) :
    Abreast registry id id' excuse alike world world' (fun host => get >>= fun state => next state host)
      fun host => get >>= fun state => next' state host := by
  have looks : Agree excuse (fun state state' => state = world ∧ state' = world')
      ((get : Action σ CallError (World σ)).run world).1
      ((get : Action σ CallError (World σ)).run world').1 := .ok ⟨rfl, rfl⟩
  refine precede looks ?_
  rintro _ _ _ _ ran ran' ⟨rfl, rfl⟩
  cases ran
  cases ran'
  exact rest

/-- Arguments are checked in one way, and a check leaves the worlds as they are. -/
theorem checked (tending : world.Tending registry id) (tending' : world'.Tending registry id')
    {member : String} {params : List TypeId} {args : List Value}
    {next : Host σ → Action σ CallError α} {next' : Host σ → Action σ CallError β}
    (rest : Abreast registry id id' excuse alike world world' next next') :
    Abreast registry id id' excuse alike world world'
      (fun host => Action.checkArguments member params args >>= fun _ => next host)
      fun host => Action.checkArguments member params args >>= fun _ => next' host := by
  have checks : ∀ start : World σ, start.registry = registry →
      (Action.checkArguments member params args).run start =
        (registry.checkArguments member params args, start) := by
    rintro start rfl
    rfl
  have agree : Agree excuse Eq ((Action.checkArguments member params args).run world).1
      ((Action.checkArguments member params args).run world').1 := by
    rw [checks world tending.sameRegistry, checks world' tending'.sameRegistry]
    cases registry.checkArguments member params args with
    | ok => exact .ok rfl
    | error cause => exact .error cause
  refine precede agree ?_
  intro _ _ between between' ran ran' _
  obtain rfl : world = between := (Prod.mk.inj ran).2
  obtain rfl : world' = between' := (Prod.mk.inj ran').2
  exact rest

/-- Values are converted by the same conversions. -/
theorem converted (orderly : registry.Orderly) (tending : world.Tending registry id)
    (tending' : world'.Tending registry id') {conversions : List Conversion}
    (excused : ∀ conversion ∈ conversions, conversion.Divides registry → excuse)
    {values values' : List Value} (alikes : List.Forall₂ Value.Alike values values')
    {next : List Value → Host σ → Action σ CallError α}
    {next' : List Value → Host σ → Action σ CallError β}
    (rest : ∀ received received' between between', between.Tending registry id →
      between'.Tending registry id' → List.Forall₂ Value.Alike received received' →
        Abreast registry id id' excuse alike between between' (next received) (next' received')) :
    Abreast registry id id' excuse alike world world'
      (fun host => Action.convertAll id (conversions.zip values) >>= fun received =>
        next received host)
      fun host => Action.convertAll id' (conversions.zip values') >>= fun received =>
        next' received host := by
  have agree := Action.agree_convertAll orderly tending tending' conversions alikes
  refine precede (agree.mono ?_ fun _ _ alikes => alikes) ?_
  · rintro ⟨conversion, member, divides⟩
    exact excused conversion member divides
  · intro received received' between between' ran ran' alikes
    exact rest received received' between between'
      ((Action.tending_convertAll id _).related_of_run ran tending)
      ((Action.tending_convertAll id' _).related_of_run ran' tending') alikes

/-- The results go back over the same step. -/
theorem back {operation operation' : Host σ → Action σ CallError Value} (orderly : registry.Orderly)
    (passage : Passage) (excused : ∀ conversion ∈ passage.conversion,
      conversion.Divides registry → excuse)
    (abreast : Abreast registry id id' excuse Value.Alike world world' operation operation') :
    Abreast registry id id' excuse Value.Alike world world'
      (fun host => operation host >>= passage.carry id)
      fun host => operation' host >>= passage.carry id' := by
  have tends : ∀ (engine : EngineId) (answer : Value) (after : World σ),
      Leads (Keeps (World.Tending registry engine)) after (passage.carry engine answer) := by
    intro engine answer after
    unfold Passage.carry
    cases passage.conversion with
    | none => exact Leads.pure _
    | some conversion => exact Action.tending_convert engine conversion answer
  refine abreast.follow (tends id) (tends id') ?_
  intro answer answer' after after' tending tending' answers
  unfold Passage.carry
  cases carried : passage.conversion with
  | none => exact .ok (.same .null)
  | some conversion =>
      have converts := Action.agree_convert orderly tending tending' conversion answers
      exact converts.mono (excused conversion carried) fun _ _ alikes => alikes

/-- Assignments hand back null. -/
theorem assigned {operation operation' : Host σ → Action σ CallError Unit}
    (abreast : Abreast registry id id' excuse Eq world world' operation operation') :
    Abreast registry id id' excuse Value.Alike world world'
      (fun host => operation host >>= fun _ => pure .null)
      fun host => operation' host >>= fun _ => pure .null :=
  abreast.follow (fun _ _ => Leads.pure _) (fun _ _ => Leads.pure _)
    fun _ _ _ _ _ _ _ => .ok (.same .null)

end Abreast
end StructuralCast
