import Mathlib.Order.Defs.Unbundled
import StructuralCast.Proofs.Lists

/-!
Contract: steps that may fail and keep what they changed before the failure.

Engines and worlds change by steps of the type `ExceptT ε (StateM σ)`. `Step.run_bind` and the lemmas
beside it say what such a step does to a state. `Step.Leads` says that the state after a step, failed
or not, is related to the state before; for a preorder it is proved along the sequence of a step
(`Leads.bind`). `Step.Keeps` is the preorder of the changes that do not take a property away.
`Step.Agree` relates the outcomes of two steps that are made side by side.
-/

namespace StructuralCast.Step

variable {ε σ α β : Type}

@[simp] theorem run_pure (value : α) (state : σ) :
    (pure value : ExceptT ε (StateM σ) α).run state = (.ok value, state) := rfl

@[simp] theorem run_throw (cause : ε) (state : σ) :
    (throw cause : ExceptT ε (StateM σ) α).run state = (.error cause, state) := rfl

@[simp] theorem run_get (state : σ) :
    (get : ExceptT ε (StateM σ) σ).run state = (.ok state, state) := rfl

@[simp] theorem run_set (state after : σ) :
    (set after : ExceptT ε (StateM σ) PUnit).run state = (.ok ⟨⟩, after) := rfl

@[simp] theorem run_modify (change : σ → σ) (state : σ) :
    (modify change : ExceptT ε (StateM σ) PUnit).run state = (.ok ⟨⟩, change state) := rfl

@[simp] theorem run_mk_pure (outcome : Except ε α) (state : σ) :
    (ExceptT.mk (pure outcome) : ExceptT ε (StateM σ) α).run state = (outcome, state) := rfl

@[simp] theorem run_lift (step : StateM σ α) (state : σ) :
    (liftM step : ExceptT ε (StateM σ) α).run state = (.ok (step state).1, (step state).2) := rfl

/-- Looking at the state first, in a step that cannot fail. -/
theorem get_bind_apply (next : σ → StateM σ α) (state : σ) :
    (get >>= next) state = next state state := rfl

theorem run_bind (step : ExceptT ε (StateM σ) α) (next : α → ExceptT ε (StateM σ) β) (state : σ) :
    (step >>= next).run state =
      match step.run state with
      | (.ok value, after) => (next value).run after
      | (.error cause, after) => (.error cause, after) := by
  have sequenced : (step >>= next).run state =
      match step.run state with
      | (outcome, after) => ExceptT.bindCont next outcome after := rfl
  rw [sequenced]
  obtain ⟨outcome, after⟩ := step.run state
  cases outcome with
  | ok value => rfl
  | error cause => rfl

/-- Sequences that go on alike after a step that succeeds. -/
theorem run_bind_congr {step : ExceptT ε (StateM σ) α} {next next' : α → ExceptT ε (StateM σ) β}
    {state : σ} (alike : ∀ value between, step.run state = (.ok value, between) →
      (next value).run between = (next' value).run between) :
    (step >>= next).run state = (step >>= next').run state := by
  rw [run_bind, run_bind]
  cases ran : step.run state with
  | mk outcome between =>
      cases outcome with
      | ok value => exact alike value between ran
      | error cause => rfl

/-- A sequence that succeeds is a step that succeeds, and then the rest. -/
theorem ok_of_run_bind {step : ExceptT ε (StateM σ) α} {next : α → ExceptT ε (StateM σ) β}
    {state after : σ} {result : β} (ran : (step >>= next).run state = (.ok result, after)) :
    ∃ value between, step.run state = (.ok value, between) ∧
      (next value).run between = (.ok result, after) := by
  rw [run_bind] at ran
  cases first : step.run state with
  | mk outcome between =>
      rw [first] at ran
      cases outcome with
      | error cause => cases ran
      | ok value => exact ⟨value, between, rfl, ran⟩

/-- A sequence fails at its first step or at the rest. -/
theorem error_of_run_bind {step : ExceptT ε (StateM σ) α} {next : α → ExceptT ε (StateM σ) β}
    {state : σ} {cause : ε} (fails : ((step >>= next).run state).1 = .error cause) :
    (step.run state).1 = .error cause ∨
      ∃ value between, step.run state = (.ok value, between) ∧
        ((next value).run between).1 = .error cause := by
  rw [run_bind] at fails
  cases first : step.run state with
  | mk outcome between =>
      rw [first] at fails
      cases outcome with
      | error reason =>
          cases fails
          exact .inl rfl
      | ok value => exact .inr ⟨value, between, rfl, fails⟩

/-! ### Sequences without a state -/

theorem ok_of_bind {first : Except ε α} {next : α → Except ε β} {result : β}
    (succeeds : first >>= next = .ok result) :
    ∃ value, first = .ok value ∧ next value = .ok result := by
  cases first with
  | error cause => cases succeeds
  | ok value => exact ⟨value, rfl, succeeds⟩

theorem error_of_bind {first : Except ε α} {next : α → Except ε β} {cause : ε}
    (fails : first >>= next = .error cause) :
    first = .error cause ∨ ∃ value, first = .ok value ∧ next value = .error cause := by
  cases first with
  | error reason =>
      cases fails
      exact .inl rfl
  | ok value => exact .inr ⟨value, rfl, fails⟩

/-- What is only finished by a function fails as it did before. -/
theorem error_of_bind_pure {first : Except ε α} {finish : α → β} {cause : ε}
    (fails : (first >>= fun value => pure (finish value)) = .error cause) : first = .error cause := by
  rcases error_of_bind fails with failed | ⟨value, _, impossible⟩
  · exact failed
  · cases impossible

/-- What is only finished by a function succeeds exactly if it did before. -/
theorem bind_pure_ok_iff {first : Except ε α} {finish : α → β} :
    (∃ result, (first >>= fun value => pure (finish value)) = .ok result) ↔
      ∃ value, first = .ok value := by
  constructor
  · rintro ⟨result, succeeds⟩
    obtain ⟨value, succeeded, _⟩ := ok_of_bind succeeds
    exact ⟨value, succeeded⟩
  · rintro ⟨value, rfl⟩
    exact ⟨finish value, rfl⟩

/-! ### The same computation for each item of a list -/

/-- Where all succeed, each item has its result, in order. -/
theorem forall₂_of_mapM {next : α → Except ε β} {items : List α} {results : List β}
    (ran : items.mapM next = .ok results) :
    List.Forall₂ (fun item result => next item = .ok result) items results := by
  induction items generalizing results with
  | nil =>
      cases ran
      exact .nil
  | cons head tail inductionHypothesis =>
      rw [List.mapM_cons] at ran
      obtain ⟨made, first, ran⟩ := ok_of_bind ran
      obtain ⟨rest, others, ran⟩ := ok_of_bind ran
      cases ran
      exact .cons first (inductionHypothesis others)

theorem mem_of_mapM {next : α → Except ε β} {items : List α} {results : List β}
    (ran : items.mapM next = .ok results) {result : β} (member : result ∈ results) :
    ∃ item ∈ items, next item = .ok result :=
  exists_of_mem_right (forall₂_of_mapM ran) member

theorem error_of_mapM {next : α → Except ε β} {items : List α} {cause : ε}
    (fails : items.mapM next = .error cause) : ∃ item ∈ items, next item = .error cause := by
  induction items with
  | nil => cases fails
  | cons head tail inductionHypothesis =>
      rw [List.mapM_cons] at fails
      rcases error_of_bind fails with here | ⟨made, _, fails⟩
      · exact ⟨head, List.mem_cons_self, here⟩
      · obtain ⟨item, isItem, fails⟩ := inductionHypothesis (error_of_bind_pure fails)
        exact ⟨item, List.mem_cons_of_mem _ isItem, fails⟩

/-- All succeed exactly if each one does. -/
theorem mapM_ok_iff {next : α → Except ε β} {items : List α} :
    (∃ results, items.mapM next = .ok results) ↔ ∀ item ∈ items, ∃ result, next item = .ok result := by
  constructor
  · rintro ⟨results, ran⟩
    induction items generalizing results with
    | nil => exact fun item member => absurd member List.not_mem_nil
    | cons head tail inductionHypothesis =>
        rw [List.mapM_cons] at ran
        obtain ⟨made, first, ran⟩ := ok_of_bind ran
        obtain ⟨rest, others, _⟩ := ok_of_bind ran
        exact List.forall_mem_cons.2 ⟨⟨made, first⟩, inductionHypothesis rest others⟩
  · intro each
    cases ran : items.mapM next with
    | ok results => exact ⟨results, rfl⟩
    | error cause =>
        obtain ⟨item, member, fails⟩ := error_of_mapM ran
        obtain ⟨result, succeeds⟩ := each item member
        rw [fails] at succeeds
        cases succeeds

theorem run_tryCatch (step : ExceptT ε (StateM σ) α) (handler : ε → ExceptT ε (StateM σ) α)
    (state : σ) :
    (tryCatch step handler).run state =
      match step.run state with
      | (.ok value, after) => (.ok value, after)
      | (.error cause, after) => (handler cause).run after := by
  simp only [tryCatch, tryCatchThe, MonadExceptOf.tryCatch, ExceptT.tryCatch, ExceptT.run,
    ExceptT.mk, bind, StateT.bind]
  obtain ⟨outcome, after⟩ := step state
  cases outcome with
  | ok value => rfl
  | error cause => rfl

theorem ok_of_toOption {outcome : Except ε α} {value : α} (found : outcome.toOption = some value) :
    outcome = .ok value := by
  cases outcome with
  | error cause => cases found
  | ok other => exact congrArg Except.ok (Option.some.inj found)

theorem error_of_toOption {outcome : Except ε α} (missing : outcome.toOption = none) :
    ∃ cause, outcome = .error cause := by
  cases outcome with
  | error cause => exact ⟨cause, rfl⟩
  | ok value => cases missing

/-- The state after a step is related to the state before. -/
def Leads (related : σ → σ → Prop) (state : σ) (step : ExceptT ε (StateM σ) α) : Prop :=
  related state (step.run state).2

namespace Leads

variable {related : σ → σ → Prop} [IsPreorder σ related] {state : σ}

theorem pure (value : α) : Leads related state (pure value : ExceptT ε (StateM σ) α) :=
  refl_of related state

theorem throw (cause : ε) : Leads related state (throw cause : ExceptT ε (StateM σ) α) :=
  refl_of related state

theorem raising (outcome : Except ε α) :
    Leads related state (ExceptT.mk (Pure.pure outcome) : ExceptT ε (StateM σ) α) :=
  refl_of related state

theorem bind {step : ExceptT ε (StateM σ) α} {next : α → ExceptT ε (StateM σ) β}
    (first : Leads related state step)
    (rest : ∀ value after, step.run state = (.ok value, after) → Leads related after (next value)) :
    Leads related state (step >>= next) := by
  unfold Leads at first ⊢
  rw [run_bind]
  cases ran : step.run state with
  | mk outcome after =>
      rw [ran] at first
      cases outcome with
      | error cause => exact first
      | ok value => exact trans_of related first (rest value after ran)

theorem tryCatch {step : ExceptT ε (StateM σ) α} {handler : ε → ExceptT ε (StateM σ) α}
    (first : Leads related state step)
    (rest : ∀ cause after, step.run state = (.error cause, after) →
      Leads related after (handler cause)) :
    Leads related state (tryCatch step handler) := by
  unfold Leads at first ⊢
  rw [run_tryCatch]
  cases ran : step.run state with
  | mk outcome after =>
      rw [ran] at first
      cases outcome with
      | ok value => exact first
      | error cause => exact trans_of related first (rest cause after ran)

omit [IsPreorder σ related] in
theorem related_of_run {step : ExceptT ε (StateM σ) α} {outcome : Except ε α} {after : σ}
    (leads : Leads related state step) (ran : step.run state = (outcome, after)) :
    related state after := by
  have there : related state (step.run state).2 := leads
  rw [ran] at there
  exact there

omit [IsPreorder σ related] in
/-- Looking at the state changes nothing. -/
theorem get_bind {next : σ → ExceptT ε (StateM σ) β} (rest : Leads related state (next state)) :
    Leads related state (get >>= next) :=
  rest

end Leads

/-- What holds of the state before a change holds of the state after it. -/
def Keeps (property : σ → Prop) (before after : σ) : Prop := property before → property after

instance (property : σ → Prop) : IsPreorder σ (Keeps property) where
  refl _ held := held
  trans _ _ _ first second held := second (first held)

/-! ### Steps side by side -/

/-- Outcomes that come to the same: one failure, or results that are alike. Where there is an excuse,
one of the two may be a failure of its own. -/
inductive Agree (excuse : Prop) (alike : α → β → Prop) : Except ε α → Except ε β → Prop where
  | ok {left : α} {right : β} (results : alike left right) :
      Agree excuse alike (.ok left) (.ok right)
  | error (cause : ε) : Agree excuse alike (.error cause) (.error cause)
  | left (excused : excuse) (cause : ε) (other : Except ε β) : Agree excuse alike (.error cause) other
  | right (excused : excuse) (other : Except ε α) (cause : ε) : Agree excuse alike other (.error cause)

namespace Agree

variable {γ δ : Type} {excuse : Prop} {alike alike' : α → β → Prop} {first : Except ε α}
  {second : Except ε β}

/-- Where the two fail together, or where there is an excuse, only successes have to be compared. -/
theorem of_ok (together : ¬ excuse → Agree False (fun _ _ => True) first second)
    (both : ∀ left right, first = .ok left → second = .ok right → alike left right) :
    Agree excuse alike first second := by
  cases first with
  | error cause =>
      by_cases excused : excuse
      · exact .left excused cause second
      · cases together excused with
        | error => exact .error cause
        | left impossible => exact impossible.elim
        | right impossible => exact impossible.elim
  | ok left =>
      cases second with
      | ok right => exact .ok (both left right rfl rfl)
      | error cause =>
          by_cases excused : excuse
          · exact .right excused (.ok left) cause
          · cases together excused with
            | right impossible => exact impossible.elim

theorem same (outcome : Except ε α) : Agree excuse Eq outcome outcome := by
  cases outcome with
  | ok answer => exact .ok rfl
  | error cause => exact .error cause

theorem mono {excuse' : Prop} (agree : Agree excuse alike first second) (excused : excuse → excuse')
    (looser : ∀ left right, alike left right → alike' left right) :
    Agree excuse' alike' first second := by
  cases agree with
  | ok results => exact .ok (looser _ _ results)
  | error cause => exact .error cause
  | left isExcused cause => exact .left (excused isExcused) cause second
  | right isExcused _ cause => exact .right (excused isExcused) first cause

/-- Sequences come to the same if their first steps do and so does what follows on results. -/
theorem bind {state state' : σ} {results : γ → δ → Prop}
    {step : ExceptT ε (StateM σ) α} {step' : ExceptT ε (StateM σ) β}
    {next : α → ExceptT ε (StateM σ) γ} {next' : β → ExceptT ε (StateM σ) δ}
    (agree : Agree excuse alike (step.run state).1 (step'.run state').1)
    (rest : ∀ value value' after after', step.run state = (.ok value, after) →
      step'.run state' = (.ok value', after') → alike value value' →
      Agree excuse results ((next value).run after).1 ((next' value').run after').1) :
    Agree excuse results ((step >>= next).run state).1 ((step' >>= next').run state').1 := by
  rw [run_bind, run_bind]
  cases ran : step.run state with
  | mk outcome after =>
      cases ran' : step'.run state' with
      | mk outcome' after' =>
          rw [ran, ran'] at agree
          cases agree with
          | ok alikes => exact rest _ _ after after' ran ran' alikes
          | error cause => exact .error cause
          | left excused cause => exact .left excused cause _
          | right excused _ cause => exact .right excused _ cause

theorem mapError {ε' : Type} (agree : Agree excuse alike first second) (retell : ε → ε') :
    Agree excuse alike (first.mapError retell) (second.mapError retell) := by
  cases agree with
  | ok results => exact .ok results
  | error cause => exact .error (retell cause)
  | left excused cause other => exact .left excused (retell cause) _
  | right excused other cause => exact .right excused _ (retell cause)

end Agree

end StructuralCast.Step
