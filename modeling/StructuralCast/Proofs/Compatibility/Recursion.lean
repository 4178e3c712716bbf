import StructuralCast.Proofs.Inquiry.Analysis

/-!
Contract: the recursion of an analysis, whatever it is proved about.

A question about a pair is answered in one of four ways: the types are the same, the pair is assumed as
it is on the stack, its verdict is known, or its members are asked about with the pair on the stack
(`Compatibility.compatible_apply`). The last of these leaves less pairs to take up, so what the four
ways have in common is true of every answer (`Compatibility.compatible_induction`).

The verdict on such a pair is justified by the answers below it (`Compatibility.justified_of_analyze`).
A pair with a type that was never given out is not taken up, and each question about its members is
answered no. Its grounds do not lie there, so its verdict is justified by any answers.
-/

namespace StructuralCast.Compatibility

/-- The pair under analysis, and what its analysis asks about. -/
def deeper (setting : Setting) (stack : List (TypeId × TypeId)) (target source : TypeId) :
    Ask Analysis :=
  if Fresh setting.registry stack (target, source) then
    compatible setting (stack ++ [(target, source)])
  else fun _ _ _ => pure false

theorem compatible_apply (setting : Setting) (stack : List (TypeId × TypeId)) (bothWays : Bool)
    (target source : TypeId) (state : AnalysisState) :
    compatible setting stack bothWays target source state =
      if target = source then (true, state)
      else
        match assumption? stack bothWays target source with
        | some depth => assume depth state
        | none =>
          match state.verdicts.find? target source with
          | some verdict => (verdict, state)
          | none =>
            concluding stack.length target source
              (analyze setting (deeper setting stack target source) target source) state := by
  have questions : (if _fresh : Fresh setting.registry stack (target, source) then
        fun bothWays' target' source' =>
          compatible setting (stack ++ [(target, source)]) bothWays' target' source'
      else fun _ _ _ => pure false) = deeper setting stack target source := by
    unfold deeper
    split <;> rfl
  rw [compatible, questions]
  by_cases same : target = source
  · rw [if_pos same, if_pos same]
    rfl
  · rw [if_neg same, if_neg same]
    cases assumption? stack bothWays target source with
    | some depth => rfl
    | none =>
        show (match state.verdicts.find? target source with
          | some verdict => pure verdict
          | none => concluding stack.length target source
              (analyze setting (deeper setting stack target source) target source) : Analysis Bool)
            state = _
        cases state.verdicts.find? target source with
        | some verdict => rfl
        | none => rfl

theorem found_of_assumption? {stack : List (TypeId × TypeId)} {bothWays : Bool}
    {target source : TypeId} {depth : Nat}
    (assumption : assumption? stack bothWays target source = some depth) :
    stack[depth]? = some (target, source) ∨ stack[depth]? = some (source, target) := by
  obtain ⟨bound, matching, _⟩ := List.findIdx?_eq_some_iff_getElem.1 assumption
  rw [List.getElem?_eq_getElem bound]
  have cases : stack[depth] = (target, source) ∨ bothWays = true ∧ stack[depth] = (source, target) := by
    simpa using matching
  exact cases.imp (congrArg some) fun reversed => congrArg some reversed.2

theorem not_mem_of_assumption? {stack : List (TypeId × TypeId)} {bothWays : Bool}
    {target source : TypeId} (unmatched : assumption? stack bothWays target source = none) :
    (target, source) ∉ stack := by
  intro member
  have different := List.findIdx?_eq_none_iff.1 unmatched _ member
  simp at different

variable {setting : Setting}

/-- What is true of each way to answer a question is true of all answers. For a pair that is taken up it
may be taken for granted of the questions below. -/
theorem compatible_induction
    {motive : List (TypeId × TypeId) → TypeId → TypeId → AnalysisState → Bool × AnalysisState → Prop}
    (same : ∀ stack id state, motive stack id id state (true, state))
    (assumed : ∀ stack bothWays target source state depth,
      assumption? stack bothWays target source = some depth →
        motive stack target source state (assume depth state))
    (stored : ∀ stack target source (state : AnalysisState) verdict,
      state.verdicts.find? target source = some verdict →
        motive stack target source state (verdict, state))
    (analyzed : ∀ stack target source (state : AnalysisState), target ≠ source →
      (target, source) ∉ stack → state.verdicts.find? target source = none →
        (Fresh setting.registry stack (target, source) → ∀ bothWays target' source' between,
          motive (stack ++ [(target, source)]) target' source' between
            (compatible setting (stack ++ [(target, source)]) bothWays target' source' between)) →
          motive stack target source state (concluding stack.length target source
            (analyze setting (deeper setting stack target source) target source) state))
    (stack : List (TypeId × TypeId)) (bothWays : Bool) (target source : TypeId)
    (state : AnalysisState) :
    motive stack target source state (compatible setting stack bothWays target source state) := by
  induction measure : remaining setting.registry stack using Nat.strong_induction_on
    generalizing stack bothWays target source state with
  | _ bound inductionHypothesis =>
      rw [compatible_apply]
      split
      case isTrue equal => exact equal ▸ same stack target state
      case isFalse different =>
        split
        case h_1 depth assumption => exact assumed stack bothWays target source state depth assumption
        case h_2 unassumed =>
          split
          case h_1 verdict found => exact stored stack target source state verdict found
          case h_2 missing =>
            refine analyzed stack target source state different (not_mem_of_assumption? unassumed)
              missing ?_
            intro fresh bothWays' target' source' between
            exact inductionHypothesis _ (measure ▸ remaining_append_lt fresh) _ bothWays' target'
              source' between rfl

/-- An inquiry that hears no to every question leaves the state alone. -/
theorem outcome_of_refusals {α : Type} (inquiry : Inquiry α) (state : AnalysisState) :
    ((inquiry.interpret fun _ _ _ => pure false : Analysis α) state).2 = state ∧
      inquiry.Outcome (fun _ _ answer => answer = false)
        ((inquiry.interpret fun _ _ _ => pure false : Analysis α) state).1 := by
  refine Inquiry.outcome_interpret_of (fun seen => seen = state) ?_ inquiry state rfl
  exact fun _ _ _ _ same => ⟨same, rfl⟩

/-- What a verdict means if the answers behind it are among those allowed: a yes has grounds among them
or an adapter that is ready, and a no rules out both. -/
structure Justified (setting : Setting) (allowed : TypeId → TypeId → Bool → Prop)
    (target source : TypeId) (verdict : Bool) : Prop where
  affirmed : verdict = true →
    setting.registry.SupportsEither (fun left right => allowed left right true) target source ∨
      setting.Ready target source
  unready : verdict = false → ¬ setting.Ready target source
  denied : verdict = false → ∀ holds : TypeId → TypeId → Prop,
    (∀ left right, holds left right → ¬ allowed left right false) →
      ¬ setting.registry.SupportsEither holds target source

section Pair

variable {target source : TypeId} {verdict : Bool} {allowed : TypeId → TypeId → Bool → Prop}

theorem justified_of_outcome
    (outcome : (analyze setting Inquiry.question target source).Outcome allowed verdict) :
    Justified setting allowed target source verdict where
  affirmed yes := either_of_analyze (yes ▸ outcome)
  unready no := not_ready_of_analyze (no ▸ outcome)
  denied no _ avoids := not_either_of_analyze avoids (no ▸ outcome)

/-- The grounds for a pair with a type that was never given out do not lie in its members, so it does
not matter how questions about them would be answered. -/
theorem justified_of_foreign
    (foreign : ¬ (setting.registry.issued target ∧ setting.registry.issued source))
    (outcome : (analyze setting Inquiry.question target source).Outcome
      (fun _ _ answer => answer = false) verdict) :
    Justified setting allowed target source verdict where
  affirmed yes := (either_of_analyze (yes ▸ outcome)).imp_left (.of_not_issued foreign)
  unready no := not_ready_of_analyze (no ▸ outcome)
  denied no holds _ grounds := by
    have groundless : setting.registry.SupportsEither (fun _ _ => False) target source :=
      grounds.of_not_issued foreign
    exact not_either_of_analyze (fun _ _ never => never.elim) (no ▸ outcome) groundless

/-- The analysis of a pair, if the answers below it keep a property of the state and are allowed from
then on: its verdict is justified by them. -/
theorem justified_of_analyze {stack : List (TypeId × TypeId)} (property : AnalysisState → Prop)
    (later : AnalysisState → AnalysisState → Prop) [IsPreorder AnalysisState later]
    (allowed : AnalysisState → TypeId → TypeId → Bool → Prop)
    (stays : ∀ {before after}, later before after → ∀ target source answer,
      allowed before target source answer → allowed after target source answer)
    (isNew : (target, source) ∉ stack)
    (answers : Fresh setting.registry stack (target, source) → ∀ bothWays target' source' between,
      property between →
        let outcome := compatible setting (stack ++ [(target, source)]) bothWays target' source' between
        property outcome.2 ∧ later between outcome.2 ∧ allowed outcome.2 target' source' outcome.1)
    (state : AnalysisState) (held : property state) :
    let analysis : Analysis Bool :=
      analyze setting (deeper setting stack target source) target source
    property (analysis state).2 ∧
      Justified setting (allowed (analysis state).2) target source (analysis state).1 := by
  intro analysis
  have asInquiry : (analyze setting Inquiry.question target source).interpret
      (deeper setting stack target source) = analysis := interpret_analyze _ _ _ _
  by_cases fresh : Fresh setting.registry stack (target, source)
  · rw [deeper, if_pos fresh] at asInquiry
    have along := Inquiry.outcome_interpret_along property later allowed stays (answers fresh)
      (analyze setting Inquiry.question target source) state held
    rw [asInquiry] at along
    obtain ⟨heldThen, _, outcome⟩ := along
    exact ⟨heldThen, justified_of_outcome outcome⟩
  · have foreign : ¬ (setting.registry.issued target ∧ setting.registry.issued source) :=
      fun issued => fresh ⟨issued.1, issued.2, isNew⟩
    rw [deeper, if_neg fresh] at asInquiry
    obtain ⟨same, outcome⟩ :=
      outcome_of_refusals (analyze setting Inquiry.question target source) state
    rw [asInquiry] at same outcome
    exact ⟨same.symm ▸ held, justified_of_foreign foreign outcome⟩

end Pair
end StructuralCast.Compatibility
