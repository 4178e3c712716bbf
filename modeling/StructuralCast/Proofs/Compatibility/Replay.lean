import StructuralCast.Proofs.Compatibility.Guard

/-!
Contract: asking the same questions again.

An analysis never loses a verdict, and it leaves the pairs on its stack alone (`compatible_keeps`).
Where nothing is under analysis yet, an answer is therefore one that is found from then on, so an
inquiry that is repeated at any later time gets the same answers and changes nothing
(`interpret_again`). Whether the answers are right plays no part in this.
-/

namespace StructuralCast

/-- All that has been found out is still there. -/
def PairTable.Extends {α : Type} (after before : PairTable α) : Prop :=
  ∀ target source entry, before.find? target source = some entry →
    after.find? target source = some entry

namespace PairTable

variable {α : Type} {before between after : PairTable α}

theorem Extends.refl (table : PairTable α) : table.Extends table := fun _ _ _ found => found

theorem Extends.trans (further : after.Extends between) (first : between.Extends before) :
    after.Extends before :=
  fun target source entry found => further target source entry (first target source entry found)

theorem extends_insert (table : PairTable α) (target source : TypeId) (entry : α) :
    (table.insert target source entry).Extends table :=
  fun _ _ _ found => find?_insert_of_found table target source entry found

theorem size_le_insert (table : PairTable α) (target source : TypeId) (entry : α) :
    table.size ≤ (table.insert target source entry).size := by
  unfold insert
  split
  case isTrue => exact Nat.le_refl _
  case isFalse => exact Nat.le_succ _

end PairTable

namespace Compatibility

/-- What an analysis does to verdicts: none is lost, and pairs on the stack are left alone. -/
structure Keeps (stack : List (TypeId × TypeId)) (before after : PairTable Bool) : Prop where
  grows : after.Extends before
  larger : before.size ≤ after.size
  untouched : ∀ target source, (target, source) ∈ stack →
    after.find? target source = before.find? target source

namespace Keeps

variable {stack : List (TypeId × TypeId)} {before between after : PairTable Bool}

theorem refl (stack : List (TypeId × TypeId)) (table : PairTable Bool) : Keeps stack table table :=
  ⟨.refl table, Nat.le_refl _, fun _ _ _ => rfl⟩

theorem trans (first : Keeps stack before between) (further : Keeps stack between after) :
    Keeps stack before after :=
  ⟨further.grows.trans first.grows, first.larger.trans further.larger, fun target source member =>
    (further.untouched target source member).trans (first.untouched target source member)⟩

theorem of_append {pair : TypeId × TypeId} (keeps : Keeps (stack ++ [pair]) before after) :
    Keeps stack before after :=
  ⟨keeps.grows, keeps.larger, fun target source member =>
    keeps.untouched target source (List.mem_append_left _ member)⟩

theorem insert (keeps : Keeps stack before after) {target source : TypeId} (verdict : Bool)
    (outside : (target, source) ∉ stack) :
    Keeps stack before (after.insert target source verdict) := by
  refine ⟨(PairTable.extends_insert after target source verdict).trans keeps.grows,
    keeps.larger.trans (after.size_le_insert target source verdict), ?_⟩
  intro target' source' member
  have different : ¬ (target' = target ∧ source' = source) := by
    rintro ⟨rfl, rfl⟩
    exact outside member
  rw [PairTable.find?_insert, if_neg different]
  exact keeps.untouched target' source' member

end Keeps

/-- An inquiry keeps what each of its questions keeps. -/
theorem keeps_interpret {α : Type} {stack : List (TypeId × TypeId)} {ask : Ask Analysis}
    (keeps : ∀ bothWays target source state,
      Keeps stack state.verdicts (ask bothWays target source state).2.verdicts)
    (inquiry : Inquiry α) (state : AnalysisState) :
    Keeps stack state.verdicts (inquiry.interpret ask state).2.verdicts := by
  induction inquiry generalizing state with
  | done result => exact .refl stack state.verdicts
  | ask bothWays target source next inductionHypothesis =>
      refine (keeps bothWays target source state).trans ?_
      exact inductionHypothesis (ask bothWays target source state).1
        (ask bothWays target source state).2

section Pair

variable {stack : List (TypeId × TypeId)} {target source : TypeId} {analysis : Analysis Bool}
  {state : AnalysisState}

theorem keeps_concluding (outside : (target, source) ∉ stack)
    (keeps : Keeps (stack ++ [(target, source)]) state.verdicts
      (analysis { state with lowest := none }).2.verdicts) :
    Keeps stack state.verdicts
      (concluding stack.length target source analysis state).2.verdicts := by
  unfold concluding
  generalize analysis { state with lowest := none } = run at keeps
  obtain ⟨verdict, after⟩ := run
  dsimp only at keeps ⊢
  split
  case isTrue => exact keeps.of_append.insert verdict outside
  case isFalse => exact keeps.of_append

/-- The verdict on the outermost pair is always stored: an earlier one for the pair is not there when
the analysis begins, and the analysis itself does not store one. -/
theorem stored_of_concluding (unknown : state.verdicts.find? target source = none)
    (keeps : Keeps [(target, source)] state.verdicts
      (analysis { state with lowest := none }).2.verdicts) :
    (concluding 0 target source analysis state).2.verdicts.find? target source =
      some (concluding 0 target source analysis state).1 := by
  have missing : (analysis { state with lowest := none }).2.verdicts.find? target source = none := by
    rw [keeps.untouched target source List.mem_cons_self]
    exact unknown
  have alone : ∀ lowest, standsAlone 0 lowest = true := by
    intro lowest
    cases lowest with
    | none => rfl
    | some depth => simp [standsAlone]
  unfold concluding
  generalize analysis { state with lowest := none } = run at missing
  obtain ⟨verdict, after⟩ := run
  dsimp only at missing ⊢
  rw [alone, Bool.or_true, if_pos rfl]
  exact PairTable.find?_insert_of_missing verdict missing

end Pair

/-- The analysis of a pair leaves the pair itself alone, too. -/
theorem keeps_analyze {setting : Setting} {stack : List (TypeId × TypeId)} {target source : TypeId}
    (keeps : Fresh setting.registry stack (target, source) →
      ∀ bothWays target' source' state, Keeps (stack ++ [(target, source)]) state.verdicts
        (compatible setting (stack ++ [(target, source)]) bothWays target' source' state).2.verdicts)
    (state : AnalysisState) :
    Keeps (stack ++ [(target, source)]) state.verdicts
      ((analyze setting (deeper setting stack target source) target source : Analysis Bool)
        state).2.verdicts := by
  have asInquiry : (analyze setting Inquiry.question target source).interpret
      (deeper setting stack target source) =
        (analyze setting (deeper setting stack target source) target source : Analysis Bool) :=
    interpret_analyze _ _ _ _
  rw [← asInquiry]
  refine keeps_interpret ?_ _ state
  intro bothWays target' source' between
  unfold deeper
  split
  case isTrue fresh => exact keeps fresh bothWays target' source' between
  case isFalse => exact .refl _ between.verdicts

/-- Every question keeps all verdicts, and those of the pairs under analysis as they are. -/
theorem compatible_keeps (setting : Setting) (stack : List (TypeId × TypeId)) (bothWays : Bool)
    (target source : TypeId) (state : AnalysisState) :
    Keeps stack state.verdicts (compatible setting stack bothWays target source state).2.verdicts := by
  refine compatible_induction (motive := fun stack _ _ state outcome =>
    Keeps stack state.verdicts outcome.2.verdicts)
    ?same ?assumed ?stored ?analyzed stack bothWays target source state
  case same => exact fun stack _ state => .refl stack state.verdicts
  case assumed => exact fun stack _ _ _ state _ _ => .refl stack state.verdicts
  case stored => exact fun stack _ _ state _ _ => .refl stack state.verdicts
  case analyzed =>
    intro stack target source state _ isNew _ keeps
    exact keeps_concluding isNew (keeps_analyze keeps { state with lowest := none })

/-! ### Where nothing is under analysis yet -/

/-- An answer is found from then on, unless the types are the same. -/
theorem stored_of_compatible (setting : Setting) (bothWays : Bool) (target source : TypeId)
    (state : AnalysisState) (different : target ≠ source) :
    (compatible setting [] bothWays target source state).2.verdicts.find? target source =
      some (compatible setting [] bothWays target source state).1 := by
  have nothingAssumed : assumption? [] bothWays target source = none := rfl
  rw [compatible_apply, if_neg different, nothingAssumed]
  dsimp only
  cases known : state.verdicts.find? target source with
  | some verdict => exact known
  | none =>
      refine stored_of_concluding known ?_
      have keeps := fun (_ : Fresh setting.registry [] (target, source)) =>
        compatible_keeps setting [(target, source)]
      exact keeps_analyze keeps { state with lowest := none }

/-- A question whose answer is known is answered at once. -/
theorem compatible_of_stored (setting : Setting) (bothWays : Bool) {target source : TypeId}
    {state : AnalysisState} {verdict : Bool}
    (known : target ≠ source → state.verdicts.find? target source = some verdict)
    (reflexive : target = source → verdict = true) :
    compatible setting [] bothWays target source state = (verdict, state) := by
  rw [compatible_apply]
  split
  case isTrue same => rw [reflexive same]
  case isFalse different =>
    have nothingAssumed : assumption? [] bothWays target source = none := rfl
    rw [nothingAssumed]
    dsimp only
    rw [known different]

/-- A repeated inquiry has the same result, and nothing changes any more. -/
theorem interpret_again {α : Type} (setting later : Setting) (inquiry : Inquiry α)
    {state stateLater : AnalysisState}
    (grows : stateLater.verdicts.Extends (inquiry.interpret (compatible setting []) state).2.verdicts) :
    inquiry.interpret (compatible later []) stateLater =
      ((inquiry.interpret (compatible setting []) state).1, stateLater) := by
  induction inquiry generalizing state with
  | done result => rfl
  | ask bothWays target source next inductionHypothesis =>
      have answered : compatible later [] bothWays target source stateLater =
          ((compatible setting [] bothWays target source state).1, stateLater) := by
        refine compatible_of_stored later bothWays (fun different => ?_) (fun same => ?_)
        · have stored := stored_of_compatible setting bothWays target source state different
          have kept := keeps_interpret (compatible_keeps setting [])
            (next (compatible setting [] bothWays target source state).1)
            (compatible setting [] bothWays target source state).2
          exact grows target source _ (kept.grows target source _ stored)
        · rw [compatible_apply, if_pos same]
      show ((next _).interpret (compatible later [])) _ = _
      rw [answered]
      exact inductionHypothesis (compatible setting [] bothWays target source state).1 grows

end Compatibility
end StructuralCast
