import StructuralCast.Proofs.Compatibility.Guard
import StructuralCast.Proofs.Planning

/-!
Contract: what a yes about two types entails, whatever it was based on.

An analysis only asks about the members of two types if these are related, or if some strategy claims
them, and in both cases there is a conversion between them. So all pairs under analysis are plannable,
and so is every pair that is affirmed on the strength of them (`compatible_affirms`). For two delegate
types that are not related a yes entails more: their signatures can be converted type by type.

This is true of every engine and every registry. The verdicts need not be right for it.
-/

namespace StructuralCast

open Inquiry

namespace Registry

variable {registry : Registry} {target source : TypeId}

/-- Two types about which yes may be said. -/
structure Affirmable (registry : Registry) (target source : TypeId) : Prop where
  plannable : registry.Plannable target source
  relayable : registry.kind target = .delegate → registry.kind source = .delegate →
    registry.related target source = true ∨ registry.Relayable target source

theorem Relayable.symm (relayable : registry.Relayable target source) :
    registry.Relayable source target := by
  obtain ⟨wanted, offered, wantedDeclared, offeredDeclared, corresponds⟩ := relayable
  exact ⟨offered, wanted, offeredDeclared, wantedDeclared,
    corresponds.symm fun _ _ => Plannable.symm⟩

theorem Affirmable.symm (affirmable : registry.Affirmable target source) :
    registry.Affirmable source target :=
  ⟨affirmable.plannable.symm, fun sourceKind targetKind =>
    (affirmable.relayable targetKind sourceKind).imp related_comm.trans Relayable.symm⟩

theorem affirmable_of_related (related : registry.related target source = true) :
    registry.Affirmable target source :=
  ⟨.native related, fun _ _ => .inl related⟩

theorem affirmable_self (id : TypeId) : registry.Affirmable id id :=
  affirmable_of_related (by simp [related, assignable])

/-- A registry that has grown says yes of all pairs of which it said yes. -/
theorem Affirmable.mono {before after : Registry} (retains : before.Retains after)
    (grownBefore : before.Grown) (grownAfter : after.Grown)
    (affirmable : before.Affirmable target source) : after.Affirmable target source := by
  have closedBefore := grownBefore.closed
  have closedAfter := grownAfter.closed
  refine ⟨affirmable.plannable.mono retains closedBefore closedAfter, fun targetKind sourceKind => ?_⟩
  -- A type that was not given out yet may have become a delegate, so the pair is looked at again.
  have other : ∀ {id kind}, before.kind id = kind → kind ≠ .primitive → kind ≠ .delegate →
      after.kind id ≠ .delegate := by
    intro id kind isKind known different isDelegate
    exact different ((retains.kind_eq isKind known).symm.trans isDelegate)
  have native : before.related target source = true → after.related target source = true := by
    intro related
    exact Bool.or_eq_true_iff.2 ((Bool.or_eq_true_iff.1 related).imp
      (retains.assignable closedBefore closedAfter) (retains.assignable closedBefore closedAfter))
  cases affirmable.plannable with
  | same equal => exact .inl (by simp [related, Registry.assignable, equal])
  | void nothing =>
      have voidKind : after.kind .void = .primitive := by
        rw [kind, info, grownAfter.find?_of_reserved (by decide)]
        decide +kernel
      rcases nothing with rfl | rfl
      · rw [voidKind] at targetKind
        cases targetKind
      · rw [voidKind] at sourceKind
        cases sourceKind
  | native related => exact .inl (native related)
  | generic isGeneric => exact absurd targetKind (other isGeneric (by decide) (by decide))
  | claimed strategy claims =>
      cases strategy with
      | interface =>
          simp only [Strategy.claims, decide_eq_true_eq] at claims
          rcases claims with isShape | isShape
          · exact absurd targetKind (other isShape (by decide) (by decide))
          · exact absurd sourceKind (other isShape (by decide) (by decide))
      | delegate =>
          have kinds : before.kind target = .delegate ∧ before.kind source = .delegate := by
            simp only [Strategy.claims, Bool.and_eq_true, decide_eq_true_eq] at claims
            exact claims.elim id And.symm
          exact (affirmable.relayable kinds.1 kinds.2).imp native fun relayable =>
            relayable.mono retains closedBefore closedAfter
      | enumText =>
          have isEnum : before.kind target = .enumType ∨ before.kind source = .enumType := by
            simp only [Strategy.claims, Bool.or_eq_true, Bool.and_eq_true, decide_eq_true_eq] at claims
            tauto
          rcases isEnum with isEnum | isEnum
          · exact absurd targetKind (other isEnum (by decide) (by decide))
          · exact absurd sourceKind (other isEnum (by decide) (by decide))
      | genericParam =>
          have isGeneric : before.kind target = .genericParam := by
            simp only [Strategy.claims, Bool.and_eq_true, decide_eq_true_eq] at claims
            tauto
          exact absurd targetKind (other isGeneric (by decide) (by decide))

/-- All stored verdicts that say yes may say so. -/
def VerdictsAffirmable (registry : Registry) (verdicts : PairTable Bool) : Prop :=
  ∀ target source, verdicts.find? target source = some true → registry.Affirmable target source

theorem VerdictsAffirmable.insert {verdicts : PairTable Bool}
    (affirmable : registry.VerdictsAffirmable verdicts) {verdict : Bool}
    (entails : verdict = true → registry.Affirmable target source) :
    registry.VerdictsAffirmable (verdicts.insert target source verdict) := by
  intro target' source' found
  rcases PairTable.of_find?_insert found with earlier | ⟨rfl, rfl, same⟩
  · exact affirmable _ _ earlier
  · exact entails same.symm

end Registry

/-! ### One pair -/

section Analysis

variable {allowed : TypeId → TypeId → Bool → Prop} {setting : Setting} {target source : TypeId}

/-- A strategy accepts what it claims only. -/
theorem Strategy.claims_of_accepts {strategy : Strategy}
    (outcome : (strategy.accepts setting question target source).Outcome allowed true) :
    strategy.claims setting.registry target source = true := by
  cases strategy with
  | interface =>
      simp only [accepts, outcome_ite, outcome_pure] at outcome
      rcases outcome with ⟨claimed, _⟩ | ⟨_, impossible⟩
      · exact claimed
      · cases impossible
  | delegate =>
      simp only [accepts, outcome_ite, outcome_pure] at outcome
      rcases outcome with ⟨claimed, _⟩ | ⟨_, impossible⟩
      · exact claimed
      · cases impossible
  | enumText => exact outcome.symm
  | genericParam => exact outcome.symm

/-- Signatures that are accepted correspond, if what was affirmed of their types is plannable. -/
theorem Strategy.relayable_of_accepts
    (plannable : ∀ target source, allowed target source true →
      setting.registry.Plannable target source)
    (outcome : (Strategy.delegate.accepts setting question target source).Outcome allowed true) :
    setting.registry.Relayable target source := by
  have claimed := claims_of_accepts outcome
  simp only [accepts, if_pos claimed] at outcome
  obtain ⟨wanted, offered, wantedDeclared, offeredDeclared, corresponds⟩ :=
    corresponds_of_signaturesAgree outcome
  refine ⟨wanted, offered, wantedDeclared, offeredDeclared, ?_⟩
  exact corresponds.mono_on (fun _ _ => trivial) (fun _ _ => trivial)
    fun left right (_ : True) (_ : True) => plannable left right

/-- What a strategy accepts may be affirmed, if that is true of what it has asked about. -/
theorem Strategy.affirmable_of_accepts
    (plannable : ∀ target source, allowed target source true →
      setting.registry.Plannable target source)
    {strategy : Strategy}
    (outcome : (strategy.accepts setting question target source).Outcome allowed true) :
    setting.registry.Affirmable target source := by
  have claimed := claims_of_accepts outcome
  refine ⟨.claimed strategy (.inl claimed), fun targetKind sourceKind => .inr ?_⟩
  cases strategy with
  | interface =>
      simp only [claims, decide_eq_true_eq] at claimed
      rw [targetKind] at claimed
      cases claimed
  | delegate => exact relayable_of_accepts plannable outcome
  | enumText => simp [claims, targetKind, sourceKind] at claimed
  | genericParam => simp [claims, targetKind] at claimed

namespace Compatibility

/-- A yes of an analysis may be said, if that is true of what it has asked about. -/
theorem affirmable_of_analyze
    (plannable : ∀ target source, allowed target source true →
      setting.registry.Plannable target source)
    (outcome : (analyze setting question target source).Outcome allowed true) :
    setting.registry.Affirmable target source := by
  rcases accepted_of_analyze outcome with related | ⟨strategy, accepted | accepted⟩
  · exact Registry.affirmable_of_related related
  · exact Strategy.affirmable_of_accepts plannable accepted
  · exact (Strategy.affirmable_of_accepts plannable accepted).symm

/-- The analysis of two types between which there is no conversion asks nothing. -/
theorem analyze_of_not_plannable (notPlannable : ¬ setting.registry.Plannable target source) :
    analyze setting question target source = pure false := by
  have unrelated : ¬ setting.registry.related target source = true :=
    fun related => notPlannable (.native related)
  have unclaimed : ∀ strategy : Strategy,
      ¬ strategy.claims setting.registry target source = true :=
    fun strategy claims => notPlannable (.claimed strategy (.inl claims))
  have unclaimedBack : ∀ strategy : Strategy,
      ¬ strategy.claims setting.registry source target = true :=
    fun strategy claims => notPlannable (.claimed strategy (.inr claims))
  have refuses : ∀ strategy : Strategy,
      strategy.accepts setting question target source = (pure false : Inquiry Bool) := by
    intro strategy
    have unclaimed := unclaimed strategy
    cases strategy <;> simp [Strategy.accepts, unclaimed]
  have refusesBack : ∀ strategy : Strategy,
      strategy.acceptsReversed setting question target source = (pure false : Inquiry Bool) := by
    intro strategy
    have unclaimed := unclaimedBack strategy
    cases strategy <;> simp [Strategy.acceptsReversed, Strategy.accepts, unclaimed]
  simp [analyze, unrelated, Strategy.all, Strategy.anyOf, refuses, refusesBack]

end Compatibility
end Analysis

/-! ### Every answer -/

namespace Compatibility

variable {setting : Setting} {stack : List (TypeId × TypeId)} {target source : TypeId}

/-- What one answer entails, where all pairs under analysis are plannable: it is about a plannable
pair, and about one that may be affirmed if nothing is under analysis. -/
structure Affirms (registry : Registry) (stack : List (TypeId × TypeId)) (target source : TypeId)
    (answer : Bool) (after : AnalysisState) : Prop where
  verdicts : registry.VerdictsAffirmable after.verdicts
  plannable : answer = true → registry.Plannable target source
  affirmable : answer = true → stack = [] → registry.Affirmable target source

/-- The analysis of a pair, if what it asks entails as much. -/
theorem affirmable_of_deeper
    (affirms : Fresh setting.registry stack (target, source) → ∀ bothWays target' source' state,
      (∀ pair ∈ stack ++ [(target, source)], setting.registry.Plannable pair.1 pair.2) →
        setting.registry.VerdictsAffirmable state.verdicts →
          Affirms setting.registry (stack ++ [(target, source)]) target' source'
            (compatible setting (stack ++ [(target, source)]) bothWays target' source' state).1
            (compatible setting (stack ++ [(target, source)]) bothWays target' source' state).2)
    (onStack : ∀ pair ∈ stack, setting.registry.Plannable pair.1 pair.2) (state : AnalysisState)
    (held : setting.registry.VerdictsAffirmable state.verdicts) :
    let analysis : Analysis Bool :=
      analyze setting (deeper setting stack target source) target source
    setting.registry.VerdictsAffirmable (analysis state).2.verdicts ∧
      ((analysis state).1 = true → setting.registry.Affirmable target source) := by
  intro analysis
  have asInquiry : (analyze setting question target source).interpret
      (deeper setting stack target source) = analysis := interpret_analyze _ _ _ _
  by_cases plannable : setting.registry.Plannable target source
  · have onDeeper : ∀ pair ∈ stack ++ [(target, source)],
        setting.registry.Plannable pair.1 pair.2 := by
      intro pair member
      rcases List.mem_append.1 member with before | here
      · exact onStack pair before
      · rw [List.mem_singleton.1 here]
        exact plannable
    have answers : ∀ bothWays target' source' (between : AnalysisState),
        setting.registry.VerdictsAffirmable between.verdicts →
          setting.registry.VerdictsAffirmable
              (deeper setting stack target source bothWays target' source' between).2.verdicts ∧
            ((deeper setting stack target source bothWays target' source' between).1 = true →
              setting.registry.Plannable target' source') := by
      intro bothWays target' source' between heldThen
      unfold deeper
      split
      case isTrue fresh =>
        have entails := affirms fresh bothWays target' source' between onDeeper heldThen
        exact ⟨entails.verdicts, entails.plannable⟩
      case isFalse =>
        refine ⟨heldThen, fun impossible => ?_⟩
        cases impossible
    have entails : setting.registry.VerdictsAffirmable
          ((analyze setting question target source).interpret
            (deeper setting stack target source) state).2.verdicts ∧
        (analyze setting question target source).Outcome
          (fun target source answer => answer = true → setting.registry.Plannable target source)
          ((analyze setting question target source).interpret
            (deeper setting stack target source) state).1 :=
      outcome_interpret_of (fun state => setting.registry.VerdictsAffirmable state.verdicts)
        answers _ state held
    rw [asInquiry] at entails
    obtain ⟨heldFinally, outcome⟩ := entails
    refine ⟨heldFinally, fun yes => ?_⟩
    rw [yes] at outcome
    exact affirmable_of_analyze (fun _ _ entails => entails rfl) outcome
  · rw [analyze_of_not_plannable plannable] at asInquiry
    rw [← asInquiry]
    refine ⟨held, fun impossible => ?_⟩
    cases impossible

/-- Storing a verdict keeps what all verdicts entail. -/
theorem verdictsAffirmable_concluding {depth : Nat} {analysis : Analysis Bool} {state : AnalysisState}
    {registry : Registry}
    (held : registry.VerdictsAffirmable (analysis { state with lowest := none }).2.verdicts)
    (entails : (analysis { state with lowest := none }).1 = true →
      registry.Affirmable target source) :
    registry.VerdictsAffirmable (concluding depth target source analysis state).2.verdicts := by
  unfold concluding
  generalize analysis { state with lowest := none } = run at held entails
  obtain ⟨verdict, after⟩ := run
  dsimp only at held entails ⊢
  split
  case isTrue => exact held.insert entails
  case isFalse => exact held

/-- Every answer entails as much, whatever the verdicts are. -/
theorem compatible_affirms (setting : Setting) (stack : List (TypeId × TypeId)) (bothWays : Bool)
    (target source : TypeId) (state : AnalysisState)
    (onStack : ∀ pair ∈ stack, setting.registry.Plannable pair.1 pair.2)
    (held : setting.registry.VerdictsAffirmable state.verdicts) :
    Affirms setting.registry stack target source
      (compatible setting stack bothWays target source state).1
      (compatible setting stack bothWays target source state).2 := by
  revert onStack held
  refine compatible_induction (motive := fun stack target source state outcome =>
    (∀ pair ∈ stack, setting.registry.Plannable pair.1 pair.2) →
      setting.registry.VerdictsAffirmable state.verdicts →
        Affirms setting.registry stack target source outcome.1 outcome.2)
    ?same ?assumed ?stored ?analyzed stack bothWays target source state
  case same =>
    intro stack id state _ held
    exact ⟨held, fun _ => .same rfl, fun _ _ => Registry.affirmable_self id⟩
  case assumed =>
    intro stack bothWays target source state depth assumption onStack held
    refine ⟨held, fun _ => ?_, fun _ outermost => ?_⟩
    · rcases found_of_assumption? assumption with found | found
      · exact onStack _ (List.mem_of_getElem? found)
      · exact (onStack _ (List.mem_of_getElem? found)).symm
    · rw [outermost] at assumption
      cases assumption
  case stored =>
    intro stack target source state verdict stored _ held
    have entails : verdict = true → setting.registry.Affirmable target source := by
      rintro rfl
      exact held target source stored
    exact ⟨held, fun yes => (entails yes).plannable, fun yes _ => entails yes⟩
  case analyzed =>
    intro stack target source state _ _ _ affirms onStack held
    obtain ⟨heldThen, entails⟩ :=
      affirmable_of_deeper affirms onStack { state with lowest := none } held
    exact ⟨verdictsAffirmable_concluding heldThen entails, fun yes => (entails yes).plannable,
      fun yes _ => entails yes⟩

/-- A whole inquiry whose questions start analyses of their own: each yes may be said, and so may each
verdict that is stored by the end. -/
theorem interpret_affirms {α : Type} (setting : Setting) (inquiry : Inquiry α) (state : AnalysisState)
    (held : setting.registry.VerdictsAffirmable state.verdicts) :
    setting.registry.VerdictsAffirmable
        (inquiry.interpret (compatible setting []) state).2.verdicts ∧
      inquiry.Outcome
        (fun target source answer => answer = true → setting.registry.Affirmable target source)
        (inquiry.interpret (compatible setting []) state).1 := by
  refine outcome_interpret_of (fun state => setting.registry.VerdictsAffirmable state.verdicts)
    ?_ inquiry state held
  intro bothWays target source between heldBetween
  have affirms := compatible_affirms setting [] bothWays target source between
    (fun pair member => absurd member List.not_mem_nil) heldBetween
  exact ⟨affirms.verdicts, fun yes => affirms.affirmable yes rfl⟩

end Compatibility
end StructuralCast
