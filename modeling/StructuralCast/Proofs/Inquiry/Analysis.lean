import StructuralCast.Compatibility
import StructuralCast.Proofs.Inquiry.Resolution
import StructuralCast.Proofs.Compatibility.Conformance

/-!
Contract: the analysis of one pair as an inquiry, and what its verdicts say about the answers.

A yes comes with grounds among the answers, or with an adapter that is ready
(`Compatibility.either_of_analyze`). A no rules out both, in any relation that holds of no pair to which
no was answered (`Compatibility.not_either_of_analyze`, `Compatibility.not_ready_of_analyze`).
-/

namespace StructuralCast

open Inquiry

/-- An adapter is ready for two types, in one direction or the other. -/
def Setting.Ready (setting : Setting) (target source : TypeId) : Prop :=
  (setting.registry.kind target = .interface ∧ setting.prepared target source = true) ∨
    (setting.registry.kind source = .interface ∧ setting.prepared source target = true)

namespace Strategy

section Interpret

variable {m : Type → Type} [Monad m] [LawfulMonad m] (setting : Setting) (ask : Ask m)

@[simp] theorem interpret_signaturesAgree (target source : Option Signature) :
    (signaturesAgree question target source).interpret ask =
      signaturesAgree ask target source := by
  unfold signaturesAgree
  split <;> simp

@[simp] theorem interpret_accepts (target source : TypeId) (strategy : Strategy) :
    (strategy.accepts setting question target source).interpret ask =
      strategy.accepts setting ask target source := by
  cases strategy <;> simp [accepts]

@[simp] theorem interpret_acceptsReversed (target source : TypeId) (strategy : Strategy) :
    (strategy.acceptsReversed setting question target source).interpret ask =
      strategy.acceptsReversed setting ask target source := by
  cases strategy <;> simp [acceptsReversed]

theorem interpret_anyOf {test : Strategy → Inquiry Bool} {test' : Strategy → m Bool}
    (same : ∀ strategy, (test strategy).interpret ask = test' strategy)
    (strategies : List Strategy) :
    (anyOf test strategies).interpret ask = anyOf test' strategies := by
  induction strategies with
  | nil => simp [anyOf]
  | cons strategy rest inductionHypothesis => simp [anyOf, same, inductionHypothesis]

end Interpret

section Outcome

variable {allowed : TypeId → TypeId → Bool → Prop} {holds : TypeId → TypeId → Prop}

theorem corresponds_of_signaturesAgree {target source : Option Signature}
    (outcome : Outcome allowed (signaturesAgree question target source) true) :
    ∃ wanted offered, target = some wanted ∧ source = some offered ∧
      wanted.Corresponds (fun target source => allowed target source true) offered := by
  unfold signaturesAgree at outcome
  split at outcome
  case h_2 => simp at outcome
  case h_1 wanted offered =>
    simp only [outcome_ite, outcome_bind, outcome_question, outcome_pure] at outcome
    rcases outcome with ⟨arity, answer, params, continued⟩ | ⟨_, impossible⟩
    · cases answer with
      | false => simp at continued
      | true =>
          have result : allowed wanted.result offered.result true := by simpa using continued
          exact ⟨wanted, offered, rfl, rfl, arity, Resolution.affirmed_of_allCompatible params, result⟩
    · exact absurd impossible (by decide)

theorem denied_of_signaturesAgree
    (avoids : ∀ target source, holds target source → ¬ allowed target source false)
    {wanted offered : Signature}
    (outcome : Outcome allowed (signaturesAgree question (some wanted) (some offered)) false) :
    ¬ wanted.Corresponds holds offered := by
  rintro ⟨arity, params, result⟩
  simp only [signaturesAgree, if_pos arity, outcome_bind] at outcome
  obtain ⟨answer, outcomeOfParams, continued⟩ := outcome
  cases answer with
  | false => exact Resolution.denied_of_allCompatible avoids outcomeOfParams params
  | true =>
      have denied : allowed wanted.result offered.result false := by simpa using continued
      exact avoids _ _ result denied

theorem accepted_of_anyOf {test : Strategy → Inquiry Bool} {strategies : List Strategy}
    (outcome : Outcome allowed (anyOf test strategies) true) :
    ∃ strategy, Outcome allowed (test strategy) true := by
  induction strategies with
  | nil => simp [anyOf] at outcome
  | cons strategy rest inductionHypothesis =>
      simp only [anyOf, outcome_bind] at outcome
      obtain ⟨answer, tested, continued⟩ := outcome
      cases answer with
      | true => exact ⟨strategy, tested⟩
      | false => exact inductionHypothesis (by simpa using continued)

theorem refused_of_anyOf {test : Strategy → Inquiry Bool} {strategies : List Strategy}
    (outcome : Outcome allowed (anyOf test strategies) false) :
    ∀ strategy ∈ strategies, Outcome allowed (test strategy) false := by
  induction strategies with
  | nil => exact fun strategy member => absurd member List.not_mem_nil
  | cons head rest inductionHypothesis =>
      simp only [anyOf, outcome_bind] at outcome
      obtain ⟨answer, tested, continued⟩ := outcome
      cases answer with
      | true => simp at continued
      | false =>
          intro strategy member
          rcases List.mem_cons.1 member with rfl | further
          · exact tested
          · exact inductionHypothesis (by simpa using continued) strategy further

/-- What a strategy accepts has grounds among the answers, or an adapter is ready for it. -/
theorem supports_of_accepts {setting : Setting} {target source : TypeId} {strategy : Strategy}
    (outcome : Outcome allowed (strategy.accepts setting question target source) true) :
    setting.registry.Supports (fun target source => allowed target source true) target source ∨
      (setting.registry.kind target = .interface ∧ setting.prepared target source) := by
  cases strategy with
  | interface =>
      simp only [accepts, outcome_ite, outcome_bind, outcome_pure] at outcome
      rcases outcome with ⟨claimed, ⟨prepared, _⟩ | ⟨_, result, built, isOk⟩⟩ | ⟨_, impossible⟩
      · exact .inr ⟨by simpa [claims] using claimed, prepared⟩
      · cases result with
        | error cause => exact absurd isOk (by simp [Except.isOk, Except.toBool])
        | ok blueprint =>
            exact .inl (.shape (by simpa [claims] using claimed) (Resolution.fulfils_of_blueprint built))
      · exact absurd impossible (by decide)
  | delegate =>
      simp only [accepts, outcome_ite, outcome_pure] at outcome
      rcases outcome with ⟨claimed, agreed⟩ | ⟨_, impossible⟩
      · obtain ⟨wanted, offered, wantedDeclared, offeredDeclared, corresponds⟩ :=
          corresponds_of_signaturesAgree agreed
        have kinds : setting.registry.kind target = .delegate ∧
            setting.registry.kind source = .delegate := by simpa [claims] using claimed
        exact .inl (.delegate kinds.1 kinds.2 wanted offered wantedDeclared offeredDeclared corresponds)
      · exact absurd impossible (by decide)
  | enumText =>
      have claimed : claims setting.registry target source enumText = true := outcome.symm
      exact .inl (.enumText (by simpa [claims] using claimed))
  | genericParam =>
      have claimed : claims setting.registry target source genericParam = true := outcome.symm
      simp only [claims, Bool.and_eq_true, decide_eq_true_eq] at claimed
      obtain ⟨⟨⟨targetKind, sourceKind⟩, positioned⟩, samePosition⟩ := claimed
      obtain ⟨position, found⟩ := Option.isSome_iff_exists.1 positioned
      exact .inl (.genericParam targetKind sourceKind position found (samePosition ▸ found))

/-- A shape that the interface strategy refuses is not fulfilled. -/
theorem denied_of_interface
    (avoids : ∀ target source, holds target source → ¬ allowed target source false)
    {setting : Setting} {target source : TypeId}
    (isShape : setting.registry.kind target = .interface)
    (outcome : Outcome allowed (interface.accepts setting question target source) false) :
    ¬ setting.registry.Fulfils holds false target source := by
  have claimed : claims setting.registry target source interface := by simp [claims, isShape]
  simp only [accepts, if_pos claimed, outcome_ite, outcome_bind, outcome_pure] at outcome
  rcases outcome with ⟨_, impossible⟩ | ⟨_, result, failed, isOk⟩
  · exact absurd impossible (by decide)
  · cases result with
    | ok blueprint => exact absurd isOk (by simp [Except.isOk, Except.toBool])
    | error cause => exact Resolution.not_fulfils_of_blueprint avoids failed

end Outcome

/-- The interface strategy refuses no shape for which an adapter is ready. -/
theorem not_prepared_of_interface {allowed : TypeId → TypeId → Bool → Prop} {setting : Setting}
    {target source : TypeId} (isShape : setting.registry.kind target = .interface)
    (outcome : Outcome allowed (interface.accepts setting question target source) false) :
    ¬ setting.prepared target source = true := by
  have claimed : claims setting.registry target source interface := by simp [claims, isShape]
  simp only [accepts, if_pos claimed, outcome_ite, outcome_pure] at outcome
  rcases outcome with ⟨_, impossible⟩ | ⟨unprepared, _⟩
  · exact absurd impossible (by decide)
  · exact unprepared

/-- Generic parameters are compared by position, so one direction is like the other. -/
theorem claims_genericParam_comm {registry : Registry} (target source : TypeId) :
    claims registry target source .genericParam = claims registry source target .genericParam := by
  have back : ∀ target source, claims registry target source .genericParam = true →
      claims registry source target .genericParam = true := by
    intro target source claimed
    simp only [claims, Bool.and_eq_true, decide_eq_true_eq] at claimed ⊢
    obtain ⟨⟨⟨targetKind, sourceKind⟩, positioned⟩, same⟩ := claimed
    exact ⟨⟨⟨sourceKind, targetKind⟩, same ▸ positioned⟩, same.symm⟩
  exact Bool.eq_iff_iff.2 ⟨back target source, back source target⟩

/-- All strategies but one work in both directions. -/
theorem acceptsReversed_eq {m : Type → Type} [Monad m] {setting : Setting} {ask : Ask m}
    {target source : TypeId} {strategy : Strategy} (bothWays : strategy ≠ .genericParam) :
    strategy.acceptsReversed setting ask target source =
      strategy.accepts setting ask source target := by
  cases strategy with
  | genericParam => exact absurd rfl bothWays
  | interface => rfl
  | delegate => rfl
  | enumText => rfl

end Strategy

namespace Compatibility

variable {allowed : TypeId → TypeId → Bool → Prop} {holds : TypeId → TypeId → Prop}
  {setting : Setting} {target source : TypeId}

theorem interpret_analyze {m : Type → Type} [Monad m] [LawfulMonad m] (setting : Setting)
    (ask : Ask m) (target source : TypeId) :
    (analyze setting question target source).interpret ask = analyze setting ask target source := by
  simp [analyze, Strategy.interpret_anyOf ask (Strategy.interpret_accepts setting ask target source),
    Strategy.interpret_anyOf ask (Strategy.interpret_acceptsReversed setting ask target source)]

/-- A yes about types that are not related is that of one strategy, in one direction or the other. -/
theorem accepted_of_analyze (outcome : Outcome allowed (analyze setting question target source) true) :
    setting.registry.related target source = true ∨ ∃ strategy : Strategy,
      Outcome allowed (strategy.accepts setting question target source) true ∨
        Outcome allowed (strategy.accepts setting question source target) true := by
  simp only [analyze, outcome_ite, outcome_bind, outcome_pure] at outcome
  rcases outcome with ⟨related, _⟩ | ⟨_, answer, forward, continued⟩
  · exact .inl related
  · cases answer with
    | true =>
        obtain ⟨strategy, accepted⟩ := Strategy.accepted_of_anyOf forward
        exact .inr ⟨strategy, .inl accepted⟩
    | false =>
        have reversed : Outcome allowed (Strategy.anyOf
            (Strategy.acceptsReversed setting question target source) Strategy.all) true := by
          simpa using continued
        obtain ⟨strategy, accepted⟩ := Strategy.accepted_of_anyOf reversed
        by_cases oneWay : strategy = .genericParam
        · subst oneWay
          exact absurd accepted (by simp [Strategy.acceptsReversed])
        · rw [Strategy.acceptsReversed_eq oneWay] at accepted
          exact .inr ⟨strategy, .inr accepted⟩

/-- A yes has grounds among the answers, in one direction or the other, or an adapter is ready. -/
theorem either_of_analyze (outcome : Outcome allowed (analyze setting question target source) true) :
    setting.registry.SupportsEither (fun target source => allowed target source true) target source ∨
      setting.Ready target source := by
  rcases accepted_of_analyze outcome with related | ⟨strategy, accepted | accepted⟩
  · exact .inl (.inl (.native (by simpa [Registry.related] using related)))
  · exact (Strategy.supports_of_accepts accepted).imp .inl .inl
  · exact (Strategy.supports_of_accepts accepted).imp .inr .inr

/-- A no has asked every strategy, in both directions. -/
theorem refused_of_analyze (outcome : Outcome allowed (analyze setting question target source) false) :
    ¬ setting.registry.related target source = true ∧
      (∀ strategy : Strategy, Outcome allowed (strategy.accepts setting question target source) false) ∧
      ∀ strategy : Strategy, Outcome allowed (strategy.accepts setting question source target) false := by
  simp only [analyze, outcome_ite, outcome_bind, outcome_pure] at outcome
  rcases outcome with ⟨_, impossible⟩ | ⟨unrelated, answer, forward, continued⟩
  · exact absurd impossible (by decide)
  cases answer with
  | true => simp at continued
  | false =>
    have backward : Outcome allowed (Strategy.anyOf
        (Strategy.acceptsReversed setting question target source) Strategy.all) false := by
      simpa using continued
    have everyOne : ∀ strategy : Strategy, strategy ∈ Strategy.all := by
      intro strategy
      cases strategy <;> decide
    have refused : ∀ strategy : Strategy,
        Outcome allowed (strategy.accepts setting question target source) false :=
      fun strategy => Strategy.refused_of_anyOf forward strategy (everyOne strategy)
    refine ⟨unrelated, refused, fun strategy => ?_⟩
    by_cases oneWay : strategy = .genericParam
    · subst oneWay
      have unclaimed : false = Strategy.claims setting.registry target source .genericParam :=
        refused .genericParam
      exact unclaimed.trans (Strategy.claims_genericParam_comm target source)
    · rw [← Strategy.acceptsReversed_eq oneWay]
      exact Strategy.refused_of_anyOf backward strategy (everyOne strategy)

/-- A no rules out that an adapter is ready. -/
theorem not_ready_of_analyze
    (outcome : Outcome allowed (analyze setting question target source) false) :
    ¬ setting.Ready target source := by
  obtain ⟨_, refused, refusedBack⟩ := refused_of_analyze outcome
  rintro (⟨isShape, prepared⟩ | ⟨isShape, prepared⟩)
  · exact Strategy.not_prepared_of_interface isShape (refused .interface) prepared
  · exact Strategy.not_prepared_of_interface isShape (refusedBack .interface) prepared

/-- Strategies that all refuse, in both directions, rule out grounds in every relation that was never
denied. -/
theorem not_supports_of_refused
    (avoids : ∀ target source, holds target source → ¬ allowed target source false)
    (unrelated : ¬ setting.registry.related target source = true)
    (refused : ∀ strategy : Strategy,
      Outcome allowed (strategy.accepts setting question target source) false)
    (refusedBack : ∀ strategy : Strategy,
      Outcome allowed (strategy.accepts setting question source target) false) :
    ¬ setting.registry.Supports holds target source := by
  intro grounds
  cases grounds with
  | same equal => exact unrelated (by simp [Registry.related, Registry.assignable, equal])
  | native assignable => exact unrelated (by simpa [Registry.related] using assignable)
  | enumText kinds =>
      have unclaimed : false = Strategy.claims setting.registry target source .enumText :=
        refused .enumText
      have claimed : Strategy.claims setting.registry target source .enumText = true := by
        simp only [Strategy.claims, Bool.or_eq_true, Bool.and_eq_true, decide_eq_true_eq]
        exact kinds
      exact absurd (unclaimed.trans claimed) (by decide)
  | genericParam leftKind rightKind position leftPosition rightPosition =>
      have unclaimed : false = Strategy.claims setting.registry target source .genericParam :=
        refused .genericParam
      exact absurd unclaimed
        (by simp [Strategy.claims, leftKind, rightKind, leftPosition, rightPosition])
  | delegate leftKind rightKind wanted offered leftDeclares rightDeclares corresponds =>
      have disagreed := refused .delegate
      have claimed : Strategy.claims setting.registry target source .delegate := by
        simp [Strategy.claims, leftKind, rightKind]
      simp only [Strategy.accepts, if_pos claimed, leftDeclares, rightDeclares] at disagreed
      exact Strategy.denied_of_signaturesAgree avoids disagreed corresponds
  | shape isShape fulfilled =>
      exact Strategy.denied_of_interface avoids isShape (refused .interface) fulfilled
  | reversedShape isShape fulfilled =>
      exact Strategy.denied_of_interface avoids isShape (refusedBack .interface) fulfilled

/-- A no rules out grounds in every relation that was never denied, in both directions. -/
theorem not_either_of_analyze
    (avoids : ∀ target source, holds target source → ¬ allowed target source false)
    (outcome : Outcome allowed (analyze setting question target source) false) :
    ¬ setting.registry.SupportsEither holds target source := by
  obtain ⟨unrelated, refused, refusedBack⟩ := refused_of_analyze outcome
  have unrelatedBack : ¬ setting.registry.related source target = true := by
    simpa [Registry.related, or_comm] using unrelated
  rintro (grounds | grounds)
  · exact not_supports_of_refused avoids unrelated refused refusedBack grounds
  · exact not_supports_of_refused avoids unrelatedBack refusedBack refused grounds

end Compatibility
end StructuralCast
