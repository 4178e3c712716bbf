import StructuralCast.Proofs.Engine.Invariant
import StructuralCast.Proofs.Engine.Replay

/-!
Contract: one answer to each question lies behind every factory of an engine.

An engine remembers what it has answered while it resolves a shape, and it never answers a question in
two ways. So the blueprint of a factory is what resolution comes to by fixed answers
(`Reachable.answered`), whichever answers these were. A factory that an engine hands out was made for a
type that may serve the source: the source itself, or, where the engine widens, a type above it
(`Reachable.owner_of_factory`).
-/

namespace StructuralCast

open Step

/-- A factory that one answer to each question leads to. -/
def Registry.PlansBy (registry : Registry) (answer : TypeId → TypeId → Bool) (engine : EngineId)
    (shape source : TypeId) (factory : Factory) : Prop :=
  (Resolution.blueprint registry Inquiry.question false shape source).Outcome
      (fun target source reply => reply = answer target source) (.ok factory.blueprint) ∧
    registry.synthesize engine factory.blueprint = .ok factory

theorem Registry.PlansBy.plans {registry : Registry} {answer : TypeId → TypeId → Bool}
    {engine : EngineId} {shape source : TypeId} {factory : Factory}
    (plans : registry.PlansBy answer engine shape source factory) :
    registry.Plans engine false shape source factory :=
  ⟨factory.blueprint, plans.1.mono fun _ _ _ _ => trivial, plans.2⟩

/-- A factory that some fixed answers lead to. -/
def Registry.Answers (registry : Registry) (engine : EngineId) (shape source : TypeId)
    (factory : Factory) : Prop :=
  ∃ answer, registry.PlansBy answer engine shape source factory

namespace Compatibility

/-- The answers that a table of verdicts stands for. -/
def recalled (verdicts : PairTable Bool) (target source : TypeId) : Bool :=
  decide (target = source) || (verdicts.find? target source).getD false

/-- The result of an inquiry is the one by the answers that are stored when it has ended. -/
theorem outcome_recalled {α : Type} (setting : Setting) (inquiry : Inquiry α)
    (state : AnalysisState) {later : PairTable Bool}
    (grows : later.Extends (inquiry.interpret (compatible setting []) state).2.verdicts) :
    inquiry.Outcome (fun target source reply => reply = recalled later target source)
      (inquiry.interpret (compatible setting []) state).1 := by
  induction inquiry generalizing state with
  | done result => rfl
  | ask bothWays target source next inductionHypothesis =>
      refine ⟨(compatible setting [] bothWays target source state).1, ?_, ?_⟩
      · by_cases same : target = source
        · rw [compatible_apply, if_pos same]
          simp [recalled, same]
        · have stored := stored_of_compatible setting bothWays target source state same
          have kept := keeps_interpret (compatible_keeps setting [])
            (next (compatible setting [] bothWays target source state).1)
            (compatible setting [] bothWays target source state).2
          have found := grows target source _ (kept.grows target source _ stored)
          simp [recalled, same, found]
      · exact inductionHypothesis _ _ grows

end Compatibility

namespace Engine

variable {registry : Registry} {engine after : Engine} {shape source : TypeId}

/-- The factories of an engine come from fixed answers, each from its own. -/
def Answered (registry : Registry) (engine : Engine) : Prop :=
  ∀ shape source factory, engine.interfaces.find? shape source = some factory →
    ∃ answer, registry.PlansBy answer engine.id shape source factory

/-- Every factory that is kept for a pair has something to do with the engine and with the pair. -/
def Stores (property : EngineId → TypeId → TypeId → Factory → Prop) (engine : Engine) : Prop :=
  ∀ shape source factory, engine.interfaces.find? shape source = some factory →
    property engine.id shape source factory

/-- What a resolution comes to, it comes to by the verdicts that are stored when it has ended. -/
theorem recalled_of_resolve {onStatic : Bool} {outcome : Except CastError Blueprint}
    {later : PairTable Bool}
    (resolves : (resolve registry onStatic shape source).run engine = (outcome, after))
    (grows : later.Extends after.verdicts) :
    (Resolution.blueprint registry Inquiry.question onStatic shape source).Outcome
      (fun target source reply => reply = Compatibility.recalled later target source) outcome := by
  have same : (resolve registry onStatic shape source).run engine =
      analyzing registry (fun setting =>
        (Resolution.blueprint registry Inquiry.question onStatic shape source).interpret
          (ask setting)) engine := by
    simp only [Resolution.interpret_blueprint]
    rfl
  rw [resolves] at same
  have result : outcome = _ := congrArg Prod.fst same
  have learned : after.verdicts = _ := congrArg (fun run => run.2.verdicts) same
  rw [learned] at grows
  rw [result]
  exact Compatibility.outcome_recalled ⟨registry, engine.hasFactory registry⟩ _
    ⟨engine.verdicts, none⟩ grows

/-! ### Every request keeps to fixed answers -/

section Stores

variable {property : EngineId → TypeId → TypeId → Factory → Prop}
  (makes : ∀ {answer : TypeId → TypeId → Bool} {id : EngineId} {shape source : TypeId}
    {made : Factory}, registry.PlansBy answer id shape source made → property id shape source made)

include makes

/-- What fixed answers lead to is all that a request adds. -/
theorem stores_exactFactory (shape source : TypeId) (engine : Engine) :
    Leads (Keeps (Stores property)) engine (exactFactory registry shape source) := by
  unfold exactFactory
  refine Leads.get_bind ?_
  cases engine.interfaces.find? shape source with
  | some kept => exact Leads.pure kept
  | none =>
      refine Leads.bind (fun stores => stores) ?_
      intro blueprint between resolves
      refine Leads.get_bind (Leads.bind (Leads.raising _) ?_)
      intro kept later planned stores shape' source' factory found
      obtain ⟨isPlanned, rfl⟩ := Prod.mk.inj planned
      rcases PairTable.of_find?_insert found with earlier | ⟨rfl, rfl, rfl⟩
      · exact stores _ _ _ earlier
      · have outcome := recalled_of_resolve resolves (.refl _)
        obtain ⟨_, sameBlueprint, _⟩ := Registry.synthesize_eq_ok isPlanned
        exact makes ⟨sameBlueprint ▸ outcome, sameBlueprint ▸ isPlanned⟩

theorem stores_factory (shape source : TypeId) (engine : Engine) :
    Leads (Keeps (Stores property)) engine (factory registry shape source) :=
  leads_factory (stores_exactFactory makes shape) source engine

theorem Moves.stores {before after : Engine} (moves : Moves registry before after)
    (stores : Stores property before) : Stores property after := by
  induction moves with
  | refl => exact stores
  | tail _ step inductionHypothesis =>
      cases step with
      | search shape source => exact stores_factory makes shape source _ inductionHypothesis
      | change changes =>
          cases changes with
          | learn => exact inductionHypothesis
          | keepDelegate => exact inductionHypothesis
          | keepStatic => exact inductionHypothesis
          | keepVerdict => exact inductionHypothesis
          | owners => exact inductionHypothesis

/-- A factory that is handed out is kept for one of the types that may serve the source. -/
theorem Stores.owner_of_factory (stores : Stores property engine) {made : Factory}
    (hands : (factory registry shape source).run engine = (.ok made, after)) :
    ∃ owner ∈ engine.candidates registry source, property engine.id shape owner made := by
  have storesThen : Stores property after :=
    (stores_factory makes shape source engine).related_of_run hands stores
  have edits : Edits registry engine after := (edits_factory shape source engine).related_of_run hands
  rcases cases_of_factory hands with ⟨found, ready, same, _⟩ | ⟨_, missing, searches⟩
  · cases same
    obtain ⟨owner, isCandidate, stored⟩ := List.exists_of_findSome?_eq_some ready
    exact ⟨owner, isCandidate, stores shape owner made stored⟩
  · obtain ⟨owner, member, kept⟩ := firstFactory_makes missing searches
    have stored : after.interfaces.find? shape owner = some made := by
      rw [kept]
      exact PairTable.find?_insert_of_missing made (missing owner member)
    refine ⟨owner, mem_candidates_iff.1 member, ?_⟩
    rw [← edits.sameId.1]
    exact storesThen shape owner made stored

end Stores

theorem answered_factory (shape source : TypeId) (engine : Engine) :
    Leads (Keeps (Answered registry)) engine (factory registry shape source) := by
  have stores : Leads (Keeps (Stores registry.Answers)) engine (factory registry shape source) :=
    stores_factory (fun plans => ⟨_, plans⟩) shape source engine
  exact stores

theorem answered_delegateFactory (target source : TypeId) (engine : Engine)
    (answered : Answered registry engine) :
    Answered registry ((delegateFactory registry target source).run engine).2 := by
  rw [delegateFactory_apply]
  cases engine.delegates.find? target source with
  | some kept => exact answered
  | none =>
      have learned : Answered registry (analyzing registry (fun setting =>
          (registry.delegateQuestion target source).interpret (ask setting)) engine).2 := answered
      generalize analyzing registry (fun setting =>
        (registry.delegateQuestion target source).interpret (ask setting)) engine = run at learned
      obtain ⟨answer, between⟩ := run
      cases answer with
      | false => exact learned
      | true =>
          dsimp only
          cases registry.synthesizeDelegate between.id target source with
          | error cause => exact learned
          | ok made => exact learned

theorem lasting_answered : Lasting registry (Answered registry) where
  fresh id config := by
    intro shape source factory found
    cases found
  learn inquiry engine answered := answered
  search shape source engine := answered_factory shape source engine
  delegate target source engine := answered_delegateFactory target source engine
  aside engine owners statics staticVerdicts answered := answered

theorem Reachable.answered (reachable : Reachable registry engine) : Answered registry engine :=
  reachable.invariant lasting_answered

/-! ### What is handed out -/

/-- A factory that is handed out was made, by fixed answers, for one of the types that may serve the
source. -/
theorem Reachable.owner_of_factory (reachable : Reachable registry engine) {made : Factory}
    (hands : (factory registry shape source).run engine = (.ok made, after)) :
    ∃ owner ∈ engine.candidates registry source, ∃ answer,
      registry.PlansBy answer engine.id shape owner made := by
  have stores : Stores registry.Answers engine := reachable.answered
  exact stores.owner_of_factory (fun plans => ⟨_, plans⟩) hands

end Engine
end StructuralCast
