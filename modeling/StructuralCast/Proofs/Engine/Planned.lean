import StructuralCast.Proofs.Engine.Reachable

/-!
Contract: what an engine keeps was planned for the pair that it is kept for.

`Planned` is about factories, delegate factories and static adapters. It asks for no condition on the
registry, because it leaves open which answers the plans came from.
-/

namespace StructuralCast

/-- A planned factory is one for the pair, by the engine that planned it. -/
theorem Registry.Plans.subject {registry : Registry} {engine : EngineId} {onStatic : Bool}
    {shape source : TypeId} {factory : Factory}
    (plans : registry.Plans engine onStatic shape source factory) :
    factory.engine = engine ∧ factory.shape = shape ∧ factory.source = source ∧
      factory.isStatic = onStatic := by
  obtain ⟨blueprint, outcome, planned⟩ := plans
  obtain ⟨ofEngine, ofBlueprint, _⟩ := synthesize_eq_ok planned
  obtain ⟨ofShape, ofSource, ofSide⟩ := Resolution.subject_of_blueprint outcome
  refine ⟨ofEngine, ?_, ?_, ?_⟩
  · rw [Factory.shape, ofBlueprint, ofShape]
  · rw [Factory.source, ofBlueprint, ofSource]
  · rw [Factory.isStatic, ofBlueprint, ofSide]

/-- A planned delegate factory is one for the pair, between signatures of one arity. -/
theorem Registry.PlansDelegate.subject {registry : Registry} {engine : EngineId}
    {target source : TypeId} {factory : DelegateFactory}
    (plans : registry.PlansDelegate engine target source factory) :
    ∃ wanted offered, (registry.info target).invoke = some wanted ∧
      (registry.info source).invoke = some offered ∧
      offered.params.length = wanted.params.length ∧
      factory.engine = engine ∧ factory.target = target ∧ factory.source = source ∧
      factory.params = wanted.params ∧ factory.result = wanted.result ∧
      registry.planConversions offered.params wanted.params = .ok factory.argConversions ∧
      registry.planConversion wanted.result offered.result = .ok factory.resultConversion := by
  obtain ⟨outcome, planned⟩ := plans
  obtain ⟨wanted, offered, wantedDeclared, offeredDeclared, facts⟩ :=
    synthesizeDelegate_eq_ok planned
  refine ⟨wanted, offered, wantedDeclared, offeredDeclared, ?_, facts⟩
  simp only [delegateQuestion, Strategy.accepts, Inquiry.outcome_ite, Inquiry.outcome_pure] at outcome
  rcases outcome with ⟨_, agreed⟩ | ⟨_, impossible⟩
  · obtain ⟨wanted', offered', declared, declared', arity, _⟩ :=
      Strategy.corresponds_of_signaturesAgree agreed
    rw [wantedDeclared] at declared
    rw [offeredDeclared] at declared'
    cases declared
    cases declared'
    exact arity.symm
  · exact absurd impossible (by decide)

namespace Engine

variable {registry : Registry} {engine : Engine}

structure Planned (registry : Registry) (engine : Engine) : Prop where
  interfaces : ∀ shape source factory, engine.interfaces.find? shape source = some factory →
    registry.Plans engine.id false shape source factory
  delegates : ∀ target source factory, engine.delegates.find? target source = some factory →
    registry.PlansDelegate engine.id target source factory
  statics : ∀ shape source made, engine.statics.find? shape source = some made →
    ∃ ref factory relays, made = .adapter ref factory .null relays ∧
      registry.Plans engine.id true shape source factory

theorem Planned.fresh (id : EngineId) (config : Config) :
    Planned registry (Engine.fresh id config) := by
  refine ⟨?_, ?_, ?_⟩
  · intro shape source factory found
    cases found
  · intro target source factory found
    cases found
  · intro shape source made found
    cases found

theorem Edit.planned {before after : Engine} (edit : Edit registry before after)
    (planned : Planned registry before) : Planned registry after := by
  cases edit with
  | keepFactory shape source kept plans =>
      refine ⟨fun shape' source' factory found => ?_, planned.delegates, planned.statics⟩
      rcases PairTable.of_find?_insert found with earlier | ⟨rfl, rfl, rfl⟩
      · exact planned.interfaces _ _ _ earlier
      · exact plans
  | change changes =>
      cases changes with
      | learn => exact ⟨planned.interfaces, planned.delegates, planned.statics⟩
      | keepVerdict => exact ⟨planned.interfaces, planned.delegates, planned.statics⟩
      | owners => exact ⟨planned.interfaces, planned.delegates, planned.statics⟩
      | keepDelegate _ target source kept synthesizes =>
          refine ⟨planned.interfaces, fun target' source' factory found => ?_, planned.statics⟩
          rcases PairTable.of_find?_insert found with earlier | ⟨rfl, rfl, rfl⟩
          · exact planned.delegates _ _ _ earlier
          · exact synthesizes
      | keepStatic _ shape source ref kept relays plans =>
          refine ⟨planned.interfaces, planned.delegates, fun shape' source' made found => ?_⟩
          rcases PairTable.of_find?_insert found with earlier | ⟨rfl, rfl, rfl⟩
          · exact planned.statics _ _ _ earlier
          · exact ⟨ref, kept, relays, rfl, plans⟩

theorem Edits.planned {before after : Engine} (edits : Edits registry before after)
    (planned : Planned registry before) : Planned registry after := by
  induction edits with
  | refl => exact planned
  | tail _ step inductionHypothesis => exact step.planned inductionHypothesis

theorem Reachable.planned (reachable : Reachable registry engine) : Planned registry engine :=
  reachable.moves.edits.planned (Planned.fresh _ _)

/-! ### What is handed out -/

/-- A factory that is handed out was planned for some type. -/
theorem Planned.plans_of_factory (planned : Planned registry engine) {shape source : TypeId}
    {factory : Factory} {after : Engine}
    (hands : (Engine.factory registry shape source).run engine = (.ok factory, after)) :
    ∃ owner, registry.Plans engine.id false shape owner factory := by
  obtain ⟨owner, kept⟩ := kept_of_factory hands
  have edits : Edits registry engine after := (edits_factory shape source engine).related_of_run hands
  have plans := (edits.planned planned).interfaces shape owner factory kept
  rw [edits.sameId.1] at plans
  exact ⟨owner, plans⟩

/-- A delegate factory that is handed out was planned for the pair. -/
theorem Planned.plans_of_delegateFactory (planned : Planned registry engine)
    {target source : TypeId} {factory : DelegateFactory} {after : Engine}
    (hands : (delegateFactory registry target source).run engine = (.ok factory, after)) :
    registry.PlansDelegate engine.id target source factory := by
  rw [delegateFactory_apply] at hands
  cases stored : engine.delegates.find? target source with
  | some kept =>
      rw [stored] at hands
      cases hands
      exact planned.delegates target source factory stored
  | none =>
      rw [stored] at hands
      have agreed := analyzing_delegateQuestion registry target source engine
      have sameId : (analyzing registry (fun setting =>
          (registry.delegateQuestion target source).interpret (ask setting)) engine).2.id =
            engine.id := rfl
      generalize analyzing registry (fun setting =>
        (registry.delegateQuestion target source).interpret (ask setting)) engine = run
        at hands sameId agreed
      obtain ⟨answer, between⟩ := run
      cases answer with
      | false => cases hands
      | true =>
          dsimp only at hands sameId
          rw [sameId] at hands
          cases plan : registry.synthesizeDelegate engine.id target source with
          | error cause =>
              rw [plan] at hands
              cases hands
          | ok made =>
              rw [plan] at hands
              cases hands
              exact ⟨agreed, plan⟩

end Engine
end StructuralCast
