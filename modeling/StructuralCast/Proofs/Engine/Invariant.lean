import StructuralCast.Proofs.Engine.Reachable

/-!
Contract: how to prove that a property holds of every engine that operations lead to.

`Lasting` lists the requests that operations are made of: an analysis, a search for a factory, a
request for a delegate factory, and changes that touch neither verdicts nor factories. A property that
holds of new engines and outlasts each request holds of every reachable engine
(`Reachable.invariant`). A request is taken as a whole here, with the answers that it was given, while
`Change` only remembers that there were some.
-/

namespace StructuralCast

open Step

namespace Engine

/-- A property that new engines have, and that no request over a registry takes away. -/
structure Lasting (registry : Registry) (property : Engine → Prop) : Prop where
  fresh : ∀ id config, property (Engine.fresh id config)
  learn : ∀ {α : Type} (inquiry : Setting → Inquiry α) (engine : Engine), property engine →
    property (analyzing registry (fun setting => (inquiry setting).interpret (ask setting)) engine).2
  search : ∀ (shape source : TypeId) (engine : Engine), property engine →
    property ((factory registry shape source).run engine).2
  delegate : ∀ (target source : TypeId) (engine : Engine), property engine →
    property ((delegateFactory registry target source).run engine).2
  aside : ∀ (engine : Engine) (owners : Nat) (statics : PairTable Value)
    (staticVerdicts : PairTable Bool), property engine →
      property { engine with owners := owners, statics := statics, staticVerdicts := staticVerdicts }

namespace Lasting

variable {registry : Registry} {property : Engine → Prop} (lasting : Lasting registry property)

include lasting

theorem canCast (target source : TypeId) (engine : Engine) :
    Keeps property engine (Engine.canCast registry target source engine).2 := by
  unfold Engine.canCast
  split
  case isFalse => exact fun held => held
  case isTrue =>
    have learns := lasting.learn (fun _ => Inquiry.question false target source) engine
    simp only [Inquiry.interpret_question] at learns
    exact learns

theorem resolve (onStatic : Bool) (shape source : TypeId) (engine : Engine) :
    Leads (Keeps property) engine (Engine.resolve registry onStatic shape source) := by
  have learns := lasting.learn
    (fun _ => Resolution.blueprint registry Inquiry.question onStatic shape source) engine
  simp only [Resolution.interpret_blueprint] at learns
  exact learns

theorem canStaticCast (shape source : TypeId) (engine : Engine) :
    Keeps property engine (Engine.canStaticCast registry shape source engine).2 := by
  unfold Engine.canStaticCast
  split
  case isFalse => exact fun held => held
  case isTrue =>
    rw [get_bind_apply]
    cases engine.staticVerdicts.find? shape source with
    | some verdict => exact fun held => held
    | none =>
        by_cases claimed : claimsStatic registry shape source = true
        · by_cases present : engine.statics.contains shape source = true
          · simp only [claimed, present, if_true]
            exact lasting.aside engine _ _ _
          · simp only [claimed, present, if_true]
            exact fun held => lasting.aside _ _ _ _ (lasting.resolve true shape source engine held)
        · simp only [claimed]
          exact lasting.aside engine _ _ _

theorem requestDelegateFactory (target source : TypeId) (engine : Engine) :
    Leads (Keeps property) engine (Engine.requestDelegateFactory registry target source) :=
  leads_requestDelegateFactory (lasting.delegate target source engine)

theorem prepare (target source : TypeId) (engine : Engine) :
    Leads (Keeps property) engine (Engine.prepare registry target source) :=
  leads_prepare (lasting.search target source engine) (lasting.delegate target source engine)

end Lasting
end Engine

namespace World

variable {σ : Type} {world : World σ} {id : EngineId} {property : Engine → Prop}

/-- A property of one engine of a world, where the registry is known. -/
def Holds (registry : Registry) (property : Engine → Prop) (id : EngineId) (world : World σ) : Prop :=
  world.registry = registry ∧ property (world.engine id)

theorem keeps_setEngine {registry : Registry} {engine : Engine}
    (keeps : world.registry = registry → Keeps property (world.engine id) engine) :
    Keeps (Holds registry property id) world (world.setEngine id engine) := by
  rintro ⟨sameRegistry, held⟩
  refine ⟨sameRegistry, ?_⟩
  rw [engine_setEngine]
  split
  case isTrue => exact keeps sameRegistry held
  case isFalse => exact held

theorem Apart.keeps {registry : Registry} {after : World σ} (apart : Apart world after) :
    Keeps (Holds registry property id) world after := by
  rintro ⟨sameRegistry, held⟩
  exact ⟨apart.registry.trans sameRegistry, by rw [apart.engine]; exact held⟩

end World

namespace Engine.Lasting

open World

variable {σ : Type} {world : World σ} {registry : Registry} {property : Engine → Prop}
  (lasting : Lasting registry property) {id : EngineId}

include lasting

theorem canCastValue (target : TypeId) (value : Value) :
    Leads (Keeps (Holds registry property id)) world (Cast.canCastValue id target value) := by
  refine Cast.leads_canCastValue (fun source => ?_) value
  refine keeps_setEngine fun sameRegistry => ?_
  rw [sameRegistry]
  exact lasting.canCast target source _

theorem cast (target : TypeId) (value : Value) :
    Leads (Keeps (Holds registry property id)) world (Cast.cast id target value) := by
  have connects (factory : Factory) (source : Value) (between : World σ) :
      Leads (Keeps (Holds registry property id)) between (Cast.connect factory source factory.events) :=
    Apart.keeps (Cast.apart_connect factory source factory.events)
  have numbers (between : World σ) : Keeps (Holds registry property id) between
      { between with nextRef := between.nextRef + 1 } := Apart.keeps ⟨rfl, rfl⟩
  refine Cast.leads_cast connects numbers (fun source => ?_) (fun source => ?_) value
  · refine keeps_setEngine fun sameRegistry => ?_
    rw [sameRegistry]
    exact lasting.search _ _ _
  · refine keeps_setEngine fun sameRegistry => ?_
    rw [sameRegistry]
    exact lasting.delegate _ _ _

theorem staticCast (shape source : TypeId) :
    Leads (Keeps (Holds registry property id)) world (Cast.staticCast id shape source) := by
  refine Cast.leads_staticCast Apart.keeps ?_ fun ref relays _ _ => ?_
  · refine keeps_setEngine fun sameRegistry => ?_
    rw [sameRegistry]
    exact Leads.bind (lasting.resolve true shape source _) fun _ _ _ => Leads.raising _
  · exact keeps_setEngine fun _ => lasting.aside _ _ _ _

end Engine.Lasting

namespace Engine

variable {registry : Registry} {property : Engine → Prop} {engine : Engine}

/-- A lasting property holds of every engine that operations over the registry lead to. -/
theorem Reachable.invariant (reachable : Reachable registry engine)
    (lasting : Lasting registry property) : property engine := by
  induction reachable with
  | fresh id config => exact lasting.fresh id config
  | owners _ count inductionHypothesis => exact lasting.aside _ _ _ _ inductionHypothesis
  | canCast _ target source inductionHypothesis =>
      exact lasting.canCast target source _ inductionHypothesis
  | canStaticCast _ shape source inductionHypothesis =>
      exact lasting.canStaticCast shape source _ inductionHypothesis
  | prepare _ target source inductionHypothesis =>
      exact lasting.prepare target source _ inductionHypothesis
  | requestDelegateFactory _ target source inductionHypothesis =>
      exact lasting.requestDelegateFactory target source _ inductionHypothesis
  | canCastValue sameRegistry _ _ target value inductionHypothesis =>
      exact (lasting.canCastValue target value ⟨sameRegistry, inductionHypothesis⟩).2
  | cast sameRegistry _ _ target value inductionHypothesis =>
      exact (lasting.cast target value ⟨sameRegistry, inductionHypothesis⟩).2
  | staticCast sameRegistry _ _ shape source inductionHypothesis =>
      exact (lasting.staticCast shape source ⟨sameRegistry, inductionHypothesis⟩).2

end Engine
end StructuralCast
