import StructuralCast.Proofs.Engine.Answers
import StructuralCast.Proofs.Engine.Synthesis
import StructuralCast.Proofs.Session

/-!
Contract: where the factories come from that adapters are made with.

Registries develop while engines keep what they have made. So a factory that an engine hands out was
made, by fixed answers, over the registry of that time, for the source itself or a type above it
(`founder_of_factory`). Casts find such a factory wherever a session has got to, because every engine
of every world that acts lead to is one that operations have led to (`World.Acts.evolved`), and an
adapter of an instance is made with it (`Cast.founded_of_cast`).
-/

namespace StructuralCast

open Step

/-- A factory that fixed answers have led to over this registry, or over what it has developed from. -/
def Registry.Founds (registry : Registry) (engine : EngineId) (shape source : TypeId)
    (factory : Factory) : Prop :=
  ∃ earlier : Registry, earlier.Grown ∧ Relation.ReflTransGen Registry.Develops earlier registry ∧
    earlier.Answers engine shape source factory

theorem Registry.Founds.mono {registry developed : Registry} {engine : EngineId}
    {shape source : TypeId} {factory : Factory}
    (founds : registry.Founds engine shape source factory)
    (develops : Relation.ReflTransGen Registry.Develops registry developed) :
    developed.Founds engine shape source factory := by
  obtain ⟨earlier, grown, developsThen, answers⟩ := founds
  exact ⟨earlier, grown, developsThen.trans develops, answers⟩

theorem Registry.Founds.source_eq {registry : Registry} {engine : EngineId} {shape source : TypeId}
    {factory : Factory} (founds : registry.Founds engine shape source factory) :
    factory.source = source := by
  obtain ⟨_, _, _, _, plans⟩ := founds
  exact plans.plans.subject.2.2.1

namespace Engine

variable {registry : Registry} {engine after : Engine} {shape source : TypeId}

/-- Wherever an engine has got to, its factories are well founded. -/
theorem Evolved.founded (evolved : Evolved registry engine) : Stores registry.Founds engine := by
  induction evolved with
  | fresh =>
      intro shape source made found
      cases found
  | moves before moves inductionHypothesis =>
      exact moves.stores (fun plans => ⟨_, before.grown, .refl, _, plans⟩) inductionHypothesis
  | develops before develops inductionHypothesis =>
      intro shape source made found
      exact (inductionHypothesis shape source made found).mono (.single develops)

/-- A factory that is handed out is founded, for one of the types that may serve the source. -/
theorem Evolved.founder_of_factory (evolved : Evolved registry engine) {made : Factory}
    (hands : (factory registry shape source).run engine = (.ok made, after)) :
    ∃ owner ∈ registry.chain source, registry.Founds engine.id shape owner made := by
  obtain ⟨owner, isCandidate, founds⟩ := evolved.founded.owner_of_factory
    (fun plans => ⟨registry, evolved.grown, .refl, _, plans⟩) hands
  exact ⟨owner, mem_chain_of_mem_candidates isCandidate, founds⟩

theorem Evolved.develop {developed : Registry} (evolved : Evolved registry engine)
    (develops : Relation.ReflTransGen Registry.Develops registry developed) :
    Evolved developed engine := by
  induction develops with
  | refl => exact evolved
  | tail _ step inductionHypothesis => exact inductionHypothesis.develops step

end Engine

/-! ### Worlds that acts lead to -/

namespace World

variable {σ : Type} {world before after : World σ} {id : EngineId}

/-- An engine of a world that any operations have led to. -/
structure Evolved (world : World σ) (id : EngineId) : Prop where
  named : (world.engine id).id = id
  evolved : Engine.Evolved world.registry (world.engine id)

theorem evolved_initial (host : σ) (id : EngineId) : (World.initial host).Evolved id := by
  have missing : ¬ (World.initial host).Has id := Nat.not_lt_zero _
  have fresh := engine_of_not_has missing
  refine ⟨?_, ?_⟩
  · rw [fresh]
    rfl
  · rw [fresh]
    exact .fresh .initial id Config.standard

theorem acts_of_develops {registry : Registry}
    (develops : Relation.ReflTransGen Registry.Develops world.registry registry) :
    Acts world { world with registry := registry } := by
  induction develops with
  | refl => exact .refl
  | tail _ step inductionHypothesis => exact inductionHypothesis.tail (.develop step _)

/-- An act is an operation of engines over one registry, or the registry develops, or there is one engine
more. -/
theorem Act.cases (act : Act before after) :
    Follows before after ∨
      (after.engines = before.engines ∧
        Relation.ReflTransGen Registry.Develops before.registry after.registry) ∨
      ∃ config, after = (before.addEngine config).2 := by
  cases act with
  | apart apart => exact .inl apart.follows
  | develop develops => exact .inr (.inl ⟨rfl, .single develops⟩)
  | register key kind definition => exact .inr (.inl ⟨rfl, Registry.develops_register _ key kind definition⟩)
  | addEngine config => exact .inr (.inr ⟨config, rfl⟩)
  | retain id => exact .inl (follows_retain _ id)
  | release id => exact .inl (follows_release _ id)
  | canCast id target source =>
      exact .inl (follows_setEngine _ id _ fun _ => Engine.moves_canCast target source _)
  | canStaticCast id shape source =>
      exact .inl (follows_setEngine _ id _ fun _ => Engine.moves_canStaticCast shape source _)
  | prepare id target source =>
      exact .inl (follows_setEngine _ id _ fun _ => Engine.moves_prepare target source _)
  | requestDelegateFactory id target source =>
      exact .inl (follows_setEngine _ id _ fun _ => Engine.moves_requestDelegateFactory target source _)
  | canCastValue id target value => exact .inl (Cast.follows_canCastValue id target value)
  | cast id target value => exact .inl (Cast.follows_cast id target value)
  | staticCast id shape source => exact .inl (Cast.follows_staticCast id shape source)

theorem Act.evolved (act : Act before after) (evolved : before.Evolved id) : after.Evolved id := by
  rcases act.cases with follows | ⟨sameEngines, develops⟩ | ⟨config, rfl⟩
  · have moves := follows.engines id evolved.named
    refine ⟨moves.edits.sameId.1.trans evolved.named, ?_⟩
    rw [follows.registry]
    exact .moves evolved.evolved moves
  · have same : after.engine id = before.engine id := by
      rw [World.engine, sameEngines]
      rfl
    exact ⟨by rw [same, evolved.named], by rw [same]; exact evolved.evolved.develop develops⟩
  · have grown := evolved.evolved.grown
    have engine := engine_addEngine before config id
    by_cases new : id.index = before.engines.size
    · rw [if_pos new] at engine
      exact ⟨by rw [engine]; rfl, by rw [engine]; exact .fresh grown id config⟩
    · rw [if_neg new] at engine
      exact ⟨by rw [engine]; exact evolved.named, by rw [engine]; exact evolved.evolved⟩

/-- Wherever a session has got to, its engines are ones that operations have led to. -/
theorem Acts.evolved (acts : Acts before after) (evolved : before.Evolved id) : after.Evolved id := by
  induction acts with
  | refl => exact evolved
  | tail _ act inductionHypothesis => exact act.evolved inductionHypothesis

end World

/-! ### Adapters of instances -/

/-- No adapter of an instance is left when what engines put on is taken off. -/
theorem Value.isStatic_of_unadapt {adapter : Adapter} : (value : Value) →
    (isAdapter : value.unadapt.adapter? = some adapter) → adapter.factory.isStatic = true
  | .adapter ref factory source relays, isAdapter => by
    unfold unadapt at isAdapter
    split at isAdapter
    case isTrue static =>
      cases isAdapter
      exact static
    case isFalse => exact source.isStatic_of_unadapt isAdapter
  | .callable _, isAdapter | .proxy _ _ _ _, isAdapter | .null, isAdapter | .bool _, isAdapter
  | .int _, isAdapter | .float _, isAdapter | .text _ _, isAdapter | .enumeration _ _, isAdapter
  | .struct _ _, isAdapter | .object _, isAdapter => by cases isAdapter

namespace Cast

variable {σ : Type} {world after : World σ} {id : EngineId} {target : TypeId} {value : Value}

/-- An adapter of an instance that comes of a cast is made by it, with a founded factory for a type on the
chain of the instance. -/
theorem founded_of_cast (evolved : world.Evolved id) {made : Value} {adapter : Adapter}
    (casts : (cast id target value).run world = (.ok made, after))
    (isAdapter : made.adapter? = some adapter) (ofInstance : adapter.factory.isStatic = false)
    {type : TypeId} (typed : adapter.source.type? = some type) :
    ∃ owner ∈ world.registry.chain type,
      world.registry.Founds id target owner adapter.factory := by
  have unwrapped : made ≠ value.unadapt := by
    rintro rfl
    rw [value.isStatic_of_unadapt isAdapter] at ofInstance
    cases ofInstance
  obtain ⟨_, ⟨_, rfl⟩ | ⟨_, _, same⟩ | ⟨_, _, strategy, _, ran⟩⟩ := cases_of_cast casts
  · cases isAdapter
  · exact absurd same unwrapped
  · cases strategy with
    | interface =>
        obtain ⟨factory, between, searches, adapts⟩ := adapts_of_interface ran
        obtain ⟨ref, relays, rfl⟩ := adapter_of_adapt adapts
        cases isAdapter
        have founded := evolved.evolved.founder_of_factory (Action.ok_of_withEngine searches)
        rw [evolved.named, typed] at founded
        exact founded
    | delegate =>
        obtain ⟨_, _, _, _, _, _, rfl⟩ := wraps_of_delegate ran
        cases isAdapter
    | enumText =>
        rcases eq_of_enumText ran with ⟨_, _, _, rfl⟩ | ⟨_, rfl⟩
        · cases isAdapter
        · cases isAdapter
    | genericParam =>
        cases ran
        exact absurd rfl unwrapped

end Cast
end StructuralCast
