import StructuralCast.Proofs.World

/-!
Contract: the engines that operations over one registry lead to.

`Engine.Reachable` is about every order and number of operations: questions, preparations and casts,
successful or not, of values of any world that has the registry. Each operation is a sequence of
moves (`Reachable.moves`), so a reachable engine is sound (`Reachable.sound`).
-/

namespace StructuralCast.Engine

open Step

/-- The engines that operations over one registry lead to. -/
inductive Reachable (registry : Registry) : Engine → Prop where
  | fresh (id : EngineId) (config : Config) : Reachable registry (Engine.fresh id config)
  | owners {engine : Engine} (before : Reachable registry engine) (count : Nat) :
      Reachable registry { engine with owners := count }
  | canCast {engine : Engine} (before : Reachable registry engine) (target source : TypeId) :
      Reachable registry (Engine.canCast registry target source engine).2
  | canStaticCast {engine : Engine} (before : Reachable registry engine) (shape source : TypeId) :
      Reachable registry (Engine.canStaticCast registry shape source engine).2
  | prepare {engine : Engine} (before : Reachable registry engine) (target source : TypeId) :
      Reachable registry ((Engine.prepare registry target source).run engine).2
  | requestDelegateFactory {engine : Engine} (before : Reachable registry engine)
      (target source : TypeId) :
      Reachable registry ((Engine.requestDelegateFactory registry target source).run engine).2
  | canCastValue {σ : Type} {world : World σ} {id : EngineId} (sameRegistry : world.registry = registry)
      (named : (world.engine id).id = id) (before : Reachable registry (world.engine id))
      (target : TypeId) (value : Value) :
      Reachable registry (((Cast.canCastValue id target value).run world).2.engine id)
  | cast {σ : Type} {world : World σ} {id : EngineId} (sameRegistry : world.registry = registry)
      (named : (world.engine id).id = id) (before : Reachable registry (world.engine id))
      (target : TypeId) (value : Value) :
      Reachable registry (((Cast.cast id target value).run world).2.engine id)
  | staticCast {σ : Type} {world : World σ} {id : EngineId} (sameRegistry : world.registry = registry)
      (named : (world.engine id).id = id) (before : Reachable registry (world.engine id))
      (shape source : TypeId) :
      Reachable registry (((Cast.staticCast id shape source).run world).2.engine id)

variable {registry : Registry} {engine : Engine}

/-- A reachable engine comes from a fresh one by moves. -/
theorem Reachable.moves (reachable : Reachable registry engine) :
    Moves registry (Engine.fresh engine.id engine.config) engine := by
  have start : ∃ id config, Moves registry (Engine.fresh id config) engine := by
    induction reachable with
    | fresh id config => exact ⟨id, config, .refl⟩
    | owners _ count inductionHypothesis =>
        obtain ⟨id, config, moves⟩ := inductionHypothesis
        exact ⟨id, config, moves.tail (.change (.owners _ count))⟩
    | canCast _ target source inductionHypothesis =>
        obtain ⟨id, config, moves⟩ := inductionHypothesis
        exact ⟨id, config, moves.trans (moves_canCast target source _)⟩
    | canStaticCast _ shape source inductionHypothesis =>
        obtain ⟨id, config, moves⟩ := inductionHypothesis
        exact ⟨id, config, moves.trans (moves_canStaticCast shape source _)⟩
    | prepare _ target source inductionHypothesis =>
        obtain ⟨id, config, moves⟩ := inductionHypothesis
        exact ⟨id, config, moves.trans (moves_prepare target source _)⟩
    | requestDelegateFactory _ target source inductionHypothesis =>
        obtain ⟨id, config, moves⟩ := inductionHypothesis
        exact ⟨id, config, moves.trans (moves_requestDelegateFactory target source _)⟩
    | canCastValue sameRegistry named _ target value inductionHypothesis =>
        obtain ⟨id, config, moves⟩ := inductionHypothesis
        subst sameRegistry
        exact ⟨id, config, moves.trans ((Cast.follows_canCastValue _ target value).engines _ named)⟩
    | cast sameRegistry named _ target value inductionHypothesis =>
        obtain ⟨id, config, moves⟩ := inductionHypothesis
        subst sameRegistry
        exact ⟨id, config, moves.trans ((Cast.follows_cast _ target value).engines _ named)⟩
    | staticCast sameRegistry named _ shape source inductionHypothesis =>
        obtain ⟨id, config, moves⟩ := inductionHypothesis
        subst sameRegistry
        exact ⟨id, config, moves.trans ((Cast.follows_staticCast _ shape source).engines _ named)⟩
  obtain ⟨id, config, moves⟩ := start
  obtain ⟨sameId, sameConfig⟩ := moves.edits.sameId
  rw [sameId, sameConfig]
  exact moves

/-! ### Reachable engines are sound -/

theorem Sound.fresh (id : EngineId) (config : Config) : (Engine.fresh id config).Sound registry := by
  refine ⟨?_, ?_, ?_⟩
  · intro target source verdict found
    cases found
  · intro shape source factory found
    cases found
  · intro _ shape source factory found
    cases found

/-- One move keeps an engine sound. -/
theorem Move.sound {before after : Engine} (move : Move registry before after)
    (orderly : registry.Orderly) (plain : before.config.widen = true → registry.PlainBases)
    (sound : before.Sound registry) : after.Sound registry := by
  cases move with
  | change changes =>
      cases changes with
      | learn inquiry =>
          obtain ⟨verdicts, right, same⟩ := sound.analyzing_eq orderly plain inquiry
          rw [same]
          exact sound.with_verdicts right
      | keepDelegate => exact ⟨sound.verdicts, sound.generated, sound.widest⟩
      | keepStatic => exact ⟨sound.verdicts, sound.generated, sound.widest⟩
      | keepVerdict => exact ⟨sound.verdicts, sound.generated, sound.widest⟩
      | owners => exact ⟨sound.verdicts, sound.generated, sound.widest⟩
  | search shape source =>
      obtain ⟨after, evolves, same⟩ := sound.factory_eq orderly plain shape source
      rw [same]
      exact evolves.sound

/-- Any number of moves keeps an engine sound. -/
theorem Moves.sound {before after : Engine} (moves : Moves registry before after)
    (orderly : registry.Orderly) (plain : before.config.widen = true → registry.PlainBases)
    (sound : before.Sound registry) : after.Sound registry := by
  induction moves with
  | refl => exact sound
  | tail earlier step inductionHypothesis =>
      refine step.sound orderly ?_ inductionHypothesis
      rw [(Moves.edits earlier).sameId.2]
      exact plain

theorem Reachable.sound (reachable : Reachable registry engine) (orderly : registry.Orderly)
    (plain : engine.config.widen = true → registry.PlainBases) : engine.Sound registry :=
  reachable.moves.sound orderly plain (Sound.fresh _ _)

end StructuralCast.Engine
