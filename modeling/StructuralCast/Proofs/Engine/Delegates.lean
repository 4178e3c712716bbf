import StructuralCast.Proofs.Engine.Invariant

/-!
Contract: the delegate factory that an engine hands out for a pair.

`Sound` is about verdicts and about the factories of shapes. A delegate factory is only made after the
engine has answered yes to the question about the two types, and in a sound engine that answer is the
one by conformance. So it lasts that all delegate factories that are kept are generated ones
(`lasting_delegates`), and what an engine hands out or refuses depends on the types alone
(`Reachable.delegateFactory_eq`). In particular, it is for types that conform
(`Reachable.conforms_of_delegateFactory`).
-/

namespace StructuralCast.Engine

open Step

/-- The delegate factory of a pair, where the question about it is answered by conformance. -/
noncomputable def delegateGenerated (registry : Registry) (engine : EngineId)
    (target source : TypeId) : Except CastError DelegateFactory :=
  if (registry.delegateQuestion target source).eval registry.verdict then
    registry.synthesizeDelegate engine target source
  else .error (noCast registry target source)

/-- Every delegate factory that an engine keeps is the one that is generated for its pair. -/
def DelegatesGenerated (registry : Registry) (engine : Engine) : Prop :=
  ∀ target source factory, engine.delegates.find? target source = some factory →
    delegateGenerated registry engine.id target source = .ok factory

variable {registry : Registry} {engine after : Engine} {target source : TypeId}

/-- A delegate factory is generated only for types that conform. -/
theorem conforms_of_delegateGenerated {id : EngineId} {made : DelegateFactory}
    (generates : delegateGenerated registry id target source = .ok made) :
    registry.Conforms target source := by
  unfold delegateGenerated at generates
  split at generates
  case isFalse => cases generates
  case isTrue accepted =>
    have outcome := Inquiry.outcome_eval registry.verdict (registry.delegateQuestion target source)
    rw [accepted] at outcome
    rcases Strategy.supports_of_accepts outcome with grounds | ⟨_, impossible⟩
    · exact Registry.conforms_of_supports (grounds.mono fun _ _ affirmed =>
        Registry.verdict_iff.1 affirmed.symm)
    · cases impossible

/-- A search for a factory leaves the delegate factories alone. -/
theorem delegates_factory (shape source : TypeId) (engine : Engine) :
    ((factory registry shape source).run engine).2.delegates = engine.delegates := by
  have exact : ∀ (candidate : TypeId) (between : Engine),
      Leads (Keeps fun later => later.delegates = engine.delegates) between
        (exactFactory registry shape candidate) := by
    intro candidate between
    unfold exactFactory
    refine Leads.get_bind ?_
    cases between.interfaces.find? shape candidate with
    | some kept => exact Leads.pure kept
    | none =>
        refine Leads.bind (fun same => same) fun blueprint resolved _ => ?_
        refine Leads.get_bind (Leads.bind (Leads.raising _) fun made planned _ => ?_)
        exact fun same => same
  exact leads_factory exact source engine rfl

/-- What a sound engine hands out for two delegate types is what is generated for them, and so is all
that it keeps then. -/
theorem Sound.delegateFactory_eq (sound : engine.Sound registry) (orderly : registry.Orderly)
    (plain : engine.config.widen = true → registry.PlainBases)
    (generated : DelegatesGenerated registry engine) (target source : TypeId) :
    ((delegateFactory registry target source).run engine).1 =
        delegateGenerated registry engine.id target source ∧
      DelegatesGenerated registry ((delegateFactory registry target source).run engine).2 := by
  rw [delegateFactory_apply]
  cases stored : engine.delegates.find? target source with
  | some kept => exact ⟨(generated target source kept stored).symm, generated⟩
  | none =>
      obtain ⟨verdicts, _, same⟩ := sound.analyzing_eq orderly plain fun _ =>
        registry.delegateQuestion target source
      rw [same]
      cases accepted : (registry.delegateQuestion target source).eval registry.verdict with
      | false =>
          refine ⟨?_, generated⟩
          simp only [delegateGenerated, accepted]
          rfl
      | true =>
          have generates : delegateGenerated registry engine.id target source =
              registry.synthesizeDelegate engine.id target source := by
            rw [delegateGenerated, if_pos accepted]
          dsimp only
          rw [generates]
          cases planned : registry.synthesizeDelegate engine.id target source with
          | error cause => exact ⟨rfl, generated⟩
          | ok made =>
              refine ⟨rfl, fun target' source' factory found => ?_⟩
              rcases PairTable.of_find?_insert found with earlier | ⟨rfl, rfl, rfl⟩
              · exact generated _ _ _ earlier
              · exact generates.trans planned

/-- An engine stays sound and keeps generated delegate factories only, if the registry suits it. -/
theorem lasting_delegates (orderly : registry.Orderly) :
    Lasting registry fun engine => (engine.config.widen = true → registry.PlainBases) →
      engine.Sound registry ∧ DelegatesGenerated registry engine where
  fresh id config := by
    intro _
    refine ⟨Sound.fresh id config, ?_⟩
    intro target source factory found
    cases found
  learn inquiry engine held := by
    intro plain
    obtain ⟨sound, generated⟩ := held plain
    obtain ⟨verdicts, right, same⟩ := sound.analyzing_eq orderly plain inquiry
    rw [same]
    exact ⟨sound.with_verdicts right, generated⟩
  search shape source engine held := by
    intro plain
    have edits : Edits registry engine ((factory registry shape source).run engine).2 :=
      edits_factory shape source engine
    rw [edits.sameId.2] at plain
    obtain ⟨sound, generated⟩ := held plain
    obtain ⟨after, evolves, same⟩ := sound.factory_eq orderly plain shape source
    have unchanged : ((factory registry shape source).run engine).2.delegates = engine.delegates :=
      delegates_factory shape source engine
    rw [same] at unchanged ⊢
    refine ⟨evolves.sound, fun target' source' factory found => ?_⟩
    rw [evolves.sameId]
    exact generated target' source' factory (unchanged ▸ found)
  delegate target source engine held := by
    intro plain
    have moves : Moves registry engine ((delegateFactory registry target source).run engine).2 :=
      moves_delegateFactory target source engine
    rw [moves.edits.sameId.2] at plain
    obtain ⟨sound, generated⟩ := held plain
    exact ⟨Moves.sound moves orderly plain sound,
      (sound.delegateFactory_eq orderly plain generated target source).2⟩
  aside engine _ _ _ held := by
    intro plain
    obtain ⟨sound, generated⟩ := held plain
    exact ⟨⟨sound.verdicts, sound.generated, sound.widest⟩, generated⟩

/-- What a reachable engine hands out for two delegate types, or refuses, depends on the types alone. -/
theorem Reachable.delegateFactory_eq (reachable : Reachable registry engine)
    (orderly : registry.Orderly) (plain : engine.config.widen = true → registry.PlainBases)
    (target source : TypeId) :
    ((delegateFactory registry target source).run engine).1 =
      delegateGenerated registry engine.id target source := by
  obtain ⟨sound, generated⟩ := reachable.invariant (lasting_delegates orderly) plain
  exact (sound.delegateFactory_eq orderly plain generated target source).1

/-- What a reachable engine hands out for two delegate types is for types that conform. -/
theorem Reachable.conforms_of_delegateFactory (reachable : Reachable registry engine)
    (orderly : registry.Orderly) (plain : engine.config.widen = true → registry.PlainBases)
    {made : DelegateFactory}
    (hands : (delegateFactory registry target source).run engine = (.ok made, after)) :
    registry.Conforms target source := by
  have handed := reachable.delegateFactory_eq orderly plain target source
  rw [hands] at handed
  exact conforms_of_delegateGenerated handed.symm

end StructuralCast.Engine
