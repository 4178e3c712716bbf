import StructuralCast.Proofs.Engine.Generation
import StructuralCast.Proofs.Step

/-!
Contract: the factory that a sound engine hands out for a pair.

`Engine.factory` first looks for a factory of any type on the chain, and only then makes one. In a
sound engine both come to the same: of the types on the chain, the most general one that can be
adapted is the one whose factory is handed out (`Sound.factory_eq`), so `Registry.widest` says what
the answer is without mentioning what the engine has stored.
-/

namespace StructuralCast

namespace Registry

/-- The first factory that can be generated for a list of types, or else what the last one gives. -/
noncomputable def firstGenerated (registry : Registry) (engine : EngineId) (shape last : TypeId) :
    List TypeId → Except CastError Factory
  | [] => registry.generated engine shape last
  | candidate :: rest =>
    match registry.generated engine shape candidate with
    | .ok factory => .ok factory
    | .error _ => registry.firstGenerated engine shape last rest

variable {registry : Registry} {engine : EngineId} {shape last : TypeId}

/-- The first type that allows a factory decides. -/
theorem firstGenerated_of_first {before rest : List TypeId} {chosen : TypeId} {factory : Factory}
    {candidates : List TypeId} (split : candidates ++ [last] = before ++ chosen :: rest)
    (failed : ∀ earlier ∈ before, ∃ cause, registry.generated engine shape earlier = .error cause)
    (generates : registry.generated engine shape chosen = .ok factory) :
    registry.firstGenerated engine shape last candidates = .ok factory := by
  induction candidates generalizing before with
  | nil =>
      cases before with
      | nil =>
          have same : last = chosen := (List.cons.inj split).1
          rw [firstGenerated, same]
          exact generates
      | cons head tail =>
          have length := congrArg List.length split
          simp at length
  | cons candidate others inductionHypothesis =>
      cases before with
      | nil =>
          have same : candidate = chosen := (List.cons.inj split).1
          simp only [firstGenerated, same, generates]
      | cons head tail =>
          obtain ⟨rfl, further⟩ := List.cons.inj split
          obtain ⟨cause, fails⟩ := failed candidate List.mem_cons_self
          simp only [firstGenerated, fails]
          exact inductionHypothesis further fun earlier member =>
            failed earlier (List.mem_cons_of_mem _ member)

/-- If no type allows a factory, the last one tells why. -/
theorem firstGenerated_of_none {candidates : List TypeId}
    (failed : ∀ candidate ∈ candidates, ∃ cause,
      registry.generated engine shape candidate = .error cause) :
    registry.firstGenerated engine shape last candidates = registry.generated engine shape last := by
  induction candidates with
  | nil => rfl
  | cons candidate others inductionHypothesis =>
      obtain ⟨cause, fails⟩ := failed candidate List.mem_cons_self
      simp only [firstGenerated, fails]
      exact inductionHypothesis fun earlier member => failed earlier (List.mem_cons_of_mem _ member)

/-- What is found was generated for one of the types. -/
theorem exists_of_firstGenerated {candidates : List TypeId} {factory : Factory}
    (finds : registry.firstGenerated engine shape last candidates = .ok factory) :
    ∃ candidate ∈ candidates ++ [last], registry.generated engine shape candidate = .ok factory := by
  induction candidates with
  | nil => exact ⟨last, List.mem_singleton.2 rfl, finds⟩
  | cons candidate rest inductionHypothesis =>
      rw [firstGenerated] at finds
      split at finds
      case h_1 generates =>
        cases finds
        exact ⟨candidate, List.mem_cons_self, generates⟩
      case h_2 =>
        obtain ⟨further, member, generates⟩ := inductionHypothesis finds
        exact ⟨further, List.mem_cons_of_mem _ member, generates⟩

/-- A search that fails tells why the last type fails. -/
theorem generated_of_firstGenerated {candidates : List TypeId} {cause : CastError}
    (fails : registry.firstGenerated engine shape last candidates = .error cause) :
    registry.generated engine shape last = .error cause := by
  induction candidates with
  | nil => exact fails
  | cons candidate rest inductionHypothesis =>
      rw [firstGenerated] at fails
      split at fails
      case h_1 => cases fails
      case h_2 => exact inductionHypothesis fails

end Registry

namespace Engine

open Step

variable {registry : Registry}

/-! ### The equations of the search -/

theorem run_raising {α : Type} (outcome : Except CastError α) (engine : Engine) :
    (raising outcome).run engine = (outcome, engine) := rfl

/-- Resolves a shape against exactly one source type and plans the conversions. -/
def generate (registry : Registry) (shape source : TypeId) : EngineStep Factory := do
  let blueprint ← resolve registry false shape source
  raising (registry.synthesize (← get).id blueprint)

/-- What is not ready yet is generated and kept. -/
theorem exactFactory_apply (registry : Registry) (shape source : TypeId) (engine : Engine) :
    (exactFactory registry shape source).run engine =
      match engine.interfaces.find? shape source with
      | some factory => (.ok factory, engine)
      | none =>
        match (generate registry shape source).run engine with
        | (.error cause, after) => (.error cause, after)
        | (.ok factory, after) =>
          (.ok factory,
            { after with interfaces := after.interfaces.insert shape source factory }) := by
  unfold exactFactory generate
  rw [run_bind, run_bind]
  show (match engine.interfaces.find? shape source with
    | some factory => _
    | none => _ : EngineStep Factory).run engine = _
  cases engine.interfaces.find? shape source with
  | some factory => rfl
  | none =>
    dsimp only
    rw [run_bind]
    obtain ⟨outcome, after⟩ := (resolve registry false shape source).run engine
    cases outcome with
    | error cause => rfl
    | ok blueprint =>
      show ((raising (registry.synthesize after.id blueprint) >>= _ : EngineStep Factory)).run after =
        match (raising (registry.synthesize after.id blueprint)).run after with
        | (.error cause, after) => _
        | (.ok factory, after) => _
      rw [run_bind, run_raising]
      cases registry.synthesize after.id blueprint with
      | error cause => rfl
      | ok factory => rfl

/-! ### What sound engines answer -/

/-- How an engine may change while it answers questions about a registry. -/
structure Evolves (registry : Registry) (before after : Engine) : Prop where
  sameId : after.id = before.id
  sameConfig : after.config = before.config
  sound : after.Sound registry

theorem Evolves.trans {before between after : Engine} (first : Evolves registry before between)
    (second : Evolves registry between after) : Evolves registry before after :=
  ⟨second.sameId.trans first.sameId, second.sameConfig.trans first.sameConfig, second.sound⟩

theorem Sound.evolves {engine : Engine} (sound : engine.Sound registry) :
    Evolves registry engine engine :=
  ⟨rfl, rfl, sound⟩

/-- A generated factory may be stored if no type above its source allows one. -/
theorem Sound.store {engine : Engine} (sound : engine.Sound registry) {shape source : TypeId}
    {factory : Factory} (generates : registry.generated engine.id shape source = .ok factory)
    (above : engine.config.widen = true → ∀ ancestor ∈ registry.chain source, ancestor ≠ source →
      ∃ cause, registry.generated engine.id shape ancestor = .error cause) :
    Sound registry { engine with interfaces := engine.interfaces.insert shape source factory } := by
  refine ⟨sound.verdicts, ?_, ?_⟩
  · intro shape' source' factory' found
    rcases PairTable.of_find?_insert found with earlier | ⟨rfl, rfl, rfl⟩
    · exact sound.generated _ _ _ earlier
    · exact generates
  · intro widens shape' source' factory' found
    rcases PairTable.of_find?_insert found with earlier | ⟨rfl, rfl, rfl⟩
    · exact sound.widest widens _ _ _ earlier
    · exact above widens

section Answers

variable {engine : Engine} (sound : engine.Sound registry) (orderly : registry.Orderly)
  (plain : engine.config.widen = true → registry.PlainBases)

include sound orderly plain

/-- Resolution in a sound engine is resolution by conformance. -/
theorem Sound.resolve_eq (onStatic : Bool) (shape source : TypeId) :
    ∃ after, Evolves registry engine after ∧
      (resolve registry onStatic shape source).run engine =
        (registry.resolved onStatic shape source, after) := by
  obtain ⟨verdicts, right, same⟩ := sound.analyzing_eq orderly plain
    fun _ => Resolution.blueprint registry Inquiry.question onStatic shape source
  refine ⟨{ engine with verdicts := verdicts }, ⟨rfl, rfl, sound.with_verdicts right⟩, ?_⟩
  simp only [Resolution.interpret_blueprint] at same
  exact same

/-- Generation in a sound engine is generation by conformance. -/
theorem Sound.generate_eq (shape source : TypeId) :
    ∃ after, Evolves registry engine after ∧
      (generate registry shape source).run engine =
        (registry.generated engine.id shape source, after) := by
  obtain ⟨after, evolves, resolves⟩ := sound.resolve_eq orderly plain false shape source
  refine ⟨after, evolves, ?_⟩
  rw [generate, run_bind, resolves, Registry.generated, ← evolves.sameId]
  cases registry.resolved false shape source with
  | error cause => rfl
  | ok blueprint => rfl

/-- The factory for exactly one pair, where no type above the source allows one. -/
theorem Sound.exactFactory_eq (shape source : TypeId)
    (above : engine.config.widen = true → ∀ ancestor ∈ registry.chain source, ancestor ≠ source →
      ∃ cause, registry.generated engine.id shape ancestor = .error cause) :
    ∃ after, Evolves registry engine after ∧
      (exactFactory registry shape source).run engine =
        (registry.generated engine.id shape source, after) := by
  rw [exactFactory_apply]
  cases stored : engine.interfaces.find? shape source with
  | some factory =>
      refine ⟨engine, sound.evolves, ?_⟩
      rw [sound.generated shape source factory stored]
  | none =>
      obtain ⟨after, evolves, generates⟩ := sound.generate_eq orderly plain shape source
      rw [generates]
      cases outcome : registry.generated engine.id shape source with
      | error cause => exact ⟨after, evolves, rfl⟩
      | ok factory =>
          refine ⟨{ after with interfaces := after.interfaces.insert shape source factory },
            ⟨evolves.sameId, evolves.sameConfig, evolves.sound.store ?_ ?_⟩, rfl⟩
          · rw [evolves.sameId, outcome]
          · intro widens ancestor member proper
            rw [evolves.sameId]
            exact above (evolves.sameConfig ▸ widens) ancestor member proper

end Answers

theorem firstFactory_apply (registry : Registry) (shape last candidate : TypeId)
    (rest : List TypeId) (engine : Engine) :
    (firstFactory registry shape last (candidate :: rest)).run engine =
      match (exactFactory registry shape candidate).run engine with
      | (.ok factory, after) => (.ok factory, after)
      | (.error _, after) => (firstFactory registry shape last rest).run after := by
  rw [firstFactory, run_tryCatch]
  obtain ⟨outcome, after⟩ := (exactFactory registry shape candidate).run engine
  cases outcome with
  | ok factory => rfl
  | error cause => rfl

/-- A search ends with the factory of a candidate, or it goes on without that one. -/
theorem cases_of_firstFactory {registry : Registry} {shape last candidate : TypeId}
    {rest : List TypeId} {engine after : Engine} {outcome : Except CastError Factory}
    (ran : (firstFactory registry shape last (candidate :: rest)).run engine = (outcome, after)) :
    (∃ made, (exactFactory registry shape candidate).run engine = (.ok made, after) ∧
        outcome = .ok made) ∨
      ∃ cause between, (exactFactory registry shape candidate).run engine = (.error cause, between) ∧
        (firstFactory registry shape last rest).run between = (outcome, after) := by
  rw [firstFactory_apply] at ran
  cases exact : (exactFactory registry shape candidate).run engine with
  | mk tried between =>
      rw [exact] at ran
      cases tried with
      | ok made =>
          cases ran
          exact .inl ⟨made, rfl, rfl⟩
      | error cause => exact .inr ⟨cause, between, rfl, ran⟩

theorem factory_apply (registry : Registry) (shape source : TypeId) (engine : Engine) :
    (factory registry shape source).run engine =
      match engine.readyFactory? registry shape source with
      | some ready => (.ok ready, engine)
      | none =>
        (firstFactory registry shape source
          ((engine.candidates registry source).filter (· ≠ source))).run engine := by
  unfold factory
  rw [run_bind]
  show (match engine.readyFactory? registry shape source with
    | some ready => _
    | none => _ : EngineStep Factory).run engine = _
  cases engine.readyFactory? registry shape source with
  | some ready => rfl
  | none => rfl

/-! ### What is handed out is kept -/

theorem interfaces_generate (shape source : TypeId) (engine : Engine) :
    ((generate registry shape source).run engine).2.interfaces = engine.interfaces := by
  have resolved : ((resolve registry false shape source).run engine).2.interfaces =
      engine.interfaces := rfl
  rw [generate, run_bind]
  generalize (resolve registry false shape source).run engine = run at resolved ⊢
  obtain ⟨outcome, between⟩ := run
  cases outcome with
  | error cause => exact resolved
  | ok blueprint => exact resolved

theorem kept_of_exactFactory {shape source : TypeId} {engine after : Engine} {kept : Factory}
    (hands : (exactFactory registry shape source).run engine = (.ok kept, after)) :
    after.interfaces.find? shape source = some kept := by
  rw [exactFactory_apply] at hands
  cases stored : engine.interfaces.find? shape source with
  | some ready =>
      rw [stored] at hands
      cases hands
      exact stored
  | none =>
      have unchanged : ((generate registry shape source).run engine).2.interfaces =
          engine.interfaces := interfaces_generate shape source engine
      rw [stored] at hands
      generalize (generate registry shape source).run engine = run at hands unchanged
      obtain ⟨outcome, between⟩ := run
      cases outcome with
      | error cause => cases hands
      | ok generated =>
          cases hands
          have isNew : between.interfaces.find? shape source = none := unchanged ▸ stored
          exact PairTable.find?_insert_of_missing kept isNew

theorem kept_of_firstFactory {shape last : TypeId} {candidates : List TypeId}
    {engine after : Engine} {kept : Factory}
    (hands : (firstFactory registry shape last candidates).run engine = (.ok kept, after)) :
    ∃ source, after.interfaces.find? shape source = some kept := by
  induction candidates generalizing engine with
  | nil => exact ⟨last, kept_of_exactFactory hands⟩
  | cons candidate rest inductionHypothesis =>
      rcases cases_of_firstFactory hands with ⟨made, exact, same⟩ | ⟨_, between, _, further⟩
      · cases same
        exact ⟨candidate, kept_of_exactFactory exact⟩
      · exact inductionHypothesis further

/-- A factory that an engine hands out is one that it keeps for some source type. -/
theorem kept_of_factory {shape source : TypeId} {engine after : Engine} {kept : Factory}
    (hands : (factory registry shape source).run engine = (.ok kept, after)) :
    ∃ owner, after.interfaces.find? shape owner = some kept := by
  rw [factory_apply] at hands
  cases ready : engine.readyFactory? registry shape source with
  | some factory =>
      rw [ready] at hands
      cases hands
      obtain ⟨owner, _, stored⟩ := List.exists_of_findSome?_eq_some ready
      exact ⟨owner, stored⟩
  | none =>
      rw [ready] at hands
      exact kept_of_firstFactory hands

/-! ### The answer of the search -/

/-- What the search for the most general type comes to, if it starts from nothing. -/
noncomputable def mostGeneral (registry : Registry) (engine : Engine) (shape source : TypeId) :
    Except CastError Factory :=
  registry.firstGenerated engine.id shape source
    ((engine.candidates registry source).filter (· ≠ source))

/-- The source is the last candidate. -/
theorem candidates_eq (acyclic : registry.Acyclic) (engine : Engine) (source : TypeId) :
    engine.candidates registry source =
      (engine.candidates registry source).filter (· ≠ source) ++ [source] := by
  unfold candidates
  split
  case isFalse => simp
  case isTrue =>
    have distinct := Registry.chain_nodup acyclic source
    unfold Registry.chain at distinct ⊢
    have others : (registry.ancestors registry.size source).filter (· ≠ source) =
        registry.ancestors registry.size source := by
      rw [List.filter_eq_self]
      intro ancestor member
      have different : ancestor ≠ source := by
        rintro rfl
        exact (List.nodup_cons.1 distinct).1 member
      simpa using different
    rw [List.reverse_cons, List.filter_append, List.filter_reverse, others]
    simp

/-- All types above a candidate come before it. -/
theorem failed_above (orderly : registry.Orderly) {id : EngineId} {shape source candidate : TypeId}
    {before rest : List TypeId} (split : (registry.chain source).reverse = before ++ candidate :: rest)
    (failed : ∀ earlier ∈ before, ∃ cause, registry.generated id shape earlier = .error cause) :
    ∀ ancestor ∈ registry.chain candidate, ancestor ≠ candidate →
      ∃ cause, registry.generated id shape ancestor = .error cause := by
  intro ancestor member proper
  rw [Registry.chain_of_reverse_split orderly.grown orderly.acyclic split] at member
  exact failed ancestor (List.mem_reverse.1 ((List.mem_cons.1 member).resolve_left proper))

/-- Down a chain on which all types so far have failed, the first that allows a factory decides. -/
theorem Sound.firstFactory_eq {engine : Engine} (sound : engine.Sound registry)
    (orderly : registry.Orderly) (plain : registry.PlainBases) (shape last : TypeId)
    (tried candidates : List TypeId)
    (split : (registry.chain last).reverse = tried ++ (candidates ++ [last]))
    (failed : ∀ earlier ∈ tried, ∃ cause, registry.generated engine.id shape earlier = .error cause) :
    ∃ after, Evolves registry engine after ∧
      (firstFactory registry shape last candidates).run engine =
        (registry.firstGenerated engine.id shape last candidates, after) := by
  induction candidates generalizing engine tried with
  | nil => exact sound.exactFactory_eq orderly (fun _ => plain) shape last fun _ =>
      failed_above orderly split failed
  | cons candidate rest inductionHypothesis =>
      obtain ⟨between, evolves, exact⟩ :=
        sound.exactFactory_eq orderly (fun _ => plain) shape candidate fun _ =>
          failed_above orderly split failed
      rw [firstFactory_apply, exact, Registry.firstGenerated]
      cases outcome : registry.generated engine.id shape candidate with
      | ok factory => exact ⟨between, evolves, rfl⟩
      | error cause =>
          have splitFurther : (registry.chain last).reverse =
              (tried ++ [candidate]) ++ (rest ++ [last]) := by simpa using split
          have failedFurther : ∀ earlier ∈ tried ++ [candidate],
              ∃ cause, registry.generated between.id shape earlier = .error cause := by
            intro earlier member
            rw [evolves.sameId]
            rcases List.mem_append.1 member with before | here
            · exact failed earlier before
            · exact List.mem_singleton.1 here ▸ ⟨cause, outcome⟩
          obtain ⟨after, evolvesFurther, result⟩ :=
            inductionHypothesis evolves.sound (tried ++ [candidate]) splitFurther failedFurther
          refine ⟨after, evolves.trans evolvesFurther, ?_⟩
          rw [evolves.sameId] at result
          exact result

/-- The most general type on the chain that allows a factory decides. -/
theorem mostGeneral_of_chosen (orderly : registry.Orderly) {engine : Engine}
    (widens : engine.config.widen = true) {shape source chosen : TypeId} {made : Factory}
    (member : chosen ∈ registry.chain source)
    (generates : registry.generated engine.id shape chosen = .ok made)
    (above : ∀ ancestor ∈ registry.chain chosen, ancestor ≠ chosen →
      ∃ cause, registry.generated engine.id shape ancestor = .error cause) :
    engine.mostGeneral registry shape source = .ok made := by
  obtain ⟨before, rest, split⟩ := List.append_of_mem (List.mem_reverse.2 member)
  have chain := Registry.chain_of_reverse_split orderly.grown orderly.acyclic split
  have distinct := Registry.chain_nodup orderly.acyclic chosen
  rw [chain] at distinct above
  have failed : ∀ earlier ∈ before,
      ∃ cause, registry.generated engine.id shape earlier = .error cause := by
    intro earlier isEarlier
    have inChain : earlier ∈ before.reverse := List.mem_reverse.2 isEarlier
    refine above earlier (List.mem_cons_of_mem _ inChain) ?_
    rintro rfl
    exact (List.nodup_cons.1 distinct).1 inChain
  have whole : (engine.candidates registry source).filter (· ≠ source) ++ [source] =
      before ++ chosen :: rest := by
    rw [← candidates_eq orderly.acyclic, candidates, if_pos widens, split]
  exact Registry.firstGenerated_of_first whole failed generates

/-- If no type on the chain allows a factory, the source itself tells why. -/
theorem mostGeneral_of_none {engine : Engine} {shape source : TypeId}
    (failed : ∀ candidate ∈ registry.chain source,
      ∃ cause, registry.generated engine.id shape candidate = .error cause) :
    engine.mostGeneral registry shape source = registry.generated engine.id shape source := by
  refine Registry.firstGenerated_of_none fun candidate member => ?_
  exact failed candidate (mem_chain_of_mem_candidates (List.mem_of_mem_filter member))

/-- A factory that a sound engine hands out, or its refusal, depends on the types alone. -/
theorem Sound.factory_eq {engine : Engine} (sound : engine.Sound registry)
    (orderly : registry.Orderly) (plain : engine.config.widen = true → registry.PlainBases)
    (shape source : TypeId) :
    ∃ after, Evolves registry engine after ∧
      (factory registry shape source).run engine = (engine.mostGeneral registry shape source, after) := by
  rw [factory_apply]
  cases ready : engine.readyFactory? registry shape source with
  | some factory =>
      refine ⟨engine, sound.evolves, ?_⟩
      obtain ⟨before, chosen, rest, split, stored, _⟩ := List.findSome?_eq_some_iff.1 ready
      have failed : ∀ earlier ∈ before,
          ∃ cause, registry.generated engine.id shape earlier = .error cause := by
        intro earlier member
        by_cases widens : engine.config.widen = true
        · rw [candidates, if_pos widens] at split
          have chain := Registry.chain_of_reverse_split orderly.grown orderly.acyclic split
          have distinct := Registry.chain_nodup orderly.acyclic chosen
          rw [chain] at distinct
          refine sound.widest widens shape chosen factory stored earlier ?_ ?_
          · rw [chain]
            exact List.mem_cons_of_mem _ (List.mem_reverse.2 member)
          · rintro rfl
            exact (List.nodup_cons.1 distinct).1 (List.mem_reverse.2 member)
        · rw [candidates, if_neg widens] at split
          have length := congrArg List.length split
          have none : before = [] := List.length_eq_zero_iff.1 (by simp at length; omega)
          exact absurd (none ▸ member) List.not_mem_nil
      rw [candidates_eq orderly.acyclic] at split
      rw [mostGeneral, Registry.firstGenerated_of_first split failed
        (sound.generated shape chosen factory stored)]
  | none =>
      by_cases widens : engine.config.widen = true
      · refine sound.firstFactory_eq orderly (plain widens) shape source [] _ ?_ ?_
        · have whole := candidates_eq orderly.acyclic engine source
          rw [candidates, if_pos widens] at whole
          rw [candidates, if_pos widens]
          exact whole
        · exact fun earlier member => absurd member List.not_mem_nil
      · have only : (engine.candidates registry source).filter (· ≠ source) = [] := by
          simp [candidates, widens]
        rw [mostGeneral, only]
        exact sound.exactFactory_eq orderly plain shape source fun widens' => absurd widens' widens

end Engine
end StructuralCast
