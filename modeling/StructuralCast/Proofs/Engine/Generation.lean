import StructuralCast.Engine
import StructuralCast.Proofs.Compatibility.Guard
import StructuralCast.Proofs.Factory

/-!
Contract: what an engine generates for a pair of types, whatever it has found out before.

`Registry.generated` resolves a shape against a source type by conformance alone and plans the
conversions. An engine is sound if its verdicts are right, its factories are the generated ones, and,
where it widens, no type above the one that a factory is made for could have been adapted itself.
Then the questions of a resolution are answered by conformance (`Sound.analyzing_eq`), so resolution
is the same in all sound engines (`Sound.resolve_eq`).
-/

namespace StructuralCast

namespace Registry

/-- The blueprint of a pair, resolved by conformance. -/
noncomputable def resolved (registry : Registry) (onStatic : Bool) (shape source : TypeId) :
    Except CastError Blueprint :=
  (Resolution.blueprint registry Inquiry.question onStatic shape source).eval registry.verdict

/-- The factory of a pair, resolved by conformance. -/
noncomputable def generated (registry : Registry) (engine : EngineId) (shape source : TypeId) :
    Except CastError Factory := do
  let blueprint ← registry.resolved false shape source
  registry.synthesize engine blueprint

/-- No type has an interface as its base that extends other interfaces. -/
def PlainBases (registry : Registry) : Prop :=
  ∀ id base, registry.base? id = some base → registry.kind base = .interface →
    registry.extended base = []

instance (registry : Registry) : Decidable registry.PlainBases :=
  decidable_of_iff
    (∀ id ∈ registry.ids, ∀ base ∈ registry.base? id, registry.kind base = .interface →
      registry.extended base = []) <| by
    constructor
    · intro checked id base found
      by_cases issued : registry.issued id
      · exact checked id (mem_ids_iff.2 issued) base found
      · rw [base?_of_not_issued issued] at found
        cases found
    · exact fun plain id _ base found => plain id base found

variable {registry : Registry}

/-- A type offers all that the types above it offer. -/
theorem owners_of_mem_chain (orderly : registry.Orderly) (plain : registry.PlainBases)
    {ancestor source : TypeId} (member : ancestor ∈ registry.chain source) :
    Offer.owners registry ancestor false ⊆ Offer.owners registry source false := by
  rcases List.mem_cons.1 member with rfl | proper
  · exact List.Subset.refl _
  obtain ⟨base, hasBase, _⟩ := Relation.TransGen.head'_iff.1 (ancestors_transGen proper)
  have noInterface : (registry.info source).isInterface = false := by
    by_contra isInterface
    have kind : registry.kind source = .interface := by
      simpa [TypeInfo.isInterface, Registry.kind] using isInterface
    rw [orderly.roots source kind] at hasBase
    exact absurd hasBase (by simp)
  have whole : Offer.owners registry source false = registry.chain source := by
    simp [Offer.owners, noInterface]
  rw [whole]
  by_cases kind : registry.kind ancestor = .interface
  · -- An interface on a chain is the base of some type, so it extends nothing.
    obtain ⟨derived, _, isBase⟩ := Relation.TransGen.tail'_iff.1 (ancestors_transGen proper)
    have extendsNothing := plain derived ancestor isBase kind
    have only : Offer.owners registry ancestor false = [ancestor] := by
      have isInterface : (registry.info ancestor).isInterface = true := by
        simpa [TypeInfo.isInterface, Registry.kind] using kind
      have noInterfaces : registry.interfaces ancestor = [] := by
        simp [interfaces, chain_of_no_base (orderly.roots ancestor kind), extendsNothing, preorder,
          nextVisit]
      simp [Offer.owners, isInterface, noInterfaces]
    rw [only]
    intro owner isOwner
    rw [List.mem_singleton.1 isOwner]
    exact member
  · have isClass : (registry.info ancestor).isInterface = false := by
      simpa [TypeInfo.isInterface, Registry.kind] using kind
    have ofChain : Offer.owners registry ancestor false = registry.chain ancestor := by
      simp [Offer.owners, isClass]
    rw [ofChain]
    exact chain_subset orderly.grown orderly.acyclic member

/-- What a type above fulfils, the types below it fulfil. -/
theorem Fulfils.of_mem_chain (orderly : registry.Orderly) (plain : registry.PlainBases)
    {holds : TypeId → TypeId → Prop} {shape ancestor source : TypeId}
    (member : ancestor ∈ registry.chain source)
    (fulfilled : registry.Fulfils holds false shape ancestor) :
    registry.Fulfils holds false shape source := by
  obtain ⟨members, found, served⟩ := fulfilled
  refine ⟨members, found, fun required isRequired => ?_⟩
  obtain ⟨offered, isOffered, serves⟩ := served required isRequired
  obtain ⟨owner, isOwner, declared⟩ := mem_offer_iff.1 isOffered
  exact ⟨offered, mem_offer_iff.2 ⟨owner, owners_of_mem_chain orderly plain member isOwner, declared⟩,
    serves⟩

/-- A resolution that succeeds by conformance says that the shape is fulfilled. -/
theorem fulfils_of_resolved {onStatic : Bool} {shape source : TypeId} {blueprint : Blueprint}
    (resolves : registry.resolved onStatic shape source = .ok blueprint) :
    registry.Fulfils registry.Conforms onStatic shape source := by
  have outcome := Inquiry.outcome_eval registry.verdict
    (Resolution.blueprint registry Inquiry.question onStatic shape source)
  rw [resolved] at resolves
  rw [resolves] at outcome
  have fulfilled := Resolution.fulfils_of_blueprint outcome
  exact fulfilled.mono_on (fun _ _ _ => trivial) fun left right (_ : True) (_ : True) affirmed =>
    verdict_iff.1 affirmed.symm

theorem generated_eq_ok {engine : EngineId} {shape source : TypeId} {factory : Factory}
    (generates : registry.generated engine shape source = .ok factory) :
    registry.resolved false shape source = .ok factory.blueprint ∧
      registry.synthesize engine factory.blueprint = .ok factory := by
  unfold generated at generates
  cases resolves : registry.resolved false shape source with
  | error cause =>
      rw [resolves] at generates
      cases generates
  | ok blueprint =>
      rw [resolves] at generates
      have planned : registry.synthesize engine blueprint = .ok factory := generates
      obtain ⟨_, same, _⟩ := synthesize_eq_ok planned
      rw [same]
      exact ⟨rfl, planned⟩

/-- A generated factory is the one for the pair. -/
theorem subject_of_generated {engine : EngineId} {shape source : TypeId} {factory : Factory}
    (generates : registry.generated engine shape source = .ok factory) :
    factory.shape = shape ∧ factory.source = source ∧ factory.isStatic = false := by
  have outcome := Inquiry.outcome_eval registry.verdict
    (Resolution.blueprint registry Inquiry.question false shape source)
  have resolves := (generated_eq_ok generates).1
  rw [resolved] at resolves
  rw [resolves] at outcome
  exact Resolution.subject_of_blueprint outcome

/-- Another engine generates the same under its own name, or fails for the same cause. -/
theorem generated_rename (engine other : EngineId) (shape source : TypeId) :
    registry.generated other shape source =
      (registry.generated engine shape source).map fun factory =>
        { factory with engine := other } := by
  unfold generated
  cases registry.resolved false shape source with
  | error cause => rfl
  | ok blueprint => exact synthesize_rename engine other blueprint

theorem fulfils_of_generated {engine : EngineId} {shape source : TypeId} {factory : Factory}
    (generates : registry.generated engine shape source = .ok factory) :
    registry.Fulfils registry.Conforms false shape source :=
  fulfils_of_resolved (generated_eq_ok generates).1

end Registry

namespace Engine

variable {registry : Registry} {engine : Engine}

/-- What is true of the engines that have only ever answered questions about one registry. -/
structure Sound (registry : Registry) (engine : Engine) : Prop where
  verdicts : registry.VerdictsSound engine.verdicts
  generated : ∀ shape source factory, engine.interfaces.find? shape source = some factory →
    registry.generated engine.id shape source = .ok factory
  widest : engine.config.widen = true →
    ∀ shape source factory, engine.interfaces.find? shape source = some factory →
      ∀ ancestor ∈ registry.chain source, ancestor ≠ source →
        ∃ cause, registry.generated engine.id shape ancestor = .error cause

/-- Every candidate is on the chain of the source. -/
theorem mem_chain_of_mem_candidates {source candidate : TypeId}
    (member : candidate ∈ engine.candidates registry source) : candidate ∈ registry.chain source := by
  unfold candidates at member
  split at member
  case isTrue => exact List.mem_reverse.1 member
  case isFalse =>
    rw [List.mem_singleton.1 member]
    exact Registry.mem_chain_self source

/-- What counts as ready in a sound engine conforms. -/
theorem Sound.setting (sound : engine.Sound registry) (orderly : registry.Orderly)
    (plain : engine.config.widen = true → registry.PlainBases) :
    (Setting.mk registry (engine.hasFactory registry)).Sound := by
  intro target source isShape ready
  obtain ⟨factory, found⟩ := Option.isSome_iff_exists.1 ready
  obtain ⟨candidate, isCandidate, stored⟩ := List.exists_of_findSome?_eq_some found
  have fulfilled := Registry.fulfils_of_generated (sound.generated target candidate factory stored)
  have below : registry.Fulfils registry.Conforms false target source := by
    by_cases widens : engine.config.widen = true
    · exact fulfilled.of_mem_chain orderly (plain widens) (mem_chain_of_mem_candidates isCandidate)
    · simp only [candidates, if_neg widens, List.mem_singleton] at isCandidate
      exact isCandidate ▸ fulfilled
  exact Registry.conforms_of_supports (.shape isShape below)

/-- Other verdicts that are right do no harm. -/
theorem Sound.with_verdicts (sound : engine.Sound registry) {verdicts : PairTable Bool}
    (right : registry.VerdictsSound verdicts) :
    Sound registry { engine with verdicts := verdicts } :=
  ⟨right, sound.generated, sound.widest⟩

/-- An analysis in a sound engine answers by conformance, and all that it changes is that more
verdicts are known. -/
theorem Sound.analyzing_eq {α : Type} (sound : engine.Sound registry) (orderly : registry.Orderly)
    (plain : engine.config.widen = true → registry.PlainBases) (inquiry : Setting → Inquiry α) :
    ∃ verdicts, registry.VerdictsSound verdicts ∧
      analyzing registry (fun setting => (inquiry setting).interpret (ask setting)) engine =
        ((inquiry ⟨registry, engine.hasFactory registry⟩).eval registry.verdict,
          { engine with verdicts := verdicts }) := by
  obtain ⟨right, same⟩ := Compatibility.interpret_nil (sound.setting orderly plain)
    (inquiry ⟨registry, engine.hasFactory registry⟩) ⟨engine.verdicts, none⟩ sound.verdicts
  refine ⟨_, right, ?_⟩
  rw [← same]
  rfl

end Engine
end StructuralCast
