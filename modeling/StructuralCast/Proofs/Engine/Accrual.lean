import StructuralCast.Proofs.Compatibility.Replay
import StructuralCast.Proofs.Engine.Planned
import StructuralCast.Proofs.Registry.Development

/-!
Contract: what an engine has found out stays found out.

A table `Accrues` if no entry is lost or overwritten, and an engine does if all its tables do. Every
edit of an engine lets it accrue (`Edit.accrues`), whatever it asks on the way, and so does everything
that an engine is asked to do. None of this depends on whether its answers are right.

`Accrues.isPrepared` is about engines over a registry that has grown in the meantime: a chain that gets
longer has all the ancestors that it had.
-/

namespace StructuralCast

/-- No entry is lost or overwritten. -/
structure PairTable.Accrues {α : Type} (before after : PairTable α) : Prop where
  keeps : after.Extends before
  size : before.size ≤ after.size

namespace PairTable

variable {α : Type} {before between after : PairTable α}

theorem Accrues.refl (table : PairTable α) : table.Accrues table := ⟨.refl table, Nat.le_refl _⟩

theorem Accrues.trans (first : before.Accrues between) (further : between.Accrues after) :
    before.Accrues after :=
  ⟨further.keeps.trans first.keeps, first.size.trans further.size⟩

theorem accrues_insert (table : PairTable α) (target source : TypeId) (entry : α) :
    table.Accrues (table.insert target source entry) :=
  ⟨table.extends_insert target source entry, table.size_le_insert target source entry⟩

theorem Accrues.contains (accrues : before.Accrues after) {target source : TypeId}
    (present : before.contains target source = true) : after.contains target source = true := by
  obtain ⟨entry, found⟩ := Option.isSome_iff_exists.1 present
  exact Option.isSome_iff_exists.2 ⟨entry, accrues.keeps target source entry found⟩

end PairTable

namespace Engine

variable {registry : Registry} {before between after : Engine}

/-- The same engine, with nothing lost of what it found out. What it has made of factories in the
meantime is for instances; the adapters of static members are kept apart from these. -/
structure Accrues (before after : Engine) : Prop where
  sameId : after.id = before.id
  sameConfig : after.config = before.config
  interfaces : before.interfaces.Accrues after.interfaces
  delegates : before.delegates.Accrues after.delegates
  statics : before.statics.Accrues after.statics
  verdicts : before.verdicts.Accrues after.verdicts
  staticVerdicts : before.staticVerdicts.Accrues after.staticVerdicts
  forInstances : ∀ shape source made, after.interfaces.find? shape source = some made →
    before.interfaces.find? shape source = some made ∨ made.isStatic = false

theorem Accrues.refl (engine : Engine) : Accrues engine engine :=
  ⟨rfl, rfl, .refl _, .refl _, .refl _, .refl _, .refl _, fun _ _ _ found => .inl found⟩

theorem Accrues.trans (first : Accrues before between) (further : Accrues between after) :
    Accrues before after :=
  { sameId := further.sameId.trans first.sameId
    sameConfig := further.sameConfig.trans first.sameConfig
    interfaces := first.interfaces.trans further.interfaces
    delegates := first.delegates.trans further.delegates
    statics := first.statics.trans further.statics
    verdicts := first.verdicts.trans further.verdicts
    staticVerdicts := first.staticVerdicts.trans further.staticVerdicts
    forInstances := fun shape source made found =>
      (further.forInstances shape source made found).elim (first.forInstances shape source made) .inr }

instance : IsPreorder Engine Accrues where
  refl := Accrues.refl
  trans _ _ _ first further := first.trans further

theorem accrues_owners (engine : Engine) (count : Nat) :
    Accrues engine { engine with owners := count } :=
  { Accrues.refl engine with }

theorem accrues_statics (engine : Engine) (shape source : TypeId) (made : Value) :
    Accrues engine { engine with statics := engine.statics.insert shape source made } :=
  { Accrues.refl engine with statics := PairTable.accrues_insert _ _ _ _ }

/-- An analysis stores verdicts and changes nothing else. -/
theorem accrues_analyzing {α : Type} (inquiry : Setting → Inquiry α) (engine : Engine) :
    Accrues engine
      (analyzing registry (fun setting => (inquiry setting).interpret (ask setting)) engine).2 := by
  have kept := Compatibility.keeps_interpret
    (Compatibility.compatible_keeps ⟨registry, engine.hasFactory registry⟩ [])
    (inquiry ⟨registry, engine.hasFactory registry⟩) ⟨engine.verdicts, none⟩
  exact { Accrues.refl engine with verdicts := ⟨kept.grows, kept.larger⟩ }

theorem Change.accrues (change : Change registry before after) : Accrues before after := by
  cases change with
  | learn inquiry => exact accrues_analyzing inquiry _
  | keepDelegate =>
      exact { Accrues.refl before with delegates := PairTable.accrues_insert _ _ _ _ }
  | keepStatic => exact accrues_statics _ _ _ _
  | keepVerdict =>
      exact { Accrues.refl before with staticVerdicts := PairTable.accrues_insert _ _ _ _ }
  | owners => exact accrues_owners _ _

theorem Edit.accrues (edit : Edit registry before after) : Accrues before after := by
  cases edit with
  | change changes => exact changes.accrues
  | keepFactory shape source kept plans =>
      refine { Accrues.refl before with
        interfaces := PairTable.accrues_insert _ _ _ _
        forInstances := fun shape' source' made found => ?_ }
      rcases PairTable.of_find?_insert found with earlier | ⟨_, _, rfl⟩
      · exact .inl earlier
      · exact .inr plans.subject.2.2.2

theorem Edits.accrues (edits : Edits registry before after) : Accrues before after := by
  induction edits with
  | refl => exact .refl before
  | tail _ edit inductionHypothesis => exact inductionHypothesis.trans edit.accrues

theorem Moves.accrues (moves : Moves registry before after) : Accrues before after :=
  moves.edits.accrues

/-! ### What is ready -/

theorem hasFactory_iff {engine : Engine} {target source : TypeId} :
    engine.hasFactory registry target source = true ↔
      ∃ candidate ∈ engine.candidates registry source,
        engine.interfaces.contains target candidate = true := by
  simp only [hasFactory, readyFactory?, List.findSome?_isSome_iff, PairTable.contains]

theorem candidates_subset {earlier later : Registry} (retains : earlier.Retains later)
    (sameConfig : after.config = before.config) (source : TypeId) :
    before.candidates earlier source ⊆ after.candidates later source := by
  unfold candidates
  rw [sameConfig]
  split
  case isTrue =>
    intro candidate isCandidate
    exact List.mem_reverse.2 (retains.chain_subset (List.mem_reverse.1 isCandidate))
  case isFalse => exact List.Subset.refl _

/-- A pair that a factory is ready for has one ready for ever, also when the registry grows. -/
theorem Accrues.hasFactory (accrues : Accrues before after) {earlier later : Registry}
    (retains : earlier.Retains later) {target source : TypeId}
    (ready : before.hasFactory earlier target source = true) :
    after.hasFactory later target source = true := by
  rw [hasFactory_iff] at ready ⊢
  obtain ⟨candidate, isCandidate, present⟩ := ready
  exact ⟨candidate, candidates_subset retains accrues.sameConfig source isCandidate,
    accrues.interfaces.contains present⟩

/-- What is prepared stays prepared. -/
theorem Accrues.isPrepared (accrues : Accrues before after) {earlier later : Registry}
    (retains : earlier.Retains later) {target source : TypeId}
    (prepared : before.isPrepared earlier target source = true) :
    after.isPrepared later target source = true := by
  rw [Engine.isPrepared, Bool.or_eq_true] at prepared ⊢
  exact prepared.imp (accrues.hasFactory retains) accrues.delegates.contains

theorem Accrues.verdictCount_le (accrues : Accrues before after) :
    before.verdictCount ≤ after.verdictCount :=
  Nat.add_le_add accrues.verdicts.size accrues.staticVerdicts.size

end Engine
end StructuralCast
