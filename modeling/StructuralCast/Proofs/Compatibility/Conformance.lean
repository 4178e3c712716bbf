import StructuralCast.Proofs.Compatibility.Relation
import StructuralCast.Proofs.Registry.Chain

/-!
Contract: how to prove that two types conform, and what to conclude from it.

`Conforms.supports` opens a pair of the greatest relation, and `Conforms.coinduction` proves pairs
by a relation whose grounds may use pairs that conform already. `compatible_iff` says that the types
that have been given out are compatible exactly when they conform: no type outside is ever mentioned.
-/

namespace StructuralCast.Registry

variable {registry : Registry}

theorem Conforms.supports {left right : TypeId} (conforms : registry.Conforms left right) :
    registry.Supports registry.Conforms left right := by
  obtain ⟨holds, consistent, start⟩ := conforms
  exact (consistent left right start).mono fun one other held => ⟨holds, consistent, held⟩

theorem conforms_of_supports {left right : TypeId}
    (grounds : registry.Supports registry.Conforms left right) : registry.Conforms left right := by
  refine ⟨fun one other => registry.Supports registry.Conforms one other, ?_, grounds⟩
  intro one other supported
  exact supported.mono fun _ _ conforms => conforms.supports

/-- Coinduction: every pair of a relation conforms, if the relation has grounds for its pairs that
use its own pairs and pairs that conform. -/
theorem Conforms.coinduction (holds : TypeId → TypeId → Prop)
    (step : ∀ one other, holds one other →
      registry.Supports (fun left right => holds left right ∨ registry.Conforms left right) one other)
    {left right : TypeId} (start : holds left right) : registry.Conforms left right := by
  refine ⟨fun one other => holds one other ∨ registry.Conforms one other, ?_, .inl start⟩
  rintro one other (held | conforms)
  · exact step one other held
  · exact conforms.supports.mono fun _ _ => .inr

theorem conforms_self (id : TypeId) : registry.Conforms id id :=
  conforms_of_supports (.same rfl)

theorem Conforms.symm {left right : TypeId} (conforms : registry.Conforms left right) :
    registry.Conforms right left := by
  refine Conforms.coinduction (fun one other => registry.Conforms other one) ?_ conforms
  intro one other reversed
  have either : registry.Supports
      (fun first second => registry.Conforms second first ∨ registry.Conforms first second)
      other one := reversed.supports.mono fun _ _ => .inr
  exact either.symm fun _ _ => Or.symm

open Classical in
/-- The verdict on a pair by the greatest relation. -/
noncomputable def verdict (registry : Registry) (target source : TypeId) : Bool :=
  decide (registry.Conforms target source)

theorem verdict_iff {target source : TypeId} :
    registry.verdict target source = true ↔ registry.Conforms target source := by
  classical exact decide_eq_true_iff

/-! ### Types that have not been given out -/

theorem offer_of_not_issued {source : TypeId} (foreign : ¬ registry.issued source)
    (onStatic : Bool) : (Offer.of registry source onStatic).members = [] := by
  have info := info_of_not_issued foreign
  have owners : Offer.owners registry source onStatic = [source] := by
    cases onStatic with
    | true => rfl
    | false =>
        have noInterface : (registry.info source).isInterface = false := by
          rw [info]
          rfl
        simp [Offer.owners, noInterface, chain_of_no_base (base?_of_not_issued foreign)]
  simp [Offer.members, Offer.of, owners, info, TypeInfo.unissued, TypeInfo.declared,
    Definition.empty]

/-- The grounds for a pair never lie in its members, unless both types have been given out. -/
theorem Supports.of_not_issued {holds wider : TypeId → TypeId → Prop} {left right : TypeId}
    (foreign : ¬ (registry.issued left ∧ registry.issued right))
    (grounds : registry.Supports holds left right) : registry.Supports wider left right := by
  have fulfils : ∀ {shape source}, ¬ registry.issued source →
      registry.Fulfils holds false shape source → registry.Fulfils wider false shape source := by
    rintro shape source unknown ⟨members, found, served⟩
    refine ⟨members, found, fun required member => ?_⟩
    obtain ⟨offered, isOffered, _⟩ := served required member
    rw [offer_of_not_issued unknown] at isOffered
    exact absurd isOffered List.not_mem_nil
  cases grounds with
  | same equal => exact .same equal
  | native assignable => exact .native assignable
  | enumText kinds => exact .enumText kinds
  | genericParam leftKind rightKind position leftPosition rightPosition =>
      exact .genericParam leftKind rightKind position leftPosition rightPosition
  | delegate leftKind rightKind _ _ _ _ _ =>
      exact absurd ⟨issued_of_kind leftKind (by decide), issued_of_kind rightKind (by decide)⟩ foreign
  | shape isShape fulfilled =>
      have leftIssued : registry.issued left := issued_of_kind isShape (by decide)
      exact .shape isShape (fulfils (fun issued => foreign ⟨leftIssued, issued⟩) fulfilled)
  | reversedShape isShape fulfilled =>
      have rightIssued : registry.issued right := issued_of_kind isShape (by decide)
      exact .reversedShape isShape (fulfils (fun issued => foreign ⟨issued, rightIssued⟩) fulfilled)

theorem SupportsEither.of_not_issued {holds wider : TypeId → TypeId → Prop} {left right : TypeId}
    (foreign : ¬ (registry.issued left ∧ registry.issued right))
    (grounds : registry.SupportsEither holds left right) : registry.SupportsEither wider left right :=
  grounds.imp (Supports.of_not_issued foreign) (Supports.of_not_issued fun issued => foreign issued.symm)

/-! ### Compatible types -/

/-- Compatibility is conformance of types that have been given out. -/
theorem compatible_iff (closed : registry.Closed) {left right : TypeId} :
    registry.Compatible left right ↔
      registry.issued left ∧ registry.issued right ∧ registry.Conforms left right := by
  constructor
  · rintro ⟨holds, consistent, start⟩
    obtain ⟨leftIssued, rightIssued, _⟩ := consistent left right start
    exact ⟨leftIssued, rightIssued, holds, fun _ _ held => (consistent _ _ held).2.2, start⟩
  · intro conforms
    refine ⟨fun one other => registry.issued one ∧ registry.issued other ∧ registry.Conforms one other,
      ?_, conforms⟩
    rintro one other ⟨oneIssued, otherIssued, conform⟩
    exact ⟨oneIssued, otherIssued, conform.supports.mono_on closed
      fun _ _ leftKnown rightKnown held => ⟨leftKnown, rightKnown, held⟩⟩

end StructuralCast.Registry
