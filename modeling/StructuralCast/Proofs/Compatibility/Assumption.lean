import StructuralCast.Proofs.Compatibility.Conformance

/-!
Contract: what conforms if some pairs are assumed to.

`Registry.ConformsGiven assumed` is the greatest relation whose pairs are assumed or have grounds
among its own pairs. It is what an analysis has found out about a pair as long as pairs around it are
still open. An assumption on a pair itself may be dropped once the pair has grounds
(`ConformsGiven.discharge`), and without assumptions nothing but conformance is left
(`ConformsGiven.conforms`).
-/

namespace StructuralCast.Registry

/-- The greatest relation whose pairs are assumed or have grounds. -/
def ConformsGiven (registry : Registry) (assumed : TypeId → TypeId → Prop) (left right : TypeId) :
    Prop :=
  ∃ holds : TypeId → TypeId → Prop,
    (∀ one other, holds one other → assumed one other ∨ registry.Supports holds one other) ∧
      holds left right

namespace ConformsGiven

variable {registry : Registry} {assumed wider : TypeId → TypeId → Prop} {left right : TypeId}

theorem cases (given : registry.ConformsGiven assumed left right) :
    assumed left right ∨ registry.Supports (registry.ConformsGiven assumed) left right := by
  obtain ⟨holds, consistent, start⟩ := given
  exact (consistent left right start).imp_right fun grounds =>
    grounds.mono fun _ _ held => ⟨holds, consistent, held⟩

theorem of_supports (grounds : registry.Supports (registry.ConformsGiven assumed) left right) :
    registry.ConformsGiven assumed left right := by
  refine ⟨fun one other => registry.ConformsGiven assumed one other ∨
    registry.Supports (registry.ConformsGiven assumed) one other, ?_, .inr grounds⟩
  rintro one other (given | supported)
  · exact given.cases.imp_right fun grounds => grounds.mono fun _ _ => .inl
  · exact .inr (supported.mono fun _ _ => .inl)

theorem of_assumed (isAssumed : assumed left right) : registry.ConformsGiven assumed left right :=
  ⟨assumed, fun _ _ => .inl, isAssumed⟩

theorem of_conforms (conforms : registry.Conforms left right) :
    registry.ConformsGiven assumed left right :=
  ⟨registry.Conforms, fun _ _ conform => .inr conform.supports, conforms⟩

theorem mono (widen : ∀ one other, assumed one other → wider one other)
    (given : registry.ConformsGiven assumed left right) : registry.ConformsGiven wider left right := by
  obtain ⟨holds, consistent, start⟩ := given
  exact ⟨holds, fun one other held => (consistent one other held).imp_left (widen one other), start⟩

theorem symm (symmetric : ∀ one other, assumed one other → assumed other one)
    (given : registry.ConformsGiven assumed left right) :
    registry.ConformsGiven assumed right left := by
  obtain ⟨holds, consistent, start⟩ := given
  refine ⟨fun one other => holds one other ∨ holds other one, ?_, .inr start⟩
  rintro one other (held | held)
  · exact (consistent one other held).imp_right fun grounds => grounds.mono fun _ _ => .inl
  · refine (consistent other one held).imp (symmetric other one) fun grounds => ?_
    have either : registry.Supports (fun first second => holds first second ∨ holds second first)
        other one := grounds.mono fun _ _ => .inl
    exact either.symm fun _ _ => Or.symm

/-- What has grounds that assume the pair itself has grounds that do not. -/
theorem discharge {extended : TypeId → TypeId → Prop}
    (symmetric : ∀ one other, assumed one other → assumed other one)
    (extension : ∀ one other, extended one other →
      assumed one other ∨ (one = left ∧ other = right) ∨ (one = right ∧ other = left))
    (grounds : registry.Supports (registry.ConformsGiven extended) left right) :
    registry.ConformsGiven assumed left right := by
  have symmetricHere : ∀ one other,
      (registry.ConformsGiven extended one other ∨ registry.ConformsGiven extended other one) →
        (registry.ConformsGiven extended other one ∨ registry.ConformsGiven extended one other) :=
    fun _ _ => Or.symm
  have widened : registry.Supports (fun one other => registry.ConformsGiven extended one other ∨
      registry.ConformsGiven extended other one) left right := grounds.mono fun _ _ => .inl
  -- The pair is put into the relation in both directions, as both may have been assumed.
  refine ⟨fun one other => registry.ConformsGiven extended one other ∨
    registry.ConformsGiven extended other one, ?_, ?_⟩
  · have step : ∀ one other, registry.ConformsGiven extended one other →
        assumed one other ∨ registry.Supports (fun one other =>
          registry.ConformsGiven extended one other ∨ registry.ConformsGiven extended other one)
          one other := by
      intro one other given
      rcases given.cases with isAssumed | supported
      · rcases extension one other isAssumed with before | ⟨rfl, rfl⟩ | ⟨rfl, rfl⟩
        · exact .inl before
        · exact .inr widened
        · exact .inr (widened.symm symmetricHere)
      · exact .inr (supported.mono fun _ _ => .inl)
    rintro one other (given | given)
    · exact step one other given
    · exact (step other one given).imp (symmetric other one) fun supported =>
        supported.symm symmetricHere
  · exact .inl (of_supports grounds)

theorem conforms (unassumed : ∀ one other, ¬ assumed one other)
    (given : registry.ConformsGiven assumed left right) : registry.Conforms left right := by
  obtain ⟨holds, consistent, start⟩ := given
  exact ⟨holds, fun one other held => (consistent one other held).resolve_left (unassumed one other),
    start⟩

end ConformsGiven
end StructuralCast.Registry
