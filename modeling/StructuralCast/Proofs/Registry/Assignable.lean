import StructuralCast.Proofs.Registry.Chain
import StructuralCast.Proofs.Registry.Traversal

/-!
Contract: native assignability as an order, and the values it applies to.

`assignable_trans` is about orderly registries: chains compose because a base chain is a suffix, and
interfaces because a walk visits all that is reached. Where value types stand apart, an instance of a
type is an instance of every type that it can be assigned to (`admits_of_assignable`), null included.
-/

namespace StructuralCast.Registry

variable {registry : Registry}

/-! ### The root of all types -/

theorem Grown.base?_object (grown : registry.Grown) : registry.base? .object = none := by
  rw [base?, grown.find?_of_reserved (by decide)]
  decide +kernel

theorem Grown.info_object (grown : registry.Grown) :
    registry.info .object = Registry.initial.info .object := by
  rw [info, info, grown.find?_of_reserved (by decide)]

theorem Grown.kind_object (grown : registry.Grown) : registry.kind .object = .classType := by
  rw [kind, grown.info_object]
  decide +kernel

/-- Above a type with no other base there is the root alone. -/
theorem Grown.eq_of_mem_chain (grown : registry.Grown) {id ancestor : TypeId}
    (based : ∀ base, registry.base? id = some base → base = .object)
    (above : ancestor ∈ registry.chain id) : ancestor = id ∨ ancestor = .object := by
  refine (List.mem_cons.1 above).imp_right fun further => ?_
  obtain ⟨base, isBase, path⟩ := Relation.TransGen.head'_iff.1 (ancestors_transGen further)
  obtain rfl := based base isBase
  rcases path.cases_head with rfl | ⟨root, impossible, _⟩
  · rfl
  · rw [grown.base?_object] at impossible
    cases impossible

theorem Grown.extended_object (grown : registry.Grown) : registry.extended .object = [] := by
  rw [extended, grown.info_object]
  decide +kernel

theorem Grown.isValueType_object (grown : registry.Grown) : registry.isValueType .object = false := by
  rw [isValueType, grown.info_object]
  decide +kernel

theorem Grown.interfaces_object (grown : registry.Grown) : registry.interfaces .object = [] := by
  have nothing : ∀ remaining : List TypeId, nextVisit remaining [] = [] := fun _ => rfl
  simp only [interfaces, chain_of_no_base grown.base?_object, List.flatMap_cons, List.flatMap_nil,
    grown.extended_object, List.append_nil, preorder_of_nextVisit_eq_nil (nothing _)]

/-! ### The interfaces of a type -/

/-- One interface extends another, over any number of steps. -/
def Extends (registry : Registry) : TypeId → TypeId → Prop :=
  Relation.ReflTransGen fun left right => right ∈ registry.extended left

/-- A type that was never given out extends nothing. -/
theorem Extends.eq_of_not_issued {start target : TypeId} (reaches : registry.Extends start target)
    (foreign : ¬ registry.issued start) : target = start := by
  rcases Relation.ReflTransGen.cases_head reaches with same | ⟨next, declared, _⟩
  · exact same.symm
  · rw [extended_of_not_issued foreign] at declared
    exact absurd declared List.not_mem_nil

theorem issued_of_extended (closed : registry.Closed) {owner extended : TypeId}
    (member : extended ∈ registry.extended owner) : registry.issued extended := by
  refine closed owner extended ?_
  have declared : extended ∈ (registry.info owner).interfaces := member
  simp [Definition.referencedTypes, declared]

/-- The interfaces of a type are those that its chain declares, and those that these extend. -/
theorem mem_interfaces_iff (closed : registry.Closed) {target id : TypeId} :
    target ∈ registry.interfaces id ↔
      ∃ owner ∈ registry.chain id, ∃ start ∈ registry.extended owner,
        registry.Extends start target := by
  unfold interfaces
  rw [mem_preorder_iff]
  · simp only [List.mem_flatMap]
    constructor
    · rintro ⟨start, ⟨owner, isOwner, declared⟩, path⟩
      exact ⟨owner, isOwner, start, declared, path⟩
    · rintro ⟨owner, isOwner, start, declared, path⟩
      exact ⟨start, ⟨owner, isOwner, declared⟩, path⟩
  · intro start isStart
    obtain ⟨owner, _, declared⟩ := List.mem_flatMap.1 isStart
    exact mem_ids_iff.2 (issued_of_extended closed declared)
  · exact fun _ _ _ declared => mem_ids_iff.2 (issued_of_extended closed declared)

/-! ### An order -/

theorem assignable_iff {target source : TypeId} :
    registry.assignable target source = true ↔
      target = source ∨ (target ≠ .void ∧ source ≠ .void ∧
        (target = .object ∨ target ∈ registry.chain source ∨
          (registry.kind target = .interface ∧ target ∈ registry.interfaces source))) := by
  have interface : (registry.info target).isInterface = true ↔ registry.kind target = .interface := by
    simp [TypeInfo.isInterface, Registry.kind]
  unfold assignable
  by_cases same : target = source
  · simp [same]
  · by_cases nothing : target = .void ∨ source = .void
    · rw [if_neg same, if_pos nothing]
      simp only [Bool.false_eq_true, same, false_or, false_iff]
      rintro ⟨notTarget, notSource, _⟩
      exact nothing.elim notTarget notSource
    · rw [if_neg same, if_neg nothing]
      obtain ⟨notTarget, notSource⟩ := not_or.1 nothing
      by_cases root : target = .object
      · rw [if_pos root]
        exact ⟨fun _ => .inr ⟨notTarget, notSource, .inl root⟩, fun _ => rfl⟩
      · rw [if_neg root]
        by_cases above : target ∈ registry.chain source
        · simp [notTarget, notSource, above]
        · simp [same, notTarget, notSource, root, above, interface]

/-- What a type can be assigned to, the types below it can be assigned to. -/
theorem assignable_trans (orderly : registry.Orderly) {outer middle inner : TypeId}
    (further : registry.assignable outer middle = true)
    (first : registry.assignable middle inner = true) : registry.assignable outer inner = true := by
  have closed := orderly.grown.closed
  rcases assignable_iff.1 further with rfl | ⟨notOuter, notMiddle, further⟩
  · exact first
  rcases assignable_iff.1 first with rfl | ⟨_, notInner, first⟩
  · exact assignable_iff.2 (.inr ⟨notOuter, notMiddle, further⟩)
  refine assignable_iff.2 (.inr ⟨notOuter, notInner, ?_⟩)
  rcases further with root | above | ⟨isInterface, implemented⟩
  · exact .inl root
  · rcases first with rfl | aboveInner | ⟨isInterface, implemented⟩
    · rw [chain_of_no_base orderly.grown.base?_object] at above
      exact .inl (List.mem_singleton.1 above)
    · exact .inr (.inl (chain_subset orderly.grown orderly.acyclic aboveInner above))
    · rw [chain_of_no_base (orderly.roots middle isInterface)] at above
      rw [List.mem_singleton.1 above]
      exact .inr (.inr ⟨isInterface, implemented⟩)
  · rcases first with rfl | aboveInner | ⟨middleInterface, implementedMiddle⟩
    · rw [orderly.grown.interfaces_object] at implemented
      exact absurd implemented List.not_mem_nil
    · obtain ⟨owner, isOwner, start, declared, path⟩ := (mem_interfaces_iff closed).1 implemented
      have ownerInner := chain_subset orderly.grown orderly.acyclic aboveInner isOwner
      exact .inr (.inr ⟨isInterface,
        (mem_interfaces_iff closed).2 ⟨owner, ownerInner, start, declared, path⟩⟩)
    · -- An interface stands alone on its chain, so what it declares continues the path to it.
      obtain ⟨owner, isOwner, start, declared, path⟩ := (mem_interfaces_iff closed).1 implemented
      rw [chain_of_no_base (orderly.roots middle middleInterface)] at isOwner
      obtain rfl := List.mem_singleton.1 isOwner
      obtain ⟨owner', isOwner', start', declared', path'⟩ :=
        (mem_interfaces_iff closed).1 implementedMiddle
      exact .inr (.inr ⟨isInterface, (mem_interfaces_iff closed).2
        ⟨owner', isOwner', start', declared', path'.trans (.head declared path)⟩⟩)

/-! ### Instances -/

/-- No value type is an interface, and none is the base of a type. -/
structure ValuesApart (registry : Registry) : Prop where
  interfaces : ∀ id, registry.kind id = .interface → registry.isValueType id = false
  bases : ∀ id base, registry.base? id = some base → registry.isValueType base = false

instance (registry : Registry) : Decidable registry.ValuesApart :=
  decidable_of_iff
    (∀ id ∈ registry.ids, (registry.kind id = .interface → registry.isValueType id = false) ∧
      ∀ base ∈ registry.base? id, registry.isValueType base = false) <| by
    constructor
    · intro checked
      refine ⟨fun id isInterface => ?_, fun id base found => ?_⟩
      · by_cases issued : registry.issued id
        · exact (checked id (mem_ids_iff.2 issued)).1 isInterface
        · rw [isValueType, info_of_not_issued issued]
          rfl
      · by_cases issued : registry.issued id
        · exact (checked id (mem_ids_iff.2 issued)).2 base found
        · rw [base?_of_not_issued issued] at found
          cases found
    · exact fun apart id _ => ⟨apart.interfaces id, apart.bases id⟩

/-- Only a value type itself can be assigned to it. -/
theorem ValuesApart.eq_of_assignable (apart : registry.ValuesApart) (grown : registry.Grown)
    {target source : TypeId} (isValue : registry.isValueType target = true)
    (assignable : registry.assignable target source = true) : target = source := by
  rcases assignable_iff.1 assignable with same | ⟨_, _, rfl | above | ⟨isInterface, _⟩⟩
  · exact same
  · rw [grown.isValueType_object] at isValue
    cases isValue
  · rcases List.mem_cons.1 above with same | proper
    · exact same
    · obtain ⟨derived, _, isBase⟩ := Relation.TransGen.tail'_iff.1 (ancestors_transGen proper)
      rw [apart.bases derived target isBase] at isValue
      cases isValue
  · rw [apart.interfaces target isInterface] at isValue
    cases isValue

/-- An instance of a type is an instance of all that the type can be assigned to. -/
theorem admits_of_assignable (orderly : registry.Orderly) (apart : registry.ValuesApart)
    {target source : TypeId} {type? : Option TypeId}
    (assignable : registry.assignable target source = true)
    (isInstance : registry.admits source type? = true) : registry.admits target type? = true := by
  cases type? with
  | some type => exact assignable_trans orderly assignable isInstance
  | none =>
      by_cases same : target = source
      · exact same ▸ isInstance
      · have notVoid : target ≠ .void :=
          ((assignable_iff.1 assignable).resolve_left same).1
        have noValue : registry.isValueType target = false := by
          by_contra isValue
          exact same (apart.eq_of_assignable orderly.grown (by simpa using isValue) assignable)
        simp [admits, notVoid, noValue]

theorem admits_self {type : TypeId} : registry.admits type (some type) = true :=
  assignable_iff.2 (.inl rfl)

/-- Null is no instance of a value type. -/
theorem not_admits_null {type : TypeId} (isValue : registry.isValueType type = true) :
    registry.admits type none = false := by
  simp [admits, isValue]

end StructuralCast.Registry
