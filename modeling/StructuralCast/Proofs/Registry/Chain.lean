import Mathlib.Data.List.Nodup
import Mathlib.Data.List.Perm.Subperm
import Mathlib.Data.List.Range
import Mathlib.Logic.Relation
import StructuralCast.Proofs.Registry.Growth

/-!
Contract: chains of types where no type is its own ancestor.

A chain follows the bases for as many steps as there are types. In an acyclic registry this reaches
the end: `chain_of_base` and `chain_of_no_base` say that a chain is the type followed by the chain of
its base. So the chain of an ancestor is the rest of the chain from there on
(`suffix_of_mem_chain`), and no type stands on it twice (`chain_nodup`). A climb that counts no steps
ends, and on the same chain (`lineage_iff`).
-/

namespace StructuralCast.Registry

/-- No type is its own ancestor. -/
def Acyclic (registry : Registry) : Prop :=
  ∀ id, ¬ Relation.TransGen (fun derived base => registry.base? derived = some base) id id

/-- No interface has a base. What an interface extends, it lists as its interfaces. -/
def InterfacesAreRoots (registry : Registry) : Prop :=
  ∀ id, registry.kind id = .interface → registry.base? id = none

/-- A registry that a host can build, without circular bases, whose interfaces have no base. -/
structure Orderly (registry : Registry) : Prop where
  grown : registry.Grown
  acyclic : registry.Acyclic
  roots : registry.InterfacesAreRoots

variable {registry : Registry}

theorem issued_of_base? {id base : TypeId} (closed : registry.Closed)
    (found : registry.base? id = some base) : registry.issued id ∧ registry.issued base := by
  obtain ⟨info, present, isBase⟩ := Option.bind_eq_some_iff.1 found
  refine ⟨issued_iff_find?.2 ⟨info, present⟩, closed id base ?_⟩
  rw [info_of_find? present]
  simp [Definition.referencedTypes, isBase]

theorem ancestors_transGen {steps : Nat} {id ancestor : TypeId}
    (member : ancestor ∈ registry.ancestors steps id) :
    Relation.TransGen (fun derived base => registry.base? derived = some base) id ancestor := by
  induction steps generalizing id with
  | zero => exact absurd member List.not_mem_nil
  | succ steps inductionHypothesis =>
      simp only [ancestors] at member
      split at member
      case h_1 => exact absurd member List.not_mem_nil
      case h_2 base found =>
        rcases List.mem_cons.1 member with rfl | further
        · exact .single found
        · exact .head found (inductionHypothesis further)

theorem ancestors_issued (closed : registry.Closed) {steps : Nat} {id ancestor : TypeId}
    (member : ancestor ∈ registry.ancestors steps id) : registry.issued ancestor := by
  obtain ⟨_, _, step⟩ := Relation.TransGen.tail'_iff.1 (ancestors_transGen member)
  exact (issued_of_base? closed step).2

theorem walk_nodup (acyclic : registry.Acyclic) (steps : Nat) (id : TypeId) :
    (id :: registry.ancestors steps id).Nodup := by
  induction steps generalizing id with
  | zero => simp [ancestors]
  | succ steps inductionHypothesis =>
      refine List.nodup_cons.2 ⟨fun member => acyclic id (ancestors_transGen member), ?_⟩
      simp only [ancestors]
      split
      case h_1 => exact List.nodup_nil
      case h_2 base _ => exact inductionHypothesis base

theorem base?_of_not_issued {id : TypeId} (foreign : ¬ registry.issued id) :
    registry.base? id = none := by
  cases found : registry.find? id with
  | none => simp [base?, found]
  | some info => exact absurd (issued_iff_find?.2 ⟨info, found⟩) foreign

/-- What has to be looked at to see that no interface has a base. -/
instance (registry : Registry) : Decidable registry.InterfacesAreRoots :=
  decidable_of_iff
    (∀ id ∈ registry.ids, registry.kind id = .interface → registry.base? id = none) <| by
    constructor
    · intro checked id kind
      by_cases issued : registry.issued id
      · exact checked id (mem_ids_iff.2 issued) kind
      · exact base?_of_not_issued issued
    · exact fun roots id _ => roots id

/-- A registry whose types have earlier types as their bases is acyclic. -/
theorem acyclic_of_earlier
    (earlier : ∀ id ∈ registry.ids, ∀ base ∈ registry.base? id, base.raw < id.raw) :
    registry.Acyclic := by
  have descends : ∀ {id ancestor : TypeId},
      Relation.TransGen (fun derived base => registry.base? derived = some base) id ancestor →
        ancestor.raw < id.raw := by
    intro id ancestor path
    have step : ∀ {derived base : TypeId}, registry.base? derived = some base →
        base.raw < derived.raw := by
      intro derived base found
      by_cases issued : registry.issued derived
      · exact earlier derived (mem_ids_iff.2 issued) base found
      · rw [base?_of_not_issued issued] at found
        cases found
    induction path with
    | single found => exact step found
    | tail _ found inductionHypothesis => exact Nat.lt_trans (step found) inductionHypothesis
  exact fun id cycle => Nat.lt_irrefl _ (descends cycle)

/-- What has to be looked at to see that a registry of a host is orderly. -/
theorem Orderly.of_earlier (grown : registry.Grown)
    (checked : (∀ id ∈ registry.ids, ∀ base ∈ registry.base? id, base.raw < id.raw) ∧
      registry.InterfacesAreRoots) : registry.Orderly :=
  ⟨grown, acyclic_of_earlier checked.1, checked.2⟩

/-- A walk visits less types than there are. -/
theorem length_ancestors_lt (grown : registry.Grown) (acyclic : registry.Acyclic) (steps : Nat)
    (id : TypeId) : (registry.ancestors steps id).length < registry.size := by
  by_cases issued : registry.issued id
  · have distinct := walk_nodup acyclic steps id
    have known : (id :: registry.ancestors steps id) ⊆ registry.ids := by
      intro visited member
      refine mem_ids_iff.2 ?_
      rcases List.mem_cons.1 member with rfl | further
      · exact issued
      · exact ancestors_issued grown.closed further
    have bounded := (List.subperm_of_subset distinct known).length_le
    have whole : registry.ids.length = registry.size := by
      simp only [ids, List.length_map, List.length_range]
    rw [List.length_cons, whole] at bounded
    omega
  · have none : registry.ancestors steps id = [] := by
      cases steps with
      | zero => rfl
      | succ steps => simp [ancestors, base?_of_not_issued issued]
    rw [none]
    exact Nat.lt_of_lt_of_le (by decide) grown.size_le

/-- A walk that ends before its steps are used up stays the same with more steps. -/
theorem ancestors_eq_of_length_lt {steps more : Nat} {id : TypeId}
    (ended : (registry.ancestors steps id).length < steps) (enough : steps ≤ more) :
    registry.ancestors more id = registry.ancestors steps id := by
  induction steps generalizing more id with
  | zero => omega
  | succ steps inductionHypothesis =>
      obtain ⟨more, rfl⟩ := Nat.exists_eq_add_of_le' (Nat.le_trans (Nat.le_add_left 1 steps) enough)
      cases found : registry.base? id with
      | none => simp only [ancestors, found]
      | some base =>
          simp only [ancestors, found, List.length_cons] at ended ⊢
          have rest : registry.ancestors more base = registry.ancestors steps base :=
            inductionHypothesis (by omega) (by omega)
          rw [rest]

theorem chain_of_no_base {id : TypeId} (rootless : registry.base? id = none) :
    registry.chain id = [id] := by
  unfold chain
  cases registry.size with
  | zero => rfl
  | succ steps => simp [ancestors, rootless]

theorem chain_of_base (grown : registry.Grown) (acyclic : registry.Acyclic) {id base : TypeId}
    (found : registry.base? id = some base) :
    registry.chain id = id :: registry.chain base := by
  have bounded := length_ancestors_lt grown acyclic registry.size id
  obtain ⟨steps, size⟩ : ∃ steps, registry.size = steps + 1 := ⟨registry.size - 1, by omega⟩
  unfold chain
  rw [size] at bounded ⊢
  simp only [ancestors, found, List.length_cons] at bounded ⊢
  have stable : registry.ancestors (steps + 1) base = registry.ancestors steps base :=
    ancestors_eq_of_length_lt (by omega) (Nat.le_succ steps)
  simp only [ancestors] at stable
  rw [stable]

/-- Either the type has no base, or its chain goes on with that of its base. -/
theorem chain_cases (grown : registry.Grown) (acyclic : registry.Acyclic) (id : TypeId) :
    (registry.base? id = none ∧ registry.chain id = [id]) ∨
      ∃ base, registry.base? id = some base ∧ registry.chain id = id :: registry.chain base := by
  cases found : registry.base? id with
  | none => exact .inl ⟨rfl, chain_of_no_base found⟩
  | some base => exact .inr ⟨base, rfl, chain_of_base grown acyclic found⟩

theorem mem_chain_self (id : TypeId) : id ∈ registry.chain id := List.mem_cons_self

/-- The chain of an ancestor is the rest of the chain from there on. -/
theorem suffix_of_mem_chain (grown : registry.Grown) (acyclic : registry.Acyclic)
    {ancestor id : TypeId} (member : ancestor ∈ registry.chain id) :
    registry.chain ancestor <:+ registry.chain id := by
  generalize bound : (registry.chain id).length = length
  induction length generalizing id with
  | zero => simp [chain] at bound
  | succ length inductionHypothesis =>
      rcases chain_cases grown acyclic id with ⟨_, whole⟩ | ⟨base, _, whole⟩
      · rw [whole] at member
        obtain rfl := List.mem_singleton.1 member
        exact List.suffix_refl _
      · rw [whole] at member bound
        rcases List.mem_cons.1 member with rfl | further
        · exact List.suffix_refl _
        · rw [whole]
          exact (inductionHypothesis further (Nat.succ.inj bound)).trans (List.suffix_cons _ _)

theorem chain_subset (grown : registry.Grown) (acyclic : registry.Acyclic)
    {ancestor id : TypeId} (member : ancestor ∈ registry.chain id) :
    registry.chain ancestor ⊆ registry.chain id :=
  (suffix_of_mem_chain grown acyclic member).subset

theorem chain_nodup (acyclic : registry.Acyclic) (id : TypeId) : (registry.chain id).Nodup :=
  walk_nodup acyclic registry.size id

theorem chain_of_split (grown : registry.Grown) (acyclic : registry.Acyclic)
    {id ancestor : TypeId} {before rest : List TypeId}
    (split : registry.chain id = before ++ ancestor :: rest) :
    registry.chain ancestor = ancestor :: rest := by
  induction before generalizing id with
  | nil =>
      obtain ⟨rfl, _⟩ := List.cons.inj split
      exact split
  | cons head tail inductionHypothesis =>
      rcases chain_cases grown acyclic id with ⟨_, whole⟩ | ⟨base, _, whole⟩
      · rw [whole] at split
        have noRest := (List.cons.inj split).2
        exact absurd noRest (by simp)
      · rw [whole] at split
        exact inductionHypothesis (List.cons.inj split).2

/-- A chain is what comes below an ancestor, followed by the chain of the ancestor. -/
theorem chain_eq_append (grown : registry.Grown) (acyclic : registry.Acyclic) {id ancestor : TypeId}
    (member : ancestor ∈ registry.chain id) :
    registry.chain id = (registry.chain id).takeWhile (· ≠ ancestor) ++ registry.chain ancestor := by
  obtain ⟨below, rest, split, absent⟩ := List.eq_append_cons_of_mem member
  rw [chain_of_split grown acyclic split, split, List.takeWhile_append_of_pos,
    List.takeWhile_cons_of_neg, List.append_nil]
  · simp
  · intro other isBelow
    simpa using fun same : other = ancestor => absent (same ▸ isBelow)

/-- From the most general type down, what comes before a type are its ancestors. -/
theorem chain_of_reverse_split (grown : registry.Grown) (acyclic : registry.Acyclic)
    {id ancestor : TypeId} {before rest : List TypeId}
    (split : (registry.chain id).reverse = before ++ ancestor :: rest) :
    registry.chain ancestor = ancestor :: before.reverse := by
  have forward : registry.chain id = rest.reverse ++ ancestor :: before.reverse := by
    rw [← List.reverse_reverse (registry.chain id), split]
    simp
  exact chain_of_split grown acyclic forward

/-! ### Climbing without counting steps -/

theorem mem_chain_iff (grown : registry.Grown) (acyclic : registry.Acyclic) {id ancestor : TypeId} :
    ancestor ∈ registry.chain id ↔
      Relation.ReflTransGen (fun derived base => registry.base? derived = some base) id ancestor := by
  constructor
  · intro member
    rcases List.mem_cons.1 member with rfl | further
    · exact .refl
    · exact (ancestors_transGen further).to_reflTransGen
  · intro path
    induction path using Relation.ReflTransGen.head_induction_on with
    | refl => exact mem_chain_self ancestor
    | head found _ inductionHypothesis =>
        rw [chain_of_base grown acyclic found]
        exact List.mem_cons_of_mem _ inductionHypothesis

/-- A climb from a type to the end of its bases, for as long as it takes. -/
inductive Lineage (registry : Registry) : TypeId → List TypeId → Prop where
  | root {id : TypeId} (rootless : registry.base? id = none) : Lineage registry id [id]
  | derived {id base : TypeId} {above : List TypeId} (found : registry.base? id = some base)
      (further : Lineage registry base above) : Lineage registry id (id :: above)

theorem lineage_chain (grown : registry.Grown) (acyclic : registry.Acyclic) (id : TypeId) :
    registry.Lineage id (registry.chain id) := by
  generalize bound : (registry.chain id).length = length
  induction length generalizing id with
  | zero => simp [chain] at bound
  | succ length inductionHypothesis =>
      rcases chain_cases grown acyclic id with ⟨rootless, whole⟩ | ⟨base, found, whole⟩
      · exact whole ▸ .root rootless
      · rw [whole] at bound ⊢
        exact .derived found (inductionHypothesis base (Nat.succ.inj bound))

/-- A climb comes to its end, and the chain is what it passes. -/
theorem lineage_iff (grown : registry.Grown) (acyclic : registry.Acyclic) {id : TypeId}
    {lineage : List TypeId} : registry.Lineage id lineage ↔ lineage = registry.chain id := by
  constructor
  · intro climbs
    induction climbs with
    | root rootless => exact (chain_of_no_base rootless).symm
    | derived found _ inductionHypothesis =>
        rw [chain_of_base grown acyclic found, inductionHypothesis]
  · rintro rfl
    exact lineage_chain grown acyclic id

end StructuralCast.Registry
