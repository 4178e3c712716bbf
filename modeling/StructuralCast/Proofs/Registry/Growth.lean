import Mathlib.Tactic.Common
import StructuralCast.Registry.Hierarchy

/-!
Contract: the registries that a host can build, and what they have in common.

`Registry.Grown` holds of a registry that starts as `Registry.initial` and grows by declarations and
definitions, refused ones included: these change nothing, or no more than the declaration.

`Grown.closed`: all types that are mentioned anywhere have been given out.
`Grown.find?_of_reserved`: the types that a registry starts with stay as they are.
-/

namespace StructuralCast.Registry

/-- The registries that a host can build. -/
inductive Grown : Registry → Prop where
  | initial : Grown Registry.initial
  | declare {registry declared : Registry} {key : TypeKey} {kind : TypeKind} {id : TypeId}
      (grown : Grown registry) (accepted : registry.declare key kind = .ok (declared, id)) :
      Grown declared
  | genericParam {registry : Registry} (grown : Grown registry) (owner : GenericOwner)
      (position : Nat) (name : String) : Grown (registry.genericParam owner position name).1
  | define {registry defined : Registry} {id : TypeId} {definition : Definition}
      (grown : Grown registry) (accepted : registry.define id definition = .ok defined) :
      Grown defined

/-- A registration is a declaration, followed by a definition if the declaration is accepted. -/
theorem Grown.register {registry : Registry} (grown : registry.Grown) (key : TypeKey)
    (kind : TypeKind) (definition : Definition) :
    (registry.register key kind definition).1.Grown := by
  unfold Registry.register
  split
  case h_1 => exact grown
  case h_2 declared id declaring =>
    have declaredGrown : declared.Grown := .declare grown declaring
    split
    case h_1 => exact declaredGrown
    case h_2 defined defining => exact .define declaredGrown defining

/-! ### What one step changes -/

theorem find?_add (registry : Registry) (name : String) (key : TypeKey) (kind : TypeKind)
    (id : TypeId) :
    (registry.add name key kind).1.find? id =
      if id.raw = registry.size then some (TypeInfo.declared ⟨registry.size⟩ name key kind)
      else registry.find? id := by
  show (registry.types.push _)[id.raw]? = _
  rw [Array.getElem?_push]
  rfl

theorem size_add (registry : Registry) (name : String) (key : TypeKey) (kind : TypeKind) :
    (registry.add name key kind).1.size = registry.size + 1 := by
  simp [add, size]

/-- An accepted declaration adds a type under a key that was free. -/
theorem declare_eq_ok {registry declared : Registry} {key : TypeKey} {kind : TypeKind} {id : TypeId}
    (accepted : registry.declare key kind = .ok (declared, id)) :
    registry.lookup key = none ∧
      (declared, id) = registry.add (registry.keyName key) key kind := by
  unfold declare at accepted
  split at accepted
  case h_1 => simp at accepted
  case h_2 free => exact ⟨free, (Except.ok.inj accepted).symm⟩

/-- A generic parameter is added only while its key is free. -/
theorem genericParam_eq (registry : Registry) (owner : GenericOwner) (position : Nat)
    (name : String) :
    (∃ existing, registry.lookup (.genericParam owner position) = some existing ∧
        registry.genericParam owner position name = (registry, existing)) ∨
      (registry.lookup (.genericParam owner position) = none ∧
        registry.genericParam owner position name =
          registry.add name (.genericParam owner position) .genericParam) := by
  cases found : registry.lookup (.genericParam owner position) with
  | some existing => exact .inl ⟨existing, rfl, by simp [genericParam, found]⟩
  | none => exact .inr ⟨rfl, by simp [genericParam, found]⟩

/-- An accepted definition is attached to one type, which had none. -/
theorem define_eq_ok {registry defined : Registry} {id : TypeId} {definition : Definition}
    (accepted : registry.define id definition = .ok defined) :
    ∃ current, registry.find? id = some current ∧ current.defined = false ∧
      (∀ mentioned ∈ definition.referencedTypes, registry.issued mentioned) ∧
      defined = ⟨registry.types.setIfInBounds id.raw (current.define definition)⟩ := by
  unfold define at accepted
  split at accepted
  case h_1 => simp at accepted
  case h_2 current found =>
    split at accepted
    case h_1 => simp at accepted
    case h_2 allIssued =>
      split at accepted
      case isTrue => simp at accepted
      case isFalse undefinedYet =>
        refine ⟨current, found, by simpa using undefinedYet, ?_, ?_⟩
        · intro mentioned member
          have known := List.find?_eq_none.1 allIssued mentioned member
          simpa using known
        · exact (Except.ok.inj accepted).symm

theorem find?_set {registry : Registry} {id : TypeId} {current : TypeInfo}
    (found : registry.find? id = some current) (info : TypeInfo) (other : TypeId) :
    (Registry.mk (registry.types.setIfInBounds id.raw info)).find? other =
      if other = id then some info else registry.find? other := by
  have bound : id.raw < registry.types.size := (Array.getElem?_eq_some_iff.1 found).1
  obtain ⟨raw⟩ := other
  obtain ⟨raw'⟩ := id
  by_cases same : raw = raw'
  · subst same
    simp [find?, bound]
  · simp [find?, same, Ne.symm same]

theorem issued_iff {registry : Registry} {id : TypeId} :
    registry.issued id = true ↔ id.raw < registry.size := decide_eq_true_iff

theorem issued_iff_find? {registry : Registry} {id : TypeId} :
    registry.issued id = true ↔ ∃ info, registry.find? id = some info := by
  rw [issued_iff]
  constructor
  · intro bound
    exact ⟨_, Array.getElem?_eq_getElem bound⟩
  · rintro ⟨info, found⟩
    exact (Array.getElem?_eq_some_iff.1 found).1

theorem info_of_find? {registry : Registry} {id : TypeId} {info : TypeInfo}
    (found : registry.find? id = some info) : registry.info id = info := by
  simp [Registry.info, found]

theorem find?_of_issued {registry : Registry} {id : TypeId} (issued : registry.issued id) :
    registry.find? id = some (registry.info id) := by
  obtain ⟨info, found⟩ := issued_iff_find?.1 issued
  rw [info_of_find? found, found]

/-- Nothing is declared for an id that was never given out. -/
theorem info_of_not_issued {registry : Registry} {id : TypeId} (foreign : ¬ registry.issued id) :
    registry.info id = TypeInfo.unissued id := by
  cases found : registry.find? id with
  | none => simp [Registry.info, found]
  | some info => exact absurd (issued_iff_find?.2 ⟨info, found⟩) foreign

theorem kind_of_not_issued {registry : Registry} {id : TypeId} (foreign : ¬ registry.issued id) :
    registry.kind id = .primitive := by
  rw [kind, info_of_not_issued foreign]
  rfl

theorem extended_of_not_issued {registry : Registry} {id : TypeId} (foreign : ¬ registry.issued id) :
    registry.extended id = [] := by
  rw [extended, info_of_not_issued foreign]
  rfl

/-- Only a type that has been given out is of another kind than unknown types are. -/
theorem issued_of_kind {registry : Registry} {id : TypeId} {kind : TypeKind}
    (isKind : registry.kind id = kind) (known : kind ≠ .primitive) : registry.issued id = true := by
  by_contra foreign
  exact known (isKind.symm.trans (kind_of_not_issued foreign))

/-! ### What every registry keeps -/

/-- What holds at first, and is kept by additions and definitions, holds of every registry. -/
theorem Grown.invariant (property : Registry → Prop) (start : property Registry.initial)
    (added : ∀ (registry : Registry) name key kind, property registry →
      property (registry.add name key kind).1)
    (defined : ∀ {registry defined : Registry} {id definition}, property registry →
      registry.define id definition = .ok defined → property defined)
    {registry : Registry} (grown : registry.Grown) : property registry := by
  induction grown with
  | initial => exact start
  | declare _ accepted inductionHypothesis =>
      have result := congrArg Prod.fst (declare_eq_ok accepted).2
      dsimp only at result
      rw [result]
      exact added _ _ _ _ inductionHypothesis
  | genericParam _ owner position name inductionHypothesis =>
      rcases genericParam_eq _ owner position name with ⟨_, _, same⟩ | ⟨_, new⟩
      · rw [same]
        exact inductionHypothesis
      · rw [new]
        exact added _ _ _ _ inductionHypothesis
  | define _ accepted inductionHypothesis => exact defined inductionHypothesis accepted

theorem size_initial : Registry.initial.size = TypeId.firstDynamic := by decide +kernel

theorem Grown.size_le {registry : Registry} (grown : registry.Grown) :
    TypeId.firstDynamic ≤ registry.size := by
  refine Grown.invariant (fun registry => TypeId.firstDynamic ≤ registry.size)
    (Nat.le_of_eq size_initial.symm) ?_ ?_ grown
  · intro registry name key kind large
    rw [size_add]
    omega
  · intro registry defined id definition large accepted
    obtain ⟨_, _, _, _, rfl⟩ := define_eq_ok accepted
    simpa [size] using large

/-- The types that a registry starts with are defined, so they never change. -/
theorem Grown.find?_of_reserved {registry : Registry} (grown : registry.Grown) {id : TypeId}
    (small : id.raw < TypeId.firstDynamic) :
    registry.find? id = Registry.initial.find? id := by
  have kept := Grown.invariant (fun registry => TypeId.firstDynamic ≤ registry.size ∧
      ∀ id : TypeId, id.raw < TypeId.firstDynamic → registry.find? id = Registry.initial.find? id)
    ⟨Nat.le_of_eq size_initial.symm, fun _ _ => rfl⟩ ?_ ?_ grown
  · exact kept.2 id small
  · rintro registry name key kind ⟨large, same⟩
    refine ⟨by rw [size_add]; omega, fun id small => ?_⟩
    rw [find?_add, if_neg (by omega), same id small]
  · rintro registry defined id definition ⟨large, same⟩ accepted
    obtain ⟨current, found, undefinedYet, _, rfl⟩ := define_eq_ok accepted
    refine ⟨by simpa [size] using large, fun other small => ?_⟩
    rw [find?_set found]
    split
    case isFalse => exact same other small
    case isTrue equal =>
      subst equal
      rw [same other small] at found
      have allDefined : ∀ raw < TypeId.firstDynamic,
          ((Registry.initial.find? ⟨raw⟩).map TypeInfo.defined) = some true := by decide +kernel
      have isDefined := allDefined other.raw small
      rw [found] at isDefined
      simp [undefinedYet] at isDefined

/-- All types that a registry mentions have been given out. -/
def Closed (registry : Registry) : Prop :=
  ∀ id, ∀ mentioned ∈ (registry.info id).referencedTypes, registry.issued mentioned

theorem referencedTypes_define {info : TypeInfo} {definition : Definition} {mentioned : TypeId}
    (member : mentioned ∈ (info.define definition).referencedTypes) :
    mentioned = .object ∨ mentioned ∈ definition.referencedTypes := by
  simp only [Definition.referencedTypes, TypeInfo.define, List.mem_append] at member ⊢
  cases given : definition.base with
  | some base => exact .inr (by simpa [given] using member)
  | none =>
      by_cases descends : info.kind.descendsFromObject ∧ info.id ≠ .object
      · simp only [given, if_pos descends] at member
        simpa [or_assoc] using member
      · simp only [given, if_neg descends] at member
        exact .inr (by simpa [or_assoc] using member)

theorem issued_add {registry : Registry} {name : String} {key : TypeKey} {kind : TypeKind}
    {id : TypeId} (issued : registry.issued id) : (registry.add name key kind).1.issued id := by
  rw [issued_iff, size_add]
  exact Nat.lt_succ_of_lt (issued_iff.1 issued)

/-- The mentions of a type, where it is found. -/
def FoundClosed (registry : Registry) : Prop :=
  ∀ id info, registry.find? id = some info →
    ∀ mentioned ∈ info.referencedTypes, registry.issued mentioned

theorem closed_of_foundClosed {registry : Registry} (found : registry.FoundClosed) :
    registry.Closed := by
  intro id mentioned member
  by_cases issued : registry.issued id
  · exact found id _ (find?_of_issued issued) mentioned member
  · rw [info_of_not_issued issued] at member
    exact absurd member (List.not_mem_nil)

theorem Grown.closed {registry : Registry} (grown : registry.Grown) : registry.Closed := by
  have kept := Grown.invariant
    (fun registry => registry.issued .object ∧ registry.FoundClosed) ?_ ?_ ?_ grown
  · exact closed_of_foundClosed kept.2
  · refine ⟨by decide +kernel, ?_⟩
    have allClosed : ∀ info ∈ Registry.initial.types.toList, ∀ mentioned ∈ info.referencedTypes,
        Registry.initial.issued mentioned := by decide +kernel
    intro id info found
    exact allClosed info (Array.mem_toList_iff.2 (Array.mem_of_getElem? found))
  · rintro registry name key kind ⟨object, closed⟩
    refine ⟨issued_add object, ?_⟩
    intro id info found mentioned member
    rw [find?_add] at found
    split at found
    case isTrue =>
      cases found
      exact absurd member List.not_mem_nil
    case isFalse => exact issued_add (closed id info found mentioned member)
  · rintro registry defined id definition ⟨object, closed⟩ accepted
    obtain ⟨current, present, _, allIssued, rfl⟩ := define_eq_ok accepted
    have keeps : ∀ other,
        registry.issued other →
          (Registry.mk (registry.types.setIfInBounds id.raw (current.define definition))).issued
            other := by
      intro other issued
      rw [issued_iff] at issued ⊢
      simpa [size] using issued
    refine ⟨keeps _ object, ?_⟩
    intro other info found mentioned member
    apply keeps
    rw [find?_set present] at found
    split at found
    case isTrue =>
      cases found
      rcases referencedTypes_define member with rfl | mentionedThere
      · exact object
      · exact allIssued mentioned mentionedThere
    case isFalse => exact closed other info found mentioned member

end StructuralCast.Registry
