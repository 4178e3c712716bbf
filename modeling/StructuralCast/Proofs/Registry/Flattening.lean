import StructuralCast.Proofs.Compatibility.Relation
import StructuralCast.Proofs.Registry.Assignable

/-!
Contract: what becomes of a declaration when a shape is flattened.

A shape asks for what it declares and for what the interfaces that it extends declare, one member for
each signature. `Registry.kept?` is the declaration that stands for a signature, the first one on the
way (`mem_shapeMembers_iff`). All that an extended interface declares is on that way
(`declarations_subset`), so each signature of the interface is one of the shape.

Accessors are no part of a signature. A property that comes later is dropped together with an accessor
that the first one does not have: the shape curtails it (`Registry.Curtails`). It is the only loss, and
only properties suffer it.
-/

namespace StructuralCast

namespace Member

/-- What two members share if they ask for the same thing. -/
def signature (member : Member) : MemberKind × String × List TypeId × TypeId × Bool × Nat :=
  (member.kind, member.name, member.params, member.result, member.isStatic, member.genericArity)

theorem sameSignature_iff {left right : Member} :
    left.sameSignature right = true ↔ left.signature = right.signature := by
  simp [sameSignature, signature, and_assoc]

theorem sameSignature_self (member : Member) : member.sameSignature member = true :=
  sameSignature_iff.2 rfl

/-- Members of one signature are told apart from others in the same way. -/
theorem sameSignature_congr {left right : Member} (same : left.sameSignature right = true)
    (earlier : Member) : earlier.sameSignature left = earlier.sameSignature right := by
  rw [Bool.eq_iff_iff, sameSignature_iff, sameSignature_iff, sameSignature_iff.1 same]

/-- Two members of one signature, kind by kind. -/
inductive Matches : Member → Member → Prop where
  | method {left right : Method} (name : left.name = right.name) (params : left.params = right.params)
      (result : left.result = right.result) (side : left.isStatic = right.isStatic)
      (arity : left.genericArity = right.genericArity) : Matches (.method left) (.method right)
  | property {left right : Property} (name : left.name = right.name)
      (index : left.index = right.index) (type : left.type = right.type)
      (side : left.isStatic = right.isStatic) : Matches (.property left) (.property right)
  | event {left right : Event} (name : left.name = right.name)
      (handler : left.handler = right.handler) (side : left.isStatic = right.isStatic) :
      Matches (.event left) (.event right)

theorem matches_of_sameSignature {left right : Member} (same : left.sameSignature right = true) :
    Matches left right := by
  simp only [sameSignature_iff, signature, Prod.mk.injEq] at same
  obtain ⟨kind, name, params, result, side, arity⟩ := same
  -- A property is of one of two kinds, and neither is that of a method or of an event.
  have propertyKind : ∀ property : Property,
      property.kind = .property ∨ property.kind = .indexer := by
    intro property
    unfold Property.kind
    split
    · exact .inl rfl
    · exact .inr rfl
  cases left with
  | method left =>
      cases right with
      | method right => exact .method name params result side arity
      | property right => rcases propertyKind right with is | is <;> simp [Member.kind, is] at kind
      | event right => cases kind
  | property left =>
      cases right with
      | method right => rcases propertyKind left with is | is <;> simp [Member.kind, is] at kind
      | property right => exact .property name params result side
      | event right => rcases propertyKind left with is | is <;> simp [Member.kind, is] at kind
  | event left =>
      cases right with
      | method right => cases kind
      | property right => rcases propertyKind right with is | is <;> simp [Member.kind, is] at kind
      | event right => exact .event name result side

/-- Whether a member has the accessors that another one has. -/
def Spans : (whole part : Member) → Prop
  | .property whole, .property part =>
    (part.canRead = true → whole.canRead = true) ∧ (part.canWrite = true → whole.canWrite = true)
  | _, _ => True

instance (whole part : Member) : Decidable (whole.Spans part) := by
  unfold Spans
  split <;> infer_instance

theorem spans_self (member : Member) : member.Spans member := by
  cases member with
  | method method => trivial
  | event event => trivial
  | property property => exact ⟨id, id⟩

theorem covers_of_present {whole part candidate : Option Accessor}
    (present : part.isSome = true → whole.isSome = true)
    (covered : Resolution.covers whole candidate = true) :
    Resolution.covers part candidate = true := by
  cases part with
  | none => rfl
  | some accessor =>
      obtain ⟨other, rfl⟩ := Option.isSome_iff_exists.1 (present rfl)
      cases candidate with
      | none => exact covered
      | some offered => exact covered

/-- What serves a member serves any other one of its signature that needs no further accessor. -/
theorem Serves.of_matches {holds : TypeId → TypeId → Prop} {onStatic : Bool}
    {kept required offered : Member} (serves : kept.Serves holds onStatic offered)
    (alike : Matches kept required) (spans : kept.Spans required) :
    required.Serves holds onStatic offered := by
  cases alike with
  | method name params result side arity =>
      cases offered with
      | method offered =>
          obtain ⟨eligible, pairs⟩ := serves
          refine ⟨?_, ?_⟩
          · simpa only [Resolution.Eligible, name, params, arity] using eligible
          · simpa only [Resolution.correspondence, params, result] using pairs
      | property offered => exact serves
      | event offered => exact serves
  | property name index type side =>
      cases offered with
      | method offered => exact serves
      | property offered =>
          obtain ⟨sameName, sameSide, getter, setter, length, compatible, pairs⟩ := serves
          refine ⟨name ▸ sameName, sameSide, covers_of_present spans.1 getter,
            covers_of_present spans.2 setter, index ▸ length, type ▸ compatible, ?_⟩
          simpa only [index] using pairs
      | event offered => exact serves
  | event name handler side =>
      cases offered with
      | method offered => exact serves
      | property offered => exact serves
      | event offered =>
          obtain ⟨sameName, sameSide, compatible⟩ := serves
          exact ⟨name ▸ sameName, sameSide, handler ▸ compatible⟩

end Member

namespace Registry

variable {registry : Registry} {shape above : TypeId}

/-! ### The types of a shape -/

/-- The types of a shape are itself and the interfaces that it extends. -/
theorem mem_shapeTypes_iff (closed : registry.Closed) {type : TypeId} :
    type ∈ registry.shapeTypes shape ↔ registry.issued shape ∧ registry.Extends shape type := by
  unfold shapeTypes
  by_cases issued : registry.issued shape = true
  · rw [mem_preorder_iff]
    · simp [issued, Extends]
    · intro start isStart
      rw [List.mem_singleton.1 isStart]
      exact mem_ids_iff.2 issued
    · exact fun _ _ _ declared => mem_ids_iff.2 (issued_of_extended closed declared)
  · -- Nothing is visited where the walk may not begin.
    have nowhere : nextVisit registry.ids [shape] = [] := by
      simp [nextVisit, mem_ids_iff, issued]
    simp [preorder_of_nextVisit_eq_nil nowhere, issued]

/-- What an extended interface mentions, the shape mentions as well. -/
theorem shapeTypes_subset (closed : registry.Closed) (reaches : registry.Extends shape above) :
    registry.shapeTypes above ⊆ registry.shapeTypes shape := by
  intro type member
  obtain ⟨issued, further⟩ := (mem_shapeTypes_iff closed).1 member
  refine (mem_shapeTypes_iff closed).2 ⟨?_, reaches.trans further⟩
  by_contra foreign
  obtain rfl := reaches.eq_of_not_issued foreign
  exact foreign issued

/-- An interface without a base has no interfaces but those that it extends. -/
theorem extends_of_mem_interfaces (closed : registry.Closed) (rootless : registry.base? shape = none)
    (member : above ∈ registry.interfaces shape) : registry.Extends shape above := by
  obtain ⟨owner, isOwner, start, declared, path⟩ := (mem_interfaces_iff closed).1 member
  rw [chain_of_no_base rootless, List.mem_singleton] at isOwner
  exact .head (isOwner ▸ declared) path

/-! ### One member for each signature -/

/-- Everything that the types of a shape declare, in order. -/
def declarations (registry : Registry) (shape : TypeId) : List ShapeMember :=
  (registry.shapeTypes shape).flatMap registry.declaredBy

/-- The declaration that stands for the signature of a member in a shape. -/
def kept? (registry : Registry) (shape : TypeId) (member : Member) : Option ShapeMember :=
  (registry.declarations shape).find? fun earlier => earlier.member.sameSignature member

theorem sameSignature_of_kept? {member : Member} {kept : ShapeMember}
    (found : registry.kept? shape member = some kept) : kept.member.sameSignature member = true := by
  unfold kept? at found
  simpa using List.find?_some found

theorem matches_of_kept? {member : Member} {kept : ShapeMember}
    (found : registry.kept? shape member = some kept) : kept.member.Matches member :=
  Member.matches_of_sameSignature (sameSignature_of_kept? found)

theorem declarations_subset (closed : registry.Closed) (reaches : registry.Extends shape above) :
    registry.declarations above ⊆ registry.declarations shape := by
  intro required member
  obtain ⟨type, isType, declared⟩ := List.mem_flatMap.1 member
  exact List.mem_flatMap.2 ⟨type, shapeTypes_subset closed reaches isType, declared⟩

/-- Adding members one by one keeps the first of each signature that is not there yet. -/
theorem mem_foldl_addMember_iff {found added : List ShapeMember} {required : ShapeMember} :
    required ∈ added.foldl addMember found ↔
      required ∈ found ∨
        (found.any fun earlier => earlier.member.sameSignature required.member) = false ∧
          (added.find? fun earlier => earlier.member.sameSignature required.member) =
            some required := by
  induction added generalizing found with
  | nil => simp
  | cons head tail inductionHypothesis =>
      rw [List.foldl_cons, inductionHypothesis]
      by_cases alike : head.member.sameSignature required.member = true
      · have sameTest : (found.any fun earlier => earlier.member.sameSignature head.member) =
            found.any fun earlier => earlier.member.sameSignature required.member := by
          simp only [Member.sameSignature_congr alike]
        simp only [List.find?_cons, alike, addMember, sameTest]
        by_cases present :
            (found.any fun earlier => earlier.member.sameSignature required.member) = true
        · simp [present]
        · simp [present, alike, eq_comm]
      · have other : required ≠ head := by
          rintro rfl
          exact alike (Member.sameSignature_self _)
        simp only [List.find?_cons, alike, addMember]
        by_cases present : (found.any fun earlier => earlier.member.sameSignature head.member) = true
        · simp [present]
        · simp [present, other, alike]

/-! ### What a shape keeps -/

theorem firstField?_eq_none_iff {types : List TypeId} :
    registry.firstField? types = none ↔ ∀ type ∈ types, (registry.info type).fields = [] := by
  simp [firstField?, List.findSome?_eq_none_iff]

/-- A shape that can be flattened asks for the first declaration of each signature. -/
theorem mem_shapeMembers_iff {members : List ShapeMember}
    (flattens : registry.shapeMembers shape = .ok members) {required : ShapeMember} :
    required ∈ members ↔ registry.kept? shape required.member = some required := by
  unfold shapeMembers at flattens
  dsimp only at flattens
  split at flattens
  case h_1 => cases flattens
  case h_2 =>
    cases flattens
    rw [mem_foldl_addMember_iff]
    simp [kept?, declarations]

/-- The interfaces that a shape extends can be flattened if the shape can. -/
theorem shapeMembers_of_extends (closed : registry.Closed) (reaches : registry.Extends shape above)
    {members : List ShapeMember} (flattens : registry.shapeMembers shape = .ok members) :
    ∃ others, registry.shapeMembers above = .ok others := by
  have fieldless : registry.firstField? (registry.shapeTypes above) = none := by
    rw [firstField?_eq_none_iff]
    intro type member
    have ofShape : registry.firstField? (registry.shapeTypes shape) = none := by
      unfold shapeMembers at flattens
      dsimp only at flattens
      split at flattens
      case h_1 => cases flattens
      case h_2 found => exact found
    exact firstField?_eq_none_iff.1 ofShape type (shapeTypes_subset closed reaches member)
  unfold shapeMembers
  dsimp only
  rw [fieldless]
  exact ⟨_, rfl⟩

/-- Whatever an extended interface declares, the shape asks for a member of its signature. -/
theorem exists_kept (closed : registry.Closed) (reaches : registry.Extends shape above)
    {members : List ShapeMember} (flattens : registry.shapeMembers shape = .ok members)
    {declared : ShapeMember} (isDeclared : declared ∈ registry.declarations above) :
    ∃ kept ∈ members, registry.kept? shape declared.member = some kept := by
  have listed := declarations_subset closed reaches isDeclared
  obtain ⟨kept, found⟩ := Option.isSome_iff_exists.1
    (List.find?_isSome.2 ⟨declared, listed, Member.sameSignature_self _⟩ :
      (registry.kept? shape declared.member).isSome = true)
  refine ⟨kept, (mem_shapeMembers_iff flattens).2 ?_, found⟩
  simpa only [kept?, Member.sameSignature_congr (sameSignature_of_kept? found)] using found

/-- Whether a shape keeps a declaration that lacks an accessor of this one. -/
def Curtails (registry : Registry) (shape : TypeId) (member : Member) : Prop :=
  ∃ kept, registry.kept? shape member = some kept ∧ ¬ kept.member.Spans member

instance (registry : Registry) (shape : TypeId) (member : Member) :
    Decidable (registry.Curtails shape member) :=
  inferInstanceAs (Decidable (∃ kept ∈ registry.kept? shape member, ¬ kept.member.Spans member))

theorem not_curtails_iff {member : Member} {kept : ShapeMember}
    (found : registry.kept? shape member = some kept) :
    ¬ registry.Curtails shape member ↔ kept.member.Spans member := by
  simp [Curtails, found]

/-- Only an accessor of a property can be lost. -/
theorem Curtails.isProperty {member : Member} (curtails : registry.Curtails shape member) :
    ∃ wanted kept, member = .property wanted ∧
      (registry.kept? shape member).map ShapeMember.member = some (.property kept) ∧
      (wanted.canRead = true ∧ kept.canRead = false ∨ wanted.canWrite = true ∧ kept.canWrite = false) := by
  obtain ⟨⟨declaring, kept⟩, found, lacks⟩ := curtails
  have alike : kept.Matches member := matches_of_kept? found
  cases alike with
  | method name params result side arity => exact absurd trivial lacks
  | event name handler side => exact absurd trivial lacks
  | @property own wanted name index type side =>
      refine ⟨wanted, own, rfl, by rw [found, Option.map_some], ?_⟩
      simp only [Member.Spans, not_and_or, Classical.not_imp, Bool.not_eq_true] at lacks
      exact lacks

end Registry
end StructuralCast
