import Mathlib.Data.List.Zip
import StructuralCast.Resolution
import StructuralCast.Strategy

/-!
Contract: what it means for two types to be compatible, without any order of evaluation.

`Registry.Supports holds left right` lists the grounds on which two types are compatible when the
pairs in `holds` are. A relation is consistent when it gives such grounds for each of its pairs, and
`Registry.Compatible` is the greatest consistent relation on the types that have been given out. It
is symmetric.

`Registry.Conforms` is the same without regard to what has been given out. An analysis decides this
one, because it never looks whether an id has been given out before it compares it.
-/

namespace StructuralCast

/-- The members that a source type offers, as members. -/
def Offer.members (offer : Offer) : List Member :=
  offer.methods.map .method ++ offer.properties.map .property ++ offer.events.map .event

/-- Whether an offered member can serve a required one, given which types are compatible. -/
def Member.Serves (holds : TypeId → TypeId → Prop) (onStatic : Bool) :
    (required offered : Member) → Prop
  | .method required, .method offered =>
    Resolution.Eligible required onStatic offered ∧
      ∀ pair ∈ Resolution.correspondence required offered, holds pair.1 pair.2
  | .property required, .property offered =>
    offered.name = required.name ∧ offered.isStatic = onStatic ∧
      Resolution.covers required.getter offered.getter ∧
      Resolution.covers required.setter offered.setter ∧
      required.index.length = offered.index.length ∧ holds required.type offered.type ∧
      ∀ pair ∈ required.index.zip offered.index, holds pair.1 pair.2
  | .event required, .event offered =>
    offered.name = required.name ∧ offered.isStatic = onStatic ∧
      holds required.handler offered.handler
  | _, _ => False

/-- Two signatures of one arity whose types correspond. -/
def Signature.Corresponds (holds : TypeId → TypeId → Prop) (left right : Signature) : Prop :=
  left.params.length = right.params.length ∧
    (∀ pair ∈ left.params.zip right.params, holds pair.1 pair.2) ∧ holds left.result right.result

namespace Registry

/-- Whether every member of a shape is served by a member that a source type offers. -/
def Fulfils (registry : Registry) (holds : TypeId → TypeId → Prop) (onStatic : Bool)
    (shape source : TypeId) : Prop :=
  ∃ members, registry.shapeMembers shape = .ok members ∧
    ∀ required ∈ members, ∃ offered ∈ (Offer.of registry source onStatic).members,
      required.member.Serves holds onStatic offered

/-- The grounds on which two types are compatible if all pairs in `holds` are. -/
inductive Supports (registry : Registry) (holds : TypeId → TypeId → Prop) (left right : TypeId) :
    Prop where
  | same (equal : left = right)
  | native (assignable : registry.assignable left right ∨ registry.assignable right left)
  | enumText
      (kinds : (registry.kind left = .enumType ∧ right = .text) ∨
        (left = .text ∧ registry.kind right = .enumType))
  | genericParam (leftKind : registry.kind left = .genericParam)
      (rightKind : registry.kind right = .genericParam) (position : Nat)
      (leftPosition : (registry.info left).genericPosition? = some position)
      (rightPosition : (registry.info right).genericPosition? = some position)
  | delegate (leftKind : registry.kind left = .delegate) (rightKind : registry.kind right = .delegate)
      (leftInvoke rightInvoke : Signature)
      (leftDeclares : (registry.info left).invoke = some leftInvoke)
      (rightDeclares : (registry.info right).invoke = some rightInvoke)
      (corresponds : leftInvoke.Corresponds holds rightInvoke)
  | shape (isShape : registry.kind left = .interface) (fulfilled : registry.Fulfils holds false left right)
  | reversedShape (isShape : registry.kind right = .interface)
      (fulfilled : registry.Fulfils holds false right left)

/-- Grounds for two types in one order or the other. -/
def SupportsEither (registry : Registry) (holds : TypeId → TypeId → Prop) (left right : TypeId) :
    Prop :=
  registry.Supports holds left right ∨ registry.Supports holds right left

/-- The greatest relation with grounds for each of its pairs. -/
def Conforms (registry : Registry) (left right : TypeId) : Prop :=
  ∃ holds : TypeId → TypeId → Prop,
    (∀ one other, holds one other → registry.Supports holds one other) ∧ holds left right

/-- A relation on the types that have been given out, with grounds for each of its pairs. -/
def Consistent (registry : Registry) (holds : TypeId → TypeId → Prop) : Prop :=
  ∀ left right, holds left right →
    registry.issued left ∧ registry.issued right ∧ registry.Supports holds left right

/-- The greatest consistent relation. -/
def Compatible (registry : Registry) (left right : TypeId) : Prop :=
  ∃ holds, registry.Consistent holds ∧ holds left right

end Registry

/-! ### Where the types come from that members mention -/

/-- The types that a member mentions. -/
def Member.types (member : Member) : List TypeId := member.params ++ [member.result]

theorem Definition.mem_referencedTypes_of_member {definition : Definition} {member : Member}
    (declared : member ∈ definition.members) {type : TypeId} (mentioned : type ∈ member.types) :
    type ∈ definition.referencedTypes := by
  simp only [Definition.members, List.mem_append, List.mem_map] at declared
  rcases declared with (⟨method, isMethod, rfl⟩ | ⟨property, isProperty, rfl⟩) |
    ⟨event, isEvent, rfl⟩
  · have listed : type ∈ definition.methods.flatMap fun method => method.params ++ [method.result] :=
      List.mem_flatMap.2 ⟨method, isMethod, mentioned⟩
    simp [Definition.referencedTypes, listed]
  · have listed : type ∈ definition.properties.flatMap fun property =>
        property.index ++ [property.type] :=
      List.mem_flatMap.2 ⟨property, isProperty, mentioned⟩
    simp [Definition.referencedTypes, listed]
  · have handler : type = event.handler := by
      simpa [Member.types, Member.params, Member.result] using mentioned
    have listed : type ∈ definition.events.map Event.handler :=
      handler ▸ List.mem_map_of_mem isEvent
    simp [Definition.referencedTypes, listed]

theorem Definition.mem_referencedTypes_of_invoke {definition : Definition} {signature : Signature}
    (declared : definition.invoke = some signature) {type : TypeId}
    (mentioned : type ∈ signature.params ++ [signature.result]) :
    type ∈ definition.referencedTypes := by
  have listed : type ∈ definition.invoke.toList.flatMap fun signature =>
      signature.params ++ [signature.result] := by
    rw [declared]
    simpa using mentioned
  exact List.mem_append_right _ listed

namespace Registry

theorem mem_addMember {found : List ShapeMember} {required added : ShapeMember}
    (member : required ∈ addMember found added) : required ∈ found ∨ required = added := by
  unfold addMember at member
  split at member
  case isTrue => exact .inl member
  case isFalse => simpa using member

theorem mem_foldl_addMember {found added : List ShapeMember} {required : ShapeMember}
    (member : required ∈ added.foldl addMember found) : required ∈ found ∨ required ∈ added := by
  induction added generalizing found with
  | nil => exact .inl member
  | cons head tail inductionHypothesis =>
      rcases inductionHypothesis member with before | later
      · rcases mem_addMember before with there | rfl
        · exact .inl there
        · exact .inr List.mem_cons_self
      · exact .inr (List.mem_cons_of_mem _ later)

/-- What a shape asks for is declared by some type. -/
theorem declared_of_mem_shapeMembers {registry : Registry} {shape : TypeId}
    {members : List ShapeMember} (found : registry.shapeMembers shape = .ok members)
    {required : ShapeMember} (member : required ∈ members) :
    ∃ owner, required.member ∈ (registry.info owner).members := by
  unfold shapeMembers at found
  dsimp only at found
  split at found
  case h_1 => simp at found
  case h_2 =>
    cases found
    rcases mem_foldl_addMember member with never | declared
    · exact absurd never List.not_mem_nil
    · obtain ⟨owner, _, inOwner⟩ := List.mem_flatMap.1 declared
      obtain ⟨original, isMember, rfl⟩ := List.mem_map.1 inOwner
      exact ⟨owner, isMember⟩

/-- What a type offers is declared, on the right side, by one of the types that have a say in it. -/
theorem mem_offer_iff {registry : Registry} {source : TypeId} {onStatic : Bool} {offered : Member} :
    offered ∈ (Offer.of registry source onStatic).members ↔
      ∃ owner ∈ Offer.owners registry source onStatic,
        offered ∈ (registry.info owner).members ∧ offered.isStatic = onStatic := by
  cases offered <;>
    simp [Offer.members, Offer.of, Definition.members, Member.isStatic]

end Registry

/-! ### More pairs give more grounds

The pairs in question are pairs of types that the registry mentions, so it is enough that `wider`
contains those pairs of `holds` that satisfy `known`, which holds of all types that are mentioned. -/

section Monotone

variable {registry : Registry} {holds wider : TypeId → TypeId → Prop} {known : TypeId → Prop}

theorem Member.Serves.mono_on {onStatic : Bool} {required offered : Member}
    (requiredKnown : ∀ type ∈ required.types, known type)
    (offeredKnown : ∀ type ∈ offered.types, known type)
    (widen : ∀ left right, known left → known right → holds left right → wider left right)
    (serves : required.Serves holds onStatic offered) : required.Serves wider onStatic offered := by
  have params : ∀ {member : Member} {type}, (∀ type ∈ member.types, known type) →
      type ∈ member.params → known type :=
    fun allKnown mentioned => allKnown _ (List.mem_append_left _ mentioned)
  have result : ∀ {member : Member}, (∀ type ∈ member.types, known type) → known member.result :=
    fun allKnown => allKnown _ (List.mem_append_right _ (List.mem_singleton.2 rfl))
  match required, offered, serves with
  | .method wanted, .method served, ⟨eligible, pairs⟩ =>
    refine ⟨eligible, fun pair member => ?_⟩
    have there := pairs pair member
    rcases List.mem_append.1 member with ofParams | ofResult
    · obtain ⟨left, right⟩ := List.of_mem_zip ofParams
      exact widen _ _ (params offeredKnown left) (params requiredKnown right) there
    · cases List.mem_singleton.1 ofResult
      exact widen _ _ (result requiredKnown) (result offeredKnown) there
  | .property _, .property _, ⟨name, side, getter, setter, arity, type, index⟩ =>
    refine ⟨name, side, getter, setter, arity,
      widen _ _ (result requiredKnown) (result offeredKnown) type, fun pair member => ?_⟩
    obtain ⟨left, right⟩ := List.of_mem_zip member
    exact widen _ _ (params requiredKnown left) (params offeredKnown right) (index pair member)
  | .event _, .event _, ⟨name, side, handler⟩ =>
    exact ⟨name, side, widen _ _ (result requiredKnown) (result offeredKnown) handler⟩

theorem Signature.Corresponds.mono_on {left right : Signature}
    (leftKnown : ∀ type ∈ left.params ++ [left.result], known type)
    (rightKnown : ∀ type ∈ right.params ++ [right.result], known type)
    (widen : ∀ left right, known left → known right → holds left right → wider left right)
    (corresponds : left.Corresponds holds right) : left.Corresponds wider right := by
  obtain ⟨arity, params, result⟩ := corresponds
  refine ⟨arity, fun pair member => ?_, widen _ _ (leftKnown _ (by simp)) (rightKnown _ (by simp)) result⟩
  obtain ⟨ofLeft, ofRight⟩ := List.of_mem_zip member
  exact widen _ _ (leftKnown _ (List.mem_append_left _ ofLeft))
    (rightKnown _ (List.mem_append_left _ ofRight)) (params pair member)

theorem Signature.Corresponds.symm (symmetric : ∀ left right, holds left right → holds right left)
    {left right : Signature} (corresponds : left.Corresponds holds right) :
    right.Corresponds holds left := by
  obtain ⟨arity, params, result⟩ := corresponds
  refine ⟨arity.symm, ?_, symmetric _ _ result⟩
  intro pair member
  rw [← List.zip_swap, List.mem_map] at member
  obtain ⟨original, originalMember, rfl⟩ := member
  exact symmetric _ _ (params original originalMember)

variable (mentions : ∀ id, ∀ type ∈ (registry.info id).referencedTypes, known type)
  (widen : ∀ left right, known left → known right → holds left right → wider left right)

include mentions widen in
theorem Registry.Fulfils.mono_on {onStatic : Bool} {shape source : TypeId}
    (fulfilled : registry.Fulfils holds onStatic shape source) :
    registry.Fulfils wider onStatic shape source := by
  obtain ⟨members, found, served⟩ := fulfilled
  refine ⟨members, found, fun required member => ?_⟩
  obtain ⟨offered, isOffered, serves⟩ := served required member
  obtain ⟨declaring, declared⟩ := Registry.declared_of_mem_shapeMembers found member
  obtain ⟨owner, _, owned, _⟩ := Registry.mem_offer_iff.1 isOffered
  refine ⟨offered, isOffered, serves.mono_on ?_ ?_ widen⟩
  · exact fun type mentioned => mentions _ _ (Definition.mem_referencedTypes_of_member declared mentioned)
  · exact fun type mentioned => mentions _ _ (Definition.mem_referencedTypes_of_member owned mentioned)

namespace Registry.Supports

include mentions widen in
theorem mono_on {left right : TypeId} (grounds : registry.Supports holds left right) :
    registry.Supports wider left right := by
  cases grounds with
  | same equal => exact .same equal
  | native assignable => exact .native assignable
  | enumText kinds => exact .enumText kinds
  | genericParam leftKind rightKind position leftPosition rightPosition =>
      exact .genericParam leftKind rightKind position leftPosition rightPosition
  | delegate leftKind rightKind _ _ leftDeclares rightDeclares corresponds =>
      refine .delegate leftKind rightKind _ _ leftDeclares rightDeclares
        (corresponds.mono_on ?_ ?_ widen)
      · exact fun type mentioned =>
          mentions _ _ (Definition.mem_referencedTypes_of_invoke leftDeclares mentioned)
      · exact fun type mentioned =>
          mentions _ _ (Definition.mem_referencedTypes_of_invoke rightDeclares mentioned)
  | shape isShape fulfilled => exact .shape isShape (fulfilled.mono_on mentions widen)
  | reversedShape isShape fulfilled => exact .reversedShape isShape (fulfilled.mono_on mentions widen)

omit mentions widen in
theorem mono (widen : ∀ left right, holds left right → wider left right) {left right : TypeId}
    (grounds : registry.Supports holds left right) : registry.Supports wider left right :=
  grounds.mono_on (fun _ _ _ => trivial) fun left right (_ : True) (_ : True) => widen left right

omit mentions widen in
theorem symm (symmetric : ∀ left right, holds left right → holds right left) {left right : TypeId}
    (grounds : registry.Supports holds left right) : registry.Supports holds right left := by
  cases grounds with
  | same equal => exact .same equal.symm
  | native assignable => exact .native assignable.symm
  | enumText kinds => exact .enumText (kinds.symm.imp And.symm And.symm)
  | genericParam leftKind rightKind position leftPosition rightPosition =>
      exact .genericParam rightKind leftKind position rightPosition leftPosition
  | delegate leftKind rightKind _ _ leftDeclares rightDeclares corresponds =>
      exact .delegate rightKind leftKind _ _ rightDeclares leftDeclares (corresponds.symm symmetric)
  | shape isShape fulfilled => exact .reversedShape isShape fulfilled
  | reversedShape isShape fulfilled => exact .shape isShape fulfilled

end Registry.Supports

theorem Registry.SupportsEither.mono (widen : ∀ left right, holds left right → wider left right)
    {left right : TypeId} (grounds : registry.SupportsEither holds left right) :
    registry.SupportsEither wider left right :=
  grounds.imp (Supports.mono widen) (Supports.mono widen)

theorem Registry.SupportsEither.symm {left right : TypeId}
    (grounds : registry.SupportsEither holds left right) : registry.SupportsEither holds right left :=
  Or.symm grounds

theorem Registry.SupportsEither.supports
    (symmetric : ∀ left right, holds left right → holds right left) {left right : TypeId}
    (grounds : registry.SupportsEither holds left right) : registry.Supports holds left right :=
  grounds.elim id (Supports.symm symmetric)

end Monotone
end StructuralCast
