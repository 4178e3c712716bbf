import StructuralCast.Proofs.Registry.Assignable

/-!
Contract: what an engine found out about a registry stays true when the registry grows.

`Develops` is one step of a host that builds a registry: a declaration, a generic parameter, or a
definition. Whatever the registry says of a type before the step, it says afterwards (`Retains`),
because a type that can still be defined has nothing yet (`Grown.blank`). Native assignability is never
lost on the way (`Retains.assignable`), even where chains run in circles.
-/

namespace StructuralCast.Registry

variable {registry before after : Registry}

/-! ### Types without a definition -/

/-- A type whose definition is still to come has no base, no interfaces and no signature. -/
def Blank (info : TypeInfo) : Prop := info.base = none ∧ info.interfaces = [] ∧ info.invoke = none

/-- A type whose definition is still to come is as it was declared. -/
theorem Grown.eq_declared (grown : registry.Grown) {id : TypeId} {info : TypeInfo}
    (found : registry.find? id = some info) (undefinedYet : info.defined = false) :
    info = TypeInfo.declared info.id info.name info.key info.kind := by
  have kept := Grown.invariant (fun registry => ∀ id info, registry.find? id = some info →
    info.defined = false → info = TypeInfo.declared info.id info.name info.key info.kind) ?_ ?_ ?_ grown
  · exact kept id info found undefinedYet
  · have allDefined : ∀ info ∈ Registry.initial.types.toList, info.defined = true := by decide +kernel
    intro id info found undefinedYet
    rw [allDefined info (Array.mem_toList_iff.2 (Array.mem_of_getElem? found))] at undefinedYet
    cases undefinedYet
  · intro registry name key kind declared id info found undefinedYet
    rw [find?_add] at found
    split at found
    case isTrue =>
      cases found
      rfl
    case isFalse => exact declared id info found undefinedYet
  · intro registry defined id definition declared accepted other info found undefinedYet
    obtain ⟨current, present, _, _, rfl⟩ := define_eq_ok accepted
    rw [find?_set present] at found
    split at found
    case isTrue =>
      cases found
      cases undefinedYet
    case isFalse => exact declared other info found undefinedYet

theorem Grown.blank (grown : registry.Grown) {id : TypeId} {info : TypeInfo}
    (found : registry.find? id = some info) (undefinedYet : info.defined = false) : Blank info := by
  rw [grown.eq_declared found undefinedYet]
  exact ⟨rfl, rfl, rfl⟩

/-! ### One step of growth -/

/-- One step of a host that builds a registry. -/
inductive Develops : Registry → Registry → Prop where
  | declare {registry declared : Registry} {key : TypeKey} {kind : TypeKind} {id : TypeId}
      (accepted : registry.declare key kind = .ok (declared, id)) : Develops registry declared
  | genericParam (registry : Registry) (owner : GenericOwner) (position : Nat) (name : String) :
      Develops registry (registry.genericParam owner position name).1
  | define {registry defined : Registry} {id : TypeId} {definition : Definition}
      (accepted : registry.define id definition = .ok defined) : Develops registry defined

theorem Develops.grown (develops : Develops before after) (grown : before.Grown) : after.Grown := by
  cases develops with
  | declare accepted => exact .declare grown accepted
  | genericParam owner position name => exact .genericParam grown owner position name
  | define accepted => exact .define grown accepted

/-- A step changes nothing, adds a type whose key is free, or attaches a definition to a type that had
none. -/
theorem Develops.cases (develops : Develops before after) :
    after = before ∨
      (∃ name key kind, before.lookup key = none ∧ after = (before.add name key kind).1) ∨
      ∃ id current definition, before.find? id = some current ∧ current.defined = false ∧
        after = ⟨before.types.setIfInBounds id.raw (current.define definition)⟩ := by
  cases develops with
  | declare accepted =>
      obtain ⟨free, result⟩ := declare_eq_ok accepted
      exact .inr (.inl ⟨_, _, _, free, congrArg Prod.fst result⟩)
  | genericParam owner position name =>
      rcases genericParam_eq before owner position name with ⟨_, _, same⟩ | ⟨free, new⟩
      · exact .inl (congrArg Prod.fst same)
      · exact .inr (.inl ⟨_, _, _, free, congrArg Prod.fst new⟩)
  | define accepted =>
      obtain ⟨current, present, undefinedYet, _, rfl⟩ := define_eq_ok accepted
      exact .inr (.inr ⟨_, current, _, present, undefinedYet, rfl⟩)

/-- Nothing is defined twice. -/
theorem Develops.find?_of_defined (develops : Develops before after) {id : TypeId} {info : TypeInfo}
    (found : before.find? id = some info) (defined : info.defined = true) :
    after.find? id = some info := by
  rcases develops.cases with rfl | ⟨name, key, kind, _, rfl⟩ |
    ⟨other, current, definition, present, undefinedYet, rfl⟩
  · exact found
  · have within := issued_iff.1 (issued_iff_find?.2 ⟨info, found⟩)
    rw [find?_add, if_neg (Nat.ne_of_lt within), found]
  · rw [find?_set present]
    split
    case isTrue same =>
      subst same
      obtain rfl := Option.some.inj (found.symm.trans present)
      rw [defined] at undefinedYet
      cases undefinedYet
    case isFalse => exact found

/-- What has been defined stays as it is, however a registry develops. -/
theorem find?_of_develops (develops : Relation.ReflTransGen Develops before after) {id : TypeId}
    {info : TypeInfo} (found : before.find? id = some info) (defined : info.defined = true) :
    after.find? id = some info := by
  induction develops with
  | refl => exact found
  | tail _ step inductionHypothesis => exact step.find?_of_defined inductionHypothesis defined

/-- A later registry says of a type all that an earlier one says of it. -/
structure Retains (before after : Registry) : Prop where
  larger : before.size ≤ after.size
  infos : ∀ id info, before.find? id = some info → ∃ later, after.find? id = some later ∧
    later.kind = info.kind ∧ later.key = info.key ∧ (later = info ∨ Blank info)

theorem Retains.refl (registry : Registry) : Retains registry registry :=
  ⟨Nat.le_refl _, fun _ info found => ⟨info, found, rfl, rfl, .inl rfl⟩⟩

theorem retains_add (registry : Registry) (name : String) (key : TypeKey) (kind : TypeKind) :
    Retains registry (registry.add name key kind).1 := by
  refine ⟨by rw [size_add]; omega, fun id info found => ⟨info, ?_, rfl, rfl, .inl rfl⟩⟩
  have bound := issued_iff.1 (issued_iff_find?.2 ⟨info, found⟩)
  rw [find?_add, if_neg (by omega), found]

theorem Develops.retains (develops : Develops before after) (grown : before.Grown) :
    Retains before after := by
  rcases develops.cases with rfl | ⟨name, key, kind, _, rfl⟩ |
    ⟨id, current, definition, present, undefinedYet, rfl⟩
  · exact .refl _
  · exact retains_add _ _ _ _
  · refine ⟨Nat.le_of_eq (by simp [size]), fun other info found => ?_⟩
    rw [find?_set present]
    split
    case isTrue same =>
      subst same
      obtain rfl : current = info := Option.some.inj (present.symm.trans found)
      exact ⟨_, rfl, rfl, rfl, .inr (grown.blank present undefinedYet)⟩
    case isFalse => exact ⟨info, found, rfl, rfl, .inl rfl⟩

theorem develops_register (registry : Registry) (key : TypeKey) (kind : TypeKind)
    (definition : Definition) :
    Relation.ReflTransGen Develops registry (registry.register key kind definition).1 := by
  unfold register
  split
  case h_1 => exact .refl
  case h_2 declared id declaring =>
    have declares : Relation.ReflTransGen Develops registry declared := .single (.declare declaring)
    split
    case h_1 => exact declares
    case h_2 defined defining => exact declares.tail (.define defining)

theorem Retains.trans {between : Registry} (first : Retains before between)
    (further : Retains between after) : Retains before after := by
  refine ⟨first.larger.trans further.larger, fun id info found => ?_⟩
  obtain ⟨middle, foundThen, kind, key, same⟩ := first.infos id info found
  obtain ⟨later, foundLater, kindLater, keyLater, sameLater⟩ := further.infos id middle foundThen
  refine ⟨later, foundLater, kindLater.trans kind, keyLater.trans key, ?_⟩
  rcases same with rfl | blank
  · exact sameLater
  · exact .inr blank

/-- A registry that develops step by step retains everything. -/
theorem retains_of_develops (develops : Relation.ReflTransGen Develops before after)
    (grown : before.Grown) : Retains before after ∧ after.Grown := by
  induction develops with
  | refl => exact ⟨.refl before, grown⟩
  | tail _ step inductionHypothesis =>
      obtain ⟨retains, grownThen⟩ := inductionHypothesis
      exact ⟨retains.trans (step.retains grownThen), step.grown grownThen⟩

namespace Retains

variable (retains : Retains before after) {id : TypeId}

include retains

/-- Types that have been given out keep what they were declared with. -/
theorem declared (issued : before.issued id = true) :
    (after.info id).kind = (before.info id).kind ∧ (after.info id).key = (before.info id).key := by
  obtain ⟨later, found, kind, key, _⟩ := retains.infos id _ (find?_of_issued issued)
  rw [info_of_find? found]
  exact ⟨kind, key⟩

/-- A kind other than the one of unknown types stays. -/
theorem kind_eq {kind : TypeKind} (isKind : before.kind id = kind) (known : kind ≠ .primitive) :
    after.kind id = kind := by
  exact (retains.declared (issued_of_kind isKind known)).1.trans isKind

theorem genericPosition?_eq {position : Nat}
    (isPosition : (before.info id).genericPosition? = some position) :
    (after.info id).genericPosition? = some position := by
  have issued : before.issued id = true := by
    by_contra foreign
    rw [info_of_not_issued foreign] at isPosition
    cases isPosition
  rw [TypeInfo.genericPosition?, (retains.declared issued).2]
  exact isPosition

theorem invoke_eq {signature : Signature} (declares : (before.info id).invoke = some signature) :
    (after.info id).invoke = some signature := by
  have issued : before.issued id = true := by
    by_contra foreign
    rw [info_of_not_issued foreign] at declares
    cases declares
  obtain ⟨later, found, _, _, rfl | ⟨_, _, blank⟩⟩ := retains.infos id _ (find?_of_issued issued)
  · rw [info_of_find? found]
    exact declares
  · rw [blank] at declares
    cases declares

theorem base?_eq {base : TypeId} (hasBase : before.base? id = some base) :
    after.base? id = some base := by
  obtain ⟨info, found, declared⟩ := Option.bind_eq_some_iff.1 hasBase
  obtain ⟨later, foundLater, _, _, rfl | ⟨blank, _⟩⟩ := retains.infos id info found
  · rw [base?, foundLater]
    exact declared
  · rw [blank] at declared
    cases declared

theorem extended_subset : before.extended id ⊆ after.extended id := by
  intro interface declared
  have issued : before.issued id = true := by
    by_contra foreign
    rw [extended_of_not_issued foreign] at declared
    exact absurd declared List.not_mem_nil
  obtain ⟨later, found, _, _, rfl | ⟨_, blank, _⟩⟩ := retains.infos id _ (find?_of_issued issued)
  · rw [extended, info_of_find? found]
    exact declared
  · rw [extended, blank] at declared
    exact absurd declared List.not_mem_nil

theorem ancestors_subset {steps more : Nat} (within : steps ≤ more) :
    before.ancestors steps id ⊆ after.ancestors more id := by
  induction steps generalizing more id with
  | zero => exact List.nil_subset _
  | succ steps inductionHypothesis =>
      obtain ⟨rest, rfl⟩ : ∃ rest, more = rest + 1 := ⟨more - 1, by omega⟩
      cases hasBase : before.base? id with
      | none =>
          simp only [ancestors, hasBase]
          exact List.nil_subset _
      | some base =>
          simp only [ancestors, hasBase, retains.base?_eq hasBase]
          exact List.cons_subset_cons base (inductionHypothesis (by omega))

theorem chain_subset : before.chain id ⊆ after.chain id :=
  List.cons_subset_cons id (retains.ancestors_subset retains.larger)

/-- What can be assigned can still be assigned when the registry has grown. -/
theorem assignable (closedBefore : before.Closed) (closedAfter : after.Closed)
    {target source : TypeId} (assignable : before.assignable target source = true) :
    after.assignable target source = true := by
  rw [assignable_iff] at assignable ⊢
  refine assignable.imp_right fun ⟨notTarget, notSource, further⟩ => ⟨notTarget, notSource, ?_⟩
  rcases further with root | above | ⟨isInterface, implemented⟩
  · exact .inl root
  · exact .inr (.inl (retains.chain_subset above))
  · refine .inr (.inr ⟨retains.kind_eq isInterface (by decide), ?_⟩)
    obtain ⟨owner, isOwner, start, declared, path⟩ := (mem_interfaces_iff closedBefore).1 implemented
    refine (mem_interfaces_iff closedAfter).2 ⟨owner, retains.chain_subset isOwner, start,
      retains.extended_subset declared, ?_⟩
    exact Relation.ReflTransGen.mono (fun _ _ declared => retains.extended_subset declared) _ _ path

end Retains
end StructuralCast.Registry
