import StructuralCast.Proofs.Engine.Generation
import StructuralCast.Proofs.Inquiry.Choice

/-!
Contract: what takes the place of a bound member is what a derived type would bind itself.

A factory for a type above the type of a source looks for members of the types between the two before
it uses the bound one. What the source offers is what these types declare, and then what the type above
declares (`owners_split`). So the look at the types between comes to what resolution finds for the type
of the source, if that declares the types of the bound member: `dispatchMethod_eq`, and
`dispatchProperty_eq` where the property that is used has the accessors that are asked for.
-/

namespace StructuralCast

/-! ### First matches -/

/-- A narrower test finds the same, if what the wider one finds passes it. -/
theorem find?_eq_of_narrower {α : Type} {narrow wide : α → Bool} {items : List α}
    (narrower : ∀ item, narrow item = true → wide item = true)
    (passes : ∀ found ∈ items.find? wide, narrow found = true) :
    items.find? narrow = items.find? wide := by
  induction items with
  | nil => rfl
  | cons head tail inductionHypothesis =>
      by_cases fits : wide head = true
      · have passesHead : narrow head = true := by
          apply passes
          rw [List.find?_cons_of_pos fits]
          rfl
        rw [List.find?_cons_of_pos fits, List.find?_cons_of_pos passesHead]
      · have fails : ¬ narrow head = true := fun holds => fits (narrower head holds)
        rw [List.find?_cons_of_neg fits] at passes ⊢
        rw [List.find?_cons_of_neg fails]
        exact inductionHypothesis passes

/-- What is found for the whole is found below, or else it is what is found for the rest. -/
theorem getD_findSome?_of_split {α β : Type} {find : α → Option β} {below common further : List α}
    {general specific : β} (whole : (below ++ common).findSome? find = some specific)
    (rest : (common ++ further).findSome? find = some general) :
    (below.findSome? find).getD general = specific := by
  rw [List.findSome?_append] at whole rest
  cases foundBelow : below.findSome? find with
  | some found =>
      rw [foundBelow] at whole
      exact Option.some.inj whole
  | none =>
      rw [foundBelow] at whole
      cases foundCommon : common.findSome? find with
      | none =>
          rw [foundCommon] at whole
          cases whole
      | some found =>
          rw [foundCommon] at whole rest
          exact (Option.some.inj rest).symm.trans (Option.some.inj whole)

/-- What is found for the whole is found below, or else for the rest. -/
theorem findSome?_append_of_some {α β : Type} {find : α → Option β} {below rest : List α}
    {general : β} (found : rest.findSome? find = some general) :
    (below ++ rest).findSome? find = some ((below.findSome? find).getD general) := by
  rw [List.findSome?_append, found]
  cases below.findSome? find with
  | none => rfl
  | some specific => rfl

/-! ### What the types between declare -/

namespace Registry

variable {registry : Registry}

/-- A type offers what the types below another one on its chain declare, and then what that one
offers; an interface on the chain offers more than what is passed on. -/
theorem owners_split (orderly : registry.Orderly) {type ancestor : TypeId}
    (member : ancestor ∈ registry.chain type) :
    ∃ common further,
      Offer.owners registry type false =
          (registry.chain type).takeWhile (· ≠ ancestor) ++ common ∧
        Offer.owners registry ancestor false = common ++ further := by
  have split := chain_eq_append orderly.grown orderly.acyclic member
  by_cases typeKind : (registry.info type).isInterface = true
  · have rootless : registry.base? type = none :=
      orderly.roots type (by simpa [TypeInfo.isInterface, Registry.kind] using typeKind)
    rw [chain_of_no_base rootless] at member ⊢
    obtain rfl := List.mem_singleton.1 member
    exact ⟨_, [], by simp, (List.append_nil _).symm⟩
  · rw [show Offer.owners registry type false = registry.chain type by simp [Offer.owners, typeKind]]
    by_cases ancestorKind : (registry.info ancestor).isInterface = true
    · have rootless : registry.base? ancestor = none :=
        orderly.roots ancestor (by simpa [TypeInfo.isInterface, Registry.kind] using ancestorKind)
      rw [chain_of_no_base rootless] at split
      exact ⟨[ancestor], registry.interfaces ancestor, split, by simp [Offer.owners, ancestorKind]⟩
    · exact ⟨registry.chain ancestor, [], split, by simp [Offer.owners, ancestorKind]⟩

end Registry

namespace Offer

variable {registry : Registry} {source : TypeId}

/-- A search for a member of an instance need not pass over the static members first. -/
theorem find?_members {α : Type} {members : TypeInfo → List α} {isStatic : α → Bool} {test : α → Bool}
    (ofInstance : ∀ member, test member = true → isStatic member = false) (infos : List TypeInfo) :
    (infos.flatMap fun info => (members info).filter (isStatic · = false)).find? test =
      infos.findSome? fun info => (members info).find? test := by
  simp only [List.find?_flatMap, List.find?_filter]
  congr 1
  funext info
  congr 1
  funext member
  rw [Bool.eq_iff_iff]
  simpa using ofInstance member

theorem find?_methods {test : Method → Bool}
    (ofInstance : ∀ method, test method = true → method.isStatic = false) :
    (Offer.of registry source false).methods.find? test =
      (owners registry source false).findSome? fun owner =>
        (registry.info owner).methods.find? test :=
  (find?_members ofInstance _).trans List.findSome?_map

theorem find?_properties {test : Property → Bool}
    (ofInstance : ∀ property, test property = true → property.isStatic = false) :
    (Offer.of registry source false).properties.find? test =
      (owners registry source false).findSome? fun owner =>
        (registry.info owner).properties.find? test :=
  (find?_members ofInstance _).trans List.findSome?_map

end Offer

/-! ### What is used in place of a bound member -/

namespace Factory

variable {registry : Registry} {factory : Factory} {source : Value} {type : TypeId}

theorem derivedTypes_eq (side : factory.isStatic = false) (typed : source.type? = some type) :
    factory.derivedTypes registry source =
      (registry.chain type).takeWhile (· ≠ factory.source) := by
  unfold derivedTypes runtimeType?
  rw [side, typed, if_neg Bool.false_ne_true]
  by_cases same : type = factory.source
  · simp [Option.filter, same, Registry.chain]
  · simp [Option.filter, same]

theorem derivedTypes_self (typed : source.type? = some factory.source) :
    factory.derivedTypes registry source = [] := by
  unfold derivedTypes runtimeType?
  rw [typed]
  cases factory.isStatic with
  | true => rfl
  | false => simp [Option.filter]

/-- Over a source of just the type that a factory is made for, the bound method is run. -/
theorem dispatchMethod_self (factory : Factory) (typed : source.type? = some factory.source)
    (bound : Method) : factory.dispatchMethod registry source bound = bound := by
  unfold dispatchMethod
  rw [derivedTypes_self typed]
  rfl

theorem dispatchProperty_self (factory : Factory) (typed : source.type? = some factory.source)
    (bound : Property) : factory.dispatchProperty registry source bound = bound := by
  unfold dispatchProperty
  rw [derivedTypes_self typed]
  rfl

/-- The method that is run over a derived source is the one that the type of the source would bind, if
that declares the same types. -/
theorem dispatchMethod_eq (orderly : registry.Orderly) (side : factory.isStatic = false)
    (typed : source.type? = some type) (above : factory.source ∈ registry.chain type)
    {general specific : Method}
    (boundAbove : (Offer.of registry factory.source false).methods.find? (overridesMethod general) =
      some general)
    (boundBelow : (Offer.of registry type false).methods.find? (overridesMethod specific) =
      some specific)
    (alike : overridesMethod specific = overridesMethod general) :
    factory.dispatchMethod registry source general = specific := by
  have ofInstance : ∀ method, overridesMethod general method = true → method.isStatic = false := by
    intro method overrides
    simp only [overridesMethod, Bool.and_eq_true, Bool.not_eq_true'] at overrides
    exact overrides.1.1.1.1.2
  obtain ⟨common, further, owners, ownersAbove⟩ := Registry.owners_split orderly above
  rw [alike, Offer.find?_methods ofInstance, owners] at boundBelow
  rw [Offer.find?_methods ofInstance, ownersAbove] at boundAbove
  unfold dispatchMethod
  rw [derivedTypes_eq side typed]
  exact getD_findSome?_of_split boundBelow boundAbove

/-- Whether a property has, for all to see, the accessors that another one asks for. -/
def hasAccessors (required property : Property) : Bool :=
  Resolution.covers required.getter property.getter &&
    Resolution.covers required.setter property.setter

/-- The property that is used over a derived source is the one that the type of the source would bind,
if that declares the same types and the one that is used has the accessors that are asked for. -/
theorem dispatchProperty_eq (orderly : registry.Orderly) (side : factory.isStatic = false)
    (typed : source.type? = some type) (above : factory.source ∈ registry.chain type)
    {required general specific : Property}
    (boundAbove : (Offer.of registry factory.source false).properties.find?
      (Resolution.standsFor required general) = some general)
    (boundBelow : (Offer.of registry type false).properties.find?
      (Resolution.standsFor required specific) = some specific)
    (alike : Resolution.standsFor required specific = Resolution.standsFor required general)
    (accessible : hasAccessors required (factory.dispatchProperty registry source general) = true) :
    factory.dispatchProperty registry source general = specific := by
  have narrower : ∀ property, Resolution.standsFor required general property = true →
      overridesProperty general property = true := by
    intro property stands
    simp only [Resolution.standsFor, Bool.and_eq_true] at stands
    exact stands.1.1
  have ofInstance : ∀ property, Resolution.standsFor required general property = true →
      property.isStatic = false := by
    intro property stands
    have overrides := narrower property stands
    simp only [overridesProperty, Bool.and_eq_true, Bool.not_eq_true'] at overrides
    exact overrides.1.1.1
  obtain ⟨common, further, owners, ownersAbove⟩ := Registry.owners_split orderly above
  rw [alike, Offer.find?_properties ofInstance, owners] at boundBelow
  rw [Offer.find?_properties ofInstance, ownersAbove] at boundAbove
  have specificBelow := getD_findSome?_of_split boundBelow boundAbove
  unfold dispatchProperty at accessible ⊢
  rw [derivedTypes_eq side typed] at accessible ⊢
  dsimp only at accessible ⊢
  rw [← List.find?_flatMap] at accessible specificBelow ⊢
  rw [← specificBelow]
  congr 1
  refine (find?_eq_of_narrower narrower fun found isFound => ?_).symm
  rw [Option.mem_def] at isFound
  rw [isFound, Option.getD_some, hasAccessors, Bool.and_eq_true] at accessible
  simp only [Resolution.standsFor, Bool.and_eq_true]
  exact ⟨⟨List.find?_some isFound, accessible.1⟩, accessible.2⟩

end Factory
end StructuralCast
