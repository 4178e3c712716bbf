import Mathlib.Data.List.Forall2
import StructuralCast.Argument
import StructuralCast.Proofs.Cast.Layer

/-!
Contract: what conversions deliver.

A conversion that looks at the value delivers an instance of its target, whatever it is given; the
others deliver what they are given (`covers_of_convert`). So a conversion that was planned from one
declared type to another takes instances of the one to instances of the other, if neither is void or a
generic parameter (`instance_of_convert`). For conversions that do not look this needs the order of
native assignability, and value types that stand apart. `suits_of_convertAll` says the same of the
arguments of a call, from the check of what a caller passes to what a member receives.
-/

namespace StructuralCast

open Step

/-- Whether a conversion looks at the value that it meets. -/
def Conversion.looks : Conversion → Bool
  | identity | passThrough => false
  | unbox _ | downcast _ | duck _ => true

/-- What is known of a value after a conversion to a type: the type that it is an instance of, or that
it is null. -/
def Conversion.warrant (conversion : Conversion) (target : TypeId) (known : Option TypeId) :
    Option TypeId :=
  if conversion.looks then some target else known

namespace Registry

variable {registry : Registry}

/-- Whether a type, or the lack of one, is as it is known to be. -/
def Covers (registry : Registry) : Option TypeId → Option TypeId → Prop
  | some known, type? => registry.admits known type? = true
  | none, type? => type? = none

/-- A declared type that is neither void nor a generic parameter. -/
def Proper (registry : Registry) (type : TypeId) : Prop :=
  type ≠ .void ∧ registry.kind type ≠ .genericParam

/-- Values that suit a list of declared types, each with the type that it is declared to have on the
other side: where both are proper, the value is an instance of the former. -/
def Suits (registry : Registry) (pairs : List (TypeId × TypeId)) (values : List Value) : Prop :=
  List.Forall₂
    (fun pair value => registry.Proper pair.1 → registry.Proper pair.2 →
      registry.admits pair.1 value.type? = true)
    pairs values

/-- A conversion between different types, by what it was planned from. -/
theorem planConversion_cases {target source : TypeId} {conversion : Conversion}
    (plans : registry.planConversion target source = .ok conversion) :
    (conversion = .identity ∧ (target = source ∨ target = .void ∨ source = .void)) ∨
      (target ≠ source ∧ registry.related target source = true ∧
        ((registry.isValueType target = true ∧ registry.isValueType source = true ∧
            conversion = .identity) ∨
          conversion = .unbox target ∨
          (registry.assignable target source = true ∧ conversion = .identity) ∨
          conversion = .downcast target)) ∨
      (conversion = .passThrough ∧ registry.kind target = .genericParam) ∨
      (conversion = .duck target ∧ target ≠ .void) := by
  unfold planConversion at plans
  split at plans
  case isTrue trivially =>
    cases plans
    exact .inl ⟨rfl, trivially⟩
  case isFalse differs =>
    refine .inr ?_
    split at plans
    case isTrue related =>
      refine .inl ⟨fun same => differs (.inl same), related, ?_⟩
      split at plans
      case isTrue valueTarget =>
        by_cases valueSource : registry.isValueType source = true
        · rw [if_pos valueSource] at plans
          cases plans
          exact .inl ⟨valueTarget, valueSource, rfl⟩
        · rw [if_neg valueSource] at plans
          cases plans
          exact .inr (.inl rfl)
      case isFalse =>
        by_cases assignable : registry.assignable target source = true
        · rw [if_pos assignable] at plans
          cases plans
          exact .inr (.inr (.inl ⟨assignable, rfl⟩))
        · rw [if_neg assignable] at plans
          cases plans
          exact .inr (.inr (.inr rfl))
    case isFalse =>
      split at plans
      case isTrue generic =>
        cases plans
        exact .inr (.inl ⟨rfl, generic.1⟩)
      case isFalse =>
        split at plans
        case isTrue =>
          cases plans
          exact .inr (.inr ⟨rfl, fun isVoid => differs (.inr (.inl isVoid))⟩)
        case isFalse => cases plans

/-- Two value types are never related, unless they are the same. -/
theorem ValuesApart.not_related (apart : registry.ValuesApart) (grown : registry.Grown)
    {left right : TypeId} (valueLeft : registry.isValueType left = true)
    (valueRight : registry.isValueType right = true) (different : left ≠ right) :
    registry.related left right = false := by
  by_contra notRelated
  have related : registry.related left right = true := by simpa using notRelated
  rcases Bool.or_eq_true_iff.1 related with assignable | assignable
  · exact different (apart.eq_of_assignable grown valueLeft assignable)
  · exact different (apart.eq_of_assignable grown valueRight assignable).symm

theorem admits_of_covers (orderly : registry.Orderly) (apart : registry.ValuesApart)
    {target : TypeId} {known type? : Option TypeId} (vouched : registry.admits target known = true)
    (covers : registry.Covers known type?) : registry.admits target type? = true := by
  cases known with
  | some type => exact admits_of_assignable orderly apart vouched covers
  | none =>
      obtain rfl : type? = none := covers
      exact vouched

/-- After a conversion that was planned for it, as much is known of the target as of the source. -/
theorem admits_warrant (orderly : registry.Orderly) (apart : registry.ValuesApart)
    {target source : TypeId} {conversion : Conversion}
    (plans : registry.planConversion target source = .ok conversion)
    (proper : registry.Proper target) (notVoid : source ≠ .void) {known : Option TypeId}
    (vouched : registry.admits source known = true) :
    registry.admits target (conversion.warrant target known) = true := by
  rcases planConversion_cases plans with ⟨rfl, rfl | isVoid | isVoid⟩ |
    ⟨different, related, ⟨valueTarget, valueSource, rfl⟩ | rfl | ⟨assignable, rfl⟩ | rfl⟩ |
    ⟨_, isGeneric⟩ | ⟨rfl, _⟩
  · exact vouched
  · exact absurd isVoid proper.1
  · exact absurd isVoid notVoid
  · rw [apart.not_related orderly.grown valueTarget valueSource different] at related
    cases related
  · exact admits_self
  · exact admits_of_assignable orderly apart assignable vouched
  · exact admits_self
  · exact absurd isGeneric proper.2
  · exact admits_self

/-- Arguments that pass the check are accepted one by one. -/
theorem accepts_of_checkArguments {member : String} {params : List TypeId} {args : List Value}
    (checks : registry.checkArguments member params args = .ok ()) :
    List.Forall₂ (fun param arg => registry.accepts param arg = true) params args := by
  unfold checkArguments at checks
  split at checks
  case isFalse => cases checks
  case isTrue length =>
    induction params generalizing args with
    | nil =>
        rw [List.length_eq_zero_iff.1 length.symm]
        exact .nil
    | cons param params inductionHypothesis =>
        cases args with
        | nil => cases length
        | cons arg args =>
            rw [List.zip_cons_cons, checkEach] at checks
            by_cases accepted : registry.accepts param arg = true
            · rw [if_pos accepted] at checks
              exact .cons accepted (inductionHypothesis (Nat.succ.inj length) checks)
            · rw [if_neg accepted] at checks
              split at checks
              case isTrue => cases checks
              case isFalse => cases checks

theorem admits_of_accepts {param : TypeId} {arg : Value}
    (accepted : registry.accepts param arg = true) (proper : registry.Proper param) :
    registry.admits param arg.type? = true := by
  simpa [accepts, proper.2] using accepted

/-- The conversions of two lists of one length are planned one by one. -/
theorem planConversions_cons {target source : TypeId} {targets sources : List TypeId}
    {conversions : List Conversion}
    (plans : registry.planConversions (target :: targets) (source :: sources) = .ok conversions) :
    ∃ first rest, conversions = first :: rest ∧
      registry.planConversion target source = .ok first ∧
      registry.planConversions targets sources = .ok rest := by
  unfold planConversions at plans
  rw [List.zip_cons_cons, List.mapM_cons] at plans
  obtain ⟨first, planned, plans⟩ := ok_of_bind plans
  obtain ⟨rest, others, plans⟩ := ok_of_bind plans
  cases plans
  exact ⟨first, rest, rfl, planned, others⟩

end Registry

namespace Action

variable {σ : Type} {world after : World σ} {id : EngineId} {target source : TypeId}
  {conversion : Conversion} {value converted : Value}

/-- Nothing in a conversion changes the world but a cast. -/
theorem leads_convert {related : World σ → World σ → Prop} [IsPreorder (World σ) related]
    (casts : ∀ target value, Leads related world (Cast.cast id target value))
    (conversion : Conversion) (value : Value) :
    Leads related world (convert id conversion value) := by
  unfold convert
  refine Leads.get_bind ?_
  cases conversion with
  | identity => exact Leads.pure value
  | passThrough => exact Leads.pure value
  | unbox target =>
      dsimp only
      split
      case isTrue => exact Leads.throw _
      case isFalse =>
        split
        case isTrue => exact Leads.pure value
        case isFalse => exact Leads.throw _
  | downcast target =>
      dsimp only
      split
      case isTrue => exact Leads.pure value
      case isFalse => exact Leads.throw _
  | duck target =>
      have retold : Leads related world
          (mapError CastError.toCallError (Cast.cast id target value)) := casts target value
      refine Leads.bind retold fun made between _ => ?_
      split
      case isTrue => exact Leads.throw _
      case isFalse => exact Leads.pure made

theorem leads_convertAll {related : World σ → World σ → Prop} [IsPreorder (World σ) related]
    (casts : ∀ world target value, Leads related world (Cast.cast id target value))
    (pairs : List (Conversion × Value)) : Leads related world (convertAll id pairs) := by
  induction pairs generalizing world with
  | nil => exact Leads.pure _
  | cons pair rest inductionHypothesis =>
      refine Leads.bind (leads_convert (casts world) pair.1 pair.2) fun converted between _ => ?_
      exact Leads.bind inductionHypothesis fun _ _ _ => Leads.pure _

/-- A conversion keeps the registry, and all that it changes in engines are moves. -/
theorem follows_convert (id : EngineId) (conversion : Conversion) (value : Value) :
    Leads World.Follows world (convert id conversion value) :=
  leads_convert (Cast.follows_cast id) conversion value

theorem follows_convertAll (id : EngineId) (pairs : List (Conversion × Value)) :
    Leads World.Follows world (convertAll id pairs) :=
  leads_convertAll (fun _ => Cast.follows_cast id) pairs

/-- A conversion through the engine gives an instance of its target. -/
theorem instance_of_duck (planned : world.Planned id) (proper : world.registry.Proper target)
    (converts : (convert id (.duck target) value).run world = (.ok converted, after)) :
    world.registry.admits target converted.type? = true := by
  unfold convert at converts
  rw [run_bind] at converts
  dsimp only [run_get] at converts
  obtain ⟨made, between, casts, converts⟩ := ok_of_run_bind converts
  have makes := Cast.made_of_cast planned (ok_of_mapError casts)
  split at converts
  case isTrue => cases converts
  case isFalse present =>
    cases converts
    rcases makes.isInstance proper.2 with rfl | isInstance
    · have noValue : world.registry.isValueType target = false := by
        simpa [Value.isNull] using present
      simp [Registry.admits, Value.type?, proper.1, noValue]
    · exact isInstance

/-- A conversion that only tests a value delivers it as it is. -/
theorem eq_of_convert (notDuck : ∀ target, conversion ≠ .duck target)
    (converts : (convert id conversion value).run world = (.ok converted, after)) :
    converted = value := by
  unfold convert at converts
  rw [run_bind] at converts
  dsimp only [run_get] at converts
  cases conversion with
  | identity =>
      cases converts
      rfl
  | passThrough =>
      cases converts
      rfl
  | unbox target =>
      dsimp only at converts
      split at converts
      case isTrue => cases converts
      case isFalse =>
        split at converts
        case isTrue =>
          cases converts
          rfl
        case isFalse => cases converts
  | downcast target =>
      dsimp only at converts
      split at converts
      case isTrue =>
        cases converts
        rfl
      case isFalse => cases converts
  | duck target => exact absurd rfl (notDuck target)

/-- What a planned conversion delivers is an instance of its target if it looks, and is no other than
what it was given if it does not. -/
theorem covers_of_convert (planned : world.Planned id)
    (plans : world.registry.planConversion target source = .ok conversion)
    (notGeneric : world.registry.kind target ≠ .genericParam) {known : Option TypeId}
    (covers : world.registry.Covers known value.type?)
    (converts : (convert id conversion value).run world = (.ok converted, after)) :
    world.registry.Covers (conversion.warrant target known) converted.type? := by
  have unlooked : conversion.looks = false → converted = value := by
    intro blind
    refine eq_of_convert (fun other isDuck => ?_) converts
    subst isDuck
    cases blind
  rcases Registry.planConversion_cases plans with ⟨rfl, _⟩ |
    ⟨_, _, ⟨_, _, rfl⟩ | rfl | ⟨_, rfl⟩ | rfl⟩ | ⟨_, isGeneric⟩ | ⟨rfl, notVoid⟩
  · exact unlooked rfl ▸ covers
  · exact unlooked rfl ▸ covers
  · unfold convert at converts
    rw [run_bind] at converts
    dsimp only [run_get] at converts
    split at converts
    case isTrue => cases converts
    case isFalse =>
      split at converts
      case isTrue exactly =>
        cases converts
        rw [exactly]
        exact Registry.admits_self
      case isFalse => cases converts
  · exact unlooked rfl ▸ covers
  · unfold convert at converts
    rw [run_bind] at converts
    dsimp only [run_get] at converts
    split at converts
    case isTrue fits =>
      cases converts
      exact fits
    case isFalse => cases converts
  · exact absurd isGeneric notGeneric
  · exact instance_of_duck planned ⟨notVoid, notGeneric⟩ converts

/-- A planned conversion takes instances of its source to instances of its target. -/
theorem instance_of_convert (orderly : world.registry.Orderly) (apart : world.registry.ValuesApart)
    (planned : world.Planned id)
    (plans : world.registry.planConversion target source = .ok conversion)
    (proper : world.registry.Proper target) (notVoid : source ≠ .void)
    (isInstance : world.registry.admits source value.type? = true)
    (converts : (convert id conversion value).run world = (.ok converted, after)) :
    world.registry.admits target converted.type? = true := by
  have itself : world.registry.admits source (some source) = true := Registry.admits_self
  have vouched := Registry.admits_warrant orderly apart plans proper notVoid itself
  have covers : world.registry.Covers (some source) value.type? := isInstance
  apply Registry.admits_of_covers orderly apart vouched
  exact covers_of_convert planned plans proper.2 covers converts

/-- What a member receives suits the types that it declares. -/
theorem suits_of_convertAll {registry : Registry} (orderly : registry.Orderly)
    (apart : registry.ValuesApart) (sameRegistry : world.registry = registry) (planned : world.Planned id)
    {provided required : List TypeId} {conversions : List Conversion} {args received : List Value}
    (length : provided.length = required.length)
    (plans : registry.planConversions provided required = .ok conversions)
    (accepted : List.Forall₂ (fun param arg => registry.accepts param arg = true) required args)
    (converts : (convertAll id (conversions.zip args)).run world = (.ok received, after)) :
    registry.Suits (provided.zip required) received := by
  induction accepted generalizing provided conversions received world with
  | nil =>
      rw [List.length_eq_zero_iff.1 length] at plans ⊢
      cases plans
      cases converts
      exact .nil
  | @cons param arg params args accepts _ inductionHypothesis =>
      cases provided with
      | nil => cases length
      | cons target targets =>
          obtain ⟨first, rest, rfl, plansFirst, plansRest⟩ := Registry.planConversions_cons plans
          rw [List.zip_cons_cons, convertAll] at converts
          obtain ⟨converted, between, convertsFirst, converts⟩ := ok_of_run_bind converts
          obtain ⟨others, final, convertsRest, converts⟩ := ok_of_run_bind converts
          cases converts
          have follows : World.Follows world between :=
            (follows_convert id first arg).related_of_run convertsFirst
          have suitsRest := inductionHypothesis (follows.registry.trans sameRegistry)
            (follows.planned planned) (Nat.succ.inj length) plansRest convertsRest
          refine .cons (fun proper properSource => ?_) suitsRest
          subst sameRegistry
          exact instance_of_convert orderly apart planned plansFirst proper properSource.1
            (Registry.admits_of_accepts accepts properSource) convertsFirst

end Action
end StructuralCast
