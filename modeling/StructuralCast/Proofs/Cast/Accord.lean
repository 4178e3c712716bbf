import StructuralCast.Proofs.Cast.Layer
import StructuralCast.Proofs.Cast.Memory
import StructuralCast.Proofs.Engine.Delegates
import StructuralCast.Proofs.Engine.History
import StructuralCast.Proofs.Planning

/-!
Contract: what an engine says about two delegate types, and what it does about them.

Three things are asked of an engine about callables of one type as another: whether a cast is possible,
a factory for the two types, and a cast of some callable. `Cast.Accord` says that they come to the same,
which is whether the types conform. It holds in whatever state the engine is, and it does not matter which
of the types is the target (`Cast.delegates_accord`). The verdict looks at a pair in both directions and the
factory in one, so this needs conformance to be symmetric.

As for other types, an interface that extends others must not be a base, if the engine widens. Otherwise
the verdict on two delegate types can be yes for what the engine has found ready for one direction, and
the factory is refused in the other (`Cast.verdict_without_factory`).
-/

namespace StructuralCast

open Step

namespace Registry

variable {registry : Registry} {target source : TypeId}

/-- Two different delegate types, with no base but the root of all types. -/
structure DelegatePair (registry : Registry) (target source : TypeId) : Prop where
  distinct : target ≠ source
  targetKind : registry.kind target = .delegate
  sourceKind : registry.kind source = .delegate
  targetBase : ∀ base, registry.base? target = some base → base = .object
  sourceBase : ∀ base, registry.base? source = some base → base = .object

namespace DelegatePair

theorem of_object (distinct : target ≠ source) (targetKind : registry.kind target = .delegate)
    (sourceKind : registry.kind source = .delegate) (targetBase : registry.base? target = some .object)
    (sourceBase : registry.base? source = some .object) : registry.DelegatePair target source where
  distinct := distinct
  targetKind := targetKind
  sourceKind := sourceKind
  targetBase := fun _ isBase => Option.some.inj (isBase.symm.trans targetBase)
  sourceBase := fun _ isBase => Option.some.inj (isBase.symm.trans sourceBase)

theorem symm (pair : registry.DelegatePair target source) : registry.DelegatePair source target where
  distinct := pair.distinct.symm
  targetKind := pair.sourceKind
  sourceKind := pair.targetKind
  targetBase := pair.sourceBase
  sourceBase := pair.targetBase

variable (pair : registry.DelegatePair target source)

include pair

theorem delegates : Engine.Delegates registry target source := by
  refine ⟨?_, decide_eq_true pair.targetKind, decide_eq_true pair.sourceKind⟩
  rw [Engine.knows, issued_of_kind pair.targetKind (by decide),
    issued_of_kind pair.sourceKind (by decide), Bool.and_self]

/-- No callable of the one type is a callable of the other as it stands. -/
theorem not_assignable (grown : registry.Grown) : registry.assignable target source = false := by
  have notObject : target ≠ .object := by
    rintro rfl
    cases grown.kind_object.symm.trans pair.targetKind
  rw [← Bool.not_eq_true, assignable_iff]
  rintro (same | ⟨_, _, root | above | ⟨isShape, _⟩⟩)
  · exact pair.distinct same
  · exact notObject root
  · rcases grown.eq_of_mem_chain pair.sourceBase above with same | root
    · exact pair.distinct same
    · exact notObject root
  · cases pair.targetKind.symm.trans isShape

/-- They conform exactly if their signatures correspond. -/
theorem conforms_iff (grown : registry.Grown) :
    registry.Conforms target source ↔
      ∃ wanted offered, (registry.info target).invoke = some wanted ∧
        (registry.info source).invoke = some offered ∧
        wanted.Corresponds registry.Conforms offered := by
  constructor
  · intro conforms
    cases conforms.supports with
    | same equal => exact absurd equal pair.distinct
    | native assignable =>
        rw [pair.not_assignable grown, pair.symm.not_assignable grown] at assignable
        exact absurd assignable (by decide)
    | enumText kinds =>
        rw [pair.targetKind, pair.sourceKind] at kinds
        exact absurd kinds (by simp)
    | genericParam isGeneric => cases pair.targetKind.symm.trans isGeneric
    | delegate _ _ wanted offered wantedDeclared offeredDeclared corresponds =>
        exact ⟨wanted, offered, wantedDeclared, offeredDeclared, corresponds⟩
    | shape isShape => cases pair.targetKind.symm.trans isShape
    | reversedShape isShape => cases pair.sourceKind.symm.trans isShape
  · rintro ⟨wanted, offered, wantedDeclared, offeredDeclared, corresponds⟩
    exact conforms_of_supports (.delegate pair.targetKind pair.sourceKind wanted offered wantedDeclared
      offeredDeclared corresponds)

end DelegatePair

/-- There is a conversion between types that conform. -/
theorem Conforms.plannable (conforms : registry.Conforms target source) :
    registry.Plannable target source := by
  cases conforms.supports with
  | same equal => exact .same equal
  | native assignable => exact .native (Bool.or_eq_true_iff.2 assignable)
  | enumText kinds => exact .claimed .enumText (.inl (by simpa [Strategy.claims] using kinds))
  | genericParam targetKind sourceKind => exact .generic targetKind sourceKind
  | delegate targetKind sourceKind =>
      exact .claimed .delegate (.inl (by simp [Strategy.claims, targetKind, sourceKind]))
  | shape isShape => exact .claimed .interface (.inl (by simp [Strategy.claims, isShape]))
  | reversedShape isShape => exact .claimed .interface (.inr (by simp [Strategy.claims, isShape]))

end Registry

/-! ### Factories -/

namespace Engine

variable {registry : Registry} {engine : Engine} {target source : TypeId}

/-- The question about two delegate types comes to whether they conform. -/
theorem question_eq_verdict (grown : registry.Grown) (pair : registry.DelegatePair target source) :
    (registry.delegateQuestion target source).eval registry.verdict =
      registry.verdict target source := by
  have outcome := Inquiry.outcome_eval registry.verdict (registry.delegateQuestion target source)
  cases accepted : (registry.delegateQuestion target source).eval registry.verdict with
  | true =>
      rw [accepted] at outcome
      rcases Strategy.supports_of_accepts outcome with grounds | ⟨_, impossible⟩
      · refine (Registry.verdict_iff.2 (Registry.conforms_of_supports ?_)).symm
        exact grounds.mono fun _ _ affirmed => Registry.verdict_iff.1 affirmed.symm
      · cases impossible
  | false =>
      rw [accepted] at outcome
      refine (Bool.eq_false_iff.2 fun conforms => ?_).symm
      obtain ⟨wanted, offered, wantedDeclared, offeredDeclared, corresponds⟩ :=
        (pair.conforms_iff grown).1 (Registry.verdict_iff.1 conforms)
      have avoids : ∀ left right, registry.Conforms left right →
          ¬ false = registry.verdict left right := by
        intro left right conforms denied
        rw [Registry.verdict_iff.2 conforms] at denied
        cases denied
      have claimed : Strategy.claims registry target source .delegate := by
        simp [Strategy.claims, pair.targetKind, pair.sourceKind]
      simp only [Registry.delegateQuestion, Strategy.accepts, if_pos claimed, wantedDeclared,
        offeredDeclared] at outcome
      exact Strategy.denied_of_signaturesAgree avoids outcome corresponds

/-- There is a factory for two delegate types exactly if they conform. -/
theorem isOk_delegateGenerated (grown : registry.Grown) (pair : registry.DelegatePair target source)
    (id : EngineId) :
    (delegateGenerated registry id target source).isOk = registry.verdict target source := by
  rw [delegateGenerated, question_eq_verdict grown pair]
  split
  case isFalse denied =>
    rw [Bool.not_eq_true] at denied
    rw [denied]
    rfl
  case isTrue affirmed =>
    obtain ⟨wanted, offered, wantedDeclared, offeredDeclared, corresponds⟩ :=
      (pair.conforms_iff grown).1 (Registry.verdict_iff.1 affirmed)
    have relayable : registry.Relayable target source := by
      refine ⟨wanted, offered, wantedDeclared, offeredDeclared, ?_⟩
      exact corresponds.mono_on (fun _ _ => trivial) (fun _ _ => trivial)
        fun _ _ (_ : True) (_ : True) conforms => conforms.plannable
    obtain ⟨made, planned⟩ := Registry.synthesizeDelegate_ok_of_relayable relayable id
    rw [planned, affirmed]
    rfl

end Engine

/-! ### Casts -/

namespace Cast

variable {σ : Type} {world : World σ} {id : EngineId} {target source : TypeId}

/-- All that is asked of an engine about callables of one type as another comes to one answer. -/
structure Accord (world : World σ) (id : EngineId) (target source : TypeId) (answer : Bool) : Prop where
  verdict : (Engine.canCast world.registry target source (world.engine id)).1 = answer
  factory : ((Engine.requestDelegateFactory world.registry target source).run
    (world.engine id)).1.isOk = answer
  casts : ∀ c : Callable, c.type = source → (∀ ref factory inner, c ≠ .adapted ref factory inner) →
    ((cast id target (.callable c)).run world).1.isOk = answer

/-- A callable without layers is cast to another delegate type exactly if there is a factory for it. -/
theorem isOk_cast_callable (grown : world.registry.Grown) {c : Callable}
    (pair : world.registry.DelegatePair target c.type) (bare : c.unadapt = c) :
    ((cast id target (.callable c)).run world).1.isOk =
      ((Engine.delegateFactory world.registry target c.type).run (world.engine id)).1.isOk := by
  have issued : world.registry.issued target = true := (Bool.and_eq_true_iff.1 pair.delegates.1).1
  have present : (Value.callable c).isNull = false := rfl
  have plain : (Value.callable c).unadapt = .callable c := congrArg Value.callable bare
  have misfits : world.registry.admits target (Value.callable c).unadapt.type? = false := by
    rw [plain]
    exact pair.not_assignable grown
  have claimed : Strategy.claimant? world.registry target
      ((Value.callable c).unadapt.type?.getD .object) = some .delegate := by
    rw [plain]
    simp [Strategy.claimant?, Strategy.all, Strategy.claims, Value.type?, pair.targetKind,
      pair.sourceKind]
  rw [run_cast_of_claimant issued present misfits claimed, plain]
  unfold byStrategy
  rw [run_bind, run_get]
  dsimp only
  rw [run_bind, Action.run_withEngine]
  generalize (Engine.delegateFactory world.registry target c.type).run (world.engine id) = run
  obtain ⟨outcome, after⟩ := run
  cases outcome with
  | ok made => rfl
  | error cause => rfl

/-- An engine does all that it is asked about two delegate types if they conform, and nothing if not. -/
theorem accord_of_pair (orderly : world.registry.Orderly)
    (plainBases : (world.engine id).config.widen = true → world.registry.PlainBases)
    (tended : world.Tended id) (pair : world.registry.DelegatePair target source) :
    Accord world id target source (world.registry.verdict target source) := by
  obtain ⟨known, _⟩ := pair.delegates
  obtain ⟨targetIssued, sourceIssued⟩ := Bool.and_eq_true_iff.1 known
  have handed : ∀ {type : TypeId}, world.registry.DelegatePair target type →
      ((Engine.delegateFactory world.registry target type).run (world.engine id)).1.isOk =
        world.registry.verdict target type := by
    intro type pair
    rw [tended.reachable.delegateFactory_eq orderly plainBases]
    exact Engine.isOk_delegateGenerated orderly.grown pair _
  refine { verdict := ?_, factory := ?_, casts := ?_ }
  · rw [Bool.eq_iff_iff, Registry.verdict_iff, (tended.reachable.sound orderly plainBases).canCast_iff
      orderly plainBases targetIssued sourceIssued, Registry.compatible_iff orderly.grown.closed]
    exact ⟨fun compatible => compatible.2.2, fun conforms => ⟨targetIssued, sourceIssued, conforms⟩⟩
  · rw [Engine.requestDelegateFactory_eq pair.delegates]
    exact handed pair
  · rintro c rfl bare
    have plain : c.unadapt = c := by
      cases c with
      | native => rfl
      | foreign => rfl
      | adapted ref factory inner => exact absurd rfl (bare ref factory inner)
    rw [isOk_cast_callable orderly.grown pair plain]
    exact handed pair

/-- Whatever an engine has done before, what it says about two delegate types, whether it has a factory
for them and whether it casts callables of the one to the other come to the same, and to the same in both
directions. -/
theorem delegates_accord (grown : world.registry.Grown) (acyclic : world.registry.Acyclic)
    (roots : world.registry.InterfacesAreRoots)
    (plainBases : (world.engine id).config.widen = true → world.registry.PlainBases)
    (tended : world.Tended id) (pair : world.registry.DelegatePair target source) :
    ∃ answer, Accord world id target source answer ∧ Accord world id source target answer := by
  have orderly : world.registry.Orderly := ⟨grown, acyclic, roots⟩
  have symmetric : world.registry.verdict source target = world.registry.verdict target source := by
    rw [Bool.eq_iff_iff, Registry.verdict_iff, Registry.verdict_iff]
    exact ⟨Registry.Conforms.symm, Registry.Conforms.symm⟩
  refine ⟨world.registry.verdict target source, accord_of_pair orderly plainBases tended pair, ?_⟩
  rw [← symmetric]
  exact accord_of_pair orderly plainBases tended pair.symm

/-! ### Instances -/

/-- A delegate type whose callables take one type, over a registry. -/
def takes (registry : Registry) (name : String) (param result : TypeId) : Registry :=
  (registry.register (.named name) .delegate
    { Definition.empty with invoke := some ⟨[param], result⟩ }).1

/-- Callables of type 19 take a shape that links to itself, those of type 20 a class that does, and both
give callables of their own type. -/
def visiting : Registry := takes (takes Registry.linked "Visit" ⟨16⟩ ⟨19⟩) "VisitNode" ⟨17⟩ ⟨20⟩

/-- Visitors conform, for all that they mention conforms if they do. -/
theorem visitors_accord :
    visiting.Grown ∧ visiting.Acyclic ∧ visiting.InterfacesAreRoots ∧ visiting.PlainBases ∧
      visiting.DelegatePair ⟨19⟩ ⟨20⟩ ∧ Accord (newcomer visiting) ⟨0⟩ ⟨19⟩ ⟨20⟩ true ∧
      Accord (newcomer visiting) ⟨0⟩ ⟨20⟩ ⟨19⟩ true := by
  have grown : visiting.Grown := (Registry.linked_grown.register _ _ _).register _ _ _
  have checked : ((∀ id ∈ visiting.ids, ∀ base ∈ visiting.base? id, base.raw < id.raw) ∧
        visiting.InterfacesAreRoots) ∧ visiting.PlainBases ∧
      (visiting.kind ⟨19⟩ = .delegate ∧ visiting.kind ⟨20⟩ = .delegate) ∧
      (visiting.base? ⟨19⟩ = some .object ∧ visiting.base? ⟨20⟩ = some .object) ∧
      (Engine.canCast visiting ⟨19⟩ ⟨20⟩ (Engine.fresh ⟨0⟩ Config.standard)).1 = true := by
    decide +kernel
  obtain ⟨earlier, plainBases, ⟨targetKind, sourceKind⟩, ⟨targetBase, sourceBase⟩, affirmed⟩ := checked
  have orderly : visiting.Orderly := .of_earlier grown earlier
  have pair : visiting.DelegatePair ⟨19⟩ ⟨20⟩ :=
    .of_object (by decide) targetKind sourceKind targetBase sourceBase
  have grownThere : (newcomer visiting).registry.Grown := grown
  obtain ⟨answer, there, back⟩ := delegates_accord grownThere orderly.acyclic orderly.roots
    (fun _ => plainBases) (newcomer_tended visiting) pair
  obtain rfl : true = answer := affirmed.symm.trans there.verdict
  exact ⟨grown, orderly.acyclic, orderly.roots, plainBases, pair, there, back⟩

/-- Callables of type 22 take the shape, those of type 23 a class below an interface that inherits the
member of the shape. -/
def handling : Registry :=
  takes (takes Registry.extendingBase "RunnerHandler" ⟨19⟩ .void) "DerivedHandler" ⟨18⟩ .void

/-- An engine that has first denied the class and then found a factory above it. -/
def handled : Engine :=
  ((Engine.prepare handling ⟨19⟩ ⟨18⟩).run
    (Engine.canCast handling ⟨19⟩ ⟨18⟩ (Engine.fresh ⟨0⟩ Config.standard)).2).2

/-- Where an interface that extends another one is the base of a class, an engine may say that callables
can be cast, by what it is ready for in the other direction, and refuse the factory for them. -/
theorem verdict_without_factory :
    ¬ ∀ (world : World Unit) (id : EngineId), world.registry.Grown → world.registry.Acyclic →
      world.registry.InterfacesAreRoots → world.Tended id → ∀ target source : TypeId,
        world.registry.DelegatePair target source →
          ∃ answer, Accord world id target source answer ∧ Accord world id source target answer := by
  intro claimed
  have grown : handling.Grown := (Registry.extendingBase_grown.register _ _ _).register _ _ _
  have checked : ((∀ id ∈ handling.ids, ∀ base ∈ handling.base? id, base.raw < id.raw) ∧
        handling.InterfacesAreRoots) ∧ handled.id = ⟨0⟩ ∧
      (handling.kind ⟨22⟩ = .delegate ∧ handling.kind ⟨23⟩ = .delegate) ∧
      (handling.base? ⟨22⟩ = some .object ∧ handling.base? ⟨23⟩ = some .object) ∧
      (Engine.canCast handling ⟨22⟩ ⟨23⟩ handled).1 = true ∧
      ((Engine.requestDelegateFactory handling ⟨22⟩ ⟨23⟩).run handled).1.isOk = false := by
    decide +kernel
  obtain ⟨earlier, named, ⟨targetKind, sourceKind⟩, ⟨targetBase, sourceBase⟩, affirmed, refused⟩ :=
    checked
  have orderly : handling.Orderly := .of_earlier grown earlier
  let world : World Unit := { newcomer handling with engines := #[handled] }
  have tended : world.Tended ⟨0⟩ := ⟨named, .prepare (.canCast (.fresh ⟨0⟩ Config.standard) _ _) _ _⟩
  have pair : handling.DelegatePair ⟨22⟩ ⟨23⟩ :=
    .of_object (by decide) targetKind sourceKind targetBase sourceBase
  obtain ⟨answer, there, _⟩ :=
    claimed world ⟨0⟩ grown orderly.acyclic orderly.roots tended ⟨22⟩ ⟨23⟩ pair
  have agree : true = false := affirmed.symm.trans (there.verdict.trans (there.factory.symm.trans refused))
  cases agree

end Cast
end StructuralCast
