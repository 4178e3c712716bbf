import StructuralCast.Proofs.Engine.Reachable

/-!
Contract: what an engine has done before does not show in its answers.

An engine says that a cast is possible exactly when the two types are compatible. The factory that
serves a source type is the one for the most general type of its chain that can be adapted at all, with
the same bindings in every engine, and a refusal has the same cause in every engine.

Both are about registries in which an interface that is the base of a type extends no other
interface, if the engine widens. `extendingBase` is a registry where this fails: a factory for such a
base serves members that the derived type does not offer itself.
-/

namespace StructuralCast

/-- A method without a body. -/
private def Method.abstract (name : String) (params : List TypeId) (result : TypeId) : Method :=
  { name := name, params := params, result := result, isStatic := false, genericArity := 0,
    visibility := .visible, body := none }

namespace Registry

/-- Types 16 and 17 are an interface and one that extends it, type 18 is a class with the latter as
its base, and type 19 a shape with the member of the former. Shape 20 and class 21 have methods that
take type 19 and type 18. -/
def extendingBase : Registry :=
  let outer := (initial.register (.named "Outer") .interface
    { Definition.empty with methods := [Method.abstract "Run" [] .void] }).1
  let inner := (outer.register (.named "Inner") .interface
    { Definition.empty with interfaces := [⟨16⟩] }).1
  let derived := (inner.register (.named "Derived") .classType
    { Definition.empty with base := some ⟨17⟩ }).1
  let shape := (derived.register (.named "Runner") .interface
    { Definition.empty with methods := [Method.abstract "Run" [] .void] }).1
  let user := (shape.register (.named "RunnerUser") .interface
    { Definition.empty with methods := [Method.abstract "Use" [⟨19⟩] .void] }).1
  (user.register (.named "DerivedUser") .classType
    { Definition.empty with methods := [Method.abstract "Use" [⟨18⟩] .void] }).1

theorem extendingBase_grown : extendingBase.Grown :=
  (((((Grown.initial.register _ _ _).register _ _ _).register _ _ _).register _ _ _).register
    _ _ _).register _ _ _

theorem extendingBase_orderly : extendingBase.Orderly :=
  .of_earlier extendingBase_grown (by decide +kernel)

/-- Shape 16 asks for a link to a shape of its kind, class 17 has one, and class 18 derives from it. -/
def linked : Registry :=
  let shape := (initial.register (.named "Link") .interface
    { Definition.empty with methods := [Method.abstract "Next" [] ⟨16⟩] }).1
  let node := (shape.register (.named "Node") .classType
    { Definition.empty with methods := [Method.abstract "Next" [] ⟨17⟩] }).1
  (node.register (.named "Leaf") .classType { Definition.empty with base := some ⟨17⟩ }).1

theorem linked_grown : linked.Grown :=
  ((Grown.initial.register _ _ _).register _ _ _).register _ _ _

theorem linked_checked :
    ((∀ id ∈ linked.ids, ∀ base ∈ linked.base? id, base.raw < id.raw) ∧ linked.InterfacesAreRoots) ∧
      linked.PlainBases ∧ linked.size = 19 := by
  decide +kernel

theorem linked_orderly : linked.Orderly := .of_earlier linked_grown linked_checked.1

theorem linked_plainBases : linked.PlainBases := linked_checked.2.1

theorem linked_issued (raw : Nat) : linked.issued ⟨raw⟩ = decide (raw < 19) := by
  rw [issued, linked_checked.2.2]

end Registry

namespace Engine

variable {registry : Registry} {engine : Engine}

/-! ### Questions -/

theorem Sound.canCast_iff (sound : engine.Sound registry) (orderly : registry.Orderly)
    (plain : engine.config.widen = true → registry.PlainBases) {target source : TypeId}
    (targetIssued : registry.issued target) (sourceIssued : registry.issued source) :
    (canCast registry target source engine).1 = true ↔ registry.Compatible target source := by
  obtain ⟨verdicts, _, same⟩ :=
    sound.analyzing_eq orderly plain fun _ => Inquiry.question false target source
  have known : knows registry target source = true := by simp [knows, targetIssued, sourceIssued]
  simp only [Inquiry.interpret_question] at same
  rw [canCast, if_pos known, same, Registry.compatible_iff orderly.grown.closed]
  show registry.verdict target source = true ↔ _
  rw [Registry.verdict_iff]
  exact ⟨fun conforms => ⟨targetIssued, sourceIssued, conforms⟩, fun compatible => compatible.2.2⟩

/-- Whatever an engine has done before, it says that a cast is possible exactly when the two types are
compatible. -/
theorem canCast_iff_compatible (grown : registry.Grown) (acyclic : registry.Acyclic)
    (roots : registry.InterfacesAreRoots) (reachable : Reachable registry engine)
    (plain : engine.config.widen = true → registry.PlainBases) {target source : TypeId}
    (targetIssued : registry.issued target) (sourceIssued : registry.issued source) :
    (canCast registry target source engine).1 = true ↔ registry.Compatible target source :=
  have orderly : registry.Orderly := ⟨grown, acyclic, roots⟩
  (reachable.sound orderly plain).canCast_iff orderly plain targetIssued sourceIssued

/-- A shape that mentions itself is compatible with a class whose link is to the class. -/
theorem linked_compatible : Registry.linked.Compatible ⟨16⟩ ⟨18⟩ := by
  have possible : (canCast Registry.linked ⟨16⟩ ⟨18⟩
      ((prepare Registry.linked ⟨16⟩ ⟨17⟩).run (Engine.fresh ⟨0⟩ Config.standard)).2).1 = true := by
    decide +kernel
  exact (canCast_iff_compatible Registry.linked_grown Registry.linked_orderly.acyclic
    Registry.linked_orderly.roots (.prepare (.fresh ⟨0⟩ Config.standard) ⟨16⟩ ⟨17⟩)
    (fun _ => Registry.linked_plainBases) (Registry.linked_issued 16) (Registry.linked_issued 18)).1
      possible

/-- Where an interface that extends another one is the base of a class, a factory that is ready for
the interface makes an engine change its answer about the class. -/
theorem canCast_changes_with_history :
    ¬ ∀ (registry : Registry) (engine : Engine), registry.Grown → registry.Acyclic →
      registry.InterfacesAreRoots → Reachable registry engine → ∀ target source : TypeId,
        registry.issued target → registry.issued source →
          ((canCast registry target source engine).1 = true ↔ registry.Compatible target source) := by
  intro claimed
  have checked : Registry.extendingBase.issued ⟨19⟩ ∧ Registry.extendingBase.issued ⟨18⟩ ∧
      (canCast Registry.extendingBase ⟨19⟩ ⟨18⟩ ((prepare Registry.extendingBase ⟨19⟩ ⟨17⟩).run
        (Engine.fresh ⟨0⟩ Config.standard)).2).1 = true ∧
      (canCast Registry.extendingBase ⟨19⟩ ⟨18⟩
        (Engine.fresh ⟨0⟩ Config.standard)).1 = false := by
    decide +kernel
  obtain ⟨targetIssued, sourceIssued, prepared, no⟩ := checked
  have answers := fun engine reachable =>
    claimed Registry.extendingBase engine Registry.extendingBase_grown
      Registry.extendingBase_orderly.acyclic Registry.extendingBase_orderly.roots reachable ⟨19⟩ ⟨18⟩
      targetIssued sourceIssued
  have atFirst := answers _ (.fresh ⟨0⟩ Config.standard)
  have afterwards := answers _ (.prepare (.fresh ⟨0⟩ Config.standard) ⟨19⟩ ⟨17⟩)
  have yes := atFirst.2 (afterwards.1 prepared)
  rw [no] at yes
  exact absurd yes (by decide)

/-! ### Factories -/

theorem Sound.generate_fst (sound : engine.Sound registry) (orderly : registry.Orderly)
    (plain : engine.config.widen = true → registry.PlainBases) (shape source : TypeId) :
    ((generate registry shape source).run engine).1 = registry.generated engine.id shape source := by
  obtain ⟨after, _, same⟩ := sound.generate_eq orderly plain shape source
  rw [same]

/-- Whatever engines have done before: they generate the same for a pair of types; the factory that
one hands out is kept for the most general type on the chain for which it can generate one; and if
there is no such type, all of them refuse for the same cause. -/
theorem factory_of_history (grown : registry.Grown) (acyclic : registry.Acyclic)
    (roots : registry.InterfacesAreRoots) (plain : registry.PlainBases)
    (reachable : Reachable registry engine) (widens : engine.config.widen = true)
    (shape source : TypeId) :
    (∀ other, Reachable registry other → ∀ candidate,
      ((generate registry shape candidate).run other).1 =
        ((generate registry shape candidate).run engine).1.map fun made =>
          { made with engine := other.id }) ∧
    (∀ chosen ∈ registry.chain source, ∀ made,
      ((generate registry shape chosen).run engine).1 = .ok made →
      (∀ above ∈ registry.chain chosen, above ≠ chosen →
        ∃ cause, ((generate registry shape above).run engine).1 = .error cause) →
      ∃ after, (factory registry shape source).run engine = (.ok made, after) ∧
        after.interfaces.find? shape chosen = some made) ∧
    ((∀ candidate ∈ registry.chain source,
        ∃ cause, ((generate registry shape candidate).run engine).1 = .error cause) →
      ∃ cause, ∀ other, Reachable registry other → other.config.widen = true →
        ((factory registry shape source).run other).1 = .error cause) := by
  have orderly : registry.Orderly := ⟨grown, acyclic, roots⟩
  have generates : ∀ {other : Engine}, Reachable registry other → ∀ candidate,
      ((generate registry shape candidate).run other).1 =
        registry.generated other.id shape candidate :=
    fun other candidate => (other.sound orderly fun _ => plain).generate_fst orderly (fun _ => plain)
      shape candidate
  refine ⟨fun other otherReachable candidate => ?_, fun chosen member made makes above => ?_,
    fun failed => ?_⟩
  · rw [generates otherReachable, generates reachable]
    exact Registry.generated_rename engine.id other.id shape candidate
  · rw [generates reachable] at makes
    simp only [generates reachable] at above
    obtain ⟨after, evolves, same⟩ :=
      (reachable.sound orderly fun _ => plain).factory_eq orderly (fun _ => plain) shape source
    rw [mostGeneral_of_chosen orderly widens member makes above] at same
    refine ⟨after, same, ?_⟩
    obtain ⟨owner, kept⟩ := kept_of_factory same
    have ofOwner := (Registry.subject_of_generated (evolves.sound.generated _ _ _ kept)).2.1
    have ofChosen := (Registry.subject_of_generated makes).2.1
    rw [← ofChosen, ofOwner]
    exact kept
  · simp only [generates reachable] at failed
    obtain ⟨cause, fails⟩ := failed source (Registry.mem_chain_self source)
    refine ⟨cause, fun other otherReachable otherWidens => ?_⟩
    have failedThere : ∀ candidate ∈ registry.chain source,
        ∃ cause, registry.generated other.id shape candidate = .error cause := by
      intro candidate member
      obtain ⟨cause, fails⟩ := failed candidate member
      exact ⟨cause, by rw [Registry.generated_rename engine.id, fails]; rfl⟩
    obtain ⟨after, _, same⟩ :=
      (otherReachable.sound orderly fun _ => plain).factory_eq orderly (fun _ => plain) shape source
    rw [same, mostGeneral_of_none failedThere, Registry.generated_rename engine.id, fails]
    rfl

/-- An engine that has looked at a class already serves it by the factory for its base. -/
theorem linked_factory :
    ∃ engine made after, Reachable Registry.linked engine ∧
      engine.verdicts.find? ⟨16⟩ ⟨18⟩ = some true ∧
      (factory Registry.linked ⟨16⟩ ⟨18⟩).run engine = (.ok made, after) ∧ made.source = ⟨17⟩ := by
  have reachable : Reachable Registry.linked _ :=
    .canCast (.fresh ⟨0⟩ Config.standard) ⟨16⟩ ⟨18⟩
  have checked : (((generate Registry.linked ⟨16⟩ ⟨17⟩).run (canCast Registry.linked ⟨16⟩ ⟨18⟩
        (Engine.fresh ⟨0⟩ Config.standard)).2).1.toOption.map Factory.source) = some ⟨17⟩ ∧
      (∀ above ∈ Registry.linked.chain ⟨17⟩, above ≠ ⟨17⟩ →
        ((generate Registry.linked ⟨16⟩ above).run (canCast Registry.linked ⟨16⟩ ⟨18⟩
          (Engine.fresh ⟨0⟩ Config.standard)).2).1.toOption = none) ∧
      ⟨17⟩ ∈ Registry.linked.chain ⟨18⟩ ∧
      (canCast Registry.linked ⟨16⟩ ⟨18⟩ (Engine.fresh ⟨0⟩ Config.standard)).2.config.widen = true ∧
      (canCast Registry.linked ⟨16⟩ ⟨18⟩ (Engine.fresh ⟨0⟩ Config.standard)).2.verdicts.find?
        ⟨16⟩ ⟨18⟩ = some true := by
    decide +kernel
  obtain ⟨makes, refuses, member, widens, known⟩ := checked
  obtain ⟨made, found, ofNode⟩ := Option.map_eq_some_iff.1 makes
  obtain ⟨after, hands, _⟩ :=
    (factory_of_history Registry.linked_grown Registry.linked_orderly.acyclic
      Registry.linked_orderly.roots Registry.linked_plainBases reachable widens ⟨16⟩ ⟨18⟩).2.1 ⟨17⟩
      member made (Step.ok_of_toOption found) fun ancestor isAbove proper =>
        Step.error_of_toOption (refuses ancestor isAbove proper)
  exact ⟨_, made, after, reachable, known, hands, ofNode⟩

/-- Where an interface that extends another one is the base of a class, a factory that is ready for
the interface makes an engine serve a type that it refuses otherwise. -/
theorem factory_changes_with_history :
    ¬ ∀ (registry : Registry) (engine other : Engine), registry.Grown → registry.Acyclic →
      registry.InterfacesAreRoots → Reachable registry engine → Reachable registry other →
        engine.config.widen = true → other.config.widen = true → engine.id = other.id →
          ∀ shape source : TypeId, ((factory registry shape source).run engine).1 =
            ((factory registry shape source).run other).1 := by
  intro claimed
  have prepared : ((prepare Registry.extendingBase ⟨19⟩ ⟨17⟩).run
        (Engine.fresh ⟨0⟩ Config.standard)).2.config.widen = true ∧
      ((prepare Registry.extendingBase ⟨19⟩ ⟨17⟩).run
        (Engine.fresh ⟨0⟩ Config.standard)).2.id = ⟨0⟩ ∧
      ((factory Registry.extendingBase ⟨20⟩ ⟨21⟩).run
        (Engine.fresh ⟨0⟩ Config.standard)).1.isOk = false ∧
      ((factory Registry.extendingBase ⟨20⟩ ⟨21⟩).run ((prepare Registry.extendingBase ⟨19⟩ ⟨17⟩).run
        (Engine.fresh ⟨0⟩ Config.standard)).2).1.isOk = true := by
    decide +kernel
  obtain ⟨widens, sameId, refused, served⟩ := prepared
  have same := claimed Registry.extendingBase _ _ Registry.extendingBase_grown
    Registry.extendingBase_orderly.acyclic Registry.extendingBase_orderly.roots
    (.fresh ⟨0⟩ Config.standard) (.prepare (.fresh ⟨0⟩ Config.standard) ⟨19⟩ ⟨17⟩)
    rfl widens sameId.symm ⟨20⟩ ⟨21⟩
  rw [same, served] at refused
  exact absurd refused (by decide)

end Engine
end StructuralCast
