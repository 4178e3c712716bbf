import StructuralCast.Proofs.Forwarding.Pair

/-!
Contract: widening is a matter of sharing.

An engine that widens makes an adapter of a value by a factory for some type above that of the value, so
that all types below share the factory. Another engine makes one by a factory for the type itself.
`Adapter.widening_shares` says that this cannot be told from any use of the two adapters, whatever the
engines have done before and whatever the host does, as long as the factories have bound what is used
to members that declare the same types.

They need not: the type above may offer one overload where the type itself offers another one that
fits better, and only a member with the same types takes the place of a bound one
(`Adapter.widening_changes_overloads`).
-/

namespace StructuralCast

open Step

variable {σ : Type} {registry : Registry} {id id' : EngineId} {shape type : TypeId} {value : Value}

/-- An engine over a registry, which widens or not, has cast a value to a shape in some world, and has
made an adapter of it. -/
def Adapter.MadeBy (registry : Registry) (id : EngineId) (widens : Bool) (shape : TypeId)
    (value : Value) (adapter : Adapter) : Prop :=
  ∃ (σ : Type) (world after : World σ) (made : Value), world.Tending registry id ∧
    (world.engine id).config.widen = widens ∧
    (Cast.cast id shape value).run world = (.ok made, after) ∧ adapter ∈ made.adapter?

namespace Cast

/-- An adapter that a cast makes of what a value is below its layers has a factory that was made, by
fixed answers, for a type that may serve that of the value. -/
theorem adapted_of_cast {world after : World σ} {made : Value} {adapter : Adapter}
    (tending : world.Tending registry id) (typed : value.unadapt.type? = some type)
    (different : made ≠ value.unadapt)
    (casts : (cast id shape value).run world = (.ok made, after)) (isAdapter : adapter ∈ made.adapter?) :
    adapter.source = value.unadapt ∧
      (∃ between : World σ, between.registry = registry ∧
        (adapt adapter.factory value.unadapt).run between = (.ok made, after)) ∧
      ∃ owner ∈ (world.engine id).candidates registry type, ∃ answer,
        registry.PlansBy answer id shape owner adapter.factory := by
  obtain ⟨rfl, named, reachable⟩ := tending
  obtain ⟨_, ⟨_, rfl⟩ | ⟨_, _, same⟩ | ⟨_, _, strategy, _, ran⟩⟩ := cases_of_cast casts
  · cases isAdapter
  · exact absurd same different
  · cases strategy with
    | interface =>
        obtain ⟨factory, between, found, adapted⟩ := adapts_of_interface ran
        have sameTypes : between.registry = world.registry := by
          rw [Action.run_withEngine] at found
          obtain ⟨_, rfl⟩ := Prod.mk.inj found
          rfl
        obtain ⟨ref, relays, rfl⟩ := adapter_of_adapt adapted
        cases isAdapter
        rw [typed] at found
        have owned := reachable.owner_of_factory (Action.ok_of_withEngine found)
        rw [named] at owned
        exact ⟨rfl, ⟨between, sameTypes, adapted⟩, owned⟩
    | delegate =>
        obtain ⟨_, _, _, _, _, _, rfl⟩ := wraps_of_delegate ran
        cases isAdapter
    | enumText =>
        rcases eq_of_enumText ran with ⟨_, ref, content, rfl⟩ | ⟨number, rfl⟩
        · cases isAdapter
        · cases isAdapter
    | genericParam =>
        cases ran
        exact absurd rfl different

end Cast

namespace Adapter

variable {adapter adapter' : Adapter} {widens : Bool}

theorem MadeBy.planned (makes : MadeBy registry id widens shape value adapter)
    (typed : value.unadapt.type? = some type) (unwrapped : value.unadapt.adapter? = none) :
    adapter.source = value.unadapt ∧ ∃ owner ∈ registry.chain type,
      (widens = false → owner = type) ∧ ∃ answer, registry.PlansBy answer id shape owner adapter.factory := by
  obtain ⟨_, world, after, made, tending, sameWidening, casts, isAdapter⟩ := makes
  have different : made ≠ value.unadapt := by
    rintro rfl
    rw [unwrapped] at isAdapter
    cases isAdapter
  obtain ⟨sameSource, _, owner, isCandidate, answer, plans⟩ :=
    Cast.adapted_of_cast tending typed different casts isAdapter
  refine ⟨sameSource, owner, Engine.mem_chain_of_mem_candidates isCandidate, fun narrow => ?_, answer, plans⟩
  rw [Engine.candidates, sameWidening, if_neg (by simp [narrow])] at isCandidate
  exact List.mem_singleton.1 isCandidate

/-- Adapters of one value for one shape are a pair, if the engine of the second does not widen. -/
theorem MadeBy.paired (makes : MadeBy registry id widens shape value adapter)
    (makes' : MadeBy registry id' false shape value adapter')
    (typed : value.unadapt.type? = some type) (unwrapped : value.unadapt.adapter? = none) :
    Paired registry type adapter adapter' ∧ adapter.factory.engine = id ∧
      adapter'.factory.engine = id' := by
  obtain ⟨sameSource, owner, above, _, answer, plans⟩ := makes.planned typed unwrapped
  obtain ⟨sameSource', owner', _, exactly, answer', plans'⟩ := makes'.planned typed unwrapped
  obtain rfl := exactly rfl
  obtain ⟨ofEngine, ofShape, ofSource, side⟩ := plans.plans.subject
  obtain ⟨ofEngine', ofShape', ofSource', _⟩ := plans'.plans.subject
  obtain ⟨_, _, shapeName, _⟩ := Registry.synthesize_eq_ok plans.2
  obtain ⟨_, _, shapeName', _⟩ := Registry.synthesize_eq_ok plans'.2
  have slots := counterparts plans plans'
  rw [← ofSource, ← ofSource'] at slots
  refine ⟨⟨sameSource'.trans sameSource.symm, sameSource ▸ typed, sameSource ▸ unwrapped, side,
    ofSource ▸ above, ofSource', ?_, slots⟩, ofEngine, ofEngine'⟩
  rw [shapeName, shapeName']
  exact congrArg registry.name (ofShape'.trans ofShape.symm)

/-- Whether an engine widens makes no difference to a use of what it makes of a value: compared with an
engine that does not, the same member runs on the value with arguments that are alike, and like answers
come to like results. Where a conversion is a cast that divides engines, one of them may fail alone. -/
theorem widening_shares (grown : registry.Grown) (acyclic : registry.Acyclic)
    (roots : registry.InterfacesAreRoots) (typed : value.unadapt.type? = some type)
    (unwrapped : value.unadapt.adapter? = none)
    (makes : MadeBy registry id widens shape value adapter)
    (makes' : MadeBy registry id' false shape value adapter') {use : Use}
    (matching : use.Matches registry adapter adapter') {left right : World σ}
    (ready : left.Ready registry id) (ready' : right.Ready registry id') :
    Abreast registry id id' (use.Divides registry adapter) Value.Alike left right
      (fun host => use.run host adapter) fun host => use.run host adapter' := by
  obtain ⟨paired, rfl, rfl⟩ := makes.paired makes' typed unwrapped
  exact paired.abreast ⟨grown, acyclic, roots⟩ matching ready ready'

end Adapter

/-! ### Two engines of one world -/

/-- A method of instances that all may see. -/
private def Method.visibly (name : String) (params : List TypeId) (result : TypeId)
    (body : Option RoutineId) : Method :=
  { name := name, params := params, result := result, isStatic := false, genericArity := 0,
    visibility := .visible, body := body }

namespace Registry

/-- Shape 16 asks to say a text and to greet. Class 17 says any value, and class 18, which derives from
it, says texts. Both classes greet, each in its own way. -/
def speaking : Registry :=
  let speaker := (initial.register (.named "Speaker") .interface
    { Definition.empty with methods :=
        [Method.visibly "Say" [.text] .text none, Method.visibly "Greet" [] .text none] }).1
  let base := (speaker.register (.named "Base") .classType
    { Definition.empty with methods :=
        [Method.visibly "Say" [.object] .text (some ⟨0⟩), Method.visibly "Greet" [] .text (some ⟨1⟩)] }).1
  (base.register (.named "Derived") .classType
    { Definition.empty with
      base := some ⟨17⟩
      methods :=
        [Method.visibly "Say" [.text] .text (some ⟨2⟩), Method.visibly "Greet" [] .text (some ⟨3⟩)] }).1

theorem speaking_grown : speaking.Grown :=
  ((Grown.initial.register _ _ _).register _ _ _).register _ _ _

theorem speaking_orderly : speaking.Orderly := .of_earlier speaking_grown (by decide +kernel)

end Registry

namespace Cast

/-- A world with two engines in use, of which only the first widens. -/
def colleagues (registry : Registry) : World Unit :=
  { World.initial () with
    registry := registry
    engines := #[{ Engine.fresh ⟨0⟩ Config.standard with owners := 1 },
      { Engine.fresh ⟨1⟩ { Config.standard with widen := false } with owners := 1 }] }

theorem ready_first (registry : Registry) : (colleagues registry).Ready registry ⟨0⟩ :=
  ⟨⟨rfl, rfl, .owners (.fresh ⟨0⟩ Config.standard) 1⟩, rfl⟩

theorem ready_second (registry : Registry) : (colleagues registry).Ready registry ⟨1⟩ :=
  ⟨⟨rfl, rfl, .owners (.fresh ⟨1⟩ { Config.standard with widen := false }) 1⟩, rfl⟩

/-- An object of a derived class. -/
def descendant (type : TypeId) : Value := .object ⟨0, type, "Derived"⟩

/-- The adapter that one of the two engines makes of a value. -/
def adapterBy? (registry : Registry) (id : EngineId) (shape : TypeId) (value : Value) : Option Adapter :=
  ((cast id shape value).run (colleagues registry)).1.toOption.bind Value.adapter?

theorem madeBy_of_adapterBy? {adapter : Adapter}
    (found : adapterBy? registry id shape value = some adapter)
    (tending : (colleagues registry).Tending registry id) :
    Adapter.MadeBy registry id ((colleagues registry).engine id).config.widen shape value adapter := by
  obtain ⟨made, succeeds, isAdapter⟩ := Option.bind_eq_some_iff.1 found
  exact ⟨Unit, colleagues registry, _, made, tending, rfl, Prod.ext (ok_of_toOption succeeds) rfl,
    isAdapter⟩

end Cast

namespace Adapter

/-- An object of the derived class greets alike through both adapters. -/
theorem greeting_shared : ∃ adapter adapter',
    MadeBy Registry.speaking ⟨0⟩ true ⟨16⟩ (Cast.descendant ⟨18⟩) adapter ∧
      MadeBy Registry.speaking ⟨1⟩ false ⟨16⟩ (Cast.descendant ⟨18⟩) adapter' ∧
      Abreast Registry.speaking ⟨0⟩ ⟨1⟩ (Use.Divides Registry.speaking adapter (.callSlot 1 []))
        Value.Alike (Cast.colleagues Registry.speaking) (Cast.colleagues Registry.speaking)
        (fun host => Use.run host adapter (.callSlot 1 []))
        fun host => Use.run host adapter' (.callSlot 1 []) := by
  have both : (Cast.adapterBy? Registry.speaking ⟨0⟩ ⟨16⟩ (Cast.descendant ⟨18⟩)).isSome = true ∧
      (Cast.adapterBy? Registry.speaking ⟨1⟩ ⟨16⟩ (Cast.descendant ⟨18⟩)).isSome = true ∧
      ∀ one ∈ Cast.adapterBy? Registry.speaking ⟨0⟩ ⟨16⟩ (Cast.descendant ⟨18⟩),
        ∀ other ∈ Cast.adapterBy? Registry.speaking ⟨1⟩ ⟨16⟩ (Cast.descendant ⟨18⟩),
          Use.Matches Registry.speaking one other (.callSlot 1 []) := by
    decide +kernel
  obtain ⟨first, second, matching⟩ := both
  obtain ⟨adapter, found⟩ := Option.isSome_iff_exists.1 first
  obtain ⟨adapter', found'⟩ := Option.isSome_iff_exists.1 second
  have makes := Cast.madeBy_of_adapterBy? found (Cast.ready_first _).tending
  have makes' := Cast.madeBy_of_adapterBy? found' (Cast.ready_second _).tending
  refine ⟨adapter, adapter', makes, makes', ?_⟩
  exact widening_shares Registry.speaking_grown Registry.speaking_orderly.acyclic
    Registry.speaking_orderly.roots rfl rfl makes makes' (matching _ found _ found')
    (Cast.ready_first _) (Cast.ready_second _)

/-- What an engine that widens makes of a value is used as what one that does not makes of it, without
an excuse. -/
def OnlyShares (registry : Registry) (shape : TypeId) (value : Value) (use : Use) : Prop :=
  ∀ (id id' : EngineId) (adapter adapter' : Adapter) (left right : World Unit),
    MadeBy registry id true shape value adapter → MadeBy registry id' false shape value adapter' →
      left.Ready registry id → right.Ready registry id' →
        Abreast registry id id' False Value.Alike left right (fun host => use.run host adapter)
          fun host => use.run host adapter'

end Adapter

namespace Cast

/-- Why a use of the adapter of one of the two engines fails, if the host reports the routine that it is
asked to run. -/
def report? (registry : Registry) (id : EngineId) (shape : TypeId) (value : Value)
    (use : Adapter.Use) : Option CallError :=
  (adapterBy? registry id shape value).bind fun adapter =>
    match ((use.run (.reporting fun routine => .host (toString routine.index)) adapter).run
      (colleagues registry)).1 with
    | .error cause => some cause
    | .ok _ => none

/-- If both engines make an adapter, and their adapters report different causes, widening changes
something. -/
theorem not_onlyShares {use : Adapter.Use}
    (differs : (adapterBy? registry ⟨0⟩ shape value).isSome = true ∧
      (adapterBy? registry ⟨1⟩ shape value).isSome = true ∧
      report? registry ⟨0⟩ shape value use ≠ report? registry ⟨1⟩ shape value use) :
    ¬ Adapter.OnlyShares registry shape value use := by
  intro shares
  obtain ⟨first, second, differs⟩ := differs
  refine differs ?_
  obtain ⟨adapter, found⟩ := Option.isSome_iff_exists.1 first
  obtain ⟨adapter', found'⟩ := Option.isSome_iff_exists.1 second
  have abreast := shares ⟨0⟩ ⟨1⟩ adapter adapter' (colleagues registry) (colleagues registry)
    (madeBy_of_adapterBy? found (ready_first registry).tending)
    (madeBy_of_adapterBy? found' (ready_second registry).tending) (ready_first registry)
    (ready_second registry)
  obtain ⟨same, fails, fails'⟩ := abreast.fail_alike fun routine => .host (toString routine.index)
  rw [report?, report?, found, found', Option.bind_some, Option.bind_some, fails, fails']

end Cast

namespace Adapter

/-- An object of the derived class does not say a text alike through both adapters. One of them runs
what says any value, as the base class does, and the other what says texts. -/
theorem widening_changes_overloads :
    ¬ ∀ (registry : Registry) (shape type : TypeId) (value : Value) (use : Use), registry.Grown →
      registry.Acyclic → registry.InterfacesAreRoots → value.unadapt.type? = some type →
        value.unadapt.adapter? = none → OnlyShares registry shape value use := by
  intro claimed
  have shares := claimed Registry.speaking ⟨16⟩ ⟨18⟩ (Cast.descendant ⟨18⟩)
    (.callSlot 0 [.text ⟨0⟩ "hello"]) Registry.speaking_grown Registry.speaking_orderly.acyclic
    Registry.speaking_orderly.roots rfl rfl
  exact Cast.not_onlyShares (by decide +kernel) shares

end Adapter

/-! ### Other conditions -/

namespace Registry

/-- Interface 16 and class 17 offer one method each with a routine for it. Interface 18 has the class as
its base and extends the other interface, and class 19 derives from it. Shape 20 asks for that method
and for one that only interface 18 declares. -/
def mingling : Registry :=
  let root := (initial.register (.named "Root") .interface
    { Definition.empty with methods := [Method.visibly "Run" [] .text (some ⟨0⟩)] }).1
  let ancestor := (root.register (.named "Ancestor") .classType
    { Definition.empty with methods := [Method.visibly "Run" [] .text (some ⟨1⟩)] }).1
  let middle := (ancestor.register (.named "Middle") .interface
    { Definition.empty with
      base := some ⟨17⟩
      interfaces := [⟨16⟩]
      methods := [Method.visibly "Stop" [] .text (some ⟨2⟩)] }).1
  let derived := (middle.register (.named "Derived") .classType
    { Definition.empty with base := some ⟨18⟩ }).1
  (derived.register (.named "Runner") .interface
    { Definition.empty with methods :=
        [Method.visibly "Run" [] .text none, Method.visibly "Stop" [] .text none] }).1

/-- Handlers 16 take any value, shape 17 and class 18 have an event with such handlers, and class 19
derives from the class and declares the event anew, with any value as a handler. Class 20 uses the
shape, shape 21 has class 19 used. -/
def redeclaring : Registry :=
  let report := (initial.register (.named "Report") .delegate
    { Definition.empty with invoke := some ⟨[.object], .void⟩ }).1
  let reporter := (report.register (.named "Reporter") .interface
    { Definition.empty with events := [⟨"Said", ⟨16⟩, false⟩] }).1
  let base := (reporter.register (.named "Base") .classType
    { Definition.empty with events := [⟨"Said", ⟨16⟩, false⟩] }).1
  let derived := (base.register (.named "Derived") .classType
    { Definition.empty with base := some ⟨18⟩, events := [⟨"Said", .object, false⟩] }).1
  let user := (derived.register (.named "ReporterUser") .classType
    { Definition.empty with methods := [Method.visibly "Use" [⟨17⟩] .text (some ⟨0⟩)] }).1
  (user.register (.named "DerivedUser") .interface
    { Definition.empty with methods := [Method.visibly "Use" [⟨19⟩] .text none] }).1

end Registry

namespace Adapter

/-- Where an interface has a base, an adapter that is made for the interface may run what the base
offers, and one that is made for a class below it what the interface extends. Where an argument is cast
to a shape with events, only one of the engines may be able to. -/
theorem widening_changes_owners_and_relays :
    ¬ OnlyShares Registry.mingling ⟨20⟩ (Cast.descendant ⟨19⟩) (.callSlot 0 []) ∧
      ¬ OnlyShares Registry.redeclaring ⟨21⟩ (Cast.descendant ⟨20⟩)
        (.callSlot 0 [Cast.descendant ⟨19⟩]) :=
  ⟨Cast.not_onlyShares (by decide +kernel), Cast.not_onlyShares (by decide +kernel)⟩

end Adapter
end StructuralCast
