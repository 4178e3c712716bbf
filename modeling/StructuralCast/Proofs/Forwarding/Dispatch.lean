import StructuralCast.Proofs.Cast.Sharing
import StructuralCast.Proofs.Engine.Founding
import StructuralCast.Proofs.Forwarding.Frame

/-!
Contract: a slot runs the first method on the chain of the type of its source that takes the place of the
bound one.

At each use, an adapter looks for such a method in the types below the one that its factory was made for
only. The rest was decided when the factory was made: the bound method is the first of its kind that the
type offered then, and what the chain of that type has come to since begins with what it was
(`Registry.first_of_develops`). So both parts make one walk over the whole chain.

This fails for what an interface passes on. An interface with a base offers what it extends instead of
what it inherits, so a method of an extended interface is bound, and nothing that a type above the
interface declares takes its place (`Registry.PassesOn`).
-/

namespace StructuralCast

open Step

namespace Registry

variable {registry earlier later : Registry} {id source type : TypeId} {bound found : Method}
  {test : Method → Bool}

/-- The first method that passes a test, type by type, and each type in the order of its declaration. -/
def first? (registry : Registry) (test : Method → Bool) (owners : List TypeId) : Option Method :=
  owners.findSome? fun owner => (registry.info owner).methods.find? test

/-- An interface passes on a method that it does not declare in any form. -/
def PassesOn (registry : Registry) (source : TypeId) (bound : Method) : Prop :=
  registry.kind source = .interface ∧
    (registry.info source).methods.find? (Factory.overridesMethod bound) = none

instance (registry : Registry) (source : TypeId) (bound : Method) :
    Decidable (registry.PassesOn source bound) := by
  unfold PassesOn
  infer_instance

theorem first?_cons_of_some {owners : List TypeId}
    (declares : (registry.info id).methods.find? test = some found) :
    registry.first? test (id :: owners) = some found := by
  simp only [first?, List.findSome?_cons, declares]

theorem first?_cons_of_none {owners : List TypeId}
    (lacks : (registry.info id).methods.find? test = none) :
    registry.first? test (id :: owners) = registry.first? test owners := by
  simp only [first?, List.findSome?_cons, lacks]

/-! ### A chain keeps its first methods -/

/-- What has not been defined declares no methods and has no base. -/
theorem Grown.bare (grown : registry.Grown) (undefinedYet : (registry.info id).defined = false) :
    (registry.info id).methods = [] ∧ registry.extended id = [] ∧ registry.base? id = none := by
  by_cases issued : registry.issued id
  · have present := find?_of_issued issued
    have declared := grown.eq_declared present undefinedYet
    refine ⟨?_, ?_, ?_⟩
    · rw [declared]
      rfl
    · rw [extended, declared]
      rfl
    · rw [base?, present, declared]
      rfl
  · refine ⟨?_, extended_of_not_issued issued, base?_of_not_issued issued⟩
    rw [info_of_not_issued issued]
    rfl

theorem info_of_develops (develops : Relation.ReflTransGen Develops earlier later)
    (defined : (earlier.info id).defined = true) : later.info id = earlier.info id := by
  have issued : earlier.issued id = true := by
    by_contra foreign
    rw [info_of_not_issued foreign] at defined
    cases defined
  exact info_of_find? (find?_of_develops develops (find?_of_issued issued) defined)

theorem defined_of_find? (grown : registry.Grown)
    (declares : (registry.info id).methods.find? test = some found) :
    (registry.info id).defined = true := by
  by_contra undefinedYet
  rw [(grown.bare (by simpa using undefinedYet)).1] at declares
  cases declares

/-- A chain may only grow at its end, so what is first on it stays first. -/
theorem first_of_ancestors (grown : earlier.Grown)
    (develops : Relation.ReflTransGen Develops earlier later) {steps more : Nat}
    (enough : steps ≤ more)
    (first : earlier.first? test (id :: earlier.ancestors steps id) = some found) :
    later.first? test (id :: later.ancestors more id) = some found := by
  induction steps generalizing more id with
  | zero =>
      have declares : (earlier.info id).methods.find? test = some found := by
        simpa [first?, ancestors] using first
      rw [← info_of_develops develops (defined_of_find? grown declares)] at declares
      exact first?_cons_of_some declares
  | succ steps inductionHypothesis =>
      obtain ⟨more, rfl⟩ := Nat.exists_eq_add_of_le' (Nat.le_trans (Nat.le_add_left 1 steps) enough)
      cases declares : (earlier.info id).methods.find? test with
      | some method =>
          rw [first?_cons_of_some declares] at first
          obtain rfl := Option.some.inj first
          rw [← info_of_develops develops (defined_of_find? grown declares)] at declares
          exact first?_cons_of_some declares
      | none =>
          rw [first?_cons_of_none declares] at first
          cases hasBase : earlier.base? id with
          | none =>
              simp only [ancestors, hasBase] at first
              cases first
          | some base =>
              have defined : (earlier.info id).defined = true := by
                by_contra undefinedYet
                rw [(grown.bare (by simpa using undefinedYet)).2.2] at hasBase
                cases hasBase
              have sameBase := (retains_of_develops develops grown).1.base?_eq hasBase
              rw [← info_of_develops develops defined] at declares
              rw [first?_cons_of_none declares]
              simp only [ancestors, hasBase, sameBase] at first ⊢
              exact inductionHypothesis (by omega) first

theorem first_of_develops (grown : earlier.Grown)
    (develops : Relation.ReflTransGen Develops earlier later)
    (first : earlier.first? test (earlier.chain id) = some found) :
    later.first? test (later.chain id) = some found :=
  first_of_ancestors grown develops (retains_of_develops develops grown).1.larger first

/-! ### What a factory has bound -/

/-- What has not been defined offers nothing. -/
theorem first_of_bare (grown : registry.Grown) (undefinedYet : (registry.info source).defined = false) :
    registry.first? test (Offer.owners registry source false) = none := by
  obtain ⟨lacks, extendsNothing, rootless⟩ := grown.bare undefinedYet
  have noInterfaces : registry.interfaces source = [] := by
    rw [interfaces, chain_of_no_base rootless]
    exact preorder_of_nextVisit_eq_nil (by simp [extendsNothing, nextVisit])
  have owners : Offer.owners registry source false = [source] := by
    simp [Offer.owners, noInterfaces, chain_of_no_base rootless]
  rw [owners, first?_cons_of_none (by rw [lacks]; rfl)]
  rfl

/-- A method that was the first one offered is the first one on the chain, unless it is passed on. -/
theorem first_of_offered (grown : earlier.Grown)
    (develops : Relation.ReflTransGen Develops earlier later)
    (first : earlier.first? (Factory.overridesMethod bound) (Offer.owners earlier source false) =
      some bound) (kept : ¬ later.PassesOn source bound) :
    later.first? (Factory.overridesMethod bound) (later.chain source) = some bound := by
  have defined : (earlier.info source).defined = true := by
    by_contra undefinedYet
    rw [first_of_bare grown (by simpa using undefinedYet)] at first
    cases first
  have sameInfo := info_of_develops develops defined
  by_cases isInterface : (earlier.info source).isInterface = true
  · have kind : later.kind source = .interface := by
      rw [Registry.kind, sameInfo]
      simpa [TypeInfo.isInterface] using isInterface
    obtain ⟨method, declares⟩ : ∃ method,
        (later.info source).methods.find? (Factory.overridesMethod bound) = some method :=
      Option.ne_none_iff_exists'.1 fun lacks => kept ⟨kind, lacks⟩
    have owners : Offer.owners earlier source false = source :: earlier.interfaces source := by
      simp [Offer.owners, isInterface]
    rw [owners, first?_cons_of_some (sameInfo ▸ declares)] at first
    obtain rfl := Option.some.inj first
    exact first?_cons_of_some declares
  · have owners : Offer.owners earlier source false = earlier.chain source := by
      simp [Offer.owners, isInterface]
    rw [owners] at first
    exact first_of_develops grown develops first

end Registry

theorem Factory.isStatic_of_overridesMethod {bound candidate : Method}
    (overrides : Factory.overridesMethod bound candidate = true) : candidate.isStatic = false := by
  simp only [overridesMethod, Bool.and_eq_true, Bool.not_eq_true'] at overrides
  exact overrides.1.1.1.1.2

/-- A slot of a founded factory is bound to the first method that the source offered in its form when the
factory was made. -/
theorem Registry.Founds.offered {registry : Registry} {engine : EngineId} {shape source : TypeId}
    {factory : Factory} (founds : registry.Founds engine shape source factory) {slot : MethodSlot}
    (isSlot : slot ∈ factory.methods) :
    ∃ earlier : Registry, earlier.Grown ∧ Relation.ReflTransGen Registry.Develops earlier registry ∧
      earlier.first? (Factory.overridesMethod slot.source) (Offer.owners earlier source false) =
        some slot.source := by
  obtain ⟨earlier, grown, develops, _, plans⟩ := founds
  obtain ⟨_, binds⟩ := plans.method isSlot
  refine ⟨earlier, grown, develops, ?_⟩
  rw [Registry.first?, ← Offer.find?_methods fun _ => Factory.isStatic_of_overridesMethod]
  exact binds.first

namespace Factory

variable {registry : Registry} {factory : Factory} {source : Value} {type : TypeId} {bound : Method}

/-- If the bound method is the first one on the chain of the type that a factory is made for, what runs is
the first one on the whole chain. -/
theorem first_of_dispatchMethod (grown : registry.Grown) (acyclic : registry.Acyclic)
    (side : factory.isStatic = false) (typed : source.type? = some type)
    (above : factory.source ∈ registry.chain type)
    (first : registry.first? (overridesMethod bound) (registry.chain factory.source) = some bound) :
    registry.first? (overridesMethod bound) (registry.chain type) =
      some (factory.dispatchMethod registry source bound) := by
  have derived : factory.derivedTypes registry source = _ := derivedTypes_eq side typed
  have split := Registry.chain_eq_append grown acyclic above
  rw [← derived] at split
  rw [split]
  exact findSome?_append_of_some first

end Factory

/-! ### Wherever an adapter is used -/

namespace Adapter

variable {σ : Type} {start : σ} {origin after world : World σ} {id : EngineId} {target type : TypeId}
  {value made : Value} {adapter : Adapter} {slot : MethodSlot}

/-- The method that a slot of an adapter runs over a source of a type. -/
structure Runs (registry : Registry) (adapter : Adapter) (type : TypeId) (slot : MethodSlot)
    (method : Method) : Prop where
  above : adapter.factory.source ∈ registry.chain type
  /-- It is the first one on the chain that takes the place of the bound one, unless that is passed on. -/
  first : ¬ registry.PassesOn adapter.factory.source slot.source →
    registry.first? (Factory.overridesMethod slot.source) (registry.chain type) = some method
  /-- In any case it is the first one below the source of the factory, or else the bound one. -/
  below : method = (registry.first? (Factory.overridesMethod slot.source)
    ((registry.chain type).takeWhile (· ≠ adapter.factory.source))).getD slot.source
  /-- The bound one is the first one that the source offered when the factory was made. -/
  bound : ∃ earlier : Registry, Relation.ReflTransGen Registry.Develops earlier registry ∧
    (Offer.of earlier adapter.factory.source false).methods.find?
      (Factory.overridesMethod slot.source) = some slot.source

theorem runs_of_founds {registry : Registry} (grown : registry.Grown) (acyclic : registry.Acyclic)
    (founds : registry.Founds id target adapter.factory.source adapter.factory)
    (side : adapter.factory.isStatic = false) (typed : adapter.source.type? = some type)
    (above : adapter.factory.source ∈ registry.chain type) (isSlot : slot ∈ adapter.factory.methods) :
    adapter.Runs registry type slot
      (adapter.factory.dispatchMethod registry adapter.source slot.source) := by
  obtain ⟨earlier, grownThen, develops, offered⟩ := founds.offered isSlot
  refine ⟨above, fun kept => ?_, ?_, earlier, develops, ?_⟩
  · exact Factory.first_of_dispatchMethod grown acyclic side typed above
      (Registry.first_of_offered grownThen develops offered kept)
  · rw [Factory.dispatchMethod, Factory.derivedTypes_eq side typed]
    rfl
  · rw [Offer.find?_methods fun _ => Factory.isStatic_of_overridesMethod]
    exact offered

/-- Wherever a session has got to, a use of an adapter of an instance that selects a method slot runs the
first method on the chain of the instance that takes the place of the bound one, unless an interface
passes that one on. -/
theorem runs_first_on_chain (reached : World.Acts (World.initial start) origin)
    (casts : (Cast.cast id target value).run origin = (.ok made, after))
    (isAdapter : made.adapter? = some adapter) (ofInstance : adapter.factory.isStatic = false)
    (typed : adapter.source.type? = some type) (later : World.Acts after world)
    (acyclic : world.registry.Acyclic) (isSlot : slot ∈ adapter.factory.methods) :
    ∃ method, adapter.Runs world.registry type slot method ∧
      ∀ (host : Host σ) (use : Use), use.slot? world.registry adapter = some (.method slot) →
        (use.run host adapter).run world =
          (Action.holding adapter.factory.engine (adapter.factory.calling slot use.args
            (method.enter host adapter.source))).run world := by
  have evolved : origin.Evolved id := reached.evolved (World.evolved_initial start id)
  obtain ⟨owner, isAbove, founds⟩ := Cast.founded_of_cast evolved casts isAdapter ofInstance typed
  obtain rfl : adapter.factory.source = owner := Registry.Founds.source_eq founds
  have develops : Relation.ReflTransGen Registry.Develops origin.registry world.registry := by
    have act := World.Act.cast origin id target value
    rw [casts] at act
    have acts : World.Acts origin world := .head act later
    exact acts.accrues.develops
  obtain ⟨retains, grown⟩ := Registry.retains_of_develops develops evolved.evolved.grown
  refine ⟨_, runs_of_founds grown acyclic (Registry.Founds.mono founds develops) ofInstance typed
    (retains.chain_subset isAbove) isSlot, fun host use selects => ?_⟩
  rw [Use.run_of_method selects]
  exact Action.holding_congr (Factory.run_forward host adapter.factory slot use.args adapter.source)

/-! ### Instances -/

/-- A session with an engine and two classes that greet. -/
def attending : World Unit := { Acquaintance.founded with registry := Registry.speaking }

theorem attending_reached : World.Acts (World.initial ()) attending := by
  have develops : Relation.ReflTransGen Registry.Develops Registry.initial Registry.speaking :=
    ((Registry.develops_register _ _ _ _).trans (Registry.develops_register _ _ _ _)).trans
      (Registry.develops_register _ _ _ _)
  exact Acquaintance.founded_reached.trans (World.acts_of_develops develops)

/-- The session after an object of the derived class was cast to the shape, and one type later. -/
def attended : World Unit :=
  let cast := ((Cast.cast ⟨0⟩ ⟨16⟩ (Cast.descendant ⟨18⟩)).run attending).2
  { cast with registry := (cast.registry.register (.named "Guest") .classType Definition.empty).1 }

/-- The adapter that the cast has made. -/
def attendant? : Option Adapter :=
  ((Cast.cast ⟨0⟩ ⟨16⟩ (Cast.descendant ⟨18⟩)).run attending).1.toOption.bind Value.adapter?

/-- The factory was made for the base class, and the derived class greets. -/
theorem derived_greets : ∃ adapter ∈ attendant?, ∃ slot ∈ adapter.factory.methods, ∃ method,
    World.Acts (World.initial ()) attending ∧ adapter.factory.isStatic = false ∧
      adapter.source.type? = some ⟨18⟩ ∧ attended.registry.Acyclic ∧
      adapter.Runs attended.registry ⟨18⟩ slot method ∧
      (adapter.factory.source, slot.source.body, method.body) = (⟨17⟩, some ⟨1⟩, some ⟨3⟩) := by
  have checked : attendant?.isSome = true ∧
      (∀ id ∈ attended.registry.ids, ∀ base ∈ attended.registry.base? id, base.raw < id.raw) ∧
      ∀ adapter ∈ attendant?, adapter.factory.isStatic = false ∧
        adapter.source.type? = some ⟨18⟩ ∧ adapter.factory.source = ⟨17⟩ ∧
        ∃ slot ∈ adapter.factory.methods, slot.source.body = some ⟨1⟩ ∧
          ¬ attended.registry.PassesOn adapter.factory.source slot.source ∧
          (attended.registry.first? (Factory.overridesMethod slot.source)
            (attended.registry.chain ⟨18⟩)).bind Method.body = some ⟨3⟩ := by
    decide +kernel
  obtain ⟨isSome, earlier, facts⟩ := checked
  obtain ⟨adapter, found⟩ := Option.isSome_iff_exists.1 isSome
  obtain ⟨ofInstance, typed, source, slot, isSlot, boundBody, kept, firstBody⟩ := facts adapter found
  obtain ⟨made, succeeds, isAdapter⟩ := Option.bind_eq_some_iff.1 found
  have casts : (Cast.cast ⟨0⟩ ⟨16⟩ (Cast.descendant ⟨18⟩)).run attending =
      (.ok made, ((Cast.cast ⟨0⟩ ⟨16⟩ (Cast.descendant ⟨18⟩)).run attending).2) :=
    Prod.ext (ok_of_toOption succeeds) rfl
  have later : World.Acts ((Cast.cast ⟨0⟩ ⟨16⟩ (Cast.descendant ⟨18⟩)).run attending).2 attended :=
    .single (.register _ _ _ _)
  have acyclic : attended.registry.Acyclic := Registry.acyclic_of_earlier earlier
  obtain ⟨method, runs, _⟩ := runs_first_on_chain attending_reached casts isAdapter ofInstance typed
    later acyclic isSlot
  rw [runs.first kept, Option.bind_some] at firstBody
  exact ⟨adapter, found, slot, isSlot, method, attending_reached, ofInstance, typed, acyclic, runs,
    by rw [source, boundBody, firstBody]⟩

/-- Class 19 inherits a method from class 17, through an interface that extends another one with such a
method. An adapter that is made for the interface runs what the extended one declares, and not the first
method on the chain. -/
theorem passed_on_before_inherited :
    ∃ adapter ∈ Cast.adapterBy? Registry.mingling ⟨0⟩ ⟨20⟩ (Cast.descendant ⟨19⟩),
      adapter.factory.isStatic = false ∧ adapter.source.type? = some ⟨19⟩ ∧
      Registry.mingling.kind ⟨19⟩ ≠ .interface ∧
      adapter.factory.source ∈ Registry.mingling.chain ⟨19⟩ ∧
      (∃ slot ∈ adapter.factory.methods,
        (Use.callSlot 0 []).slot? Registry.mingling adapter = some (.method slot) ∧
        (Registry.mingling.first? (Factory.overridesMethod slot.source)
          (Registry.mingling.chain ⟨19⟩)).map Method.body = some (some ⟨1⟩)) ∧
      Cast.report? Registry.mingling ⟨0⟩ ⟨20⟩ (Cast.descendant ⟨19⟩) (.callSlot 0 []) =
        some (.host "0") := by
  have checked : (Cast.adapterBy? Registry.mingling ⟨0⟩ ⟨20⟩ (Cast.descendant ⟨19⟩)).isSome = true ∧
      Registry.mingling.kind ⟨19⟩ ≠ .interface ∧
      Cast.report? Registry.mingling ⟨0⟩ ⟨20⟩ (Cast.descendant ⟨19⟩) (.callSlot 0 []) =
        some (.host "0") ∧
      ∀ adapter ∈ Cast.adapterBy? Registry.mingling ⟨0⟩ ⟨20⟩ (Cast.descendant ⟨19⟩),
        adapter.factory.isStatic = false ∧ adapter.source.type? = some ⟨19⟩ ∧
        adapter.factory.source ∈ Registry.mingling.chain ⟨19⟩ ∧
        ∃ slot ∈ adapter.factory.methods,
          (Use.callSlot 0 []).slot? Registry.mingling adapter = some (.method slot) ∧
          (Registry.mingling.first? (Factory.overridesMethod slot.source)
            (Registry.mingling.chain ⟨19⟩)).map Method.body = some (some ⟨1⟩) := by
    decide +kernel
  obtain ⟨isSome, notInterface, reports, facts⟩ := checked
  obtain ⟨adapter, found⟩ := Option.isSome_iff_exists.1 isSome
  obtain ⟨ofInstance, typed, above, slotFirst⟩ := facts adapter found
  exact ⟨adapter, found, ofInstance, typed, notInterface, above, slotFirst, reports⟩

end Adapter
end StructuralCast
