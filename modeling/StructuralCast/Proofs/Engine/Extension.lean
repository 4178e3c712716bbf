import StructuralCast.Proofs.Engine.Answers
import StructuralCast.Proofs.Forwarding.Slot
import StructuralCast.Proofs.Registry.Flattening

/-!
Contract: what a source that satisfies a shape has to do with the interfaces that the shape extends.

If a source type serves a shape, then it serves an extended interface as well, up to the accessors that
the shape curtails: resolution for the interface succeeds, or it names a curtailed property
(`satisfies_extended`). Each declaration of the interface has a slot in a factory for the shape, and
the slot has all of its accessors exactly where the shape does not curtail it.

The two resolutions need answers that belong together (`Concordant`): those of one engine, whichever
comes first and whatever happens in between, or those of any engines that answer by compatibility.
-/

namespace StructuralCast

/-- A number that can be read, and written where there is a setter. -/
private def Property.amount (setter : Option Accessor) : Property :=
  { name := "Amount", type := .int, index := [], getter := some ⟨.visible, none⟩, setter := setter,
    isStatic := false }

namespace Slot

/-- Whether a slot is for a member of this name and types, with all of its accessors. -/
def Offers : Slot → Member → Prop
  | .method slot, .method wanted =>
    slot.name = wanted.name ∧ slot.params = wanted.params ∧ slot.result = wanted.result ∧
      slot.source.genericArity = wanted.genericArity
  | .property slot, .property wanted =>
    slot.name = wanted.name ∧ slot.index = wanted.index ∧ slot.type = wanted.type ∧
      (wanted.canRead = true → slot.readable = true) ∧ (wanted.canWrite = true → slot.writable = true)
  | .event slot, .event wanted => slot.name = wanted.name ∧ slot.handler = wanted.handler
  | _, _ => False

instance (slot : Slot) (wanted : Member) : Decidable (slot.Offers wanted) :=
  match slot, wanted with
  | .method _, .method _ => inferInstanceAs (Decidable (_ ∧ _ ∧ _ ∧ _))
  | .property _, .property _ => inferInstanceAs (Decidable (_ ∧ _ ∧ _ ∧ (_ → _) ∧ (_ → _)))
  | .event _, .event _ => inferInstanceAs (Decidable (_ ∧ _))
  | .method _, .property _ | .method _, .event _ | .property _, .method _ | .property _, .event _
  | .event _, .method _ | .event _, .property _ => isFalse id

/-- A slot offers a member of the signature that it was planned for, if that one has the accessors. -/
theorem offers_iff_spans {registry : Registry} {binding : Binding} {slot : Slot}
    {holds : TypeId → TypeId → Prop} {onStatic : Bool} {wanted : Member}
    (planned : registry.planSlot binding = .ok slot)
    (serves : binding.required.member.Serves holds onStatic binding.provided)
    (alike : binding.required.member.Matches wanted) :
    slot.Offers wanted ↔ binding.required.member.Spans wanted := by
  cases binding with
  | method declaring required provided =>
      obtain ⟨_, _, _, _, rfl⟩ := Registry.planSlot_method planned
      cases alike with
      | method name params result side arity =>
          have sameArity : provided.genericArity = required.genericArity := serves.1.2.2.2.1
          exact iff_of_true ⟨name, params, result, sameArity.trans arity⟩ trivial
  | property declaring required provided =>
      obtain ⟨_, _, _, _, _, _, rfl⟩ := Registry.planSlot_property planned
      cases alike with
      | property name index type side =>
          exact ⟨fun offers => offers.2.2.2, fun spans => ⟨name, index, type, spans⟩⟩
  | event declaring required provided =>
      obtain ⟨_, rfl, _⟩ := Registry.planSlot_event planned
      cases alike with
      | event name handler side => exact iff_of_true ⟨name, handler⟩ trivial

end Slot

namespace Registry

variable {registry : Registry} {shape above : TypeId}

/-- By the answers that bind a shape, an extended interface is bound, or refused for a property that
the shape curtails. -/
theorem bound_or_curtailed (closed : registry.Closed) (reaches : registry.Extends shape above)
    {answer : TypeId → TypeId → Bool} {onStatic : Bool} {source : TypeId} {blueprint : Blueprint}
    {outcome : Except CastError Blueprint}
    (bound : (Resolution.blueprint registry Inquiry.question onStatic shape source).Outcome
      (fun target source reply => reply = answer target source) (.ok blueprint))
    (reached : (Resolution.blueprint registry Inquiry.question onStatic above source).Outcome
      (fun target source reply => reply = answer target source) outcome) :
    (∃ other, outcome = .ok other) ∨
      ∃ lost ∈ registry.declarations above, registry.Curtails shape lost.member ∧
        outcome = .error (.memberNotImplemented (registry.name above) (registry.name source)
          (lost.describe registry)) := by
  obtain ⟨members, _, flattens, _⟩ := Resolution.bindings_of_blueprint bound
  obtain ⟨others, flattensAbove⟩ := shapeMembers_of_extends closed reaches flattens
  cases outcome with
  | ok other => exact .inl ⟨other, rfl⟩
  | error cause =>
      obtain ⟨lost, isAsked, unbound, rfl⟩ := Resolution.unbound_of_blueprint reached flattensAbove
      have isDeclared : lost ∈ registry.declarations above :=
        List.mem_of_find?_eq_some ((mem_shapeMembers_iff flattensAbove).1 isAsked)
      refine .inr ⟨lost, isDeclared, ?_, rfl⟩
      by_contra whole
      -- What serves the declaration that stands for it would serve the lost one as well.
      obtain ⟨kept, isKept, found⟩ := exists_kept closed reaches flattens isDeclared
      obtain ⟨binding, _, binds⟩ := Resolution.exists_binding bound flattens isKept
      obtain ⟨rfl, isOffered, serves⟩ := Resolution.serves_of_bind? binds
      refine Resolution.denied_of_bind? ?_ unbound binding.provided isOffered
        (serves.of_matches (matches_of_kept? found) ((not_curtails_iff found).1 whole))
      intro target source affirmed denied
      exact absurd (affirmed.trans denied.symm) (by decide)

/-- Each declaration of an extended interface has a slot in a factory for the shape, with all of its
accessors if the shape does not curtail it. -/
theorem exists_slot (closed : registry.Closed) (reaches : registry.Extends shape above)
    {allowed : TypeId → TypeId → Bool → Prop} {onStatic : Bool} {source : TypeId}
    {blueprint : Blueprint}
    (bound : (Resolution.blueprint registry Inquiry.question onStatic shape source).Outcome allowed
      (.ok blueprint)) {engine : EngineId} {factory : Factory}
    (planned : registry.synthesize engine blueprint = .ok factory) {declared : ShapeMember}
    (isDeclared : declared ∈ registry.declarations above) :
    ∃ kept, registry.kept? shape declared.member = some kept ∧
      ∃ slot ∈ factory.slots, slot.Offers kept.member ∧
        (slot.Offers declared.member ↔ ¬ registry.Curtails shape declared.member) := by
  obtain ⟨members, _, flattens, _⟩ := Resolution.bindings_of_blueprint bound
  obtain ⟨kept, isKept, found⟩ := exists_kept closed reaches flattens isDeclared
  obtain ⟨binding, isBound, binds⟩ := Resolution.exists_binding bound flattens isKept
  obtain ⟨rfl, _, serves⟩ := Resolution.serves_of_bind? binds
  obtain ⟨_, _, _, slots⟩ := synthesize_eq_ok planned
  obtain ⟨slot, isSlot, slotPlanned⟩ := exists_of_mem_left (Step.forall₂_of_mapM slots) isBound
  have itself := Member.matches_of_sameSignature (Member.sameSignature_self binding.required.member)
  refine ⟨binding.required, found, slot, isSlot, ?_, ?_⟩
  · exact (Slot.offers_iff_spans slotPlanned serves itself).2 (Member.spans_self _)
  · rw [not_curtails_iff found]
    exact Slot.offers_iff_spans slotPlanned serves (matches_of_kept? found)

end Registry

namespace Engine

variable {registry : Registry} {engine after engine' after' : Engine}

/-- Two resolutions whose answers belong together: one engine gives both, the first or the second one
first, or both are by engines that answer by compatibility. -/
inductive Concordant (registry : Registry) (engine after engine' after' : Engine) : Prop where
  | later (moves : Moves registry after engine')
  | earlier (moves : Moves registry after' engine)
  | sound (orderly : registry.Orderly) (reachable : Reachable registry engine)
      (plain : engine.config.widen = true → registry.PlainBases)
      (reachable' : Reachable registry engine')
      (plain' : engine'.config.widen = true → registry.PlainBases)

/-- Resolutions that belong together go by the same answers. -/
theorem Concordant.answers (concordant : Concordant registry engine after engine' after')
    {onStatic : Bool} {shape shape' source : TypeId} {outcome outcome' : Except CastError Blueprint}
    (resolves : (resolve registry onStatic shape source).run engine = (outcome, after))
    (resolves' : (resolve registry onStatic shape' source).run engine' = (outcome', after')) :
    ∃ answer : TypeId → TypeId → Bool,
      (Resolution.blueprint registry Inquiry.question onStatic shape source).Outcome
        (fun target source reply => reply = answer target source) outcome ∧
      (Resolution.blueprint registry Inquiry.question onStatic shape' source).Outcome
        (fun target source reply => reply = answer target source) outcome' := by
  have learns : Change registry engine _ := change_resolve onStatic shape source engine
  have learns' : Change registry engine' _ := change_resolve onStatic shape' source engine'
  rw [resolves] at learns
  rw [resolves'] at learns'
  cases concordant with
  | later moves =>
      have grows := Edits.grows (moves.edits.tail (.change learns'))
      exact ⟨_, recalled_of_resolve resolves grows, recalled_of_resolve resolves' (.refl _)⟩
  | earlier moves =>
      have grows := Edits.grows (moves.edits.tail (.change learns))
      exact ⟨_, recalled_of_resolve resolves (.refl _), recalled_of_resolve resolves' grows⟩
  | sound orderly reachable plain reachable' plain' =>
      obtain ⟨_, _, same⟩ :=
        (reachable.sound orderly plain).resolve_eq orderly plain onStatic shape source
      obtain ⟨_, _, same'⟩ :=
        (reachable'.sound orderly plain').resolve_eq orderly plain' onStatic shape' source
      obtain rfl : outcome = registry.resolved onStatic shape source :=
        congrArg Prod.fst (resolves.symm.trans same)
      obtain rfl : outcome' = registry.resolved onStatic shape' source :=
        congrArg Prod.fst (resolves'.symm.trans same')
      exact ⟨registry.verdict, Inquiry.outcome_eval _ _, Inquiry.outcome_eval _ _⟩

/-- A source that satisfies a shape satisfies the interfaces that the shape extends, but for accessors
that the shape curtails: an interface is resolved, or refused for a curtailed property, and in a
factory for the shape each of its declarations has a slot, with all of the accessors that it declares
just if they are not curtailed. -/
theorem satisfies_extended (grown : registry.Grown) {shape above source : TypeId}
    (isExtended : above ∈ registry.interfaces shape)
    (directly : registry.base? shape = none ∨ registry.Extends shape above) {onStatic : Bool}
    {blueprint : Blueprint} {outcome : Except CastError Blueprint}
    (resolves : (resolve registry onStatic shape source).run engine = (.ok blueprint, after))
    (resolvesAbove : (resolve registry onStatic above source).run engine' = (outcome, after'))
    (concordant : Concordant registry engine after engine' after') :
    ((∃ other, outcome = .ok other) ∨
      ∃ lost ∈ registry.declarations above, registry.Curtails shape lost.member ∧
        outcome = .error (.memberNotImplemented (registry.name above) (registry.name source)
          (lost.describe registry))) ∧
    ∀ id factory, registry.synthesize id blueprint = .ok factory →
      ∀ declared ∈ registry.declarations above,
        ∃ kept, registry.kept? shape declared.member = some kept ∧
          ∃ slot ∈ factory.slots, slot.Offers kept.member ∧
            (slot.Offers declared.member ↔ ¬ registry.Curtails shape declared.member) := by
  have reaches : registry.Extends shape above := by
    rcases directly with rootless | reaches
    · exact Registry.extends_of_mem_interfaces grown.closed rootless isExtended
    · exact reaches
  obtain ⟨answer, bound, reached⟩ := concordant.answers resolves resolvesAbove
  refine ⟨Registry.bound_or_curtailed grown.closed reaches bound reached, ?_⟩
  intro id factory planned declared isDeclared
  exact Registry.exists_slot grown.closed reaches bound planned isDeclared

end Engine

/-! ### An instance -/

namespace Registry

/-- Shape 16 asks for a number that can be written. Shape 17 extends it and declares the number
without the setter, and shape 18 extends shape 17 and declares the number as shape 16 does. Class 19
has the number without a setter, class 20 with one. Class 21 implements shape 16, and shape 22 has
class 21 as its base. -/
def accounts : Registry :=
  let writable := Property.amount (some ⟨.visible, none⟩)
  let readable := Property.amount none
  let account := (initial.register (.named "Account") .interface
    { Definition.empty with properties := [writable] }).1
  let statement := (account.register (.named "Statement") .interface
    { Definition.empty with interfaces := [⟨16⟩], properties := [readable] }).1
  let deposit := (statement.register (.named "Deposit") .interface
    { Definition.empty with interfaces := [⟨17⟩], properties := [writable] }).1
  let receipt := (deposit.register (.named "Receipt") .classType
    { Definition.empty with properties := [readable] }).1
  let savings := (receipt.register (.named "Savings") .classType
    { Definition.empty with properties := [writable] }).1
  let branch := (savings.register (.named "Branch") .classType
    { Definition.empty with interfaces := [⟨16⟩], properties := [writable] }).1
  (branch.register (.named "Agency") .interface { Definition.empty with base := some ⟨21⟩ }).1

theorem accounts_grown : accounts.Grown :=
  ((((((Grown.initial.register _ _ _).register _ _ _).register _ _ _).register _ _ _).register
    _ _ _).register _ _ _).register _ _ _

end Registry

namespace Engine

/-- A class that satisfies shape 18 is resolved for shape 16 afterwards, and adapters of the class as
shape 18 have the setter that shape 16 declares. -/
theorem accounts_satisfied :
    ∃ blueprint other after, (resolve Registry.accounts false ⟨18⟩ ⟨20⟩).run
        (Engine.fresh ⟨0⟩ Config.standard) = (.ok blueprint, after) ∧
      ((resolve Registry.accounts false ⟨16⟩ ⟨20⟩).run after).1 = .ok other ∧
      ∃ factory, Registry.accounts.synthesize ⟨0⟩ blueprint = .ok factory ∧
        ∃ slot ∈ factory.slots, slot.Offers (.property (Property.amount (some ⟨.visible, none⟩))) := by
  have planned : (((resolve Registry.accounts false ⟨18⟩ ⟨20⟩).run
      (Engine.fresh ⟨0⟩ Config.standard)).1.toOption.bind fun blueprint =>
        (Registry.accounts.synthesize ⟨0⟩ blueprint).toOption).isSome = true := by decide +kernel
  obtain ⟨factory, planned⟩ := Option.isSome_iff_exists.1 planned
  obtain ⟨blueprint, found, made⟩ := Option.bind_eq_some_iff.1 planned
  have extended : (∀ declared ∈ Registry.accounts.declarations ⟨16⟩,
        ¬ Registry.accounts.Curtails ⟨18⟩ declared.member) ∧
      (⟨16⟩ : TypeId) ∈ Registry.accounts.interfaces ⟨18⟩ ∧
      Registry.accounts.base? ⟨18⟩ = none ∧
      (⟨⟨16⟩, .property (Property.amount (some ⟨.visible, none⟩))⟩ : ShapeMember) ∈
        Registry.accounts.declarations ⟨16⟩ := by
    decide +kernel
  obtain ⟨whole, isExtended, noBase, isDeclared⟩ := extended
  obtain ⟨outcome, slots⟩ := satisfies_extended Registry.accounts_grown isExtended
    (.inl noBase) (Prod.ext (Step.ok_of_toOption found) rfl) rfl (.later .refl)
  obtain ⟨other, resolvesAbove⟩ := outcome.resolve_right fun ⟨lost, isDeclared, curtailed, _⟩ =>
    whole lost isDeclared curtailed
  obtain ⟨_, _, slot, isSlot, _, offers⟩ := slots ⟨0⟩ factory (Step.ok_of_toOption made) _ isDeclared
  exact ⟨blueprint, other, _, Prod.ext (Step.ok_of_toOption found) rfl, resolvesAbove, factory,
    Step.ok_of_toOption made, slot, isSlot, offers.2 (whole _ isDeclared)⟩

/-- A shape that declares a number without its setter can be satisfied where the shape that it extends
cannot, and where both can, its adapters do not have the setter. -/
theorem satisfied_without_setter :
    (¬ ∀ (registry : Registry) (engine : Engine), registry.Grown → Reachable registry engine →
      ∀ shape above source : TypeId, registry.kind shape = .interface →
        above ∈ registry.interfaces shape → registry.kind source ≠ .interface →
          ((resolve registry false shape source).run engine).1.isOk = true →
            ((resolve registry false above source).run
              ((resolve registry false shape source).run engine).2).1.isOk = true) ∧
    ¬ ∀ (registry : Registry) (engine : Engine), registry.Grown → Reachable registry engine →
      ∀ shape above source : TypeId, registry.kind shape = .interface →
        above ∈ registry.interfaces shape → registry.kind source ≠ .interface →
          ∀ factory ∈ (((resolve registry false shape source).run engine).1.toOption.bind
              fun blueprint => (registry.synthesize engine.id blueprint).toOption),
            ∀ declared ∈ registry.declarations above,
              ∃ slot ∈ factory.slots, slot.Offers declared.member := by
  constructor
  · intro claimed
    have checked : Registry.accounts.kind ⟨17⟩ = .interface ∧
        (⟨16⟩ : TypeId) ∈ Registry.accounts.interfaces ⟨17⟩ ∧
        Registry.accounts.kind ⟨19⟩ ≠ .interface ∧
        ((resolve Registry.accounts false ⟨17⟩ ⟨19⟩).run
          (Engine.fresh ⟨0⟩ Config.standard)).1.isOk = true ∧
        ((resolve Registry.accounts false ⟨16⟩ ⟨19⟩).run
          ((resolve Registry.accounts false ⟨17⟩ ⟨19⟩).run
            (Engine.fresh ⟨0⟩ Config.standard)).2).1.isOk = false := by
      decide +kernel
    obtain ⟨isShape, isExtended, notShape, resolves, refuses⟩ := checked
    have resolvesAbove := claimed Registry.accounts (Engine.fresh ⟨0⟩ Config.standard)
      Registry.accounts_grown (.fresh ⟨0⟩ Config.standard) ⟨17⟩ ⟨16⟩ ⟨19⟩ isShape isExtended notShape
      resolves
    rw [refuses] at resolvesAbove
    cases resolvesAbove
  · intro claimed
    have checked : Registry.accounts.kind ⟨17⟩ = .interface ∧
        (⟨16⟩ : TypeId) ∈ Registry.accounts.interfaces ⟨17⟩ ∧
        Registry.accounts.kind ⟨20⟩ ≠ .interface ∧
        ¬ ∀ factory ∈ (((resolve Registry.accounts false ⟨17⟩ ⟨20⟩).run
              (Engine.fresh ⟨0⟩ Config.standard)).1.toOption.bind
            fun blueprint => (Registry.accounts.synthesize ⟨0⟩ blueprint).toOption),
          ∀ declared ∈ Registry.accounts.declarations ⟨16⟩,
            ∃ slot ∈ factory.slots, slot.Offers declared.member := by
      decide +kernel
    obtain ⟨isShape, isExtended, notShape, lacks⟩ := checked
    exact lacks (claimed Registry.accounts (Engine.fresh ⟨0⟩ Config.standard)
      Registry.accounts_grown (.fresh ⟨0⟩ Config.standard) ⟨17⟩ ⟨16⟩ ⟨20⟩ isShape isExtended notShape)

end Engine
end StructuralCast
