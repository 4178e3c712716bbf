import StructuralCast.Proofs.Engine.Answers
import StructuralCast.Proofs.Forwarding.Override
import StructuralCast.Proofs.Forwarding.Service

/-!
Contract: the slots that two factories have for one shape.

Two factories for one shape have their slots in the same order, each for the same member of the shape
(`counterparts`), so a use selects counterparts in both. What they are bound
to was chosen from what two types offer. If one of these types is above the other, and both slots are
bound to members that declare the same types, then a use comes down to the same member and the same
conversions (`MethodSlot.Agrees`, `PropertySlot.Agrees`).
-/

namespace StructuralCast

open Step

/-! ### Slots for one member of a shape -/

/-- A slot for a method of a shape, bound to the first of the methods offered with its types. -/
structure Registry.BindsMethod (registry : Registry) (source : TypeId) (wanted : Method)
    (slot : MethodSlot) : Prop where
  name : slot.name = wanted.name
  params : slot.params = wanted.params
  result : slot.result = wanted.result
  boundName : slot.source.name = wanted.name
  boundArity : slot.source.genericArity = wanted.genericArity
  first : (Offer.of registry source false).methods.find? (Factory.overridesMethod slot.source) =
    some slot.source
  plans : registry.PlansMethod slot

/-- A slot for a property of a shape, bound to the first of the properties offered with its types and
the accessors that are asked for. -/
structure Registry.BindsProperty (registry : Registry) (source : TypeId) (wanted : Property)
    (slot : PropertySlot) : Prop where
  name : slot.name = wanted.name
  type : slot.type = wanted.type
  index : slot.index = wanted.index
  readable : slot.readable = wanted.canRead
  writable : slot.writable = wanted.canWrite
  boundName : slot.source.name = wanted.name
  first : (Offer.of registry source false).properties.find?
    (Resolution.standsFor wanted slot.source) = some slot.source
  plans : registry.PlansProperty slot

/-- Two slots for one method of a shape, bound to what two types offer. -/
def MethodSlot.Counterpart (registry : Registry) (source source' : TypeId) (slot slot' : MethodSlot) :
    Prop :=
  ∃ wanted, registry.BindsMethod source wanted slot ∧ registry.BindsMethod source' wanted slot'

/-- Two slots for one property of a shape, bound to what two types offer. -/
def PropertySlot.Counterpart (registry : Registry) (source source' : TypeId)
    (slot slot' : PropertySlot) : Prop :=
  ∃ wanted, registry.BindsProperty source wanted slot ∧ registry.BindsProperty source' wanted slot'

/-- Two slots for one member of a shape, bound to what two types offer. -/
inductive Slot.Counterpart (registry : Registry) (source source' : TypeId) : Slot → Slot → Prop where
  | method {slot slot' : MethodSlot} (counterpart : slot.Counterpart registry source source' slot') :
      Counterpart registry source source' (.method slot) (.method slot')
  | property {slot slot' : PropertySlot}
      (counterpart : slot.Counterpart registry source source' slot') :
      Counterpart registry source source' (.property slot) (.property slot')
  | event (slot slot' : EventSlot) : Counterpart registry source source' (.event slot) (.event slot')

section Counterparts

variable {registry : Registry} {answer answer' : TypeId → TypeId → Bool} {shape source source' : TypeId}

/-- A slot that was planned for a member of a shape, as fixed answers have bound it. -/
def Slot.IsFor (registry : Registry) (answer : TypeId → TypeId → Bool) (source : TypeId)
    (required : ShapeMember) (slot : Slot) : Prop :=
  ∃ binding : Binding,
    (Resolution.bind? registry Inquiry.question false (Offer.of registry source false) required).Outcome
      (fun target source reply => reply = answer target source) (some binding) ∧
    registry.planSlot binding = .ok slot

/-- A factory has one slot for each member of its shape, in order. -/
theorem Registry.PlansBy.slots {engine : EngineId} {factory : Factory}
    (plans : registry.PlansBy answer engine shape source factory) :
    ∃ members, registry.shapeMembers shape = .ok members ∧
      List.Forall₂ (Slot.IsFor registry answer source) members factory.slots := by
  obtain ⟨outcome, planned⟩ := plans
  obtain ⟨_, _, _, slotsPlanned⟩ := synthesize_eq_ok planned
  unfold Resolution.blueprint at outcome
  split at outcome
  case h_1 => cases outcome
  case h_2 members found =>
    refine ⟨members, found, ?_⟩
    simp only [Inquiry.outcome_bind, Inquiry.outcome_pure] at outcome
    obtain ⟨bindings, outcomeOfMembers, made⟩ := outcome
    cases bindings with
    | error cause => cases made
    | ok bindings =>
        have same : factory.blueprint = ⟨shape, source, false, bindings⟩ := Except.ok.inj made
        rw [same] at slotsPlanned
        exact forall₂_comp (Resolution.bound_of_bindAll outcomeOfMembers) (forall₂_of_mapM slotsPlanned)

theorem Slot.IsFor.binds {required : ShapeMember} {slot : Slot}
    (isFor : Slot.IsFor registry answer source required slot) :
    match required.member with
    | .method wanted => ∃ method, slot = .method method ∧ registry.BindsMethod source wanted method
    | .property wanted =>
      ∃ property, slot = .property property ∧ registry.BindsProperty source wanted property
    | .event _ => ∃ event, slot = .event event := by
  obtain ⟨binding, outcome, planned⟩ := isFor
  obtain ⟨_, _, serves⟩ := Resolution.serves_of_bind? outcome
  unfold Resolution.bind? at outcome
  cases isWanted : required.member
  all_goals
    rw [isWanted] at outcome serves
    simp only [Inquiry.outcome_bind, Inquiry.outcome_pure] at outcome
    obtain ⟨served, found, chosen⟩ := outcome
    obtain ⟨provided, rfl, rfl⟩ := Option.map_eq_some_iff.1 chosen.symm
    dsimp only [Binding.provided] at serves ⊢
  case method =>
    obtain ⟨args, result, argsPlanned, resultPlanned, rfl⟩ := Registry.planSlot_method planned
    obtain ⟨⟨_, _, name, arity, length⟩, _⟩ := serves
    exact ⟨_, rfl, rfl, rfl, rfl, name, arity, Resolution.find?_of_bestMethod found,
      length, argsPlanned, resultPlanned⟩
  case property =>
    obtain ⟨index, onGet, onSet, indexPlanned, getPlanned, setPlanned, rfl⟩ :=
      Registry.planSlot_property planned
    obtain ⟨name, _, _, _, length, _⟩ := serves
    exact ⟨_, rfl, rfl, rfl, rfl, rfl, rfl, name, Resolution.find?_of_firstProperty found,
      length.symm, indexPlanned, getPlanned, setPlanned⟩
  case event =>
    obtain ⟨_, isSlot, _⟩ := Registry.planSlot_event planned
    exact ⟨_, isSlot⟩

/-- A slot for some member of a shape, bound to what a type offers. -/
def Registry.Binds (registry : Registry) (source : TypeId) : Slot → Prop
  | .method slot => ∃ wanted, registry.BindsMethod source wanted slot
  | .property slot => ∃ wanted, registry.BindsProperty source wanted slot
  | .event _ => True

theorem Registry.PlansBy.binds {engine : EngineId} {factory : Factory} {slot : Slot}
    (plans : registry.PlansBy answer engine shape source factory) (member : slot ∈ factory.slots) :
    registry.Binds source slot := by
  obtain ⟨members, _, slots⟩ := plans.slots
  obtain ⟨required, _, isFor⟩ := exists_of_mem_right slots member
  have binds := isFor.binds
  cases isWanted : required.member with
  | method wanted =>
      simp only [isWanted] at binds
      obtain ⟨_, rfl, binds⟩ := binds
      exact ⟨wanted, binds⟩
  | property wanted =>
      simp only [isWanted] at binds
      obtain ⟨_, rfl, binds⟩ := binds
      exact ⟨wanted, binds⟩
  | event wanted =>
      simp only [isWanted] at binds
      obtain ⟨_, rfl⟩ := binds
      trivial

theorem Registry.PlansBy.method {engine : EngineId} {factory : Factory} {slot : MethodSlot}
    (plans : registry.PlansBy answer engine shape source factory) (member : slot ∈ factory.methods) :
    ∃ wanted, registry.BindsMethod source wanted slot :=
  plans.binds (Factory.mem_methods.1 member)

theorem Registry.PlansBy.property {engine : EngineId} {factory : Factory} {slot : PropertySlot}
    (plans : registry.PlansBy answer engine shape source factory)
    (member : slot ∈ factory.properties) : ∃ wanted, registry.BindsProperty source wanted slot :=
  plans.binds (Factory.mem_properties.1 member)

/-- Two factories for one shape have counterparts as their slots. -/
theorem counterparts {engine engine' : EngineId} {factory factory' : Factory}
    (plans : registry.PlansBy answer engine shape source factory)
    (plans' : registry.PlansBy answer' engine' shape source' factory') :
    List.Forall₂ (Slot.Counterpart registry source source') factory.slots factory'.slots := by
  obtain ⟨members, found, slots⟩ := plans.slots
  obtain ⟨members', found', slots'⟩ := plans'.slots
  obtain rfl : members = members' := Except.ok.inj (found.symm.trans found')
  refine (forall₂_comp slots.flip slots').imp ?_
  rintro slot slot' ⟨required, isFor, isFor'⟩
  have binds := Slot.IsFor.binds isFor
  have binds' := Slot.IsFor.binds isFor'
  cases wanted : required.member with
  | method wanted =>
      simp only [wanted] at binds binds'
      obtain ⟨method, rfl, binds⟩ := binds
      obtain ⟨method', rfl, binds'⟩ := binds'
      exact .method ⟨_, binds, binds'⟩
  | property wanted =>
      simp only [wanted] at binds binds'
      obtain ⟨property, rfl, binds⟩ := binds
      obtain ⟨property', rfl, binds'⟩ := binds'
      exact .property ⟨_, binds, binds'⟩
  | event wanted =>
      simp only [wanted] at binds binds'
      obtain ⟨event, rfl⟩ := binds
      obtain ⟨event', rfl⟩ := binds'
      exact .event event event'

theorem counterparts_methods {factory factory' : Factory}
    (slots : List.Forall₂ (Slot.Counterpart registry source source') factory.slots factory'.slots) :
    List.Forall₂ (MethodSlot.Counterpart registry source source') factory.methods
      factory'.methods := by
  refine List.rel_filterMap ?_ slots
  intro slot slot' counterpart
  cases counterpart with
  | method counterpart => exact .some counterpart
  | property => exact .none
  | event => exact .none

theorem counterparts_properties {factory factory' : Factory}
    (slots : List.Forall₂ (Slot.Counterpart registry source source') factory.slots factory'.slots) :
    List.Forall₂ (PropertySlot.Counterpart registry source source') factory.properties
      factory'.properties := by
  refine List.rel_filterMap ?_ slots
  intro slot slot' counterpart
  cases counterpart with
  | method => exact .none
  | property counterpart => exact .some counterpart
  | event => exact .none

/-- Counterparts are called by one name and with the same types. -/
theorem MethodSlot.Counterpart.called {slot slot' : MethodSlot}
    (counterpart : slot.Counterpart registry source source' slot') :
    slot.name = slot'.name ∧ slot.params = slot'.params := by
  obtain ⟨wanted, binds, binds'⟩ := counterpart
  exact ⟨binds.name.trans binds'.name.symm, binds.params.trans binds'.params.symm⟩

/-- Counterparts are used by one name and with the same index types, to read or to write both. -/
theorem PropertySlot.Counterpart.used {slot slot' : PropertySlot}
    (counterpart : slot.Counterpart registry source source' slot') :
    slot.name = slot'.name ∧ slot.index = slot'.index ∧ slot.readable = slot'.readable ∧
      slot.writable = slot'.writable := by
  obtain ⟨wanted, binds, binds'⟩ := counterpart
  exact ⟨binds.name.trans binds'.name.symm, binds.index.trans binds'.index.symm,
    binds.readable.trans binds'.readable.symm, binds.writable.trans binds'.writable.symm⟩

end Counterparts

/-! ### Agreement -/

/-- What a slot is bound to declares: the types of what goes in, and the type of what comes out. -/
def Slot.declared : Slot → List TypeId × TypeId
  | .method slot => (slot.source.params, slot.source.result)
  | .property slot => (slot.source.index, slot.source.type)
  | .event slot => ([], slot.sourceHandler)

/-- Slots of two factories that come down to one method and the same conversions over a source. -/
structure MethodSlot.Agrees (registry : Registry) (factory factory' : Factory) (source : Value)
    (slot slot' : MethodSlot) : Prop where
  name : slot.name = slot'.name
  params : slot.params = slot'.params
  result : slot.result = slot'.result
  argConversions : slot.argConversions = slot'.argConversions
  resultConversion : slot.resultConversion = slot'.resultConversion
  method : factory.dispatchMethod registry source slot.source =
    factory'.dispatchMethod registry source slot'.source

/-- Slots of two factories that come down to one property and the same conversions over a source. -/
structure PropertySlot.Agrees (registry : Registry) (factory factory' : Factory) (source : Value)
    (slot slot' : PropertySlot) : Prop where
  name : slot.name = slot'.name
  type : slot.type = slot'.type
  index : slot.index = slot'.index
  indexConversions : slot.indexConversions = slot'.indexConversions
  onGet : slot.onGet = slot'.onGet
  onSet : slot.onSet = slot'.onSet
  property : factory.dispatchProperty registry source slot.source =
    factory'.dispatchProperty registry source slot'.source

/-- Whether a property has, for all to see, the accessors that a slot needs. -/
def PropertySlot.accessible (slot : PropertySlot) (property : Property) : Bool :=
  (!slot.readable || property.getter.any Accessor.isPublic) &&
    (!slot.writable || property.setter.any Accessor.isPublic)

section Agreement

variable {registry : Registry} {factory factory' : Factory} {source : Value} {type : TypeId}

theorem covers_eq (required candidate : Option Accessor) :
    Resolution.covers required candidate =
      (!required.isSome || candidate.any Accessor.isPublic) := by
  cases required with
  | none => rfl
  | some => cases candidate <;> rfl

/-- One slot is bound to what a type above the type of a source offers, the other to what that type
offers itself: if both are bound to members of the same types, they agree. -/
theorem MethodSlot.Counterpart.agrees {slot slot' : MethodSlot}
    (counterpart : slot.Counterpart registry factory.source factory'.source slot')
    (orderly : registry.Orderly) (side : factory.isStatic = false)
    (typed : source.type? = some type) (above : factory.source ∈ registry.chain type)
    (exactly : factory'.source = type)
    (declared : (Slot.method slot).declared = (Slot.method slot').declared) :
    slot.Agrees registry factory factory' source slot' := by
  obtain ⟨wanted, binds, binds'⟩ := counterpart
  obtain ⟨sameParams, sameResult⟩ := Prod.mk.inj declared
  have params := binds.params.trans binds'.params.symm
  have result := binds.result.trans binds'.result.symm
  obtain ⟨_, plansArgs, plansResult⟩ := binds.plans
  obtain ⟨_, plansArgs', plansResult'⟩ := binds'.plans
  rw [sameParams, params, plansArgs'] at plansArgs
  rw [sameResult, result, plansResult'] at plansResult
  refine ⟨binds.name.trans binds'.name.symm, params, result, (Except.ok.inj plansArgs).symm,
    (Except.ok.inj plansResult).symm, ?_⟩
  subst exactly
  rw [factory'.dispatchMethod_self typed]
  refine Factory.dispatchMethod_eq orderly side typed above binds.first binds'.first ?_
  funext candidate
  simp only [Factory.overridesMethod, binds.boundName, binds'.boundName, binds.boundArity,
    binds'.boundArity, sameParams, sameResult]

/-- The same for properties, if the one that is used has the accessors that the slot needs. -/
theorem PropertySlot.Counterpart.agrees {slot slot' : PropertySlot}
    (counterpart : slot.Counterpart registry factory.source factory'.source slot')
    (orderly : registry.Orderly) (side : factory.isStatic = false)
    (typed : source.type? = some type) (above : factory.source ∈ registry.chain type)
    (exactly : factory'.source = type)
    (declared : (Slot.property slot).declared = (Slot.property slot').declared)
    (accessible : slot.accessible (factory.dispatchProperty registry source slot.source) = true) :
    slot.Agrees registry factory factory' source slot' := by
  obtain ⟨wanted, binds, binds'⟩ := counterpart
  obtain ⟨sameIndex, sameType⟩ := Prod.mk.inj declared
  have type := binds.type.trans binds'.type.symm
  have index := binds.index.trans binds'.index.symm
  obtain ⟨_, plansIndex, plansGet, plansSet⟩ := binds.plans
  obtain ⟨_, plansIndex', plansGet', plansSet'⟩ := binds'.plans
  rw [sameIndex, index, plansIndex'] at plansIndex
  rw [sameType, type, plansGet'] at plansGet
  rw [sameType, type, plansSet'] at plansSet
  refine ⟨binds.name.trans binds'.name.symm, type, index, (Except.ok.inj plansIndex).symm,
    (Except.ok.inj plansGet).symm, (Except.ok.inj plansSet).symm, ?_⟩
  subst exactly
  rw [factory'.dispatchProperty_self typed]
  refine Factory.dispatchProperty_eq orderly side typed above binds.first binds'.first ?_ ?_
  · funext candidate
    simp only [Resolution.standsFor, Factory.overridesProperty, binds.boundName, binds'.boundName,
      sameIndex, sameType]
  · rw [PropertySlot.accessible, binds.readable, binds.writable] at accessible
    rw [Factory.hasAccessors, covers_eq, covers_eq]
    exact accessible

end Agreement

/-! ### What a use selects -/

/-- The slot that a use of an adapter selects, if there is one. -/
def Adapter.Use.slot? (registry : Registry) (adapter : Adapter) : Use → Option Slot
  | call name args => (selectSlot registry adapter.factory name args).toOption.map .method
  | callSignature name params _ => (adapter.factory.slotWithSignature? name params).map .method
  | callSlot index _ => adapter.factory.methods[index]?.map .method
  | get name => (propertySlot? adapter.factory name PropertySlot.readable).map .property
  | set name _ => (propertySlot? adapter.factory name PropertySlot.writable).map .property
  | getIndex index =>
    (indexerSlot? adapter.factory index.length PropertySlot.readable).map .property
  | setIndex index _ =>
    (indexerSlot? adapter.factory index.length PropertySlot.writable).map .property

end StructuralCast
