import StructuralCast.Forwarding
import StructuralCast.Proofs.Engine.Planned

/-!
Contract: the slots of a planned factory.

A slot holds the conversions between what the shape and what the bound member declares, and the two
declare equally many types (`Registry.Plans.method`, `Registry.Plans.property`). What runs in place of
the bound member declares the same types as that one (`Factory.types_dispatchMethod`).
-/

namespace StructuralCast

open Step

variable {registry : Registry}

namespace Factory

variable {factory : Factory}

theorem mem_methods {slot : MethodSlot} : slot ∈ factory.methods ↔ .method slot ∈ factory.slots := by
  refine List.mem_filterMap.trans ⟨?_, fun member => ⟨.method slot, member, rfl⟩⟩
  rintro ⟨_ | _ | _, member, ⟨⟩⟩
  exact member

theorem mem_properties {slot : PropertySlot} :
    slot ∈ factory.properties ↔ .property slot ∈ factory.slots := by
  refine List.mem_filterMap.trans ⟨?_, fun member => ⟨.property slot, member, rfl⟩⟩
  rintro ⟨_ | _ | _, member, ⟨⟩⟩
  exact member

theorem mem_events {slot : EventSlot} : slot ∈ factory.events ↔ .event slot ∈ factory.slots := by
  refine List.mem_filterMap.trans ⟨?_, fun member => ⟨.event slot, member, rfl⟩⟩
  rintro ⟨_ | _ | _, member, ⟨⟩⟩
  exact member

end Factory

/-! ### What a slot was planned from -/

/-- The conversions of a method slot are those between its declared types. -/
def Registry.PlansMethod (registry : Registry) (slot : MethodSlot) : Prop :=
  slot.source.params.length = slot.params.length ∧
    registry.planConversions slot.source.params slot.params = .ok slot.argConversions ∧
    registry.planConversion slot.result slot.source.result = .ok slot.resultConversion

/-- The conversions of a property slot are those between its declared types. -/
def Registry.PlansProperty (registry : Registry) (slot : PropertySlot) : Prop :=
  slot.source.index.length = slot.index.length ∧
    registry.planConversions slot.source.index slot.index = .ok slot.indexConversions ∧
    registry.planConversion slot.type slot.source.type = .ok slot.onGet ∧
    registry.planConversion slot.source.type slot.type = .ok slot.onSet

namespace Registry

theorem planSlot_method {declaring : TypeId} {required provided : Method} {slot : Slot}
    (planned : registry.planSlot (.method declaring required provided) = .ok slot) :
    ∃ args result, registry.planConversions provided.params required.params = .ok args ∧
      registry.planConversion required.result provided.result = .ok result ∧
      slot = .method ⟨required.name, required.params, required.result, provided, args, result⟩ := by
  simp only [planSlot] at planned
  obtain ⟨args, argsPlanned, planned⟩ := ok_of_bind planned
  obtain ⟨result, resultPlanned, planned⟩ := ok_of_bind planned
  cases planned
  exact ⟨args, result, argsPlanned, resultPlanned, rfl⟩

theorem planSlot_property {declaring : TypeId} {required provided : Property} {slot : Slot}
    (planned : registry.planSlot (.property declaring required provided) = .ok slot) :
    ∃ index onGet onSet, registry.planConversions provided.index required.index = .ok index ∧
      registry.planConversion required.type provided.type = .ok onGet ∧
      registry.planConversion provided.type required.type = .ok onSet ∧
      slot = .property ⟨required.name, required.type, required.index, required.canRead,
        required.canWrite, provided, index, onGet, onSet⟩ := by
  simp only [planSlot] at planned
  obtain ⟨index, indexPlanned, planned⟩ := ok_of_bind planned
  obtain ⟨onGet, getPlanned, planned⟩ := ok_of_bind planned
  obtain ⟨onSet, setPlanned, planned⟩ := ok_of_bind planned
  cases planned
  exact ⟨index, onGet, onSet, indexPlanned, getPlanned, setPlanned, rfl⟩

/-- An event is relayed if its handlers are of another type than those of the source. -/
theorem planSlot_event {declaring : TypeId} {required provided : Event} {slot : Slot}
    (planned : registry.planSlot (.event declaring required provided) = .ok slot) :
    ∃ relay, slot = .event ⟨required.name, required.handler, provided.name, provided.handler, relay⟩ ∧
      ((required.handler = provided.handler ∧ relay = none) ∨
        required.handler ≠ provided.handler ∧ ∃ plan,
          registry.planRelay required.handler provided.handler = .ok plan ∧ relay = some plan) := by
  simp only [planSlot] at planned
  split at planned
  case isTrue same =>
    cases planned
    exact ⟨none, rfl, .inl ⟨same, rfl⟩⟩
  case isFalse other =>
    obtain ⟨relay, relayPlanned, planned⟩ := ok_of_bind planned
    cases planned
    rw [map_eq_pure_bind] at relayPlanned
    obtain ⟨plan, isPlan, made⟩ := ok_of_bind relayPlanned
    cases made
    exact ⟨some plan, rfl, .inr ⟨other, plan, isPlan, rfl⟩⟩

/-- A slot of a planned factory was planned for a binding that its provided member serves. -/
theorem Plans.slot {engine : EngineId} {onStatic : Bool} {shape source : TypeId} {factory : Factory}
    (plans : registry.Plans engine onStatic shape source factory) {slot : Slot}
    (member : slot ∈ factory.slots) :
    ∃ binding : Binding, registry.planSlot binding = .ok slot ∧
      binding.required.member.Serves (fun _ _ => True) onStatic binding.provided := by
  obtain ⟨blueprint, outcome, planned⟩ := plans
  obtain ⟨_, _, _, slots⟩ := synthesize_eq_ok planned
  obtain ⟨binding, isBound, gives⟩ := mem_of_mapM slots member
  refine ⟨binding, gives, ?_⟩
  have serves := Resolution.serves_of_blueprint outcome isBound
  exact serves.mono_on (fun _ _ => trivial) (fun _ _ => trivial) fun _ _ _ _ _ => trivial

theorem binding_of_methodSlot {binding : Binding} {slot : MethodSlot}
    (planned : registry.planSlot binding = .ok (.method slot)) :
    ∃ declaring required provided, binding = .method declaring required provided ∧
      slot.source = provided := by
  cases binding with
  | method declaring required provided =>
      obtain ⟨_, _, _, _, same⟩ := planSlot_method planned
      cases same
      exact ⟨declaring, required, provided, rfl, rfl⟩
  | property declaring required provided =>
      obtain ⟨_, _, _, _, _, _, other⟩ := planSlot_property planned
      cases other
  | event declaring required provided =>
      obtain ⟨_, other, _⟩ := planSlot_event planned
      cases other

theorem binding_of_propertySlot {binding : Binding} {slot : PropertySlot}
    (planned : registry.planSlot binding = .ok (.property slot)) :
    ∃ declaring required provided, binding = .property declaring required provided ∧
      slot.source = provided ∧ slot.readable = required.canRead ∧ slot.writable = required.canWrite := by
  cases binding with
  | method declaring required provided =>
      obtain ⟨_, _, _, _, other⟩ := planSlot_method planned
      cases other
  | property declaring required provided =>
      obtain ⟨_, _, _, _, _, _, same⟩ := planSlot_property planned
      cases same
      exact ⟨declaring, required, provided, rfl, rfl, rfl, rfl⟩
  | event declaring required provided =>
      obtain ⟨_, other, _⟩ := planSlot_event planned
      cases other

theorem binding_of_eventSlot {binding : Binding} {slot : EventSlot}
    (planned : registry.planSlot binding = .ok (.event slot)) :
    ∃ declaring required provided, binding = .event declaring required provided := by
  cases binding with
  | method declaring required provided =>
      obtain ⟨_, _, _, _, other⟩ := planSlot_method planned
      cases other
  | property declaring required provided =>
      obtain ⟨_, _, _, _, _, _, other⟩ := planSlot_property planned
      cases other
  | event declaring required provided => exact ⟨declaring, required, provided, rfl⟩

section Plans

variable {engine : EngineId} {onStatic : Bool} {shape source : TypeId} {factory : Factory}
  (plans : registry.Plans engine onStatic shape source factory)

include plans

theorem Plans.method {slot : MethodSlot} (member : slot ∈ factory.methods) :
    registry.PlansMethod slot := by
  obtain ⟨binding, gives, serves⟩ := plans.slot (Factory.mem_methods.1 member)
  obtain ⟨declaring, required, provided, rfl, _⟩ := binding_of_methodSlot gives
  obtain ⟨args, result, argsPlanned, resultPlanned, same⟩ := planSlot_method gives
  cases same
  exact ⟨serves.1.2.2.2.2, argsPlanned, resultPlanned⟩

theorem Plans.property {slot : PropertySlot} (member : slot ∈ factory.properties) :
    registry.PlansProperty slot := by
  obtain ⟨binding, gives, serves⟩ := plans.slot (Factory.mem_properties.1 member)
  obtain ⟨declaring, required, provided, rfl, _⟩ := binding_of_propertySlot gives
  obtain ⟨index, onGet, onSet, indexPlanned, getPlanned, setPlanned, same⟩ := planSlot_property gives
  cases same
  exact ⟨serves.2.2.2.2.1.symm, indexPlanned, getPlanned, setPlanned⟩

/-- A relayed event converts from the handler type of the source to that of the shape. -/
theorem Plans.event {slot : EventSlot} (member : slot ∈ factory.events) :
    (slot.handler = slot.sourceHandler ∧ slot.relay = none) ∨
      slot.handler ≠ slot.sourceHandler ∧ ∃ plan,
        registry.planRelay slot.handler slot.sourceHandler = .ok plan ∧ slot.relay = some plan := by
  obtain ⟨binding, gives, _⟩ := plans.slot (Factory.mem_events.1 member)
  obtain ⟨declaring, required, provided, rfl⟩ := binding_of_eventSlot gives
  obtain ⟨relay, same, relayed⟩ := planSlot_event gives
  cases same
  exact relayed

end Plans

end Registry

/-! ### What runs in place of the bound member -/

namespace Factory

variable {factory : Factory}

/-- What is found in place of a bound member is that member, or one that some type declares. -/
theorem getD_findSome?_cases {α : Type} (owners : List TypeId) (members : TypeId → List α)
    (overrides : α → Bool) (bound : α) :
    let chosen := (owners.findSome? fun owner => (members owner).find? overrides).getD bound
    chosen = bound ∨ ∃ owner ∈ owners, chosen ∈ members owner ∧ overrides chosen = true := by
  intro chosen
  cases found : owners.findSome? fun owner => (members owner).find? overrides with
  | none => exact .inl (congrArg (Option.getD · bound) found)
  | some candidate =>
      have isCandidate : chosen = candidate := congrArg (Option.getD · bound) found
      obtain ⟨owner, isOwner, finds⟩ := List.exists_of_findSome?_eq_some found
      rw [isCandidate]
      exact .inr ⟨owner, isOwner, List.mem_of_find?_eq_some finds, List.find?_some finds⟩

/-- The method that runs is the bound one, or one that a derived type declares in its place. -/
theorem dispatchMethod_cases (registry : Registry) (factory : Factory) (source : Value)
    (bound : Method) :
    factory.dispatchMethod registry source bound = bound ∨
      ∃ owner ∈ factory.derivedTypes registry source,
        factory.dispatchMethod registry source bound ∈ (registry.info owner).methods ∧
          overridesMethod bound (factory.dispatchMethod registry source bound) = true :=
  getD_findSome?_cases _ (fun owner => (registry.info owner).methods) (overridesMethod bound) bound

theorem dispatchProperty_cases (registry : Registry) (factory : Factory) (source : Value)
    (bound : Property) :
    factory.dispatchProperty registry source bound = bound ∨
      ∃ owner ∈ factory.derivedTypes registry source,
        factory.dispatchProperty registry source bound ∈ (registry.info owner).properties ∧
          overridesProperty bound (factory.dispatchProperty registry source bound) = true :=
  getD_findSome?_cases _ (fun owner => (registry.info owner).properties) (overridesProperty bound) bound

/-- A member that takes the place of another one declares the same types. -/
theorem types_dispatchMethod (registry : Registry) (factory : Factory) (source : Value)
    (bound : Method) :
    (factory.dispatchMethod registry source bound).params = bound.params ∧
      (factory.dispatchMethod registry source bound).result = bound.result := by
  rcases dispatchMethod_cases registry factory source bound with same | ⟨_, _, _, overrides⟩
  · rw [same]
    exact ⟨rfl, rfl⟩
  · simp only [overridesMethod, Bool.and_eq_true, decide_eq_true_eq] at overrides
    exact ⟨overrides.1.1.2, overrides.1.2⟩

theorem types_dispatchProperty (registry : Registry) (factory : Factory) (source : Value)
    (bound : Property) :
    (factory.dispatchProperty registry source bound).index = bound.index ∧
      (factory.dispatchProperty registry source bound).type = bound.type := by
  rcases dispatchProperty_cases registry factory source bound with same | ⟨_, _, _, overrides⟩
  · rw [same]
    exact ⟨rfl, rfl⟩
  · simp only [overridesProperty, Bool.and_eq_true, decide_eq_true_eq] at overrides
    exact ⟨overrides.2, overrides.1.2⟩

theorem mem_of_slotWithSignature? {name : String} {params : List TypeId} {slot : MethodSlot}
    (found : factory.slotWithSignature? name params = some slot) : slot ∈ factory.methods :=
  List.mem_of_find?_eq_some found

end Factory

namespace Adapter

variable {factory : Factory}

theorem mem_of_selectSlot {name : String} {args : List Value} {slot : MethodSlot}
    (selects : selectSlot registry factory name args = .ok slot) : slot ∈ factory.methods := by
  unfold selectSlot at selects
  dsimp only at selects
  split at selects
  case h_1 found fits =>
    cases selects
    exact (List.mem_filter.1 (List.mem_filter.1 (List.mem_of_find?_eq_some fits)).1).1
  case h_2 =>
    split at selects
    case isTrue => cases selects
    case isFalse =>
      split at selects
      case h_1 => cases selects
      case h_2 => cases selects

theorem mem_of_propertySlot? {name : String} {usable : PropertySlot → Bool} {slot : PropertySlot}
    (found : propertySlot? factory name usable = some slot) : slot ∈ factory.properties :=
  List.mem_of_find?_eq_some found

theorem mem_of_indexerSlot? {arity : Nat} {usable : PropertySlot → Bool} {slot : PropertySlot}
    (found : indexerSlot? factory arity usable = some slot) : slot ∈ factory.properties :=
  List.mem_of_find?_eq_some found

end Adapter
end StructuralCast
