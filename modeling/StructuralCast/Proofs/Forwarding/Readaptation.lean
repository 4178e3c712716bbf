import StructuralCast.Proofs.Cast.Readiness
import StructuralCast.Proofs.Cast.Sharing
import StructuralCast.Proofs.Forwarding.Frame
import StructuralCast.Proofs.Registry.Flattening

/-!
Contract: adapters over static adapters.

What presents the static members of a type as one shape can be cast on to another one. The new adapter is
bound to what the first shape declares. Where that has no bodies, the members of the type are reached
through the static adapter or not at all, and `Adapter.readapted` says which: a call goes on to the static
adapter, by the name and the parameter types of the bound method; properties are refused for want of a
body, and handlers because the source is no object.

By name and parameter types a call gets to the first slot that has them. `Registry.addressed?` is the
method of the first shape that this slot is for. It may be another overload than the bound one, one that
differs from it in result type or generic arity.
-/

namespace StructuralCast

open Step

variable {σ : Type} {registry : Registry} {shape type : TypeId}

/-! ### Shapes without bodies -/

/-- Nothing that a type or one of its ancestors offers has a body. -/
def Registry.Bodiless (registry : Registry) (type : TypeId) : Prop :=
  ∀ owner ∈ registry.chain type,
    (∀ method ∈ (Offer.of registry owner false).methods, method.body = none) ∧
      ∀ property ∈ (Offer.of registry owner false).properties,
        property.getter.bind Accessor.body = none ∧ property.setter.bind Accessor.body = none

instance (registry : Registry) (type : TypeId) : Decidable (registry.Bodiless type) := by
  unfold Registry.Bodiless
  infer_instance

/-- Why a property without a body cannot be read. -/
def Property.unreadable (property : Property) : CallError :=
  if property.canRead then .missingBody (property.name ++ ".get")
  else .unknownMember property.name "get"

/-- Why a property without a body cannot be assigned. -/
def Property.unwritable (property : Property) : CallError :=
  if property.canWrite then .missingBody (property.name ++ ".set")
  else .unknownMember property.name "set"

theorem Property.get_of_bodiless {property : Property} (host : Host σ) (receiver : Value)
    (index : List Value) (bodiless : property.getter.bind Accessor.body = none) :
    property.get host receiver index = throw property.unreadable := by
  unfold get unreadable canRead
  cases getter : property.getter with
  | none => rfl
  | some accessor =>
      rw [getter] at bodiless
      have missing : accessor.body = none := bodiless
      dsimp only
      rw [missing]
      rfl

theorem Property.set_of_bodiless {property : Property} (host : Host σ) (receiver : Value)
    (index : List Value) (assigned : Value)
    (bodiless : property.setter.bind Accessor.body = none) :
    property.set host receiver index assigned = throw property.unwritable := by
  unfold set unwritable canWrite
  cases setter : property.setter with
  | none => rfl
  | some accessor =>
      rw [setter] at bodiless
      have missing : accessor.body = none := bodiless
      dsimp only
      rw [missing]
      rfl

namespace Offer

theorem mem_owners_self (registry : Registry) (owner : TypeId) : owner ∈ owners registry owner false := by
  unfold owners
  rw [if_neg Bool.false_ne_true]
  split
  · exact List.mem_cons_self
  · exact Registry.mem_chain_self owner

theorem mem_methods_of_declared {owner : TypeId} {method : Method}
    (declared : method ∈ (registry.info owner).methods) (ofInstance : method.isStatic = false) :
    method ∈ (Offer.of registry owner false).methods := by
  refine List.mem_flatMap.2 ⟨_, List.mem_map_of_mem (mem_owners_self registry owner), ?_⟩
  exact List.mem_filter.2 ⟨declared, by simpa using ofInstance⟩

theorem mem_properties_of_declared {owner : TypeId} {property : Property}
    (declared : property ∈ (registry.info owner).properties) (ofInstance : property.isStatic = false) :
    property ∈ (Offer.of registry owner false).properties := by
  refine List.mem_flatMap.2 ⟨_, List.mem_map_of_mem (mem_owners_self registry owner), ?_⟩
  exact List.mem_filter.2 ⟨declared, by simpa using ofInstance⟩

end Offer

namespace Factory

variable {factory : Factory} {source : Value}

theorem mem_chain_of_derived (side : factory.isStatic = false) (typed : source.type? = some type)
    {owner : TypeId} (derived : owner ∈ factory.derivedTypes registry source) :
    owner ∈ registry.chain type := by
  rw [derivedTypes_eq side typed] at derived
  exact (List.takeWhile_sublist _).subset derived

/-- What runs in place of a method without a body has none, either. -/
theorem body_dispatchMethod (bodiless : registry.Bodiless type) (side : factory.isStatic = false)
    (typed : source.type? = some type) (above : factory.source ∈ registry.chain type) {bound : Method}
    (offered : bound ∈ (Offer.of registry factory.source false).methods) :
    (factory.dispatchMethod registry source bound).body = none := by
  rcases dispatchMethod_cases registry factory source bound with
    same | ⟨owner, derived, declared, overrides⟩
  · rw [same]
    exact (bodiless _ above).1 bound offered
  · simp only [overridesMethod, Bool.and_eq_true, Bool.not_eq_true'] at overrides
    exact (bodiless owner (mem_chain_of_derived side typed derived)).1 _
      (Offer.mem_methods_of_declared declared overrides.1.1.1.1.2)

theorem bodies_dispatchProperty (bodiless : registry.Bodiless type) (side : factory.isStatic = false)
    (typed : source.type? = some type) (above : factory.source ∈ registry.chain type)
    {bound : Property} (offered : bound ∈ (Offer.of registry factory.source false).properties) :
    (factory.dispatchProperty registry source bound).getter.bind Accessor.body = none ∧
      (factory.dispatchProperty registry source bound).setter.bind Accessor.body = none := by
  rcases dispatchProperty_cases registry factory source bound with
    same | ⟨owner, derived, declared, overrides⟩
  · rw [same]
    exact (bodiless _ above).2 bound offered
  · simp only [overridesProperty, Bool.and_eq_true, Bool.not_eq_true'] at overrides
    exact (bodiless owner (mem_chain_of_derived side typed derived)).2 _
      (Offer.mem_properties_of_declared declared overrides.1.1.1)

end Factory

/-! ### Methods of a shape and their slots -/

def Member.method? : Member → Option Method
  | .method m => some m
  | _ => none

/-- The methods that a shape asks for, in order. -/
def Registry.shapeMethods (registry : Registry) (shape : TypeId) : List Method :=
  ((registry.shapeMembers shape).toOption.getD []).filterMap (·.member.method?)

/-- The method of a shape that is called by a name and parameter types. -/
def Registry.addressed? (registry : Registry) (shape : TypeId) (name : String)
    (params : List TypeId) : Option Method :=
  (registry.shapeMethods shape).find? fun method => method.name = name && method.params = params

/-- A slot for a method of just this signature. -/
structure MethodSlot.Implements (slot : MethodSlot) (wanted : Method) : Prop where
  name : slot.name = wanted.name
  params : slot.params = wanted.params
  result : slot.result = wanted.result
  arity : slot.source.genericArity = wanted.genericArity

theorem Registry.Plans.flattens {engine : EngineId} {onStatic : Bool} {source : TypeId}
    {factory : Factory} (plans : registry.Plans engine onStatic shape source factory) :
    ∃ members, registry.shapeMembers shape = .ok members := by
  obtain ⟨_, outcome, _⟩ := plans
  obtain ⟨members, _, flattens, _⟩ := Resolution.bindings_of_blueprint outcome
  exact ⟨members, flattens⟩

/-- A factory has slots for just the methods of its shape, in order. -/
theorem Registry.Plans.implements {engine : EngineId} {onStatic : Bool} {source : TypeId}
    {factory : Factory} (plans : registry.Plans engine onStatic shape source factory) :
    List.Forall₂ MethodSlot.Implements factory.methods (registry.shapeMethods shape) := by
  obtain ⟨blueprint, outcome, planned⟩ := plans
  obtain ⟨_, _, _, slotsPlanned⟩ := synthesize_eq_ok planned
  obtain ⟨members, bindings, flattens, outcomeOfMembers, rfl⟩ :=
    Resolution.bindings_of_blueprint outcome
  have inStep := forall₂_comp (Resolution.bound_of_bindAll outcomeOfMembers)
    (forall₂_of_mapM slotsPlanned)
  rw [shapeMethods, flattens]
  refine List.rel_filterMap ?_ inStep.flip
  rintro slot required ⟨binding, bound, planned⟩
  obtain ⟨rfl, _, serves⟩ := Resolution.serves_of_bind? bound
  cases binding with
  | method declaring wanted provided =>
      obtain ⟨args, result, _, _, rfl⟩ := planSlot_method planned
      obtain ⟨⟨_, _, _, arity, _⟩, _⟩ := serves
      show Option.Rel _ (some _) (some wanted)
      exact .some ⟨rfl, rfl, rfl, arity⟩
  | property declaring wanted provided =>
      obtain ⟨_, _, _, _, _, _, rfl⟩ := planSlot_property planned
      show Option.Rel _ none none
      exact .none
  | event declaring wanted provided =>
      obtain ⟨_, rfl, _⟩ := planSlot_event planned
      show Option.Rel _ none none
      exact .none

/-- Whatever an interface without a base offers, its shape asks for a method of that signature. -/
theorem Registry.exists_shapeMethod (closed : registry.Closed) (issued : registry.issued shape = true)
    (rootless : registry.base? shape = none) {members : List ShapeMember}
    (flattens : registry.shapeMembers shape = .ok members) {offered : Method}
    (isOffered : offered ∈ (Offer.of registry shape false).methods) :
    ∃ kept ∈ registry.shapeMethods shape, kept.name = offered.name ∧ kept.params = offered.params ∧
      kept.result = offered.result ∧ kept.genericArity = offered.genericArity := by
  have offeredMember : Member.method offered ∈ (Offer.of registry shape false).members := by
    simp [Offer.members, isOffered]
  obtain ⟨owner, isOwner, declared, _⟩ := mem_offer_iff.1 offeredMember
  have reaches : registry.Extends shape owner := by
    unfold Offer.owners at isOwner
    rw [if_neg Bool.false_ne_true] at isOwner
    split at isOwner
    case isTrue =>
      rcases List.mem_cons.1 isOwner with rfl | further
      · exact .refl
      · exact extends_of_mem_interfaces closed rootless further
    case isFalse =>
      rw [chain_of_no_base rootless, List.mem_singleton] at isOwner
      exact isOwner ▸ .refl
  have isDeclared : ShapeMember.mk owner (.method offered) ∈ registry.declarations shape :=
    List.mem_flatMap.2 ⟨owner, (mem_shapeTypes_iff closed).2 ⟨issued, reaches⟩,
      List.mem_map_of_mem declared⟩
  obtain ⟨kept, isKept, found⟩ := exists_kept closed .refl flattens isDeclared
  have alike : kept.member.Matches (.method offered) := matches_of_kept? found
  obtain ⟨declaring, member⟩ := kept
  cases alike with
  | @method own _ name params result _ arity =>
      refine ⟨own, ?_, name, params, result, arity⟩
      rw [shapeMethods, flattens]
      exact List.mem_filterMap.2 ⟨_, isKept, rfl⟩

/-! ### Adapters in two layers -/

/-- An accessor that is asked for is there. -/
theorem Resolution.isSome_of_covers {required candidate : Option Accessor}
    (covered : covers required candidate = true) (asked : required.isSome = true) :
    candidate.isSome = true := by
  cases required with
  | none => cases asked
  | some =>
      cases candidate with
      | none => cases covered
      | some => rfl

section Offered

variable {answer : TypeId → TypeId → Bool} {engine : EngineId} {source : TypeId} {factory : Factory}

/-- A method slot is bound to a method that is offered. -/
theorem Registry.PlansBy.offered_method {slot : MethodSlot}
    (plans : registry.PlansBy answer engine shape source factory) (member : slot ∈ factory.methods) :
    slot.source ∈ (Offer.of registry source false).methods := by
  obtain ⟨wanted, binds⟩ := plans.method member
  exact List.mem_of_find?_eq_some binds.first

/-- A property slot is bound to a property that is offered, with the accessors that the slot needs. -/
theorem Registry.PlansBy.offered_property {slot : PropertySlot}
    (plans : registry.PlansBy answer engine shape source factory)
    (member : slot ∈ factory.properties) :
    slot.source ∈ (Offer.of registry source false).properties ∧
      (slot.readable = true → slot.source.canRead = true) ∧
      (slot.writable = true → slot.source.canWrite = true) := by
  obtain ⟨wanted, binds⟩ := plans.property member
  have stands := List.find?_some binds.first
  simp only [Resolution.standsFor, Bool.and_eq_true] at stands
  refine ⟨List.mem_of_find?_eq_some binds.first, fun readable => ?_, fun writable => ?_⟩
  · exact Resolution.isSome_of_covers stands.1.2 (binds.readable.symm.trans readable)
  · exact Resolution.isSome_of_covers stands.2 (binds.writable.symm.trans writable)

end Offered

namespace Adapter

/-- An engine over a registry has presented the static members of a type as a shape. -/
def PresentedBy (registry : Registry) (id : EngineId) (shape type : TypeId) (presenter : Value) : Prop :=
  ∃ (σ : Type) (world after : World σ), world.Tending registry id ∧
    (Cast.staticCast id shape type).run world = (.ok presenter, after)

/-- An adapter over the static adapter of a shape. -/
structure Stacked (registry : Registry) (shape : TypeId) (inner outer : Adapter) : Prop where
  wraps : outer.source = .adapter inner.ref inner.factory inner.source inner.relays
  shaped : inner.factory.shape = shape
  issued : registry.issued shape = true
  flattens : ∃ members, registry.shapeMembers shape = .ok members
  implements : List.Forall₂ MethodSlot.Implements inner.factory.methods (registry.shapeMethods shape)
  side : outer.factory.isStatic = false
  above : outer.factory.source ∈ registry.chain shape
  methods : ∀ slot ∈ outer.factory.methods,
    slot.source ∈ (Offer.of registry outer.factory.source false).methods
  properties : ∀ slot ∈ outer.factory.properties,
    slot.source ∈ (Offer.of registry outer.factory.source false).properties ∧
      (slot.readable = true → slot.source.canRead = true) ∧
      (slot.writable = true → slot.source.canWrite = true)
  relays : outer.relays = outer.factory.events.map fun _ => none

section Making

variable {id id' : EngineId} {target : TypeId} {presenter : Value} {inner outer : Adapter} {widens : Bool}

/-- What presents static members is a static adapter that was planned for the shape. -/
theorem planned_of_presented (presents : PresentedBy registry id shape type presenter)
    (isInner : inner ∈ presenter.adapter?) :
    presenter = .adapter inner.ref inner.factory inner.source inner.relays ∧
      registry.issued shape = true ∧ registry.Plans id true shape type inner.factory := by
  obtain ⟨_, world, after, tending, presented⟩ := presents
  obtain rfl := tending.sameRegistry
  obtain ⟨ref, factory, relays, rfl, plans⟩ :=
    Cast.adapter_of_staticCast tending.tended.planned presented
  cases isInner
  exact ⟨rfl, (Bool.and_eq_true_iff.1 (Cast.known_of_staticCast presented).1).1, plans⟩

/-- A cast of what a static cast has made either hands it back or puts another adapter over it. -/
theorem stacked_of_made (presents : PresentedBy registry id shape type presenter)
    (isInner : inner ∈ presenter.adapter?) (makes : MadeBy registry id' widens target presenter outer)
    (isNew : outer ≠ inner) : Stacked registry shape inner outer := by
  obtain ⟨rfl, issued, plans⟩ := planned_of_presented presents isInner
  obtain ⟨_, shaped, _, isStatic⟩ := plans.subject
  have whole : (Value.adapter inner.ref inner.factory inner.source inner.relays).unadapt =
      .adapter inner.ref inner.factory inner.source inner.relays := by
    rw [Value.unadapt, if_pos isStatic]
  have typed : (Value.adapter inner.ref inner.factory inner.source inner.relays).unadapt.type? =
      some shape := by
    rw [whole]
    exact congrArg some shaped
  obtain ⟨_, world, after, made, tending, _, casts, isOuter⟩ := makes
  have different : made ≠
      (Value.adapter inner.ref inner.factory inner.source inner.relays).unadapt := by
    rintro rfl
    rw [whole] at isOuter
    exact isNew (Option.some.inj isOuter).symm
  obtain ⟨wraps, ⟨between, _, adapts⟩, owner, isCandidate, answer, plansOuter⟩ :=
    Cast.adapted_of_cast tending typed different casts isOuter
  obtain ⟨_, _, rfl, side⟩ := plansOuter.plans.subject
  rw [whole] at adapts wraps
  obtain ⟨_, ref, rfl⟩ := Cast.direct_of_adapt side rfl adapts
  have relays : outer.relays = outer.factory.events.map fun _ => none :=
    congrArg Adapter.relays (Option.some.inj isOuter).symm
  exact ⟨wraps, shaped, issued, plans.flattens, plans.implements, side,
    Engine.mem_chain_of_mem_candidates isCandidate, fun slot => plansOuter.offered_method,
    fun slot => plansOuter.offered_property, relays⟩

end Making

/-! ### What becomes of a use -/

/-- What becomes of the uses of an adapter over a static adapter. `calls`, `reads`, `writes`, `subscribes`
and `unsubscribes` put, inside the checks and conversions of the outer adapter, what is done on the inner
one: calls by name and parameter types, and nothing else. Over an interface without a base, `reached` tells
which slot such a call gets to, and `bodiless` why a property is refused. -/
structure Readaptation (σ : Type) (registry : Registry) (shape : TypeId) (inner outer : Adapter) :
    Prop where
  wraps : outer.source = .adapter inner.ref inner.factory inner.source inner.relays
  calls : ∀ (host : Host σ) (world : World σ) (use : Use) (slot : MethodSlot),
    world.registry = registry → use.slot? registry outer = some (.method slot) →
      (use.run host outer).run world =
        (Action.holding outer.factory.engine (outer.factory.calling slot use.args
          (inner.callSignature host
            (outer.factory.dispatchMethod registry outer.source slot.source).name
            (outer.factory.dispatchMethod registry outer.source slot.source).params))).run world
  reached : registry.base? shape = none → ∀ slot ∈ outer.factory.methods,
    outer.factory.dispatchMethod registry outer.source slot.source = slot.source ∧
      (∃ own ∈ inner.factory.methods, own.Implements slot.source) ∧
      ∃ wanted index reached,
        registry.addressed? shape slot.source.name slot.source.params = some wanted ∧
          inner.factory.methods[index]? = some reached ∧ reached.Implements wanted ∧
          (∀ (host : Host σ) (converted : List Value),
            inner.callSignature host slot.source.name slot.source.params converted =
              inner.callSlot host index converted) ∧
          (reached.Implements slot.source ↔
            wanted.result = slot.source.result ∧ wanted.genericArity = slot.source.genericArity)
  reads : ∀ (host : Host σ) (world : World σ) (use : Use) (slot : PropertySlot),
    world.registry = registry → use.slot? registry outer = some (.property slot) →
      use.assigned? = none →
        (use.run host outer).run world =
          (Action.holding outer.factory.engine (outer.factory.reading slot use.args fun _ =>
            throw (outer.factory.dispatchProperty registry outer.source slot.source).unreadable)).run world
  writes : ∀ (host : Host σ) (world : World σ) (use : Use) (slot : PropertySlot) (assigned : Value),
    world.registry = registry → use.slot? registry outer = some (.property slot) →
      use.assigned? = some assigned →
        (use.run host outer).run world =
          (do
            Action.holding outer.factory.engine
              (outer.factory.writing slot use.args assigned fun _ _ =>
                throw (outer.factory.dispatchProperty registry outer.source slot.source).unwritable)
            return .null : Action σ CallError Value).run world
  bodiless : registry.base? shape = none → ∀ slot ∈ outer.factory.properties,
    outer.factory.dispatchProperty registry outer.source slot.source = slot.source ∧
      (slot.readable = true →
        slot.source.unreadable = .missingBody (slot.source.name ++ ".get")) ∧
      (slot.writable = true →
        slot.source.unwritable = .missingBody (slot.source.name ++ ".set"))
  subscribes : ∀ (world : World σ) (name : String) (value : Value), world.registry = registry →
    (outer.subscribe name value).run world =
      (outer.handling name value () fun _ slot _ _ =>
        throw (.unknownMember (registry.name shape) slot.sourceEvent)).run world
  unsubscribes : ∀ (world : World σ) (name : String) (value : Value), world.registry = registry →
    (outer.unsubscribe name value).run world =
      (outer.handling name value false fun _ slot _ _ =>
        throw (.unknownMember (registry.name shape) slot.sourceEvent)).run world

namespace Stacked

variable {inner outer : Adapter} {host : Host σ} {world : World σ} {use : Use}

theorem typed (stacked : Stacked registry shape inner outer) : outer.source.type? = some shape := by
  rw [stacked.wraps]
  exact congrArg some stacked.shaped

/-- Over an interface without a base, the outer adapter is made for the shape itself. -/
theorem exactly (stacked : Stacked registry shape inner outer) (rootless : registry.base? shape = none) :
    outer.factory.source = shape := by
  have above := stacked.above
  rwa [Registry.chain_of_no_base rootless, List.mem_singleton] at above

theorem calls (stacked : Stacked registry shape inner outer) (bodiless : registry.Bodiless shape)
    {slot : MethodSlot} (sameTypes : world.registry = registry)
    (selects : use.slot? registry outer = some (.method slot)) :
    (use.run host outer).run world =
      (Action.holding outer.factory.engine (outer.factory.calling slot use.args
        (inner.callSignature host
          (outer.factory.dispatchMethod registry outer.source slot.source).name
          (outer.factory.dispatchMethod registry outer.source slot.source).params))).run world := by
  subst sameTypes
  have missing := Factory.body_dispatchMethod bodiless stacked.side stacked.typed stacked.above
    (stacked.methods slot (Use.mem_methods_of_slot? selects))
  rw [Use.run_of_method selects]
  refine Action.holding_congr ?_
  rw [stacked.wraps] at missing ⊢
  exact Factory.run_forward_adapter rfl missing

/-- A call by name and parameter types gets to a slot for the method of the shape that these address. -/
theorem reached (stacked : Stacked registry shape inner outer) (closed : registry.Closed)
    (rootless : registry.base? shape = none) {slot : MethodSlot} (isSlot : slot ∈ outer.factory.methods) :
    (∃ own ∈ inner.factory.methods, own.Implements slot.source) ∧
      ∃ wanted index reached,
        registry.addressed? shape slot.source.name slot.source.params = some wanted ∧
          inner.factory.methods[index]? = some reached ∧ reached.Implements wanted ∧
          (∀ (host : Host σ) (converted : List Value),
            inner.callSignature host slot.source.name slot.source.params converted =
              inner.callSlot host index converted) ∧
          (reached.Implements slot.source ↔
            wanted.result = slot.source.result ∧ wanted.genericArity = slot.source.genericArity) := by
  obtain ⟨members, flattens⟩ := stacked.flattens
  have offered := stacked.methods slot isSlot
  rw [stacked.exactly rootless] at offered
  obtain ⟨kept, isKept, name, params, result, arity⟩ :=
    Registry.exists_shapeMethod closed stacked.issued rootless flattens offered
  obtain ⟨own, isOwn, implements⟩ := exists_of_mem_right stacked.implements isKept
  have ownImplements : own.Implements slot.source :=
    ⟨implements.name.trans name, implements.params.trans params, implements.result.trans result,
      implements.arity.trans arity⟩
  refine ⟨⟨own, isOwn, ownImplements⟩, ?_⟩
  have selects := rel_find?
    (fun slot' : MethodSlot => slot'.name = slot.source.name && slot'.params = slot.source.params)
    (fun method : Method => method.name = slot.source.name && method.params = slot.source.params)
    (fun slot' method implements => by rw [implements.name, implements.params]) stacked.implements
  rcases cases_of_rel selects with ⟨missing, _⟩ | ⟨reached, wanted, found, addressed, reaches⟩
  · have fits : (own.name = slot.source.name && own.params = slot.source.params) = true := by
      simp [ownImplements.name, ownImplements.params]
    exact absurd fits (List.find?_eq_none.1 missing own isOwn)
  · obtain ⟨index, atIndex⟩ := List.mem_iff_getElem?.1 (List.mem_of_find?_eq_some found)
    refine ⟨wanted, index, reached, addressed, atIndex, reaches, fun host converted => ?_, ?_⟩
    · have bySignature : inner.factory.slotWithSignature? slot.source.name slot.source.params =
          some reached := found
      simp only [callSignature, Factory.callSignatureVia, callSlot, bySignature, atIndex]
    · have signature := List.find?_some addressed
      simp only [Bool.and_eq_true, decide_eq_true_eq] at signature
      constructor
      · intro implements
        exact ⟨reaches.result.symm.trans implements.result, reaches.arity.symm.trans implements.arity⟩
      · rintro ⟨sameResult, sameArity⟩
        exact ⟨reaches.name.trans signature.1, reaches.params.trans signature.2,
          reaches.result.trans sameResult, reaches.arity.trans sameArity⟩

/-- What is used in place of a bound property has no bodies. -/
theorem missing (stacked : Stacked registry shape inner outer) (bodiless : registry.Bodiless shape)
    {slot : PropertySlot} (selects : use.slot? registry outer = some (.property slot)) :
    (outer.factory.dispatchProperty registry outer.source slot.source).getter.bind Accessor.body = none ∧
      (outer.factory.dispatchProperty registry outer.source slot.source).setter.bind Accessor.body =
        none :=
  Factory.bodies_dispatchProperty bodiless stacked.side stacked.typed stacked.above
    (stacked.properties slot (Use.mem_properties_of_slot? selects)).1

theorem reads (stacked : Stacked registry shape inner outer) (bodiless : registry.Bodiless shape)
    {slot : PropertySlot} (sameTypes : world.registry = registry)
    (selects : use.slot? registry outer = some (.property slot)) (assigns : use.assigned? = none) :
    (use.run host outer).run world =
      (Action.holding outer.factory.engine (outer.factory.reading slot use.args fun _ =>
        throw (outer.factory.dispatchProperty registry outer.source slot.source).unreadable)).run
        world := by
  subst sameTypes
  have missing := (stacked.missing bodiless selects).1
  rw [Use.run_of_property selects, assigns]
  dsimp only
  rw [run_read]
  simp only [Property.get_of_bodiless host outer.source _ missing]

theorem writes (stacked : Stacked registry shape inner outer) (bodiless : registry.Bodiless shape)
    {slot : PropertySlot} {assigned : Value} (sameTypes : world.registry = registry)
    (selects : use.slot? registry outer = some (.property slot))
    (assigns : use.assigned? = some assigned) :
    (use.run host outer).run world =
      (do
        Action.holding outer.factory.engine
          (outer.factory.writing slot use.args assigned fun _ _ =>
            throw (outer.factory.dispatchProperty registry outer.source slot.source).unwritable)
        return .null : Action σ CallError Value).run world := by
  subst sameTypes
  have missing := (stacked.missing bodiless selects).2
  rw [Use.run_of_property selects, assigns]
  dsimp only
  rw [run_bind, run_bind, run_write]
  simp only [Property.set_of_bodiless host outer.source _ _ missing]

/-- An event of an adapter over a static one has no list, and its source has no events. -/
theorem unwatched (stacked : Stacked registry shape inner outer) {name : String} {slot : EventSlot}
    {list : Option RelayId} (named : outer.event? name = .ok (slot, list)) (event : String) :
    list = none ∧ Cast.eventKey registry outer.factory outer.source event =
      .error (.unknownMember (registry.name shape) event) := by
  refine ⟨?_, ?_⟩
  · unfold Adapter.event? at named
    split at named
    case h_1 found isFound =>
      cases named
      have member := List.mem_of_find?_eq_some isFound
      rw [eventLists, stacked.relays] at member
      obtain ⟨_, _, rfl⟩ := List.mem_map.1 (List.of_mem_zip member).2
      rfl
    case h_2 => cases named
  · have unkeyed : Cast.eventKey registry outer.factory outer.source event =
        .error (.unknownMember (registry.typeName outer.source) event) := by
      rw [stacked.wraps]
      exact if_neg (by simp [stacked.side])
    rw [unkeyed, Registry.typeName, stacked.typed]

theorem subscribes (stacked : Stacked registry shape inner outer) (sameTypes : world.registry = registry)
    (name : String) (value : Value) :
    (outer.subscribe name value).run world =
      (outer.handling name value () fun _ slot _ _ =>
        throw (.unknownMember (registry.name shape) slot.sourceEvent)).run world := by
  subst sameTypes
  rw [subscribe_eq]
  refine handling_congr fun slot list c between named _ => ?_
  obtain ⟨rfl, unkeyed⟩ := stacked.unwatched named slot.sourceEvent
  rw [run_subscribeAt_event, unkeyed]
  rfl

theorem unsubscribes (stacked : Stacked registry shape inner outer)
    (sameTypes : world.registry = registry) (name : String) (value : Value) :
    (outer.unsubscribe name value).run world =
      (outer.handling name value false fun _ slot _ _ =>
        throw (.unknownMember (registry.name shape) slot.sourceEvent)).run world := by
  subst sameTypes
  rw [unsubscribe_eq]
  refine handling_congr fun slot list c between named _ => ?_
  obtain ⟨rfl, unkeyed⟩ := stacked.unwatched named slot.sourceEvent
  rw [run_unsubscribeAt_event, unkeyed]
  rfl

end Stacked

/-- How the members of a type are used through an adapter over its static adapter: a call goes on to the
static adapter, though maybe to another overload, and properties and handlers are refused, after the checks
and conversions that the outer adapter makes. -/
theorem readapted (grown : registry.Grown) {id id' : EngineId} {widens : Bool} {target : TypeId}
    {presenter : Value} {inner outer : Adapter}
    (presents : PresentedBy registry id shape type presenter) (isInner : inner ∈ presenter.adapter?)
    (makes : MadeBy registry id' widens target presenter outer) (isNew : outer ≠ inner)
    (bodiless : registry.Bodiless shape) : Readaptation σ registry shape inner outer := by
  have stacked : Stacked registry shape inner outer := stacked_of_made presents isInner makes isNew
  refine ⟨stacked.wraps, ?_, ?_, ?_, ?_, ?_, ?_, ?_⟩
  · exact fun host world use slot sameTypes selects => stacked.calls bodiless sameTypes selects
  · intro rootless slot isSlot
    have typed := stacked.typed
    rw [← stacked.exactly rootless] at typed
    exact ⟨Factory.dispatchMethod_self _ typed _, stacked.reached grown.closed rootless isSlot⟩
  · exact fun host world use slot sameTypes selects => stacked.reads bodiless sameTypes selects
  · exact fun host world use slot assigned sameTypes selects =>
      stacked.writes bodiless sameTypes selects
  · intro rootless slot isSlot
    have typed := stacked.typed
    rw [← stacked.exactly rootless] at typed
    obtain ⟨_, readable, writable⟩ := stacked.properties slot isSlot
    exact ⟨Factory.dispatchProperty_self _ typed _, fun isReadable => if_pos (readable isReadable),
      fun isWritable => if_pos (writable isWritable)⟩
  · exact fun world name value sameTypes => stacked.subscribes sameTypes name value
  · exact fun world name value sameTypes => stacked.unsubscribes sameTypes name value

end Adapter

/-! ### A gauge -/

namespace Gauge

/-- Interface 16 has a level and two methods that differ in their results only, shape 17 asks for the
level and for the second method, and class 18 has all of these as static members. -/
def types : Registry :=
  let read (result : TypeId) (onStatic : Bool) (body : Option RoutineId) : Method :=
    ⟨"Read", [], result, onStatic, 0, .visible, body⟩
  let level (onStatic : Bool) (body : Option RoutineId) : Property :=
    ⟨"Level", .int, [], some ⟨.visible, body⟩, none, onStatic⟩
  let source := (Registry.initial.register (.named "Source") .interface
    { Definition.empty with
      methods := [read .int false none, read .text false none]
      properties := [level false none] }).1
  let target := (source.register (.named "Target") .interface
    { Definition.empty with
      methods := [read .text false none]
      properties := [level false none] }).1
  (target.register (.named "Tool") .classType
    { Definition.empty with
      methods := [read .int true (some ⟨0⟩), read .text true (some ⟨1⟩)]
      properties := [level true (some ⟨2⟩)] }).1

theorem types_grown : types.Grown :=
  ((Registry.Grown.initial.register _ _ _).register _ _ _).register _ _ _

/-- A world whose only engine has an owner and has not been used. -/
def watched : World Unit := (Cast.newcomer types).retain ⟨0⟩

/-- A host whose routines all give a number. -/
def pointer : Host Unit := fun _ => pure (.int 1)

/-- The static members of the class, presented as interface 16. -/
def presenter : Value :=
  ((Cast.staticCast ⟨0⟩ ⟨16⟩ ⟨18⟩).run (Cast.newcomer types)).1.toOption.getD .null

/-- The same, cast on to shape 17. -/
def readapter : Value :=
  ((Cast.cast ⟨0⟩ ⟨17⟩ presenter).run (Cast.newcomer types)).1.toOption.getD .null

theorem newcomer_tending : (Cast.newcomer types).Tending types ⟨0⟩ :=
  ⟨rfl, Cast.newcomer_tended types⟩

theorem types_checked :
    ((Cast.staticCast ⟨0⟩ ⟨16⟩ ⟨18⟩).run (Cast.newcomer types)).1.toOption.isSome = true ∧
      ((Cast.cast ⟨0⟩ ⟨17⟩ presenter).run (Cast.newcomer types)).1.toOption.isSome = true ∧
      types.Bodiless ⟨16⟩ := by
  decide +kernel

theorem presenter_presented : Adapter.PresentedBy types ⟨0⟩ ⟨16⟩ ⟨18⟩ presenter := by
  obtain ⟨made, found⟩ := Option.isSome_iff_exists.1 types_checked.1
  have isMade : presenter = made := by rw [presenter, found, Option.getD_some]
  exact ⟨Unit, _, _, newcomer_tending, Prod.ext (isMade ▸ ok_of_toOption found) rfl⟩

theorem readapter_made {outer : Adapter} (isOuter : outer ∈ readapter.adapter?) :
    Adapter.MadeBy types ⟨0⟩ true ⟨17⟩ presenter outer := by
  obtain ⟨made, found⟩ := Option.isSome_iff_exists.1 types_checked.2.1
  have isMade : readapter = made := by rw [readapter, found, Option.getD_some]
  exact ⟨Unit, _, _, made, newcomer_tending, rfl, Prod.ext (ok_of_toOption found) rfl,
    isMade ▸ isOuter⟩

/-- The two layers are adapters for different shapes. -/
theorem layers_differ {inner outer : Adapter}
    (shapes : (inner.factory.shape, outer.factory.shape) = ((⟨16⟩ : TypeId), (⟨17⟩ : TypeId))) :
    outer ≠ inner := by
  rintro rfl
  obtain ⟨one, other⟩ := Prod.mk.inj shapes
  exact absurd (one.symm.trans other) (by decide)

/-- Shape 17 is used through two layers. -/
theorem used_through_layers : ∃ inner outer level method,
    Adapter.Readaptation Unit types ⟨16⟩ inner outer ∧
      (Adapter.Use.get "Level").slot? types outer = some (.property level) ∧
      (Adapter.Use.call "Read" []).slot? types outer = some (.method method) := by
  have facts : (presenter.adapter?.bind fun inner => readapter.adapter?.bind fun outer =>
      (Adapter.propertySlot? outer.factory "Level" PropertySlot.readable).bind fun _ =>
        (Adapter.selectSlot types outer.factory "Read" []).toOption.map fun _ =>
          (inner.factory.shape, outer.factory.shape)) = some (⟨16⟩, ⟨17⟩) := by
    decide +kernel
  obtain ⟨inner, isInner, facts⟩ := Option.bind_eq_some_iff.1 facts
  obtain ⟨outer, isOuter, facts⟩ := Option.bind_eq_some_iff.1 facts
  obtain ⟨level, isLevel, facts⟩ := Option.bind_eq_some_iff.1 facts
  obtain ⟨method, isMethod, shapes⟩ := Option.map_eq_some_iff.1 facts
  refine ⟨inner, outer, level, method, ?_, congrArg (Option.map Slot.property) isLevel,
    congrArg (Option.map Slot.method) isMethod⟩
  exact Adapter.readapted types_grown presenter_presented isInner (readapter_made isOuter)
    (layers_differ shapes) types_checked.2.2

/-- The level is not read through two layers, though it could be through the inner one. -/
theorem level_not_passed_on :
    ¬ ∀ (registry : Registry) (id id' : EngineId) (widens : Bool) (shape type target : TypeId)
      (presenter : Value) (inner outer : Adapter) (host : Host Unit) (world : World Unit)
      (use : Adapter.Use) (slot own : PropertySlot), registry.Grown →
        Adapter.PresentedBy registry id shape type presenter → inner ∈ presenter.adapter? →
          Adapter.MadeBy registry id' widens target presenter outer → outer ≠ inner →
            registry.Bodiless shape → world.registry = registry →
              use.slot? registry outer = some (.property slot) → use.assigned? = none →
                own ∈ inner.factory.properties → own.name = slot.source.name →
                  own.type = slot.source.type → own.index = slot.source.index → own.readable = true →
                    (use.run host outer).run world =
                      (Action.holding outer.factory.engine
                        (outer.factory.reading slot use.args (inner.read host own))).run world := by
  intro claimed
  have facts : (presenter.adapter?.bind fun inner => readapter.adapter?.bind fun outer =>
      (Adapter.propertySlot? outer.factory "Level" PropertySlot.readable).bind fun slot =>
        (Adapter.propertySlot? inner.factory "Level" PropertySlot.readable).map fun own =>
          ((inner.factory.shape, outer.factory.shape),
            decide ((own.name, own.type, own.index) =
              (slot.source.name, slot.source.type, slot.source.index)),
            (((Adapter.Use.get "Level").run pointer outer).run watched).1.isOk,
            ((Action.holding outer.factory.engine
              (outer.factory.reading slot [] (inner.read pointer own))).run watched).1.isOk)) =
      some (((⟨16⟩ : TypeId), (⟨17⟩ : TypeId)), true, false, true) := by
    decide +kernel
  obtain ⟨inner, isInner, facts⟩ := Option.bind_eq_some_iff.1 facts
  obtain ⟨outer, isOuter, facts⟩ := Option.bind_eq_some_iff.1 facts
  obtain ⟨slot, isSlot, facts⟩ := Option.bind_eq_some_iff.1 facts
  obtain ⟨own, isOwn, facts⟩ := Option.map_eq_some_iff.1 facts
  obtain ⟨shapes, facts⟩ := Prod.mk.inj facts
  obtain ⟨alike, facts⟩ := Prod.mk.inj facts
  obtain ⟨fails, succeeds⟩ := Prod.mk.inj facts
  obtain ⟨name, rest⟩ := Prod.mk.inj (of_decide_eq_true alike)
  obtain ⟨type, index⟩ := Prod.mk.inj rest
  have usable := List.find?_some isOwn
  simp only [Bool.and_eq_true] at usable
  have same := claimed types ⟨0⟩ ⟨0⟩ true ⟨16⟩ ⟨18⟩ ⟨17⟩ presenter inner outer pointer watched
    (.get "Level") slot own types_grown presenter_presented isInner (readapter_made isOuter)
    (layers_differ shapes) types_checked.2.2 rfl (congrArg (Option.map Slot.property) isSlot) rfl
    (Adapter.mem_of_propertySlot? isOwn) name type index usable.2
  rw [same, Adapter.Use.args, succeeds] at fails
  cases fails

end Gauge
end StructuralCast
