import StructuralCast.Proofs.Forwarding.Typing

/-!
Contract: which member runs for a use of an adapter, and whether it is a public one.

`Adapter.Use.performance?` names the member that a use ends at and what it is run on, through adapters
over adapters. A use runs the body of that member, once, or nothing (`performs_use`). The member is on
the side that the adapter presents, and it is public: methods always are, and so is a property unless a
derived type declares it anew and without a public accessor for the use (`Adapter.Use.Veiled`).

Accessors are looked at when a factory is planned, and not again when the property of a derived type
takes the place of the bound one. Methods are looked at both times.
-/

namespace StructuralCast

open Step

/-- A member, as it is used. -/
inductive Performer where
  | method (method : Method)
  | getter (property : Property)
  | setter (property : Property)

namespace Performer

def body? : Performer → Option RoutineId
  | method m => m.body
  | getter p => p.getter.bind Accessor.body
  | setter p => p.setter.bind Accessor.body

/-- Whether there is a public member to use: a method, or the accessor that is needed. -/
def isPublic : Performer → Bool
  | method m => m.isPublic
  | getter p => p.getter.any Accessor.isPublic
  | setter p => p.setter.any Accessor.isPublic

def isStatic : Performer → Bool
  | method m => m.isStatic
  | getter p => p.isStatic
  | setter p => p.isStatic

end Performer

/-- The member that a use ends at, what it is run on, and the side that is presented there. -/
structure Performance where
  performer : Performer
  receiver : Value
  onStatic : Bool

namespace Performance

/-- Whether a request is to run the body of the member on its receiver. -/
def Runs (performance : Performance) (request : HostCall) : Prop :=
  performance.performer.body? = some request.routine ∧ request.receiver = performance.receiver

end Performance

namespace Factory

/-- The member that performs a method slot over a source; `enter` is about the adapter that the source
is. -/
def performanceVia? (registry : Registry) (enter : String → List TypeId → Option Performance)
    (factory : Factory) (source : Value) (slot : MethodSlot) : Option Performance :=
  let method := factory.dispatchMethod registry source slot.source
  match method.body with
  | some _ => some ⟨.method method, source, factory.isStatic⟩
  | none => enter method.name method.params

def performance? (registry : Registry) (factory : Factory) (slot : MethodSlot) :
    Value → Option Performance
  | .adapter ref inner innerSource relays =>
    performanceVia? registry
      (fun name params => (inner.slotWithSignature? name params).bind fun innerSlot =>
        performance? registry inner innerSlot innerSource)
      factory (.adapter ref inner innerSource relays) slot
  | source => performanceVia? registry (fun _ _ => none) factory source slot

/-- The property of a derived type that takes the place of a bound one. -/
def redeclared? (registry : Registry) (factory : Factory) (source : Value) (bound : Property) :
    Option Property :=
  (factory.derivedTypes registry source).findSome? fun owner =>
    (registry.info owner).properties.find? (overridesProperty bound)

end Factory

namespace Adapter.Use

/-- The method slot that a call goes to. -/
def method? (registry : Registry) (factory : Factory) : Use → Option MethodSlot
  | call name args => (selectSlot registry factory name args).toOption
  | callSignature name params _ => factory.slotWithSignature? name params
  | callSlot index _ => factory.methods[index]?
  | _ => none

/-- The property slot that a use goes to, and the accessor that it needs. -/
def property? (factory : Factory) : Use → Option (PropertySlot × (Property → Performer))
  | get name => (propertySlot? factory name PropertySlot.readable).map (·, .getter)
  | set name _ => (propertySlot? factory name PropertySlot.writable).map (·, .setter)
  | getIndex index => (indexerSlot? factory index.length PropertySlot.readable).map (·, .getter)
  | setIndex index _ => (indexerSlot? factory index.length PropertySlot.writable).map (·, .setter)
  | _ => none

/-- The member that a use of an adapter ends at, if there is one. -/
def performance? (registry : Registry) (adapter : Adapter) (use : Use) : Option Performance :=
  match use.property? adapter.factory with
  | some (slot, access) =>
    some ⟨access (adapter.factory.dispatchProperty registry adapter.source slot.source),
      adapter.source, adapter.factory.isStatic⟩
  | none =>
    (use.method? registry adapter.factory).bind fun slot =>
      adapter.factory.performance? registry slot adapter.source

/-- A use goes to a property that a derived type declares anew, without the accessor for the use or
without making it public. -/
def Veiled (registry : Registry) (adapter : Adapter) (use : Use) : Prop :=
  ∃ slot access, use.property? adapter.factory = some (slot, access) ∧
    ∃ redeclared ∈ adapter.factory.redeclared? registry adapter.source slot.source,
      (access redeclared).isPublic = false

end Adapter.Use

/-! ### What was looked at when a slot was planned -/

namespace Registry

variable {registry : Registry} {engine : EngineId} {onStatic : Bool} {shape source : TypeId}
  {factory : Factory}

theorem Plans.public_method (plans : registry.Plans engine onStatic shape source factory)
    {slot : MethodSlot} (member : slot ∈ factory.methods) :
    slot.source.isPublic = true ∧ slot.source.isStatic = onStatic := by
  obtain ⟨binding, gives, serves⟩ := plans.slot (Factory.mem_methods.1 member)
  obtain ⟨declaring, required, provided, rfl, bound⟩ := binding_of_methodSlot gives
  rw [bound]
  exact ⟨serves.1.2.1, serves.1.1⟩

theorem public_of_covers {required candidate : Option Accessor} (isRequired : required.isSome = true)
    (covered : Resolution.covers required candidate = true) :
    candidate.any Accessor.isPublic = true := by
  obtain ⟨accessor, rfl⟩ := Option.isSome_iff_exists.1 isRequired
  cases candidate with
  | none => cases covered
  | some offered => exact covered

theorem Plans.public_property (plans : registry.Plans engine onStatic shape source factory)
    {slot : PropertySlot} (member : slot ∈ factory.properties) :
    slot.source.isStatic = onStatic ∧
      (slot.readable = true → (Performer.getter slot.source).isPublic = true) ∧
      (slot.writable = true → (Performer.setter slot.source).isPublic = true) := by
  obtain ⟨binding, gives, serves⟩ := plans.slot (Factory.mem_properties.1 member)
  obtain ⟨declaring, required, provided, rfl, bound, reads, writes⟩ := binding_of_propertySlot gives
  rw [bound]
  obtain ⟨_, side, getter, setter, _⟩ := serves
  exact ⟨side, fun readable => public_of_covers (reads.symm.trans readable) getter,
    fun writable => public_of_covers (writes.symm.trans writable) setter⟩

end Registry

/-! ### What is looked at when a member is chosen -/

namespace Factory

variable {registry : Registry} {factory : Factory} {source : Value}

/-- A type that stands in for the bound one has instance members only. -/
theorem isInstance_of_derived {type : TypeId}
    (derived : type ∈ factory.derivedTypes registry source) : factory.isStatic = false := by
  by_contra static
  have isStatic : factory.isStatic = true := by simpa using static
  simp [derivedTypes, runtimeType?, isStatic] at derived

/-- A method that is chosen is public and on the side of the bound one. -/
theorem public_dispatchMethod {bound : Method} (isPublic : bound.isPublic = true)
    (side : bound.isStatic = factory.isStatic) :
    (factory.dispatchMethod registry source bound).isPublic = true ∧
      (factory.dispatchMethod registry source bound).isStatic = factory.isStatic := by
  rcases dispatchMethod_cases registry factory source bound with same | ⟨_, derived, _, overrides⟩
  · rw [same]
    exact ⟨isPublic, side⟩
  · simp only [overridesMethod, Bool.and_eq_true, Bool.not_eq_true'] at overrides
    obtain ⟨⟨⟨⟨⟨_, ownSide⟩, ownPublic⟩, _⟩, _⟩, _⟩ := overrides
    exact ⟨ownPublic, ownSide.trans (isInstance_of_derived derived).symm⟩

theorem isStatic_dispatchProperty {bound : Property} (side : bound.isStatic = factory.isStatic) :
    (factory.dispatchProperty registry source bound).isStatic = factory.isStatic := by
  rcases dispatchProperty_cases registry factory source bound with same | ⟨_, derived, _, overrides⟩
  · rw [same, side]
  · simp only [overridesProperty, Bool.and_eq_true, Bool.not_eq_true'] at overrides
    exact overrides.1.1.1.trans (isInstance_of_derived derived).symm

theorem public_performanceVia? {slot : MethodSlot} (isPublic : slot.source.isPublic = true)
    (side : slot.source.isStatic = factory.isStatic)
    {enter : String → List TypeId → Option Performance}
    (entered : ∀ name params, ∀ performance ∈ enter name params,
      performance.performer.isPublic = true ∧ performance.performer.isStatic = performance.onStatic)
    {performance : Performance}
    (found : factory.performanceVia? registry enter source slot = some performance) :
    performance.performer.isPublic = true ∧
      performance.performer.isStatic = performance.onStatic := by
  unfold performanceVia? at found
  dsimp only at found
  split at found
  case h_1 =>
    cases found
    exact public_dispatchMethod isPublic side
  case h_2 => exact entered _ _ performance found

/-- A call ends at a public method, on the side that is presented there. -/
theorem public_performance? : (source : Value) → (genuine : source.Genuine fun _ => True) →
    {factory : Factory} → {slot : MethodSlot} → (isPublic : slot.source.isPublic = true) →
    (side : slot.source.isStatic = factory.isStatic) → {performance : Performance} →
    (found : factory.performance? registry slot source = some performance) →
    performance.performer.isPublic = true ∧ performance.performer.isStatic = performance.onStatic
  | .adapter _ inner innerSource _, ⟨⟨_, _, innerPlans⟩, genuine⟩, _, _, isPublic, side, _, found => by
    apply public_performanceVia? isPublic side ?_ found
    intro name params performance isPerformance
    obtain ⟨innerSlot, isSlot, further⟩ := Option.bind_eq_some_iff.1 isPerformance
    obtain ⟨innerPublic, innerSide⟩ := innerPlans.public_method (mem_of_slotWithSignature? isSlot)
    apply public_performance? innerSource genuine innerPublic ?_ further
    exact innerSide.trans innerPlans.subject.2.2.2.symm
  | .proxy _ _ _ _, _, _, _, isPublic, side, _, found
  | .callable _, _, _, _, isPublic, side, _, found
  | .null, _, _, _, isPublic, side, _, found | .bool _, _, _, _, isPublic, side, _, found
  | .int _, _, _, _, isPublic, side, _, found | .float _, _, _, _, isPublic, side, _, found
  | .text _ _, _, _, _, isPublic, side, _, found
  | .enumeration _ _, _, _, _, isPublic, side, _, found
  | .struct _ _, _, _, _, isPublic, side, _, found
  | .object _, _, _, _, isPublic, side, _, found =>
    public_performanceVia? isPublic side
      (fun _ _ _ impossible => absurd impossible (Option.not_mem_none _)) found

end Factory

namespace Adapter

variable {registry : Registry} {adapter : Adapter} {value : Value}

/-- A use reads from a readable slot, or assigns to a writable one. -/
theorem usable_of_property? {factory : Factory} {use : Use} {slot : PropertySlot}
    {access : Property → Performer} (found : use.property? factory = some (slot, access)) :
    slot ∈ factory.properties ∧
      (slot.readable = true ∧ access = .getter ∨ slot.writable = true ∧ access = .setter) := by
  cases use with
  | call | callSignature | callSlot => cases found
  | get name =>
      obtain ⟨_, selected, same⟩ := Option.map_eq_some_iff.1 found
      cases same
      have usable := List.find?_some selected
      simp only [Bool.and_eq_true] at usable
      exact ⟨mem_of_propertySlot? selected, .inl ⟨usable.2, rfl⟩⟩
  | set name assigned =>
      obtain ⟨_, selected, same⟩ := Option.map_eq_some_iff.1 found
      cases same
      have usable := List.find?_some selected
      simp only [Bool.and_eq_true] at usable
      exact ⟨mem_of_propertySlot? selected, .inr ⟨usable.2, rfl⟩⟩
  | getIndex index =>
      obtain ⟨_, selected, same⟩ := Option.map_eq_some_iff.1 found
      cases same
      have usable := List.find?_some selected
      simp only [Bool.and_eq_true] at usable
      exact ⟨mem_of_indexerSlot? selected, .inl ⟨usable.2, rfl⟩⟩
  | setIndex index assigned =>
      obtain ⟨_, selected, same⟩ := Option.map_eq_some_iff.1 found
      cases same
      have usable := List.find?_some selected
      simp only [Bool.and_eq_true] at usable
      exact ⟨mem_of_indexerSlot? selected, .inr ⟨usable.2, rfl⟩⟩

theorem mem_of_method? {factory : Factory} {use : Use} {slot : MethodSlot}
    (found : use.method? registry factory = some slot) : slot ∈ factory.methods := by
  cases use with
  | call name args => exact mem_of_selectSlot (ok_of_toOption found)
  | callSignature name params args => exact Factory.mem_of_slotWithSignature? found
  | callSlot index args => exact List.mem_of_getElem? found
  | get | set | getIndex | setIndex => cases found

theorem not_veiled_of_call {use : Use} (isCall : use.property? adapter.factory = none) :
    ¬ use.Veiled registry adapter := by
  rintro ⟨_, _, selected, _⟩
  rw [isCall] at selected
  cases selected

theorem veiled_iff {use : Use} {slot : PropertySlot} {access : Property → Performer}
    (selected : use.property? adapter.factory = some (slot, access)) :
    use.Veiled registry adapter ↔
      ∃ redeclared ∈ adapter.factory.redeclared? registry adapter.source slot.source,
        (access redeclared).isPublic = false := by
  simp [Use.Veiled, selected]

/-- A use ends at a member of the side that is presented, and at a public one unless it is veiled. -/
theorem public_iff_not_veiled (genuine : value.Genuine fun _ => True)
    (isAdapter : adapter ∈ value.adapter?) {use : Use} {performance : Performance}
    (found : use.performance? registry adapter = some performance) :
    performance.performer.isStatic = performance.onStatic ∧
      (performance.performer.isPublic = true ↔ ¬ use.Veiled registry adapter) := by
  obtain ⟨ref, factory, source, relays, rfl, rfl⟩ : ∃ ref factory source relays,
      value = .adapter ref factory source relays ∧ adapter = ⟨ref, factory, source, relays⟩ := by
    cases value with
    | adapter ref factory source relays =>
        cases isAdapter
        exact ⟨ref, factory, source, relays, rfl, rfl⟩
    | _ => cases isAdapter
  obtain ⟨⟨planned, _, plans⟩, inner⟩ := genuine
  have side := plans.subject.2.2.2
  unfold Use.performance? at found
  cases selected : use.property? factory with
  | none =>
      simp only [selected] at found
      obtain ⟨slot, selects, performs⟩ := Option.bind_eq_some_iff.1 found
      obtain ⟨isPublic, ownSide⟩ := plans.public_method (mem_of_method? selects)
      obtain ⟨runsPublic, runsSide⟩ :=
        Factory.public_performance? source inner isPublic (ownSide.trans side.symm) performs
      exact ⟨runsSide, iff_of_true runsPublic (not_veiled_of_call selected)⟩
  | some chosen =>
      obtain ⟨slot, access⟩ := chosen
      simp only [selected] at found
      cases found
      obtain ⟨member, direction⟩ := usable_of_property? selected
      obtain ⟨ownSide, reads, writes⟩ := plans.public_property member
      have isPublic : (access slot.source).isPublic = true := by
        rcases direction with ⟨readable, rfl⟩ | ⟨writable, rfl⟩
        · exact reads readable
        · exact writes writable
      have sameSide : ∀ property, (access property).isStatic = property.isStatic := by
        rcases direction with ⟨_, rfl⟩ | ⟨_, rfl⟩ <;> exact fun _ => rfl
      refine ⟨?_, ?_⟩
      · rw [sameSide]
        exact Factory.isStatic_dispatchProperty (ownSide.trans side.symm)
      · rw [veiled_iff selected]
        show (access ((factory.redeclared? registry source slot.source).getD slot.source)).isPublic =
          true ↔ _
        cases factory.redeclared? registry source slot.source with
        | none => simp [isPublic]
        | some property => simp

end Adapter

/-! ### What runs -/

variable {σ α : Type} {registry : Registry} {world : World σ}

/-- An operation runs the body of a member on its receiver, once, or nothing. -/
def Performs (registry : Registry) (performance? : Option Performance) (world : World σ)
    (operation : Host σ → Action σ CallError α) : Prop :=
  Conduct registry (fun request => ∃ performance ∈ performance?, performance.Runs request)
    (fun _ _ => True) world operation

/-- A step after the operation that runs nothing. -/
theorem Performs.follow {β : Type} {performance? : Option Performance}
    {operation : Host σ → Action σ CallError α}
    (performs : Performs registry performance? world operation) {next : α → Action σ CallError β}
    (follows : ∀ answer after, Leads World.Follows after (next answer)) :
    Performs registry performance? world fun host => operation host >>= next :=
  Conduct.follow performs fun _ answer after _ _ _ _ ran =>
    ⟨trivial, (follows answer after).related_of_run ran⟩

theorem Performs.routine {performance : Performance} {request : HostCall}
    (runs : performance.Runs request) :
    Performs registry (some performance) world fun host : Host σ => host request := by
  have once : Conduct registry (· = request) Eq world fun host : Host σ => host request :=
    Conduct.run rfl
  refine once.weaken ?_ fun _ _ _ => trivial
  rintro _ rfl
  exact ⟨performance, rfl, runs⟩

theorem performs_invoke (method : Method) (receiver : Value) (onStatic : Bool) (args : List Value) :
    Performs registry (some ⟨.method method, receiver, onStatic⟩) world
      fun host => method.invoke host receiver args := by
  unfold Method.invoke
  cases body : method.body with
  | none => exact Conduct.throw _
  | some routine => exact Performs.routine ⟨body, rfl⟩

theorem performs_get (property : Property) (receiver : Value) (onStatic : Bool)
    (index : List Value) :
    Performs registry (some ⟨.getter property, receiver, onStatic⟩) world
      fun host => property.get host receiver index := by
  unfold Property.get
  cases getter : property.getter with
  | none => exact Conduct.throw _
  | some accessor =>
      dsimp only
      cases body : accessor.body with
      | none => exact Conduct.throw _
      | some routine =>
          have isBody : (Performer.getter property).body? = some routine := by
            rw [Performer.body?, getter, Option.bind_some, body]
          exact Performs.routine ⟨isBody, rfl⟩

theorem performs_set (property : Property) (receiver : Value) (onStatic : Bool) (index : List Value)
    (assigned : Value) :
    Performs registry (some ⟨.setter property, receiver, onStatic⟩) world
      fun host => property.set host receiver index assigned := by
  unfold Property.set
  cases setter : property.setter with
  | none => exact Conduct.throw _
  | some accessor =>
      dsimp only
      cases body : accessor.body with
      | none => exact Conduct.throw _
      | some routine =>
          have isBody : (Performer.setter property).body? = some routine := by
            rw [Performer.body?, setter, Option.bind_some, body]
          have runs : Performs registry (some ⟨.setter property, receiver, onStatic⟩) world
              fun host : Host σ => host ⟨routine, receiver, index, assigned⟩ :=
            Performs.routine ⟨isBody, rfl⟩
          exact runs.follow fun _ _ => Leads.pure ()

/-- Arguments are checked and converted before anything runs. -/
theorem Performs.prepared {performance? : Option Performance} {member : String}
    {params : List TypeId} {args : List Value} (id : EngineId) (pairs : List (Conversion × Value))
    {next : List Value → Host σ → Action σ CallError α}
    (rest : ∀ received between, World.Follows world between →
      Performs registry performance? between (next received)) :
    Performs registry performance? world fun host =>
      Action.checkArguments member params args >>= fun _ =>
        Action.convertAll id pairs >>= fun received => next received host := by
  refine Conduct.precede (Leads.get_bind (Leads.raising _)) ?_
  intro _ between checks
  obtain ⟨_, rfl⟩ := Prod.mk.inj checks
  refine Conduct.precede (Action.follows_convertAll id pairs) ?_
  intro received between converts
  exact rest received between ((Action.follows_convertAll id pairs).related_of_run converts)

theorem performs_forwardVia {factory : Factory} {source : Value} {slot : MethodSlot}
    (enter? : Option (Host σ → String → List TypeId → List Value → Action σ CallError Value))
    {entered : String → List TypeId → Option Performance}
    (enters : ∀ call ∈ enter?, ∀ name params args (between : World σ), between.registry = registry →
      Performs registry (entered name params) between fun host => call host name params args)
    (sameTypes : world.registry = registry) (args : List Value) :
    Performs registry (factory.performanceVia? registry entered source slot) world
      fun host => factory.forwardVia host (enter?.map (· host)) source slot args := by
  unfold Factory.forwardVia Factory.performanceVia?
  refine Performs.prepared factory.engine _ fun received between follows => ?_
  have sameThen : between.registry = registry := follows.registry.trans sameTypes
  refine Conduct.looked ?_
  simp only [sameThen]
  generalize factory.dispatchMethod registry source slot.source = method
  have back : ∀ answer (after : World σ), Leads World.Follows after
      (if slot.result = .void then (return .null : Action σ CallError Value)
        else Action.convert factory.engine slot.resultConversion answer) := by
    intro answer after
    split
    case isTrue => exact Leads.pure _
    case isFalse => exact Action.follows_convert _ _ answer
  cases body : method.body with
  | some routine => exact (performs_invoke method source _ received).follow back
  | none =>
      cases enter? with
      | none =>
          simp only [Option.map_none, Method.invoke, body]
          exact Conduct.throw _
      | some call =>
          simp only [Option.map_some]
          exact Performs.follow (enters call rfl method.name method.params received between sameThen)
            back

theorem performs_callSignatureVia {factory : Factory} {name : String} {params : List TypeId}
    {args : List Value} {forward : Host σ → MethodSlot → List Value → Action σ CallError Value}
    {performing : MethodSlot → Option Performance}
    (forwards : ∀ slot ∈ factory.methods, ∀ between : World σ, between.registry = registry →
      Performs registry (performing slot) between fun host => forward host slot args)
    (sameTypes : world.registry = registry) :
    Performs registry ((factory.slotWithSignature? name params).bind performing) world
      fun host => factory.callSignatureVia (forward host) name params args := by
  unfold Factory.callSignatureVia
  refine Conduct.holding factory.engine ?_
  cases found : factory.slotWithSignature? name params with
  | none => exact Conduct.throw _
  | some slot => exact forwards slot (Factory.mem_of_slotWithSignature? found) _ sameTypes

/-- A call goes through the adapters within an adapter, to the member of the innermost one. -/
theorem performs_forward : (source : Value) → {factory : Factory} → {slot : MethodSlot} →
    {world : World σ} → (sameTypes : world.registry = registry) → (args : List Value) →
    Performs registry (factory.performance? registry slot source) world
      fun host => factory.forward host slot args source
  | .adapter ref inner innerSource relays, factory, slot, world, sameTypes, args => by
    refine performs_forwardVia
      (some fun host => inner.callSignatureVia fun innerSlot innerArgs =>
        inner.forward host innerSlot innerArgs innerSource) ?_ sameTypes args
    intro call isCall name params received between sameTypes
    obtain rfl := Option.some.inj isCall
    refine performs_callSignatureVia ?_ sameTypes
    intro innerSlot _ final sameTypes
    exact performs_forward innerSource sameTypes received
  | .proxy _ _ _ _, _, _, _, sameTypes, args | .callable _, _, _, _, sameTypes, args
  | .null, _, _, _, sameTypes, args | .bool _, _, _, _, sameTypes, args | .int _, _, _, _, sameTypes, args
  | .float _, _, _, _, sameTypes, args | .text _ _, _, _, _, sameTypes, args
  | .enumeration _ _, _, _, _, sameTypes, args | .struct _ _, _, _, _, sameTypes, args
  | .object _, _, _, _, sameTypes, args => by
    refine performs_forwardVia none ?_ sameTypes args
    exact fun _ impossible => nomatch impossible

namespace Adapter

variable {adapter : Adapter}

theorem performs_read (sameTypes : world.registry = registry) (slot : PropertySlot) (index : List Value) :
    Performs registry
      (some ⟨.getter (adapter.factory.dispatchProperty registry adapter.source slot.source),
        adapter.source, adapter.factory.isStatic⟩) world
      fun host => adapter.read host slot index := by
  unfold Adapter.read
  refine Conduct.holding adapter.factory.engine ?_
  refine Performs.prepared _ _ fun received between follows => ?_
  have sameThen : between.registry = registry := follows.registry.trans sameTypes
  refine Conduct.looked ?_
  simp only [sameThen]
  exact (performs_get _ adapter.source _ received).follow fun value _ =>
    Action.follows_convert _ slot.onGet value

theorem performs_write (sameTypes : world.registry = registry) (slot : PropertySlot)
    (index : List Value) (assigned : Value) :
    Performs registry
      (some ⟨.setter (adapter.factory.dispatchProperty registry adapter.source slot.source),
        adapter.source, adapter.factory.isStatic⟩) world
      fun host => adapter.write host slot index assigned := by
  unfold Adapter.write
  refine Conduct.holding adapter.factory.engine ?_
  refine Conduct.precede (Leads.get_bind (Leads.raising _)) ?_
  intro _ between checks
  obtain ⟨_, rfl⟩ := Prod.mk.inj checks
  refine Performs.prepared _ _ fun received between follows => ?_
  refine Conduct.precede (Action.follows_convert _ slot.onSet assigned) ?_
  intro value last converts
  have follows' : World.Follows between last :=
    (Action.follows_convert _ slot.onSet assigned).related_of_run converts
  have sameThen : last.registry = registry := follows'.registry.trans (follows.registry.trans sameTypes)
  refine Conduct.looked ?_
  simp only [sameThen]
  exact performs_set _ adapter.source _ received value

/-- A use runs the body of the member that it ends at, once, or nothing. -/
theorem performs_use (sameTypes : world.registry = registry) (use : Use) :
    Performs registry (use.performance? registry adapter) world fun host => use.run host adapter := by
  have held : ∀ slot (args : List Value), Performs registry
      (adapter.factory.performance? registry slot adapter.source)
      (world.retain adapter.factory.engine)
      fun host => adapter.factory.forward host slot args adapter.source := by
    intro slot args
    have sameThen : (world.retain adapter.factory.engine).registry = registry := sameTypes
    exact performs_forward adapter.source sameThen args
  cases use with
  | call name args =>
      simp only [Use.performance?, Use.property?, Use.method?, Use.run, Adapter.call]
      refine Conduct.holding adapter.factory.engine ?_
      refine Conduct.looked ?_
      have sameThen : (world.retain adapter.factory.engine).registry = registry := sameTypes
      rw [sameThen]
      refine Conduct.precede (Leads.raising _) ?_
      intro slot between ran
      obtain ⟨selects, rfl⟩ := Prod.mk.inj ran
      rw [selects]
      exact held slot args
  | callSignature name params args =>
      simp only [Use.performance?, Use.property?, Use.method?, Use.run, Adapter.callSignature]
      refine performs_callSignatureVia ?_ sameTypes
      exact fun slot _ between sameTypes => performs_forward adapter.source sameTypes args
  | callSlot index args =>
      simp only [Use.performance?, Use.property?, Use.method?, Use.run, Adapter.callSlot]
      refine Conduct.holding adapter.factory.engine ?_
      cases adapter.factory.methods[index]? with
      | none => exact Conduct.throw _
      | some slot => exact held slot args
  | get name =>
      simp only [Use.performance?, Use.property?, Use.run, Adapter.get]
      cases propertySlot? adapter.factory name PropertySlot.readable with
      | none => exact Conduct.throw _
      | some slot => exact performs_read sameTypes slot []
  | set name assigned =>
      simp only [Use.performance?, Use.property?, Use.run, Adapter.set]
      cases propertySlot? adapter.factory name PropertySlot.writable with
      | none => exact Conduct.throw _
      | some slot => exact (performs_write sameTypes slot [] assigned).follow fun _ _ => Leads.pure _
  | getIndex index =>
      simp only [Use.performance?, Use.property?, Use.run, Adapter.getIndex]
      cases indexerSlot? adapter.factory index.length PropertySlot.readable with
      | none => exact Conduct.throw _
      | some slot => exact performs_read sameTypes slot index
  | setIndex index assigned =>
      simp only [Use.performance?, Use.property?, Use.run, Adapter.setIndex]
      cases indexerSlot? adapter.factory index.length PropertySlot.writable with
      | none => exact Conduct.throw _
      | some slot => exact (performs_write sameTypes slot index assigned).follow fun _ _ => Leads.pure _

end Adapter

/-- Whatever a host can come by with the engines of some registries, a use of it in any world runs the
body of one member of the side that is presented, once, or nothing; and the member is public, with the
accessor that the use needs, exactly if the use is not veiled. -/
theorem public_unless_veiled {value : Value} (obtainable : Cast.Obtainable (fun _ => True) value)
    {adapter : Adapter} (isAdapter : adapter ∈ value.adapter?) (use : Adapter.Use)
    (world : World σ) :
    Performs world.registry (use.performance? world.registry adapter) world
        (fun host => use.run host adapter) ∧
      ∀ performance ∈ use.performance? world.registry adapter,
        performance.performer.isStatic = performance.onStatic ∧
          (performance.performer.isPublic = true ↔ ¬ use.Veiled world.registry adapter) :=
  ⟨Adapter.performs_use rfl use, fun _ found =>
    Adapter.public_iff_not_veiled obtainable.genuine isAdapter found⟩

/-! ### An instance -/

/-- Shape 16 asks for a price to read, class 17 has one, and classes 18, 19 and 20 derive from it. The
first declares the price anew, the second declares it anew with a hidden getter, and the third with a
setter only. -/
def Registry.pricing : Registry :=
  let price (getter setter : Option Accessor) : Definition :=
    { Definition.empty with properties := [⟨"Price", .int, [], getter, setter, false⟩] }
  let derived (getter setter : Option Accessor) : Definition :=
    { price getter setter with base := some ⟨17⟩ }
  let shape := (Registry.initial.register (.named "Priced") .interface
    (price (some ⟨.visible, none⟩) none)).1
  let item := (shape.register (.named "Item") .classType
    (price (some ⟨.visible, some ⟨0⟩⟩) none)).1
  let offer := (item.register (.named "Offer") .classType
    (derived (some ⟨.visible, some ⟨1⟩⟩) none)).1
  let gift := (offer.register (.named "Gift") .classType
    (derived (some ⟨.hidden, some ⟨2⟩⟩) none)).1
  (gift.register (.named "Auction") .classType
    (derived none (some ⟨.visible, some ⟨3⟩⟩))).1

/-- An object of a class, presented as the shape. -/
def priced (type : TypeId) : Value :=
  ((Cast.cast ⟨0⟩ ⟨16⟩ (.object ⟨0, type, Registry.pricing.name type⟩)).run
    (Cast.newcomer Registry.pricing)).1.toOption.getD .null

theorem priced_obtainable {type : TypeId}
    (succeeds : ((Cast.cast ⟨0⟩ ⟨16⟩ (.object ⟨0, type, Registry.pricing.name type⟩)).run
      (Cast.newcomer Registry.pricing)).1.toOption.isSome = true) :
    Cast.Obtainable (fun _ => True) (priced type) := by
  obtain ⟨made, found⟩ := Option.isSome_iff_exists.1 succeeds
  have isMade : priced type = made := by rw [priced, found, Option.getD_some]
  rw [isMade]
  exact .cast (Cast.newcomer_tended Registry.pricing) trivial (.plain rfl)
    (Prod.ext (ok_of_toOption found) rfl)

/-- The price of an offer is read by its own public getter. -/
theorem offer_read_publicly :
    ∃ adapter performance, (priced ⟨18⟩).adapter? = some adapter ∧
      (Adapter.Use.get "Price").performance? Registry.pricing adapter = some performance ∧
      performance.performer.body? = some ⟨1⟩ ∧ performance.performer.isStatic = false ∧
      ¬ (Adapter.Use.get "Price").Veiled Registry.pricing adapter ∧
      Performs Registry.pricing (some performance) (Cast.newcomer Registry.pricing)
        fun host => (Adapter.Use.get "Price").run host adapter := by
  have checked : ((Cast.cast ⟨0⟩ ⟨16⟩ (.object ⟨0, ⟨18⟩, Registry.pricing.name ⟨18⟩⟩)).run
        (Cast.newcomer Registry.pricing)).1.toOption.isSome = true ∧
      ((priced ⟨18⟩).adapter?.bind fun adapter =>
        ((Adapter.Use.get "Price").performance? Registry.pricing adapter).map fun performance =>
          (performance.performer.body?, performance.performer.isPublic,
            performance.performer.isStatic)) = some (some ⟨1⟩, true, false) := by
    decide +kernel
  obtain ⟨succeeds, facts⟩ := checked
  obtain ⟨adapter, isAdapter, facts⟩ := Option.bind_eq_some_iff.1 facts
  obtain ⟨performance, found, facts⟩ := Option.map_eq_some_iff.1 facts
  simp only [Prod.mk.injEq] at facts
  obtain ⟨body, isPublic, side⟩ := facts
  obtain ⟨performs, reads⟩ := public_unless_veiled (priced_obtainable succeeds) isAdapter
    (.get "Price") (Cast.newcomer Registry.pricing)
  have sameTypes : (Cast.newcomer Registry.pricing).registry = Registry.pricing := rfl
  rw [sameTypes, found] at performs
  exact ⟨adapter, performance, isAdapter, found, body, side,
    (reads performance found).2.1 isPublic, performs⟩

/-- The price of a gift is read by a hidden getter, and that of an auction not at all, although the
shape has it and the price of an item can be read. -/
theorem hidden_getter_runs :
    (¬ ∀ (registry : Registry) (value : Value) (adapter : Adapter) (use : Adapter.Use),
      Cast.Obtainable (fun _ => True) value → adapter ∈ value.adapter? →
        ∀ performance ∈ use.performance? registry adapter,
          ∀ body ∈ performance.performer.body?, performance.performer.isPublic = true) ∧
    ¬ ∀ (registry : Registry) (value : Value) (adapter : Adapter) (name : String)
      (slot : PropertySlot), Cast.Obtainable (fun _ => True) value → adapter ∈ value.adapter? →
        Adapter.propertySlot? adapter.factory name PropertySlot.readable = some slot →
          (adapter.factory.dispatchProperty registry adapter.source slot.source).canRead = true := by
  constructor
  · intro claimed
    have checked : ((Cast.cast ⟨0⟩ ⟨16⟩ (.object ⟨0, ⟨19⟩, Registry.pricing.name ⟨19⟩⟩)).run
          (Cast.newcomer Registry.pricing)).1.toOption.isSome = true ∧
        ((priced ⟨19⟩).adapter?.bind fun adapter =>
          ((Adapter.Use.get "Price").performance? Registry.pricing adapter).map fun performance =>
            (performance.performer.body?, performance.performer.isPublic)) =
          some (some ⟨2⟩, false) := by
      decide +kernel
    obtain ⟨succeeds, facts⟩ := checked
    obtain ⟨adapter, isAdapter, facts⟩ := Option.bind_eq_some_iff.1 facts
    obtain ⟨performance, found, facts⟩ := Option.map_eq_some_iff.1 facts
    obtain ⟨body, notPublic⟩ := Prod.mk.inj facts
    have isPublic := claimed Registry.pricing _ adapter (.get "Price")
      (priced_obtainable succeeds) isAdapter performance found ⟨2⟩ body
    rw [notPublic] at isPublic
    cases isPublic
  · intro claimed
    have checked : ((Cast.cast ⟨0⟩ ⟨16⟩ (.object ⟨0, ⟨20⟩, Registry.pricing.name ⟨20⟩⟩)).run
          (Cast.newcomer Registry.pricing)).1.toOption.isSome = true ∧
        ((priced ⟨20⟩).adapter?.bind fun adapter =>
          (Adapter.propertySlot? adapter.factory "Price" PropertySlot.readable).map fun slot =>
            (adapter.factory.dispatchProperty Registry.pricing adapter.source slot.source).canRead) =
          some false := by
      decide +kernel
    obtain ⟨succeeds, facts⟩ := checked
    obtain ⟨adapter, isAdapter, facts⟩ := Option.bind_eq_some_iff.1 facts
    obtain ⟨slot, found, cannotRead⟩ := Option.map_eq_some_iff.1 facts
    have reads := claimed Registry.pricing _ adapter "Price" slot
      (priced_obtainable succeeds) isAdapter found
    rw [cannotRead] at reads
    cases reads

end StructuralCast
