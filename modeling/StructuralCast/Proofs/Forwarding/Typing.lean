import StructuralCast.Proofs.Forwarding.Use

/-!
Contract: values are as they are declared, on both sides of an adapter.

Every use of an adapter that a host can come by honours its terms (`Adapter.honours_use`), and so does
every call of a callable that an engine has put over another one. An adapter over an adapter looks up
the slot that it goes on to by name and parameter types, and may find one that declares another result
than the one it was bound to; the terms are regular otherwise, and regular terms are sound.
-/

namespace StructuralCast

open Step

variable {σ : Type} {registry : Registry} {world : World σ}

/-! ### Terms are planned -/

namespace Factory

theorem planned_of_serviceVia? {factory : Factory} {source : Value} {slot : MethodSlot}
    (plans : registry.PlansMethod slot) {entered : String → List TypeId → Option Service}
    (planned : ∀ name params, ∀ service ∈ entered name params, service.terms.Planned registry)
    {service : Service} (found : factory.serviceVia? registry entered source slot = some service) :
    service.terms.Planned registry := by
  obtain ⟨_, _, plansResult⟩ := plans
  rw [← (types_dispatchMethod registry factory source slot.source).2] at plansResult
  have back := Passage.planned_back plansResult
  unfold serviceVia? at found
  dsimp only at found
  split at found
  case h_1 =>
    cases found
    exact Terms.planned_single back
  case h_2 =>
    obtain ⟨inner, isInner, rfl⟩ := Option.map_eq_some_iff.1 found
    exact (planned _ _ inner isInner).cons back

theorem planned_of_service? : (source : Value) → (genuine : source.Genuine (· = registry)) →
    {factory : Factory} → {slot : MethodSlot} → (plans : registry.PlansMethod slot) →
    {service : Service} → (found : factory.service? registry slot source = some service) →
    service.terms.Planned registry
  | .adapter _ inner innerSource _, ⟨⟨_, same, innerPlans⟩, genuine⟩, _, _, plans, _, found => by
    rw [same] at innerPlans
    apply planned_of_serviceVia? plans ?_ found
    intro name params service isService
    obtain ⟨innerSlot, isSlot, further⟩ := Option.bind_eq_some_iff.1 isService
    have planned := innerPlans.method (mem_of_slotWithSignature? isSlot)
    exact planned_of_service? innerSource genuine planned further
  | .proxy _ _ _ _, _, _, _, plans, _, found | .callable _, _, _, _, plans, _, found
  | .null, _, _, _, plans, _, found | .bool _, _, _, _, plans, _, found
  | .int _, _, _, _, plans, _, found | .float _, _, _, _, plans, _, found
  | .text _ _, _, _, _, plans, _, found | .enumeration _ _, _, _, _, plans, _, found
  | .struct _ _, _, _, _, plans, _, found | .object _, _, _, _, plans, _, found =>
    planned_of_serviceVia? plans
      (fun _ _ _ impossible => absurd impossible (Option.not_mem_none _)) found

theorem planned_of_getterService? {factory : Factory} {source : Value} {slot : PropertySlot}
    (plans : registry.PlansProperty slot) {service : Service}
    (found : factory.getterService? registry source slot = some service) :
    service.terms.Planned registry := by
  obtain ⟨_, _, plansGet, _⟩ := plans
  rw [← (types_dispatchProperty registry factory source slot.source).2] at plansGet
  obtain ⟨routine, _, rfl⟩ := Option.map_eq_some_iff.1 found
  have back : Passage.Planned registry
      ⟨slot.type, (factory.dispatchProperty registry source slot.source).type, some slot.onGet⟩ :=
    plansGet
  exact Terms.planned_single back

theorem sound_of_setterService? {factory : Factory} {source : Value} {slot : PropertySlot}
    {service : Service} (found : factory.setterService? registry source slot = some service) :
    service.terms.Sound registry := by
  obtain ⟨routine, _, rfl⟩ := Option.map_eq_some_iff.1 found
  intro outer isOuter
  cases isOuter

end Factory

/-! ### Every use -/

namespace Adapter

variable {adapter : Adapter}

/-- An adapter whose factory was planned over a registry, as were those within it. -/
def Genuine (registry : Registry) (adapter : Adapter) : Prop :=
  (∃ onStatic shape source, registry.Plans adapter.factory.engine onStatic shape source
    adapter.factory) ∧ adapter.source.Genuine (· = registry)

theorem genuine_of_value {value : Value} (genuine : value.Genuine (· = registry))
    (isAdapter : adapter ∈ value.adapter?) : adapter.Genuine registry := by
  cases value with
  | adapter ref factory source relays =>
      cases isAdapter
      obtain ⟨⟨_, rfl, plans⟩, inner⟩ := genuine
      exact ⟨⟨_, _, _, plans⟩, inner⟩
  | _ => cases isAdapter

theorem serves_slot (orderly : registry.Orderly) (apart : registry.ValuesApart)
    (settled : world.Settled registry) (genuine : adapter.Genuine registry) {slot : MethodSlot}
    (isSlot : slot ∈ adapter.factory.methods) (args : List Value) :
    Serves registry (adapter.factory.service? registry slot adapter.source) world
      fun host => adapter.factory.forward host slot args adapter.source := by
  obtain ⟨⟨_, _, _, plans⟩, inner⟩ := genuine
  exact serves_forward orderly apart adapter.source inner (plans.method isSlot) settled args

theorem serves_call (orderly : registry.Orderly) (apart : registry.ValuesApart)
    (settled : world.Settled registry) (genuine : adapter.Genuine registry) (name : String)
    (args : List Value) :
    Serves registry (Use.service? registry adapter (.call name args)) world
      fun host => adapter.call host name args := by
  have held := (world.follows_retain adapter.factory.engine).settled settled
  unfold Adapter.call
  refine Conduct.holding adapter.factory.engine ?_
  refine Conduct.looked ?_
  rw [held.sameRegistry]
  refine Conduct.precede (Leads.raising _) ?_
  intro slot between ran
  obtain ⟨selects, rfl⟩ := Prod.mk.inj ran
  simp only [Use.service?, selects]
  exact serves_slot orderly apart held genuine (mem_of_selectSlot selects) args

theorem serves_callSlot (orderly : registry.Orderly) (apart : registry.ValuesApart)
    (settled : world.Settled registry) (genuine : adapter.Genuine registry) (index : Nat)
    (args : List Value) :
    Serves registry (Use.service? registry adapter (.callSlot index args)) world
      fun host => adapter.callSlot host index args := by
  have held := (world.follows_retain adapter.factory.engine).settled settled
  unfold Adapter.callSlot
  refine Conduct.holding adapter.factory.engine ?_
  simp only [Use.service?]
  cases found : adapter.factory.methods[index]? with
  | none => exact Conduct.throw _
  | some slot => exact serves_slot orderly apart held genuine (List.mem_of_getElem? found) args

theorem serves_callSignature (orderly : registry.Orderly) (apart : registry.ValuesApart)
    (settled : world.Settled registry) (genuine : adapter.Genuine registry) (name : String)
    (params : List TypeId) (args : List Value) :
    Serves registry (Use.service? registry adapter (.callSignature name params args)) world
      fun host => adapter.callSignature host name params args := by
  refine serves_callSignatureVia ?_ settled
  intro slot isSlot between settled
  exact serves_slot orderly apart settled genuine isSlot args

theorem honours_use (orderly : registry.Orderly) (apart : registry.ValuesApart)
    (settled : world.Settled registry) (genuine : adapter.Genuine registry) (use : Use) :
    Honours registry (use.service? registry adapter) world fun host => use.run host adapter := by
  obtain ⟨_, _, _, plans⟩ := genuine.1
  cases use with
  | call name args =>
      exact (serves_call orderly apart settled genuine name args).honours orderly apart
  | callSlot index args =>
      exact (serves_callSlot orderly apart settled genuine index args).honours orderly apart
  | callSignature name params args =>
      exact (serves_callSignature orderly apart settled genuine name params args).honours
        orderly apart
  | get name =>
      simp only [Use.service?, Use.run, Adapter.get]
      cases found : propertySlot? adapter.factory name PropertySlot.readable with
      | none => exact Conduct.throw _
      | some slot =>
          have planned := plans.property (mem_of_propertySlot? found)
          exact (serves_read orderly apart settled adapter planned []).honours orderly apart
  | set name assigned =>
      simp only [Use.service?, Use.run, Adapter.set]
      cases found : propertySlot? adapter.factory name PropertySlot.writable with
      | none => exact Conduct.throw _
      | some slot =>
          have planned := plans.property (mem_of_propertySlot? found)
          exact honours_write orderly apart settled adapter planned [] assigned
  | getIndex index =>
      simp only [Use.service?, Use.run, Adapter.getIndex]
      cases found : indexerSlot? adapter.factory index.length PropertySlot.readable with
      | none => exact Conduct.throw _
      | some slot =>
          have planned := plans.property (mem_of_indexerSlot? found)
          exact (serves_read orderly apart settled adapter planned index).honours orderly apart
  | setIndex index assigned =>
      simp only [Use.service?, Use.run, Adapter.setIndex]
      cases found : indexerSlot? adapter.factory index.length PropertySlot.writable with
      | none => exact Conduct.throw _
      | some slot =>
          have planned := plans.property (mem_of_indexerSlot? found)
          exact honours_write orderly apart settled adapter planned index assigned

/-- Regular terms of a use are sound. -/
theorem sound_use (orderly : registry.Orderly) (apart : registry.ValuesApart)
    (genuine : adapter.Genuine registry) {use : Use} {service : Service}
    (found : use.service? registry adapter = some service) (proper : service.terms.Proper registry)
    (regular : service.terms.Regular registry) : service.terms.Sound registry := by
  obtain ⟨⟨_, _, _, plans⟩, inner⟩ := genuine
  have methods : ∀ slot ∈ adapter.factory.methods,
      adapter.factory.service? registry slot adapter.source = some service →
      service.terms.Sound registry := by
    intro slot isSlot found
    have planned := Factory.planned_of_service? adapter.source inner (plans.method isSlot) found
    exact planned.sound orderly apart proper regular
  have getters : ∀ slot ∈ adapter.factory.properties,
      adapter.factory.getterService? registry adapter.source slot = some service →
      service.terms.Sound registry := by
    intro slot isSlot found
    have planned := Factory.planned_of_getterService? (plans.property isSlot) found
    exact planned.sound orderly apart proper regular
  cases use with
  | call name args =>
      obtain ⟨slot, selects, found⟩ := Option.bind_eq_some_iff.1 found
      exact methods slot (mem_of_selectSlot (ok_of_toOption selects)) found
  | callSignature name params args =>
      obtain ⟨slot, selects, found⟩ := Option.bind_eq_some_iff.1 found
      exact methods slot (Factory.mem_of_slotWithSignature? selects) found
  | callSlot index args =>
      obtain ⟨slot, selects, found⟩ := Option.bind_eq_some_iff.1 found
      exact methods slot (List.mem_of_getElem? selects) found
  | get name =>
      obtain ⟨slot, selects, found⟩ := Option.bind_eq_some_iff.1 found
      exact getters slot (mem_of_propertySlot? selects) found
  | getIndex index =>
      obtain ⟨slot, selects, found⟩ := Option.bind_eq_some_iff.1 found
      exact getters slot (mem_of_indexerSlot? selects) found
  | set name assigned =>
      obtain ⟨slot, _, found⟩ := Option.bind_eq_some_iff.1 found
      exact Factory.sound_of_setterService? found
  | setIndex index assigned =>
      obtain ⟨slot, _, found⟩ := Option.bind_eq_some_iff.1 found
      exact Factory.sound_of_setterService? found

end Adapter

/-! ### Callables over callables -/

namespace Callable

variable {ref : Ref} {factory : DelegateFactory} {inner : Callable}

theorem terms?_eq_some
    (plans : registry.PlansDelegate factory.engine factory.target inner.type factory) :
    ∃ terms, (adapted ref factory inner).terms? registry = some terms ∧
      terms.Planned registry ∧ terms.Regular registry := by
  obtain ⟨_, offered, _, declared, _, _, _, _, _, sameResult, _, plansResult⟩ := plans.subject
  rw [← sameResult] at plansResult
  refine ⟨⟨offered.params.zip factory.params, none, offered.result,
    [.back factory.result offered.result factory.resultConversion]⟩, ?_, ?_, ?_⟩
  · simp only [terms?, declared, Option.map_some]
  · exact Terms.planned_single (Passage.planned_back plansResult)
  · exact List.isChain_singleton _

/-- A call of a callable over another one runs that one, on the terms that the two declare. -/
theorem conduct_forward (orderly : registry.Orderly) (apart : registry.ValuesApart)
    (settled : world.Settled registry)
    (plans : registry.PlansDelegate factory.engine factory.target inner.type factory) {terms : Terms}
    (declares : (adapted ref factory inner).terms? registry = some terms) (args : List Value) :
    Conduct registry (fun received => terms.Receives registry received .null)
      (terms.Returns registry) world
      fun runs : List Value → Action σ CallError Value => factory.forward runs args := by
  obtain ⟨_, offered, _, declared, length, _, _, _, sameParams, sameResult, plansArgs, plansResult⟩ :=
    plans.subject
  rw [← sameParams] at length plansArgs
  rw [← sameResult] at plansResult
  have planned := Passage.planned_back plansResult
  simp only [terms?, declared, Option.map_some, Option.some.injEq] at declares
  subst declares
  unfold DelegateFactory.forward
  refine Conduct.holding factory.engine ?_
  have held := (world.follows_retain factory.engine).settled settled
  refine Conduct.checked held fun accepted => ?_
  refine Conduct.prepared orderly apart held length plansArgs accepted ?_
  intro received between _ suits
  simp only [← Passage.carry_back factory.engine factory.result offered.result factory.resultConversion]
  have runs : Conduct registry (· = received) Eq between
      fun runs : List Value → Action σ CallError Value => runs received := Conduct.run rfl
  refine Conduct.follow (runs.weaken ?_ fun _ _ same => same) ?_
  · rintro _ rfl
    exact ⟨suits, fun _ impossible => absurd impossible (Option.not_mem_none _)⟩
  · rintro value _ after handed last settled rfl carries
    refine ⟨?_, (Passage.follows_carry factory.engine _ value).related_of_run carries⟩
    exact ((Terms.delivers_start _ _ _ value).step settled planned carries).returns orderly apart

end Callable

/-! ### Everything that a host can come by -/

/-- Whatever a host can come by with the engines of a registry, using it runs nothing but what serves
it, on arguments as the source declares them, and hands back a result as the shape declares it where
the terms are sound; and regular terms are. Null is no value of a value type. -/
theorem honours_of_obtainable (orderly : registry.Orderly) (apart : registry.ValuesApart)
    (settled : world.Settled registry) {value : Value}
    (obtainable : Cast.Obtainable (· = registry) value) :
    (∀ adapter ∈ value.adapter?, ∀ use : Adapter.Use,
      Honours registry (use.service? registry adapter) world (fun host => use.run host adapter) ∧
        ∀ service ∈ use.service? registry adapter, service.terms.Proper registry →
          service.terms.Regular registry → service.terms.Sound registry) ∧
    (∀ ref factory inner, value = .callable (.adapted ref factory inner) → ∀ args,
      (∀ host : Host σ, (Callable.adapted ref factory inner).invoke host args =
        factory.forward (fun received => inner.invoke host received) args) ∧
      ∃ terms, (Callable.adapted ref factory inner).terms? registry = some terms ∧
        (terms.Proper registry → terms.Sound registry) ∧
        Conduct registry (fun received => terms.Receives registry received .null)
          (terms.Returns registry) world
          fun runs : List Value → Action σ CallError Value => factory.forward runs args) ∧
    ∀ type, registry.isValueType type = true → registry.admits type Value.null.type? = false := by
  have genuine := obtainable.genuine
  refine ⟨?_, ?_, fun type => Registry.not_admits_null⟩
  · intro adapter isAdapter use
    have genuine := Adapter.genuine_of_value genuine isAdapter
    refine ⟨Adapter.honours_use orderly apart settled genuine use, ?_⟩
    intro service isService
    exact Adapter.sound_use orderly apart genuine isService
  · rintro ref factory inner rfl args
    obtain ⟨⟨_, rfl, plans⟩, _⟩ := genuine
    obtain ⟨terms, declared, planned, regular⟩ := Callable.terms?_eq_some plans
    refine ⟨fun host => rfl, terms, declared, fun proper => ?_, ?_⟩
    · exact planned.sound orderly apart proper regular
    · exact Callable.conduct_forward orderly apart settled plans declared args

/-! ### An instance -/

/-- Interface 16 has two methods that differ in their results only, shape 17 asks for the second one,
and class 18 offers both as static members. -/
def Registry.overloaded : Registry :=
  let read (result : TypeId) (onStatic : Bool) (body : Option RoutineId) : Method :=
    ⟨"Read", [], result, onStatic, 0, .visible, body⟩
  let source := (Registry.initial.register (.named "Source") .interface
    { Definition.empty with methods := [read .int false none, read .text false none] }).1
  let target := (source.register (.named "Target") .interface
    { Definition.empty with methods := [read .text false none] }).1
  (target.register (.named "Tool") .classType
    { Definition.empty with
      methods := [read .int true (some ⟨0⟩), read .text true (some ⟨1⟩)] }).1

/-- A world whose only engine has an owner and has not been used. -/
def attended : World Unit := (Cast.newcomer Registry.overloaded).retain ⟨0⟩

theorem attended_settled : attended.Settled Registry.overloaded := by
  refine (World.follows_retain _ _).settled ⟨rfl, fun id => ?_⟩
  have isNew : (Cast.newcomer Registry.overloaded).engine id = Engine.fresh id Config.standard := by
    obtain ⟨index⟩ := id
    cases index with
    | zero => rfl
    | succ => rfl
  refine ⟨?_, ?_⟩
  · rw [isNew]
    rfl
  · rw [isNew]
    exact .fresh id Config.standard

/-- The static members of the class, presented as interface 16. -/
def presented : Value :=
  ((Cast.staticCast ⟨0⟩ ⟨16⟩ ⟨18⟩).run (Cast.newcomer Registry.overloaded)).1.toOption.getD .null

/-- The same, cast on to shape 17. -/
def narrowed : Value :=
  ((Cast.cast ⟨0⟩ ⟨17⟩ presented).run (Cast.newcomer Registry.overloaded)).1.toOption.getD .null

/-- What there is to see about these types: no bases but earlier ones, numbers and texts apart from the
rest, and both casts succeed. -/
theorem overloaded_checked :
    ((∀ id ∈ Registry.overloaded.ids, ∀ base ∈ Registry.overloaded.base? id, base.raw < id.raw) ∧
        Registry.overloaded.InterfacesAreRoots) ∧
      Registry.overloaded.ValuesApart ∧
      (Registry.overloaded.kind .int ≠ .genericParam ∧
        Registry.overloaded.kind .text ≠ .genericParam) ∧
      ((Cast.staticCast ⟨0⟩ ⟨16⟩ ⟨18⟩).run
        (Cast.newcomer Registry.overloaded)).1.toOption.isSome = true ∧
      ((Cast.cast ⟨0⟩ ⟨17⟩ presented).run
        (Cast.newcomer Registry.overloaded)).1.toOption.isSome = true := by
  decide +kernel

theorem Registry.overloaded_orderly : Registry.overloaded.Orderly :=
  .of_earlier (((Grown.initial.register _ _ _).register _ _ _).register _ _ _) overloaded_checked.1

theorem Registry.overloaded_apart : Registry.overloaded.ValuesApart := overloaded_checked.2.1

theorem Registry.overloaded_proper :
    Registry.overloaded.Proper .int ∧ Registry.overloaded.Proper .text :=
  ⟨⟨by decide, overloaded_checked.2.2.1.1⟩, by decide, overloaded_checked.2.2.1.2⟩

theorem presented_obtainable : Cast.Obtainable (· = Registry.overloaded) presented := by
  obtain ⟨made, found⟩ := Option.isSome_iff_exists.1 overloaded_checked.2.2.2.1
  have isMade : presented = made := by rw [presented, found, Option.getD_some]
  rw [isMade]
  refine .staticCast (Cast.newcomer_tended Registry.overloaded) ?_
    (Prod.ext (ok_of_toOption found) rfl)
  rfl

theorem narrowed_obtainable : Cast.Obtainable (· = Registry.overloaded) narrowed := by
  obtain ⟨made, found⟩ := Option.isSome_iff_exists.1 overloaded_checked.2.2.2.2
  have isMade : narrowed = made := by rw [narrowed, found, Option.getD_some]
  rw [isMade]
  refine .cast (Cast.newcomer_tended Registry.overloaded) ?_ presented_obtainable
    (Prod.ext (ok_of_toOption found) rfl)
  rfl

/-- A host whose routines all give a number. -/
def counting : Host Unit := fun _ => pure (.int 1)

/-- The first slot of interface 16 is served by the routine that gives a number, on sound terms, and
the number is handed back. -/
theorem presented_honours : ∃ adapter service handed, presented.adapter? = some adapter ∧
    (Adapter.Use.callSlot 0 []).service? Registry.overloaded adapter = some service ∧
    service.routine = ⟨0⟩ ∧ service.terms.Sound Registry.overloaded ∧
    Honours Registry.overloaded (some service) attended
      (fun host => (Adapter.Use.callSlot 0 []).run host adapter) ∧
    (((Adapter.Use.callSlot 0 []).run counting adapter).run attended).1.toOption = some handed ∧
    handed.type? = some .int := by
  have facts : (presented.adapter?.bind fun adapter =>
      ((Adapter.Use.callSlot 0 []).service? Registry.overloaded adapter).bind fun service =>
        (((Adapter.Use.callSlot 0 []).run counting adapter).run attended).1.toOption.map
          fun handed => ((service.routine, handed.type?), service.terms.passages.map
            fun passage => (passage.target, passage.source))) =
      some ((⟨0⟩, some .int), [(.int, .int)]) := by
    decide +kernel
  obtain ⟨adapter, isAdapter, facts⟩ := Option.bind_eq_some_iff.1 facts
  obtain ⟨service, isService, facts⟩ := Option.bind_eq_some_iff.1 facts
  obtain ⟨handed, ran, facts⟩ := Option.map_eq_some_iff.1 facts
  obtain ⟨outside, types⟩ := Prod.mk.inj facts
  obtain ⟨routine, handedType⟩ := Prod.mk.inj outside
  obtain ⟨passage, onlyPassage, declared⟩ := List.map_eq_singleton_iff.1 types
  have honours := (honours_of_obtainable Registry.overloaded_orderly Registry.overloaded_apart
    attended_settled presented_obtainable).1 adapter isAdapter (.callSlot 0 [])
  rw [isService] at honours
  refine ⟨adapter, service, handed, isAdapter, isService, routine, honours.2 service rfl ?_ ?_,
    honours.1, ran, handedType⟩
  · rw [Terms.Proper, onlyPassage, List.forall_mem_singleton]
    obtain ⟨target, source⟩ := Prod.mk.inj declared
    rw [target, source]
    exact ⟨Registry.overloaded_proper.1, Registry.overloaded_proper.1⟩
  · rw [Terms.Regular, onlyPassage]
    exact List.isChain_singleton passage

/-- A call through an adapter over an adapter may run the overload with another result than the one it
is bound to, and hand back what the shape does not declare. -/
theorem wrong_overload_handed_back :
    ¬ ∀ (registry : Registry) (world : World Unit) (host : Host Unit) (value : Value)
      (adapter : Adapter) (use : Adapter.Use), registry.Orderly → registry.ValuesApart →
        world.Settled registry → Cast.Obtainable (· = registry) value → adapter ∈ value.adapter? →
          ∀ service ∈ use.service? registry adapter, service.terms.Proper registry →
            (∀ request between, ∃ answer, (host request).run between = (.ok answer, between) ∧
              registry.admits service.terms.declared answer.type? = true) →
            ∀ outer ∈ service.terms.passages.head?, ∀ handed last,
              (use.run host adapter).run world = (.ok handed, last) →
                registry.admits outer.target handed.type? = true := by
  intro claimed
  have facts : (narrowed.adapter?.bind fun adapter =>
      ((Adapter.Use.callSlot 0 []).service? Registry.overloaded adapter).bind fun service =>
        (((Adapter.Use.callSlot 0 []).run counting adapter).run attended).1.toOption.map fun handed =>
          (service.terms.passages.map fun passage => (passage.target, passage.source),
            service.terms.declared, handed.type?)) =
      some ([(.text, .text), (.int, .int)], .int, some .int) := by
    decide +kernel
  obtain ⟨adapter, isAdapter, facts⟩ := Option.bind_eq_some_iff.1 facts
  obtain ⟨service, isService, facts⟩ := Option.bind_eq_some_iff.1 facts
  obtain ⟨handed, ran, facts⟩ := Option.map_eq_some_iff.1 facts
  obtain ⟨types, facts⟩ := Prod.mk.inj facts
  obtain ⟨declared, handedType⟩ := Prod.mk.inj facts
  obtain ⟨outer, others, passages, outerTypes, otherTypes⟩ := List.map_eq_cons_iff.1 types
  obtain ⟨inner, rfl, innerTypes⟩ := List.map_eq_singleton_iff.1 otherTypes
  obtain ⟨outerTarget, outerSource⟩ := Prod.mk.inj outerTypes
  obtain ⟨innerTarget, innerSource⟩ := Prod.mk.inj innerTypes
  obtain ⟨properInt, properText⟩ := Registry.overloaded_proper
  have proper : service.terms.Proper Registry.overloaded := by
    rw [Terms.Proper, passages, List.forall_mem_cons, List.forall_mem_singleton, outerTarget,
      outerSource, innerTarget, innerSource]
    exact ⟨⟨properText, properText⟩, properInt, properInt⟩
  have isInstance := claimed Registry.overloaded attended counting narrowed adapter (.callSlot 0 [])
    Registry.overloaded_orderly Registry.overloaded_apart attended_settled narrowed_obtainable
    isAdapter service isService proper
    (fun request between => ⟨.int 1, rfl, by rw [declared]; exact Registry.admits_self⟩)
    outer (by rw [passages]; rfl) handed _ (Prod.ext (ok_of_toOption ran) rfl)
  rw [outerTarget, handedType] at isInstance
  exact absurd isInstance (by decide +kernel)

end StructuralCast
