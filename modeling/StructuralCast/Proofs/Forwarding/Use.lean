import StructuralCast.Proofs.Forwarding.Service

/-!
Contract: calling and reading through adapters goes on as the service of the slot says.

Arguments are checked, converted and only then passed on (`Conduct.checked`, `Conduct.prepared`), and
a result goes back one step at a time (`Serves.back`). `serves_forward` follows a call through adapters
over adapters, by induction on the source; what each of them adds is `serves_forwardVia`. Properties
are never looked up in an adapter, so reading and assigning take one step.
-/

namespace StructuralCast

open Step

variable {σ κ α : Type} {registry : Registry} {world : World σ}

/-- An operation runs nothing but a service, on its terms. -/
def Serves (registry : Registry) (service? : Option Service) (world : World σ)
    (operation : Host σ → Action σ CallError Value) : Prop :=
  Conduct registry (fun request => ∃ service ∈ service?, service.Receives registry request)
    (fun value handed => ∀ service ∈ service?, service.terms.Delivers registry value handed)
    world operation

namespace Conduct

variable {fits : κ → Prop} {hands : Value → α → Prop}

theorem checked {member : String} {params : List TypeId} {args : List Value}
    {next : (κ → Action σ CallError Value) → Action σ CallError α}
    (settled : world.Settled registry)
    (rest : List.Forall₂ (fun param arg => registry.accepts param arg = true) params args →
      Conduct registry fits hands world next) :
    Conduct registry fits hands world fun runs =>
      Action.checkArguments member params args >>= fun _ => next runs := by
  refine precede ?_ ?_
  · exact Leads.get_bind (Leads.raising _)
  · intro _ between checks
    obtain ⟨isOk, rfl⟩ := Prod.mk.inj checks
    apply rest
    rw [← settled.sameRegistry]
    exact Registry.accepts_of_checkArguments isOk

/-- Arguments are checked and converted before anything is run. -/
theorem prepared (orderly : registry.Orderly) (apart : registry.ValuesApart)
    (settled : world.Settled registry) {id : EngineId} {provided required : List TypeId}
    {conversions : List Conversion} (length : provided.length = required.length)
    (plans : registry.planConversions provided required = .ok conversions) {args : List Value}
    (accepted : List.Forall₂ (fun param arg => registry.accepts param arg = true) required args)
    {next : List Value → (κ → Action σ CallError Value) → Action σ CallError α}
    (rest : ∀ received between, between.Settled registry →
      registry.Suits (provided.zip required) received →
      Conduct registry fits hands between (next received)) :
    Conduct registry fits hands world fun runs =>
      Action.convertAll id (conversions.zip args) >>= fun received => next received runs := by
  refine precede (Action.follows_convertAll id _) ?_
  intro received between converts
  have follows : World.Follows world between :=
    (Action.follows_convertAll id (conversions.zip args)).related_of_run converts
  apply rest received between (follows.settled settled)
  exact Action.suits_of_convertAll orderly apart settled.sameRegistry (settled.planned id) length plans
    accepted converts

/-- Looking at the world before anything is run. -/
theorem looked {next : World σ → (κ → Action σ CallError Value) → Action σ CallError α}
    (rest : Conduct registry fits hands world (next world)) :
    Conduct registry fits hands world fun runs => get >>= fun state => next state runs := by
  have looks : Leads World.Follows world (get : Action σ CallError (World σ)) :=
    refl_of World.Follows world
  refine precede looks ?_
  rintro _ _ ran
  cases ran
  exact rest

end Conduct

/-! ### Members -/

/-- A result goes back through one step more. -/
theorem Serves.back {service? : Option Service} {operation : Host σ → Action σ CallError Value}
    (serves : Serves registry service? world operation) {passage : Passage} (id : EngineId)
    (planned : passage.Planned registry) :
    Serves registry (service?.map (·.through passage)) world
      fun host => operation host >>= passage.carry id := by
  have longer : ∀ request, (∃ service ∈ service?, service.Receives registry request) →
      ∃ service ∈ service?.map (·.through passage), service.Receives registry request := by
    rintro request ⟨service, isService, receives⟩
    exact ⟨service.through passage, Option.mem_map_of_mem _ isService, receives⟩
  apply Conduct.follow (serves.weaken longer fun _ _ delivers => delivers)
  intro value answer after handed last settled delivers carries
  refine ⟨?_, (passage.follows_carry id answer).related_of_run carries⟩
  intro service isService
  obtain ⟨inner, isInner, rfl⟩ := Option.map_eq_some_iff.1 isService
  exact (delivers inner isInner).step settled planned carries

/-- Running a routine, and nothing else. -/
theorem Serves.routine {routine : RoutineId} {receiver : Value} {terms : Terms} {args : List Value}
    {assigned : Value} (receives : terms.Receives registry args assigned)
    (start : terms.passages = []) :
    Serves registry (some ⟨routine, receiver, terms⟩) world
      fun host => host ⟨routine, receiver, args, assigned⟩ := by
  have runs : Conduct registry (· = ⟨routine, receiver, args, assigned⟩) Eq world
      fun host : Host σ => host ⟨routine, receiver, args, assigned⟩ := Conduct.run rfl
  refine runs.weaken ?_ ?_
  · rintro _ rfl
    exact ⟨_, rfl, rfl, rfl, receives⟩
  · rintro value _ rfl service isService
    cases isService
    obtain ⟨arguments, assigned, declared, passages⟩ := terms
    obtain rfl : passages = [] := start
    exact Terms.delivers_start arguments assigned declared value

/-- A member runs its routine, if it has one. -/
theorem serves_invoke (world : World σ) (method : Method) (receiver : Value)
    {pairs : List (TypeId × TypeId)} {received : List Value}
    (suits : registry.Suits pairs received) :
    Serves registry
      (method.body.map fun routine => ⟨routine, receiver, ⟨pairs, none, method.result, []⟩⟩) world
      fun host => method.invoke host receiver received := by
  have receives : Terms.Receives registry ⟨pairs, none, method.result, []⟩ received .null :=
    ⟨suits, fun _ impossible => nomatch impossible⟩
  unfold Method.invoke
  cases method.body with
  | none => exact Conduct.throw _
  | some routine => exact Serves.routine receives rfl

theorem serves_get (world : World σ) (property : Property) (receiver : Value)
    {pairs : List (TypeId × TypeId)} {received : List Value}
    (suits : registry.Suits pairs received) :
    Serves registry
      ((property.getter.bind Accessor.body).map fun routine =>
        ⟨routine, receiver, ⟨pairs, none, property.type, []⟩⟩) world
      fun host => property.get host receiver received := by
  have receives : Terms.Receives registry ⟨pairs, none, property.type, []⟩ received .null :=
    ⟨suits, fun _ impossible => nomatch impossible⟩
  unfold Property.get
  cases property.getter with
  | none => exact Conduct.throw _
  | some accessor =>
      dsimp only [Option.bind_some]
      cases accessor.body with
      | none => exact Conduct.throw _
      | some routine => exact Serves.routine receives rfl

theorem conduct_set {property : Property} {receiver : Value} {terms : Terms} {received : List Value}
    {value : Value} (receives : terms.Receives registry received value) :
    Conduct registry
      (fun request => ∃ service ∈ (property.setter.bind Accessor.body).map fun routine =>
        (⟨routine, receiver, terms⟩ : Service), service.Receives registry request)
      (fun _ _ => True) world
      fun host : Host σ => property.set host receiver received value := by
  unfold Property.set
  cases property.setter with
  | none => exact Conduct.throw _
  | some accessor =>
      dsimp only [Option.bind_some]
      cases accessor.body with
      | none => exact Conduct.throw _
      | some routine =>
          have runs : Conduct registry (· = ⟨routine, receiver, received, value⟩) Eq world
              fun host : Host σ => host ⟨routine, receiver, received, value⟩ := Conduct.run rfl
          have fitting : ∀ request : HostCall, request = ⟨routine, receiver, received, value⟩ →
              ∃ service ∈ some (⟨routine, receiver, terms⟩ : Service),
                service.Receives registry request := by
            rintro _ rfl
            exact ⟨_, rfl, rfl, rfl, receives⟩
          apply (runs.weaken fitting fun _ _ same => same).follow
          intro _ _ after _ last _ _ ends
          cases ends
          exact ⟨trivial, refl_of World.Follows after⟩

/-! ### Methods -/

theorem serves_forwardVia (orderly : registry.Orderly) (apart : registry.ValuesApart)
    {factory : Factory} {source : Value} {slot : MethodSlot} (plans : registry.PlansMethod slot)
    (enter? : Option (Host σ → String → List TypeId → List Value → Action σ CallError Value))
    {entered : String → List TypeId → Option Service}
    (enters : ∀ call ∈ enter?, ∀ name params args (between : World σ), between.Settled registry →
      Serves registry (entered name params) between fun host => call host name params args)
    (settled : world.Settled registry) (args : List Value) :
    Serves registry (factory.serviceVia? registry entered source slot) world
      fun host => factory.forwardVia host (enter?.map (· host)) source slot args := by
  obtain ⟨length, plansArgs, plansResult⟩ := plans
  obtain ⟨sameParams, sameResult⟩ :=
    Factory.types_dispatchMethod registry factory source slot.source
  unfold Factory.forwardVia Factory.serviceVia?
  refine Conduct.checked settled fun accepted => ?_
  refine Conduct.prepared orderly apart settled length plansArgs accepted ?_
  intro received between settled suits
  refine Conduct.looked ?_
  simp only [settled.sameRegistry]
  generalize factory.dispatchMethod registry source slot.source = method at sameParams sameResult ⊢
  rw [← sameParams] at suits
  rw [← sameResult] at plansResult
  have planned := Passage.planned_back plansResult
  have invokes := serves_invoke between method source suits
  simp only [← Passage.carry_back factory.engine slot.result method.result slot.resultConversion]
  cases body : method.body with
  | some routine =>
      rw [body] at invokes
      exact invokes.back factory.engine planned
  | none =>
      cases enter? with
      | none =>
          simp only [Option.map_none, Method.invoke, body]
          exact Conduct.throw _
      | some call =>
          simp only [Option.map_some]
          exact (enters call rfl method.name method.params received between settled).back
            factory.engine planned

theorem serves_callSignatureVia {factory : Factory} {name : String} {params : List TypeId}
    {args : List Value} {forward : Host σ → MethodSlot → List Value → Action σ CallError Value}
    {serving : MethodSlot → Option Service}
    (forwards : ∀ slot ∈ factory.methods, ∀ between : World σ, between.Settled registry →
      Serves registry (serving slot) between fun host => forward host slot args)
    (settled : world.Settled registry) :
    Serves registry ((factory.slotWithSignature? name params).bind serving) world
      fun host => factory.callSignatureVia (forward host) name params args := by
  unfold Factory.callSignatureVia
  refine Conduct.holding factory.engine ?_
  have held := (world.follows_retain factory.engine).settled settled
  cases found : factory.slotWithSignature? name params with
  | none => exact Conduct.throw _
  | some slot => exact forwards slot (Factory.mem_of_slotWithSignature? found) _ held

/-- A planned slot of a genuine adapter, and of the adapters within it. -/
theorem serves_forward (orderly : registry.Orderly) (apart : registry.ValuesApart) :
    (source : Value) → (genuine : source.Genuine (· = registry)) → {factory : Factory} →
    {slot : MethodSlot} → (plans : registry.PlansMethod slot) → {world : World σ} →
    (settled : world.Settled registry) → (args : List Value) →
    Serves registry (factory.service? registry slot source) world
      fun host => factory.forward host slot args source
  | .adapter ref inner innerSource relays, ⟨⟨_, same, innerPlans⟩, genuine⟩, factory, slot, plans,
      world, settled, args => by
    rw [same] at innerPlans
    refine serves_forwardVia orderly apart plans
      (some fun host => inner.callSignatureVia fun innerSlot innerArgs =>
        inner.forward host innerSlot innerArgs innerSource) ?_ settled args
    intro call isCall name params received between settled
    obtain rfl := Option.some.inj isCall
    refine serves_callSignatureVia ?_ settled
    intro innerSlot isSlot final settled
    exact serves_forward orderly apart innerSource genuine (innerPlans.method isSlot) settled received
  | .proxy _ _ _ _, _, _, _, plans, _, settled, args
  | .callable _, _, _, _, plans, _, settled, args
  | .null, _, _, _, plans, _, settled, args
  | .bool _, _, _, _, plans, _, settled, args
  | .int _, _, _, _, plans, _, settled, args
  | .float _, _, _, _, plans, _, settled, args
  | .text _ _, _, _, _, plans, _, settled, args
  | .enumeration _ _, _, _, _, plans, _, settled, args
  | .struct _ _, _, _, _, plans, _, settled, args
  | .object _, _, _, _, plans, _, settled, args => by
    refine serves_forwardVia orderly apart plans none ?_ settled args
    exact fun _ impossible => nomatch impossible

/-! ### Properties -/

/-- An operation runs nothing but a service, and hands back what its terms say. -/
def Honours (registry : Registry) (service? : Option Service) (world : World σ)
    (operation : Host σ → Action σ CallError Value) : Prop :=
  Conduct registry (fun request => ∃ service ∈ service?, service.Receives registry request)
    (fun value handed => ∀ service ∈ service?, service.terms.Returns registry value handed)
    world operation

theorem Serves.honours (orderly : registry.Orderly) (apart : registry.ValuesApart)
    {service? : Option Service} {operation : Host σ → Action σ CallError Value}
    (serves : Serves registry service? world operation) : Honours registry service? world operation :=
  serves.weaken (fun _ receives => receives) fun _ _ delivers service isService =>
    (delivers service isService).returns orderly apart

theorem serves_read (orderly : registry.Orderly) (apart : registry.ValuesApart)
    (settled : world.Settled registry) (adapter : Adapter) {slot : PropertySlot}
    (plans : registry.PlansProperty slot) (index : List Value) :
    Serves registry (adapter.factory.getterService? registry adapter.source slot) world
      fun host => adapter.read host slot index := by
  obtain ⟨length, plansIndex, plansGet, _⟩ := plans
  obtain ⟨sameIndex, sameType⟩ :=
    Factory.types_dispatchProperty registry adapter.factory adapter.source slot.source
  unfold Adapter.read Factory.getterService?
  refine Conduct.holding adapter.factory.engine ?_
  have held := (world.follows_retain adapter.factory.engine).settled settled
  refine Conduct.checked held fun accepted => ?_
  refine Conduct.prepared orderly apart held length plansIndex accepted ?_
  intro received between settled suits
  refine Conduct.looked ?_
  simp only [settled.sameRegistry]
  generalize adapter.factory.dispatchProperty registry adapter.source slot.source = property
    at sameIndex sameType ⊢
  rw [← sameIndex] at suits
  rw [← sameType] at plansGet
  have planned : Passage.Planned registry ⟨slot.type, property.type, some slot.onGet⟩ := plansGet
  have gets := serves_get between property adapter.source suits
  have reads := gets.back adapter.factory.engine planned
  rw [Option.map_map] at reads
  exact reads

theorem honours_write (orderly : registry.Orderly) (apart : registry.ValuesApart)
    (settled : world.Settled registry) (adapter : Adapter) {slot : PropertySlot}
    (plans : registry.PlansProperty slot) (index : List Value) (assigned : Value) :
    Honours registry (adapter.factory.setterService? registry adapter.source slot) world
      fun host => adapter.write host slot index assigned >>= fun _ => pure .null := by
  obtain ⟨length, plansIndex, _, plansSet⟩ := plans
  obtain ⟨sameIndex, sameType⟩ :=
    Factory.types_dispatchProperty registry adapter.factory adapter.source slot.source
  have written : Conduct registry
      (fun request => ∃ service ∈ adapter.factory.setterService? registry adapter.source slot,
        service.Receives registry request) (fun _ _ => True) world
      fun host : Host σ => adapter.write host slot index assigned := by
    unfold Adapter.write Factory.setterService?
    refine Conduct.holding adapter.factory.engine ?_
    have held := (world.follows_retain adapter.factory.engine).settled settled
    refine Conduct.checked held fun accepted => ?_
    refine Conduct.checked held fun acceptedValue => ?_
    refine Conduct.prepared orderly apart held length plansIndex accepted ?_
    intro received between settled suits
    refine Conduct.precede (Action.follows_convert _ slot.onSet assigned) ?_
    intro value middle converts
    have follows : World.Follows between middle :=
      (Action.follows_convert adapter.factory.engine slot.onSet assigned).related_of_run converts
    refine Conduct.looked ?_
    simp only [(follows.settled settled).sameRegistry]
    generalize adapter.factory.dispatchProperty registry adapter.source slot.source = property
      at sameIndex sameType ⊢
    rw [← sameIndex] at suits
    rw [← sameType] at plansSet
    refine conduct_set ⟨suits, fun pair isPair proper properShape => ?_⟩
    obtain rfl := Option.some.inj isPair
    obtain rfl := settled.sameRegistry
    cases acceptedValue with
    | cons accepts _ =>
        exact Action.instance_of_convert orderly apart (settled.planned _) plansSet proper
          properShape.1 (Registry.admits_of_accepts accepts properShape) converts
  apply written.follow
  intro _ _ after _ last _ _ ends
  cases ends
  refine ⟨?_, refl_of World.Follows after⟩
  intro service isService outer isOuter
  obtain ⟨routine, _, rfl⟩ := Option.map_eq_some_iff.1 isService
  cases isOuter

end StructuralCast
