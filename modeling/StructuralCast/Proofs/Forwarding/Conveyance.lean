import StructuralCast.Invocation
import StructuralCast.Proofs.Forwarding.Service
import StructuralCast.Subscription

/-!
Contract: what forwarding does to a world.

Using an adapter, calling a callable and raising an event do nothing to a world by themselves. They
cast values from one side to the other, keep an engine alive meanwhile, and run what the host brings
along. A preorder of worlds that holds of these steps therefore holds of all that they are part of,
through any number of adapters over adapters: `Adapter.Use.leads_run`, `Callable.leads_invoke` and
`Action.leads_raise`. Subscribing touches handlers, too, which are apart from types and engines.
-/

namespace StructuralCast

open Step

variable {σ α : Type} {related : World σ → World σ → Prop} [IsPreorder (World σ) related] {host : Host σ}
  {world : World σ}

section Holding

variable (retains : ∀ (world : World σ) (id : EngineId), related world (world.retain id))
  (releases : ∀ (world : World σ) (id : EngineId), related world (world.release id))

include retains releases

/-- Keeping an engine alive leaves the rest to the action. -/
theorem Action.leads_holding {id : EngineId} {action : Action σ CallError α}
    (leads : Leads related (world.retain id) action) : Leads related world (holding id action) := by
  show related world (if world.isAlive id then
    ((action.run (world.retain id)).1, (action.run (world.retain id)).2.release id)
    else (.error .engineDropped, world)).2
  split
  case isTrue =>
    have held : related world (action.run (world.retain id)).2 :=
      trans_of related (retains world id) leads
    exact trans_of related held (releases _ id)
  case isFalse => exact refl_of related world

end Holding

theorem Action.leads_checkArguments (member : String) (params : List TypeId) (args : List Value) :
    Leads related world (checkArguments member params args) :=
  Leads.get_bind (Leads.raising _)

theorem Action.apart_unsubscribe (key : EventKey) (c : Callable) :
    Leads World.Apart world (unsubscribe key c : Action σ CallError Bool) := by
  refine Leads.get_bind ?_
  split
  case h_1 rest _ =>
    have sets : Leads World.Apart world
        (set { world with events := world.events.set key rest } : Action σ CallError PUnit) :=
      ⟨rfl, rfl⟩
    exact Leads.bind sets fun _ _ _ => Leads.pure _
  case h_2 => exact Leads.pure _

/-! ### Members -/

section Members

variable (answers : ∀ request world, Leads related world (host request))

include answers

theorem Method.leads_invoke (method : Method) (receiver : Value) (args : List Value) :
    Leads related world (method.invoke host receiver args) := by
  unfold Method.invoke
  cases method.body with
  | some routine => exact answers _ world
  | none => exact Leads.throw _

theorem Property.leads_get (property : Property) (receiver : Value) (index : List Value) :
    Leads related world (property.get host receiver index) := by
  unfold Property.get
  cases property.getter with
  | none => exact Leads.throw _
  | some accessor =>
      dsimp only
      cases accessor.body with
      | some routine => exact answers _ world
      | none => exact Leads.throw _

theorem Property.leads_set (property : Property) (receiver : Value) (index : List Value)
    (assigned : Value) : Leads related world (property.set host receiver index assigned) := by
  unfold Property.set
  cases property.setter with
  | none => exact Leads.throw _
  | some accessor =>
      dsimp only
      cases accessor.body with
      | some routine => exact Leads.bind (answers _ world) fun _ _ _ => Leads.pure _
      | none => exact Leads.throw _

end Members

section Forwarding

variable (retains : ∀ (world : World σ) (id : EngineId), related world (world.retain id))
  (releases : ∀ (world : World σ) (id : EngineId), related world (world.release id))
  (casts : ∀ (id : EngineId) (world : World σ) (target : TypeId) (value : Value),
    Leads related world (Cast.cast id target value))
  (answers : ∀ request world, Leads related world (host request))

/-! ### Callables and events -/

include retains releases casts answers in
/-- A callable over a callable converts on the way in and on the way out. -/
theorem Callable.leads_invoke :
    (c : Callable) → (args : List Value) → (world : World σ) → Leads related world (c.invoke host args)
  | .native _ _ routine, args, world => answers ⟨routine, .null, args, .null⟩ world
  | .foreign _ _ body _, args, world => answers ⟨body.routine, .null, args, .null⟩ world
  | .adapted _ factory inner, args, world => by
      rw [Callable.invoke, DelegateFactory.forward]
      refine Action.leads_holding retains releases ?_
      refine Leads.bind (Action.leads_checkArguments _ _ _) fun _ _ _ => ?_
      refine Leads.bind (Action.leads_convertAll (casts _) _) fun converted between _ => ?_
      refine Leads.bind (Callable.leads_invoke inner converted between) fun result after _ => ?_
      split
      case isTrue => exact Leads.pure _
      case isFalse => exact Action.leads_convert (casts _ after) _ _

theorem Multicast.leads_run {η : Type} {invoke : η → Action σ CallError Value}
    (leads : ∀ handler world, Leads related world (invoke handler)) (handlers : List η) :
    Leads related world (Multicast.run invoke handlers) := by
  have after : ∀ last, Leads related world (Multicast.runAfter invoke last handlers) := by
    intro last
    induction handlers generalizing world last with
    | nil => exact Leads.pure _
    | cons handler rest inductionHypothesis =>
        exact Leads.bind (leads handler world) fun answer _ _ => inductionHypothesis (some answer)
  exact after none

include retains releases casts answers in
theorem Relay.leads_invoke (relay : Relay) (args : List Value) :
    Leads related world (relay.invoke host args) := by
  unfold Relay.invoke
  refine Leads.bind (refl_of related world) fun handlers between _ => ?_
  split
  case isTrue => exact Leads.pure _
  case isFalse =>
    split
    case isTrue => exact Leads.throw _
    case isFalse =>
      refine Action.leads_holding retains releases ?_
      refine Leads.bind (Action.leads_convertAll (casts _) _) fun converted ready _ => ?_
      have serves : Leads related ready (Multicast.run (Callable.invoke host converted) handlers) :=
        Multicast.leads_run
          (fun c world => Callable.leads_invoke retains releases casts answers c converted world) handlers
      exact Leads.bind serves fun _ after _ => Action.leads_convert (casts _ after) _ _

include retains releases casts answers in
theorem Handler.leads_invoke (handler : Handler) (args : List Value) (world : World σ) :
    Leads related world (handler.invoke host args) := by
  cases handler with
  | direct c => exact Callable.leads_invoke retains releases casts answers c args world
  | relay relay => exact Relay.leads_invoke retains releases casts answers relay args

include retains releases casts answers in
/-- Raising an event runs its handlers. -/
theorem Action.leads_raise (key : EventKey) (args : List Value) :
    Leads related world (raise host key args) := by
  refine Leads.bind (refl_of related world) fun subscribed between _ => ?_
  exact Multicast.leads_run
    (fun handler world => Handler.leads_invoke retains releases casts answers handler args world) subscribed

/-! ### Adapters -/

include casts answers in
theorem Factory.leads_forwardVia (factory : Factory) (source : Value) (slot : MethodSlot)
    (args : List Value)
    {enter : Option (String → List TypeId → List Value → Action σ CallError Value)}
    (enters : ∀ call ∈ enter, ∀ name params args world, Leads related world (call name params args)) :
    Leads related world (factory.forwardVia host enter source slot args) := by
  unfold Factory.forwardVia
  refine Leads.bind (Action.leads_checkArguments _ _ _) fun _ _ _ => ?_
  refine Leads.bind (Action.leads_convertAll (casts _) _) fun converted between _ => ?_
  have returns : ∀ result after, Leads related after
      (if slot.result = .void then pure .null
        else Action.convert factory.engine slot.resultConversion result) := by
    intro result after
    split
    case isTrue => exact Leads.pure _
    case isFalse => exact Action.leads_convert (casts _ after) _ _
  refine Leads.get_bind ?_
  dsimp only
  split
  case h_1 call _ =>
    exact Leads.bind (enters call rfl _ _ _ _) fun result after _ => returns result after
  case h_2 =>
    exact Leads.bind (Method.leads_invoke answers _ _ _) fun result after _ => returns result after

include retains releases in
theorem Factory.leads_callSignatureVia (factory : Factory)
    {forward : MethodSlot → List Value → Action σ CallError Value}
    (forwards : ∀ slot args world, Leads related world (forward slot args)) (name : String)
    (params : List TypeId) (args : List Value) :
    Leads related world (factory.callSignatureVia forward name params args) := by
  refine Action.leads_holding retains releases ?_
  split
  case h_1 slot _ => exact forwards slot args _
  case h_2 => exact Leads.throw _

include retains releases casts answers in
/-- A call goes through the adapters that are within each other. -/
theorem Factory.leads_forward : (source : Value) → (factory : Factory) → (slot : MethodSlot) →
    (args : List Value) → (world : World σ) → Leads related world (factory.forward host slot args source)
  | .adapter ref inner innerSource relays, factory, slot, args, world => by
    refine Factory.leads_forwardVia casts answers factory _ slot args ?_
    rintro call isCall name params received between
    obtain rfl := Option.some.inj isCall
    refine Factory.leads_callSignatureVia retains releases inner ?_ name params received
    exact fun innerSlot innerArgs world => Factory.leads_forward innerSource inner innerSlot innerArgs world
  | .proxy _ _ _ _, factory, slot, args, world
  | .callable _, factory, slot, args, world
  | .null, factory, slot, args, world
  | .bool _, factory, slot, args, world
  | .int _, factory, slot, args, world
  | .float _, factory, slot, args, world
  | .text _ _, factory, slot, args, world
  | .enumeration _ _, factory, slot, args, world
  | .struct _ _, factory, slot, args, world
  | .object _, factory, slot, args, world => by
    refine Factory.leads_forwardVia casts answers factory _ slot args ?_
    exact fun _ impossible => nomatch impossible

namespace Adapter

include retains releases casts answers

theorem leads_read (adapter : Adapter) (slot : PropertySlot) (index : List Value) :
    Leads related world (adapter.read host slot index) := by
  refine Action.leads_holding retains releases ?_
  refine Leads.bind (Action.leads_checkArguments _ _ _) fun _ _ _ => ?_
  refine Leads.bind (Action.leads_convertAll (casts _) _) fun converted between _ => ?_
  refine Leads.get_bind (Leads.bind (Property.leads_get answers _ _ _) fun value after _ => ?_)
  exact Action.leads_convert (casts _ after) _ _

theorem leads_write (adapter : Adapter) (slot : PropertySlot) (index : List Value) (assigned : Value) :
    Leads related world (adapter.write host slot index assigned) := by
  refine Action.leads_holding retains releases ?_
  refine Leads.bind (Action.leads_checkArguments _ _ _) fun _ _ _ => ?_
  refine Leads.bind (Action.leads_checkArguments _ _ _) fun _ _ _ => ?_
  refine Leads.bind (Action.leads_convertAll (casts _) _) fun converted between _ => ?_
  refine Leads.bind (Action.leads_convert (casts _ between) _ _) fun value after _ => ?_
  exact Leads.get_bind (Property.leads_set answers _ _ _ _)

/-- Whatever an adapter is used for, it is forwarded, or refused. -/
theorem Use.leads_run (adapter : Adapter) (use : Use) : Leads related world (use.run host adapter) := by
  have forwards : ∀ slot args world, Leads related world
      (adapter.factory.forward host slot args adapter.source) := fun slot args world =>
    Factory.leads_forward retains releases casts answers adapter.source adapter.factory slot args world
  cases use with
  | call name args =>
      refine Action.leads_holding retains releases ?_
      refine Leads.get_bind (Leads.bind (Leads.raising _) fun slot between _ => ?_)
      exact forwards slot args between
  | callSignature name params args =>
      exact Factory.leads_callSignatureVia retains releases adapter.factory forwards name params args
  | callSlot index args =>
      refine Action.leads_holding retains releases ?_
      split
      case h_1 slot _ => exact forwards slot args _
      case h_2 => exact Leads.throw _
  | get name =>
      simp only [Use.run, Adapter.get]
      split
      case h_1 slot _ => exact leads_read retains releases casts answers adapter slot []
      case h_2 => exact Leads.throw _
  | getIndex index =>
      simp only [Use.run, Adapter.getIndex]
      split
      case h_1 slot _ => exact leads_read retains releases casts answers adapter slot index
      case h_2 => exact Leads.throw _
  | set name assigned =>
      simp only [Use.run, Adapter.set]
      refine Leads.bind ?_ fun _ _ _ => Leads.pure _
      split
      case h_1 slot _ => exact leads_write retains releases casts answers adapter slot [] assigned
      case h_2 => exact Leads.throw _
  | setIndex index assigned =>
      simp only [Use.run, Adapter.setIndex]
      refine Leads.bind ?_ fun _ _ _ => Leads.pure _
      split
      case h_1 slot _ => exact leads_write retains releases casts answers adapter slot index assigned
      case h_2 => exact Leads.throw _

end Adapter

/-! ### Subscriptions -/

variable (apart : ∀ {before after : World σ}, World.Apart before after → related before after)

namespace Adapter

include retains releases apart

/-- A subscription adds to a list of handlers, wherever that is kept. -/
theorem leads_subscribe (adapter : Adapter) (name : String) (value : Value) :
    Leads related world (adapter.subscribe name value) := by
  refine Action.leads_holding retains releases (Leads.get_bind ?_)
  refine Leads.bind (Leads.raising _) fun found between _ => ?_
  refine Leads.bind (Leads.raising _) fun handler after _ => ?_
  split
  case h_1 => exact Leads.pure _
  case h_2 c _ =>
    split
    case h_1 id _ =>
      refine Leads.bind (refl_of related after) fun _ _ _ => ?_
      exact apart ⟨rfl, rfl⟩
    case h_2 =>
      refine Leads.bind (Leads.raising _) fun key ready _ => ?_
      exact apart (Action.apart_subscribe key (.direct c))

theorem leads_unsubscribe (adapter : Adapter) (name : String) (value : Value) :
    Leads related world (adapter.unsubscribe name value) := by
  refine Action.leads_holding retains releases (Leads.get_bind ?_)
  refine Leads.bind (Leads.raising _) fun found between _ => ?_
  refine Leads.bind (Leads.raising _) fun handler after _ => ?_
  split
  case h_1 => exact Leads.pure _
  case h_2 c _ =>
    split
    case h_1 id _ =>
      refine Leads.bind (refl_of related after) fun handlers ready _ => ?_
      split
      case h_1 rest _ =>
        have sets : Leads related ready
            (Action.setRelayHandlers id rest : Action σ CallError Unit) := apart ⟨rfl, rfl⟩
        exact Leads.bind sets fun _ _ _ => Leads.pure _
      case h_2 => exact Leads.pure _
    case h_2 =>
      refine Leads.bind (Leads.raising _) fun key ready _ => ?_
      exact apart (Action.apart_unsubscribe key c)

end Adapter
end Forwarding
end StructuralCast
