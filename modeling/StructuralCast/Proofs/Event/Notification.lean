import StructuralCast.Proofs.Event.Wrapping
import StructuralCast.Proofs.Forwarding.Conveyance

/-!
Contract: which handlers a raised event calls.

`Calls` follows an action through the calls of handlers that it makes, in order. All that it does besides
is to convert values and to keep engines alive. Handlers are `Calm` in a world if no call of them, from
any world that such calls lead to, does more to the events of objects than to make adapters.

An action `Notifies` if it makes the calls that it should and then succeeds, or makes some calls and is
stopped by an obstacle. Raising an event does so (`notifies_raise`): each callable is called once, on the
arguments of the event, and each relay has every callable of its list called once, in order, on the
arguments as its plan converts them. The obstacles are a handler that fails, a conversion that fails, and
a relay with handlers that converts another number of arguments or has lost its engine.
-/

namespace StructuralCast

open Step

variable {σ : Type}

/-- A call of a handler. -/
structure Call where
  callable : Callable
  args : List Value

/-- Steps besides calls. -/
inductive Quiet : World σ → World σ → Prop where
  | convert (engine : EngineId) (conversion : Conversion) (value : Value) (world : World σ) :
      Quiet world ((Action.convert engine conversion value).run world).2
  | convertAll (engine : EngineId) (pairs : List (Conversion × Value)) (world : World σ) :
      Quiet world ((Action.convertAll engine pairs).run world).2
  | retain (engine : EngineId) (world : World σ) : Quiet world (world.retain engine)
  | release (engine : EngineId) (world : World σ) : Quiet world (world.release engine)

/-- The calls of some callables on the way from one world to another, all of which succeed. -/
inductive Calls (host : Host σ) (heard : Callable → Prop) : World σ → List Call → World σ → Prop where
  | done (world : World σ) : Calls host heard world [] world
  | quiet {world between after : World σ} {calls : List Call} (step : Quiet world between)
      (further : Calls host heard between calls after) : Calls host heard world calls after
  | call {world between after : World σ} {calls : List Call} {c : Callable} {args : List Value}
      {answer : Value} (isHeard : heard c) (answers : (c.invoke host args).run world = (.ok answer, between))
      (further : Calls host heard between calls after) :
      Calls host heard world (⟨c, args⟩ :: calls) after

/-- No call of the callables does more to events than to make adapters. -/
def Calm (host : Host σ) (heard : Callable → Prop) (world : World σ) : Prop :=
  ∀ calls between, Calls host heard world calls between →
    ∀ c, heard c → ∀ args, Leads World.Undisturbed between (c.invoke host args)

variable {host : Host σ} {heard : Callable → Prop} {world between after : World σ}
  {calls calls' : List Call}

theorem Quiet.undisturbed (quiet : Quiet world between) : World.Undisturbed world between := by
  cases quiet with
  | convert engine conversion value => exact Action.undisturbed_convert engine conversion value
  | convertAll engine pairs => exact Action.undisturbed_convertAll engine pairs
  | retain engine => exact World.undisturbed_of_same rfl rfl
  | release engine => exact World.undisturbed_of_same rfl rfl

theorem Calls.append (first : Calls host heard world calls between)
    (second : Calls host heard between calls' after) : Calls host heard world (calls ++ calls') after := by
  induction first with
  | done => exact second
  | quiet step _ inductionHypothesis => exact .quiet step (inductionHypothesis second)
  | call isHeard answers _ inductionHypothesis => exact .call isHeard answers (inductionHypothesis second)

theorem Calls.of_quiet (step : Quiet world between) : Calls host heard world [] between :=
  .quiet step (.done between)

theorem Calls.snoc_quiet (first : Calls host heard world calls between) (step : Quiet between after) :
    Calls host heard world calls after := by
  have both := first.append (.of_quiet step)
  rwa [List.append_nil] at both

theorem Calm.later (calm : Calm host heard world) (first : Calls host heard world calls between) :
    Calm host heard between :=
  fun _ _ further => calm _ _ (first.append further)

theorem Calm.undisturbed (calm : Calm host heard world) (first : Calls host heard world calls after) :
    World.Undisturbed world after := by
  induction first with
  | done world => exact refl_of World.Undisturbed world
  | quiet step _ inductionHypothesis =>
      exact trans_of World.Undisturbed step.undisturbed
        (inductionHypothesis (calm.later (.of_quiet step)))
  | @call world between _ _ c args answer isHeard answers _ inductionHypothesis =>
      have here : Leads World.Undisturbed world (c.invoke host args) :=
        calm [] world (.done world) c isHeard args
      exact trans_of World.Undisturbed (here.related_of_run answers)
        (inductionHypothesis (calm.later (.call isHeard answers (.done between))))

/-- An action makes the calls that it should and succeeds, or is stopped by an obstacle after some calls. -/
inductive Notifies {α : Type} (host : Host σ) (heard : Callable → Prop)
    (obstacle : World σ → CallError → Prop) (world : World σ) (delivers : List Call → Prop) :
    Except CallError α × World σ → Prop where
  | done {calls : List Call} {answer : α} {after : World σ}
      (made : Calls host heard world calls after) (delivered : delivers calls) :
      Notifies host heard obstacle world delivers (.ok answer, after)
  | stopped {calls : List Call} {cause : CallError} {between after : World σ}
      (made : Calls host heard world calls between) (met : obstacle between cause)
      (undisturbed : World.Undisturbed between after) :
      Notifies host heard obstacle world delivers (.error cause, after)

section Notifies

variable {α β : Type} {obstacle : World σ → CallError → Prop} {delivers delivers' : List Call → Prop}

/-- Calls in sequence. -/
theorem Notifies.bind {step : Action σ CallError α} {next : α → Action σ CallError β}
    (first : Notifies host heard obstacle world delivers (step.run world))
    (rest : ∀ calls answer between, step.run world = (.ok answer, between) →
      Calls host heard world calls between → delivers calls →
        Notifies host heard obstacle between (fun calls' => delivers' (calls ++ calls'))
          ((next answer).run between)) :
    Notifies host heard obstacle world delivers' ((step >>= next).run world) := by
  rw [run_bind]
  generalize ran : step.run world = outcome at first
  cases first with
  | @done calls answer between made delivered =>
      have further := rest calls answer between ran made delivered
      dsimp only
      generalize (next answer).run between = result at further
      cases further with
      | done made' delivered' => exact .done (made.append made') delivered'
      | stopped made' met undisturbed => exact .stopped (made.append made') met undisturbed
  | stopped made met undisturbed => exact .stopped made met undisturbed

theorem Notifies.mono {outcome : Except CallError α × World σ}
    (notifies : Notifies host heard obstacle world delivers outcome)
    (looser : ∀ calls, delivers calls → delivers' calls) :
    Notifies host heard obstacle world delivers' outcome := by
  cases notifies with
  | done made delivered => exact .done made (looser _ delivered)
  | stopped made met undisturbed => exact .stopped made met undisturbed

theorem Notifies.undisturbed {outcome : Except CallError α × World σ} (calm : Calm host heard world)
    (notifies : Notifies host heard obstacle world delivers outcome) :
    World.Undisturbed world outcome.2 := by
  cases notifies with
  | done made => exact calm.undisturbed made
  | stopped made _ undisturbed => exact trans_of World.Undisturbed (calm.undisturbed made) undisturbed

/-- An engine that is alive is kept alive meanwhile, which is no call. -/
theorem Notifies.holding {engine : EngineId} {action : Action σ CallError α}
    (gone : world.isAlive engine = false → obstacle world .engineDropped)
    (notifies : Notifies host heard obstacle (world.retain engine) delivers
      (action.run (world.retain engine))) :
    Notifies host heard obstacle world delivers ((Action.holding engine action).run world) := by
  show Notifies host heard obstacle world delivers
    (if world.isAlive engine then
      ((action.run (world.retain engine)).1, (action.run (world.retain engine)).2.release engine)
    else (.error .engineDropped, world))
  cases alive : world.isAlive engine with
  | false => exact .stopped (.done world) (gone alive) (refl_of World.Undisturbed world)
  | true =>
      have retains : Calls host heard world [] (world.retain engine) := .of_quiet (.retain engine world)
      rw [if_pos rfl]
      generalize action.run (world.retain engine) = outcome at notifies
      cases notifies with
      | done made delivered =>
          exact .done ((retains.append made).snoc_quiet (.release engine _)) delivered
      | stopped made met undisturbed =>
          refine .stopped (retains.append made) met (trans_of World.Undisturbed undisturbed ?_)
          exact (Quiet.release engine _).undisturbed

/-- A step that is no call. -/
theorem Notifies.of_quiet {step : Action σ CallError α} (quiet : Quiet world (step.run world).2)
    (fails : ∀ cause after, step.run world = (.error cause, after) → obstacle world cause)
    (delivered : delivers []) : Notifies host heard obstacle world delivers (step.run world) := by
  cases ran : step.run world with
  | mk outcome after =>
      rw [ran] at quiet
      cases outcome with
      | ok answer => exact .done (.of_quiet quiet) delivered
      | error cause => exact .stopped (.done world) (fails cause after ran) quiet.undisturbed

end Notifies

/-! ### Raising -/

/-- Whether a callable is a handler of an event of an object, or one of a relay on it. -/
inductive World.Hears (world : World σ) (number : Nat) (event : String) : Callable → Prop where
  | direct {c : Callable} (subscribed : .direct c ∈ world.handlersOf number event) :
      Hears world number event c
  | relayed {c : Callable} {relay : Relay} (subscribed : .relay relay ∈ world.handlersOf number event)
      (listed : c ∈ world.listOf relay.id) : Hears world number event c

section Raising

variable (host : Host σ) (start : World σ) (number : Nat) (event : String) (args : List Value)

/-- What a handler delivers when the event is raised: a callable gets the arguments, and what a relay
has in its list gets the arguments as they are converted on the way. -/
inductive Handler.Delivers : Handler → List Call → Prop where
  | direct (c : Callable) : Delivers (.direct c) [⟨c, args⟩]
  | unheard {relay : Relay} (nobody : start.listOf relay.id = []) : Delivers (.relay relay) []
  | relayed {relay : Relay} {calls : List Call} {between after : World σ} {converted : List Value}
      (arity : args.length = relay.plan.argConversions.length)
      (made : Calls host (start.Hears number event) start calls between)
      (converts : (Action.convertAll relay.engine (relay.plan.argConversions.zip args)).run between =
        (.ok converted, after)) :
      Delivers (.relay relay) ((start.listOf relay.id).map fun c => ⟨c, converted⟩)

/-- What may stop an event: a handler fails, a conversion of a relay that has handlers fails, or there is
another number of arguments than it converts, or its engine is gone. -/
inductive Obstacle : World σ → CallError → Prop where
  | handler {c : Callable} {given : List Value} {between after : World σ} {cause : CallError}
      (isHeard : start.Hears number event c)
      (fails : (c.invoke host given).run between = (.error cause, after)) : Obstacle between cause
  | arity {relay : Relay} {c : Callable} {between : World σ}
      (subscribed : .relay relay ∈ start.handlersOf number event) (listed : c ∈ start.listOf relay.id)
      (different : args.length ≠ relay.plan.argConversions.length) :
      Obstacle between
        (.arityMismatch "event relay" relay.plan.argConversions.length args.length)
  | dropped {relay : Relay} {c : Callable} {between : World σ}
      (subscribed : .relay relay ∈ start.handlersOf number event) (listed : c ∈ start.listOf relay.id)
      (gone : between.isAlive relay.engine = false) : Obstacle between .engineDropped
  | argument {relay : Relay} {c : Callable} {between after : World σ} {cause : CallError}
      (subscribed : .relay relay ∈ start.handlersOf number event) (listed : c ∈ start.listOf relay.id)
      (fails : (Action.convertAll relay.engine (relay.plan.argConversions.zip args)).run between =
        (.error cause, after)) : Obstacle between cause
  | result {relay : Relay} {c : Callable} {answer : Value} {between after : World σ} {cause : CallError}
      (subscribed : .relay relay ∈ start.handlersOf number event) (listed : c ∈ start.listOf relay.id)
      (fails : (Action.convert relay.engine relay.plan.resultConversion answer).run between =
        (.error cause, after)) : Obstacle between cause

variable {host start number event args}

/-- Every callable of a list is called once, in order. -/
theorem notifies_callables (calm : Calm host (start.Hears number event) world) (given : List Value)
    (cs : List Callable) (hears : ∀ c ∈ cs, start.Hears number event c) (last : Option Value) :
    Notifies host (start.Hears number event) (Obstacle host start number event args) world
      (fun calls => calls = cs.map fun c => ⟨c, given⟩)
      ((Multicast.runAfter (Callable.invoke host given) last cs).run world) := by
  induction cs generalizing world last with
  | nil => exact .done (.done world) rfl
  | cons c rest inductionHypothesis =>
      have isHeard := hears c List.mem_cons_self
      have further (other : Callable) (member : other ∈ rest) : start.Hears number event other :=
        hears other (List.mem_cons_of_mem c member)
      have here : Notifies host (start.Hears number event) (Obstacle host start number event args) world
          (fun calls => calls = [⟨c, given⟩]) ((c.invoke host given).run world) := by
        have undisturbed := calm [] world (.done world) c isHeard given
        cases ran : (c.invoke host given).run world with
        | mk outcome after =>
            cases outcome with
            | ok answer => exact .done (.call isHeard ran (.done after)) rfl
            | error cause =>
                exact .stopped (.done world) (.handler isHeard ran) (undisturbed.related_of_run ran)
      refine Notifies.bind here fun calls answer between _ made delivered => ?_
      have others := inductionHypothesis (calm.later made) further (some answer)
      simp only [delivered, List.map_cons, List.singleton_append, List.cons.injEq, true_and]
      exact others

/-- A relay without handlers does nothing, and one with handlers delivers converted arguments to them. -/
theorem notifies_relay (calm : Calm host (start.Hears number event) start)
    (reached : Calls host (start.Hears number event) start calls world) {relay : Relay}
    (subscribed : .relay relay ∈ start.handlersOf number event) :
    Notifies host (start.Hears number event) (Obstacle host start number event args) world
      (Handler.Delivers host start number event args (.relay relay))
      ((relay.invoke host args).run world) := by
  -- The list is read only now, but what was called so far has left it as it was when the event was raised.
  have listed : (Action.relayHandlers relay.id : Action σ CallError _).run world =
      (.ok (start.listOf relay.id), world) := by
    rw [← (calm.undisturbed reached).listOf]
    rfl
  rw [Relay.invoke, run_bind, listed]
  dsimp only
  cases list : start.listOf relay.id with
  | nil => exact .done (.done world) (.unheard list)
  | cons c rest =>
      have inList : c ∈ start.listOf relay.id := by
        rw [list]
        exact List.mem_cons_self
      rw [List.isEmpty_cons, if_neg Bool.false_ne_true]
      by_cases arity : args.length = relay.plan.argConversions.length
      · rw [if_neg (not_not_intro arity)]
        refine Notifies.holding (.dropped subscribed inList) ?_
        have held : Calls host (start.Hears number event) start calls (world.retain relay.engine) :=
          reached.snoc_quiet (.retain relay.engine world)
        have convertible : Notifies host (start.Hears number event)
            (Obstacle host start number event args) (world.retain relay.engine) (· = [])
            ((Action.convertAll relay.engine (relay.plan.argConversions.zip args)).run
              (world.retain relay.engine)) :=
          .of_quiet (.convertAll _ _ _) (fun _ _ => .argument subscribed inList) rfl
        refine Notifies.bind convertible ?_
        rintro _ converted ready converts made rfl
        have hears (other : Callable) (member : other ∈ c :: rest) : start.Hears number event other :=
          .relayed subscribed (list ▸ member)
        refine Notifies.bind (notifies_callables (calm.later (held.append made)) converted (c :: rest) hears
          none) ?_
        rintro _ last served _ made' rfl
        refine .of_quiet (.convert _ _ _ _) (fun _ _ => .result subscribed inList) ?_
        have delivers : Handler.Delivers host start number event args (.relay relay)
            ((start.listOf relay.id).map fun c => ⟨c, converted⟩) := .relayed arity held converts
        rw [list] at delivers
        rwa [List.nil_append, List.append_nil]
      · rw [if_pos arity]
        exact .stopped (.done world) (.arity subscribed inList arity)
          (refl_of World.Undisturbed world)

theorem notifies_handler (calm : Calm host (start.Hears number event) start)
    (reached : Calls host (start.Hears number event) start calls world) {handler : Handler}
    (subscribed : handler ∈ start.handlersOf number event) :
    Notifies host (start.Hears number event) (Obstacle host start number event args) world
      (Handler.Delivers host start number event args handler)
      ((handler.invoke host args).run world) := by
  cases handler with
  | relay relay => exact notifies_relay calm reached subscribed
  | direct c =>
      have undisturbed : Leads World.Undisturbed world (c.invoke host args) :=
        calm calls world reached c (.direct subscribed) args
      show Notifies host _ _ world _ ((c.invoke host args).run world)
      cases ran : (c.invoke host args).run world with
      | mk outcome after =>
          cases outcome with
          | ok answer => exact .done (.call (.direct subscribed) ran (.done after)) (.direct c)
          | error cause =>
              exact .stopped (.done world) (.handler (.direct subscribed) ran)
                (undisturbed.related_of_run ran)

/-- Handlers are notified one after the other, in the order of subscription. -/
theorem notifies_handlers (calm : Calm host (start.Hears number event) start) (handlers : List Handler)
    (subscribed : ∀ handler ∈ handlers, handler ∈ start.handlersOf number event)
    (reached : Calls host (start.Hears number event) start calls world) (last : Option Value) :
    Notifies host (start.Hears number event) (Obstacle host start number event args) world
      (fun calls => ∃ deliveries,
        List.Forall₂ (Handler.Delivers host start number event args) handlers deliveries ∧
          calls = deliveries.flatten)
      ((Multicast.runAfter (Handler.invoke host args) last handlers).run world) := by
  induction handlers generalizing world calls last with
  | nil => exact .done (.done world) ⟨[], .nil, rfl⟩
  | cons head tail inductionHypothesis =>
      refine Notifies.bind (notifies_handler calm reached (subscribed head List.mem_cons_self)) ?_
      intro calls' answer between _ made delivered
      have others := inductionHypothesis
        (fun handler member => subscribed handler (List.mem_cons_of_mem head member))
        (reached.append made) (some answer)
      refine others.mono ?_
      rintro _ ⟨deliveries, each, rfl⟩
      exact ⟨calls' :: deliveries, .cons delivered each, rfl⟩

end Raising

/-- Raising an event notifies all its handlers. -/
theorem notifies_raise (start : World σ) (number : Nat) (event : String) (args : List Value)
    (calm : Calm host (start.Hears number event) start) :
    Notifies host (start.Hears number event) (Obstacle host start number event args) start
      (fun calls => ∃ deliveries,
        List.Forall₂ (Handler.Delivers host start number event args) (start.handlersOf number event)
          deliveries ∧ calls = deliveries.flatten)
      ((Action.raise host ⟨.object number, event⟩ args).run start) :=
  notifies_handlers calm (start.handlersOf number event) (fun _ subscribed => subscribed) (.done start) none

end StructuralCast
