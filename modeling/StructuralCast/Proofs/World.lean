import StructuralCast.Cast
import StructuralCast.Proofs.Engine.Move

/-!
Contract: what casting does to a world.

`World.Follows` relates a world to the worlds that the operations of its engines lead to: the
registry stays the same, and every engine changes by moves only. Casting a value is such an operation
(`follows_cast`), and so is presenting static members (`follows_staticCast`), whether they succeed or
fail. `World.Apart` is the closer relation for what touches no engine, such as making an adapter of a
factory.

What a cast does is put together once, for any preorder of worlds: `leads_cast`, `leads_canCastValue`
and `leads_staticCast` take what the requests to the engine do, and what is done when an adapter is
connected to the events of its source and when something gets an identity.
-/

namespace StructuralCast

open Step

namespace World

variable {σ : Type}

theorem engine_setEngine (world : World σ) (id other : EngineId) (engine : Engine) :
    (world.setEngine id engine).engine other =
      if other = id ∧ id.index < world.engines.size then engine else world.engine other := by
  obtain ⟨index⟩ := id
  obtain ⟨index'⟩ := other
  simp only [World.engine, setEngine, Array.getD_eq_getD_getElem?, Array.getElem?_setIfInBounds]
  by_cases same : index = index'
  · subst same
    by_cases bound : index < world.engines.size
    · simp [bound]
    · simp [bound]
  · have different : ¬ (index' = index) := fun equal => same equal.symm
    simp [same, different]

/-- Where a world goes by the operations of its engines. -/
structure Follows (before after : World σ) : Prop where
  registry : after.registry = before.registry
  engines : ∀ id, (before.engine id).id = id →
    Engine.Moves before.registry (before.engine id) (after.engine id)

theorem Follows.trans {before between after : World σ} (first : Follows before between)
    (second : Follows between after) : Follows before after := by
  refine ⟨second.registry.trans first.registry, fun id named => ?_⟩
  have moves := first.engines id named
  have stillNamed : (between.engine id).id = id := moves.edits.sameId.1.trans named
  exact moves.trans (first.registry ▸ second.engines id stillNamed)

instance : IsPreorder (World σ) Follows where
  refl _ := ⟨rfl, fun _ _ => .refl⟩
  trans _ _ _ first second := first.trans second

/-- Nothing has changed but what is apart from types and engines. -/
structure Apart (before after : World σ) : Prop where
  registry : after.registry = before.registry
  engines : after.engines = before.engines

theorem Apart.trans {before between after : World σ} (first : Apart before between)
    (second : Apart between after) : Apart before after :=
  ⟨second.registry.trans first.registry, second.engines.trans first.engines⟩

instance : IsPreorder (World σ) Apart where
  refl _ := ⟨rfl, rfl⟩
  trans _ _ _ first second := first.trans second

theorem Apart.engine {before after : World σ} (apart : Apart before after) (id : EngineId) :
    after.engine id = before.engine id := by
  rw [World.engine, apart.engines]
  rfl

theorem Apart.follows {before after : World σ} (apart : Apart before after) :
    Follows before after := by
  refine ⟨apart.registry, fun id _ => ?_⟩
  rw [apart.engine]

theorem follows_setEngine (world : World σ) (id : EngineId) (engine : Engine)
    (moves : (world.engine id).id = id →
      Engine.Moves world.registry (world.engine id) engine) :
    Follows world (world.setEngine id engine) := by
  refine ⟨rfl, fun other named => ?_⟩
  rw [engine_setEngine]
  split
  case isTrue same =>
    obtain ⟨rfl, _⟩ := same
    exact moves named
  case isFalse => exact .refl

end World

namespace Action

variable {σ ε ε' α : Type} {world : World σ}

theorem run_withEngine (id : EngineId) (step : EngineStep α) :
    (withEngine id step).run world =
      ((step.run (world.engine id)).1, world.setEngine id (step.run (world.engine id)).2) := rfl

theorem ok_of_withEngine {id : EngineId} {step : EngineStep α} {value : α} {after : World σ}
    (ran : (withEngine id step).run world = (.ok value, after)) :
    step.run (world.engine id) = (.ok value, (step.run (world.engine id)).2) := by
  rw [run_withEngine] at ran
  exact Prod.ext (Prod.mk.inj ran).1 rfl

theorem run_mapError (retell : ε → ε') (action : Action σ ε α) :
    (mapError retell action).run world =
      ((action.run world).1.mapError retell, (action.run world).2) := rfl

/-- Retelling failures does not touch successes. -/
theorem ok_of_mapError {retell : ε → ε'} {action : Action σ ε α} {value : α} {after : World σ}
    (ran : (mapError retell action).run world = (.ok value, after)) :
    action.run world = (.ok value, after) := by
  rw [run_mapError] at ran
  obtain ⟨outcome, rfl⟩ := Prod.mk.inj ran
  cases result : (action.run world).1 with
  | error cause =>
      rw [result] at outcome
      cases outcome
  | ok found =>
      rw [result] at outcome
      cases outcome
      exact Prod.ext result rfl

/-- Retelling failures does not touch the world. -/
theorem after_of_mapError {retell : ε → ε'} {action : Action σ ε α} {outcome : Except ε' α}
    {after : World σ} (ran : (mapError retell action).run world = (outcome, after)) :
    action.run world = ((action.run world).1, after) := by
  rw [run_mapError] at ran
  exact Prod.ext rfl (Prod.mk.inj ran).2

theorem follows_withEngine (id : EngineId) (step : EngineStep α)
    (moves : (world.engine id).id = id →
      Leads (Engine.Moves world.registry) (world.engine id) step) :
    Leads World.Follows world (withEngine id step) :=
  world.follows_setEngine id _ moves

theorem follows_onEngine (id : EngineId) (step : StateM Engine α)
    (moves : (world.engine id).id = id →
      Engine.Moves world.registry (world.engine id) (step (world.engine id)).2) :
    Leads World.Follows world (onEngine id step : Action σ ε α) :=
  world.follows_setEngine id _ moves

theorem apart_freshRef : Leads World.Apart world (freshRef : Action σ ε Ref) := ⟨rfl, rfl⟩

theorem apart_newRelayList : Leads World.Apart world (newRelayList : Action σ ε RelayId) :=
  ⟨rfl, rfl⟩

theorem apart_subscribe (key : EventKey) (handler : Handler) :
    Leads World.Apart world (subscribe key handler : Action σ ε Unit) := by
  show World.Apart world (if keepsHandlers world.registry key then _ else world)
  split
  case isTrue => exact ⟨rfl, rfl⟩
  case isFalse => exact ⟨rfl, rfl⟩

end Action

namespace Cast

variable {σ : Type} {world : World σ}

/-- Connecting an adapter makes lists and subscribes relays. -/
theorem leads_connect {related : World σ → World σ → Prop} [IsPreorder (World σ) related]
    (lists : ∀ between : World σ, related between { between with relayed := between.relayed.push [] })
    (subscribes : ∀ (between : World σ) (key : EventKey) (relay : Relay),
      Leads related between (Action.subscribe key (.relay relay) : Action σ CallError Unit))
    (factory : Factory) (source : Value) (slots : List EventSlot) :
    Leads related world (connect factory source slots) := by
  induction slots generalizing world with
  | nil => exact Leads.pure _
  | cons slot rest inductionHypothesis =>
      have others : ∀ (relay : Option RelayId) (between : World σ),
          Leads related between (do
            let others ← connect factory source rest
            return relay :: others) :=
        fun relay between => Leads.bind inductionHypothesis fun _ _ _ => Leads.pure _
      simp only [connect]
      cases slot.relay with
      | none => exact others none world
      | some plan =>
          refine Leads.get_bind ?_
          cases eventKey world.registry factory source slot.sourceEvent with
          | error cause =>
              exact Leads.bind (Leads.throw cause) fun relay between _ => others relay between
          | ok key =>
              have listed : Leads related world (Action.newRelayList : Action σ CallError RelayId) :=
                lists world
              refine Leads.bind listed fun id between _ => ?_
              refine Leads.bind (subscribes between key _) fun _ after _ => ?_
              exact others (some id) after

theorem apart_connect (factory : Factory) (source : Value) (slots : List EventSlot) :
    Leads World.Apart world (connect factory source slots) :=
  leads_connect (fun _ => ⟨rfl, rfl⟩) (fun _ _ _ => Action.apart_subscribe _ _) factory source slots

/-- What is made is an adapter of the factory over the source. -/
theorem adapter_of_adapt {factory : Factory} {source made : Value} {after : World σ}
    (adapts : (adapt factory source).run world = (.ok made, after)) :
    ∃ ref relays, made = .adapter ref factory source relays := by
  unfold adapt at adapts
  obtain ⟨relays, between, _, adapts⟩ := ok_of_run_bind adapts
  obtain ⟨ref, numbered, _, adapts⟩ := ok_of_run_bind adapts
  cases adapts
  exact ⟨ref, relays, rfl⟩

/-- For a shape, a value is adapted by a factory that the engine hands out. -/
theorem adapts_of_interface {id : EngineId} {target : TypeId} {plain made : Value} {after : World σ}
    (casts : (byStrategy id target plain .interface).run world = (.ok made, after)) :
    ∃ factory between,
      (Action.withEngine id (Engine.factory world.registry target
        (plain.type?.getD .object))).run world = (.ok factory, between) ∧
      (adapt factory plain).run between = (.ok made, after) := by
  unfold byStrategy at casts
  rw [run_bind] at casts
  dsimp only [run_get] at casts
  obtain ⟨factory, between, searches, adapts⟩ := ok_of_run_bind casts
  exact ⟨factory, between, searches, Action.ok_of_mapError adapts⟩

/-- For a delegate type, a callable is wrapped with a factory that the engine hands out. -/
theorem wraps_of_delegate {id : EngineId} {target : TypeId} {plain made : Value} {after : World σ}
    (casts : (byStrategy id target plain .delegate).run world = (.ok made, after)) :
    ∃ c factory between ref, plain = .callable c ∧
      (Action.withEngine id (Engine.delegateFactory world.registry target c.type)).run world =
        (.ok factory, between) ∧
      made = .callable (.adapted ref factory c) := by
  unfold byStrategy at casts
  rw [run_bind] at casts
  dsimp only [run_get] at casts
  cases plain with
  | callable c =>
      obtain ⟨factory, between, searches, wraps⟩ := ok_of_run_bind casts
      cases wraps
      exact ⟨c, factory, between, _, rfl, searches, rfl⟩
  | _ => cases casts

section Leads

variable {related : World σ → World σ → Prop} [IsPreorder (World σ) related] {id : EngineId}
  {target : TypeId}
  (connects : ∀ (factory : Factory) (source : Value) (between : World σ),
    Leads related between (connect factory source factory.events))
  (numbers : ∀ between : World σ, related between { between with nextRef := between.nextRef + 1 })

include connects numbers in
/-- Making an adapter connects it and gives it an identity. -/
theorem leads_adapt (factory : Factory) (source : Value) :
    Leads related world (adapt factory source) := by
  refine Leads.bind (connects factory source world) fun relays between _ => ?_
  have numbered : Leads related between (Action.freshRef : Action σ CallError Ref) := numbers between
  exact Leads.bind numbered fun _ _ _ => Leads.pure _

/-- An adapter is made apart from types and engines. -/
theorem apart_adapt (factory : Factory) (source : Value) :
    Leads World.Apart world (adapt factory source) :=
  leads_adapt (fun factory source _ => apart_connect factory source factory.events)
    (fun _ => ⟨rfl, rfl⟩) factory source

variable (searches : ∀ source, Leads related world
    (Action.withEngine id (Engine.factory world.registry target source)))
  (delegates : ∀ source, Leads related world
    (Action.withEngine id (Engine.delegateFactory world.registry target source)))

include connects numbers searches delegates

/-- A strategy asks its engine for a factory or for a delegate factory. What it does besides is to connect
adapters and to give out identities. -/
theorem leads_byStrategy (value : Value) (strategy : Strategy) :
    Leads related world (byStrategy id target value strategy) := by
  cases strategy with
  | interface =>
      refine Leads.get_bind (Leads.bind (searches _) fun factory between _ => ?_)
      exact leads_adapt connects numbers factory value
  | delegate =>
      refine Leads.get_bind ?_
      cases value with
      | callable c =>
          refine Leads.bind (delegates c.type) fun factory between _ => ?_
          have numbered : Leads related between (Action.freshRef : Action σ CastError Ref) :=
            numbers between
          exact Leads.bind numbered fun _ _ _ => Leads.pure _
      | _ => exact Leads.throw _
  | enumText =>
      refine Leads.get_bind ?_
      cases value with
      | text ref content =>
          cases parsed : parseEnum world.registry target content with
          | ok value =>
              simp only [parsed]
              exact Leads.pure _
          | error cause =>
              simp only [parsed]
              exact Leads.throw _
      | enumeration type number =>
          by_cases toText : target = .text
          · simp only [toText, if_true]
            exact numbers world
          · simp only [toText, if_false]
            exact Leads.throw _
      | _ => exact Leads.throw _
  | genericParam => exact Leads.pure value

/-- A cast does nothing to a world but what its strategy does. -/
theorem leads_cast (value : Value) : Leads related world (cast id target value) := by
  unfold cast
  refine Leads.get_bind ?_
  dsimp only
  split
  case isTrue => exact Leads.throw _
  case isFalse =>
    split
    case isTrue => exact Leads.pure _
    case isFalse =>
      split
      case isTrue => exact Leads.pure _
      case isFalse =>
        split
        case h_1 strategy _ => exact leads_byStrategy connects numbers searches delegates _ strategy
        case h_2 => exact Leads.throw _

end Leads

/-- Asking about a value asks the engine about its type, if it asks anything. -/
theorem leads_canCastValue {related : World σ → World σ → Prop} [IsPreorder (World σ) related]
    {id : EngineId} {target : TypeId}
    (asks : ∀ source, Leads related world
      (Action.onEngine id (Engine.canCast world.registry target source) : Action σ CastError Bool))
    (value : Value) : Leads related world (canCastValue id target value) := by
  unfold canCastValue
  refine Leads.get_bind ?_
  dsimp only
  split
  case isTrue => exact Leads.pure _
  case isFalse =>
    split
    case isTrue => exact Leads.pure _
    case isFalse =>
      split
      case h_1 source _ => exact asks source
      case h_2 => exact Leads.pure _

/-- Resolves a shape against the static members of a type and plans the conversions. -/
def generateStatic (engine : EngineId) (registry : Registry) (shape source : TypeId) :
    Action σ CastError Factory :=
  Action.withEngine engine do
    let blueprint ← Engine.resolve registry true shape source
    Engine.raising (registry.synthesize engine blueprint)

/-- Keeps the adapter of the static members of a type. -/
def keepStatic (engine : EngineId) (shape source : TypeId) (made : Value) :
    Action σ CastError PUnit :=
  Action.onEngine engine <| modify fun state =>
    { state with statics := state.statics.insert shape source made }

/-- Presenting static members makes an adapter of a new factory and keeps it in the engine. -/
theorem leads_staticCast {related : World σ → World σ → Prop} [IsPreorder (World σ) related]
    {id : EngineId} {shape source : TypeId}
    (apart : ∀ {before after : World σ}, World.Apart before after → related before after)
    (generates : Leads related world (generateStatic id world.registry shape source))
    (keeps : ∀ {factory : Factory} {between adapted : World σ} (ref : Ref)
      (relays : List (Option RelayId)),
      (generateStatic id world.registry shape source).run world = (.ok factory, between) →
      World.Apart between adapted →
      Leads related adapted (keepStatic id shape source (.adapter ref factory .null relays))) :
    Leads related world (staticCast id shape source) := by
  unfold staticCast
  refine Leads.get_bind ?_
  dsimp only
  split
  case isFalse => exact Leads.throw _
  case isTrue =>
    split
    case h_1 ready _ => exact Leads.pure ready
    case h_2 =>
      refine Leads.bind generates fun factory between generated => ?_
      refine Leads.bind (apart (apart_adapt factory .null)) fun made adapted makes => ?_
      obtain ⟨ref, relays, rfl⟩ := adapter_of_adapt (Action.ok_of_mapError makes)
      have beside : World.Apart between adapted :=
        (apart_adapt factory .null).related_of_run (Action.after_of_mapError makes)
      exact Leads.bind (keeps ref relays generated beside) fun _ _ _ => Leads.pure _

/-- A cast keeps the registry, and all that it changes in engines are moves. -/
theorem follows_cast (engine : EngineId) (target : TypeId) (value : Value) :
    Leads World.Follows world (cast engine target value) := by
  refine leads_cast (fun factory source _ => (apart_connect factory source factory.events).follows)
    (fun _ => World.Apart.follows ⟨rfl, rfl⟩) (fun source => ?_) (fun source => ?_) value
  · exact Action.follows_withEngine engine _ fun _ => Engine.moves_factory _ _ _
  · exact Action.follows_withEngine engine _ fun _ => Engine.moves_delegateFactory _ _ _

theorem follows_canCastValue (engine : EngineId) (target : TypeId) (value : Value) :
    Leads World.Follows world (canCastValue engine target value) :=
  leads_canCastValue
    (fun source => Action.follows_onEngine engine _ fun _ => Engine.moves_canCast target source _) value

/-- The factory of a static adapter is one that some answers lead to. -/
theorem plans_of_generateStatic {engine : EngineId} {registry : Registry} {shape source : TypeId}
    {factory : Factory} {after : World σ}
    (generates : (generateStatic engine registry shape source).run world = (.ok factory, after)) :
    registry.Plans engine true shape source factory := by
  obtain ⟨blueprint, between, resolves, synthesizes⟩ :=
    ok_of_run_bind (Action.ok_of_withEngine generates)
  exact ⟨blueprint, Engine.outcome_of_resolve resolves, congrArg Prod.fst synthesizes⟩

theorem follows_generateStatic (engine : EngineId) (shape source : TypeId) :
    Leads World.Follows world (generateStatic engine world.registry shape source) := by
  refine Action.follows_withEngine engine _ fun _ => ?_
  refine Leads.bind (.single (.change (Engine.change_resolve true shape source _))) ?_
  exact fun _ _ _ => Leads.raising _

theorem follows_staticCast (engine : EngineId) (shape source : TypeId) :
    Leads World.Follows world (staticCast engine shape source) := by
  refine leads_staticCast World.Apart.follows (follows_generateStatic engine shape source) ?_
  intro factory between adapted ref relays generates beside
  have sameRegistry : adapted.registry = world.registry :=
    beside.registry.trans
      ((follows_generateStatic engine shape source).related_of_run generates).registry
  refine Action.follows_onEngine engine _ fun named => ?_
  refine .single (.change (.keepStatic _ shape source ref factory relays ?_))
  rw [named, sameRegistry]
  exact plans_of_generateStatic generates

end Cast
end StructuralCast
