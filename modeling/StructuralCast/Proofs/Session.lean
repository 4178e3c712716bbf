import StructuralCast.Proofs.Cast.Memory
import StructuralCast.Proofs.Forwarding.Conveyance

/-!
Contract: what engines have found out is there for the rest of a session.

An `Act` is one operation on the registry, on an engine, or on what is apart from both. A session takes
its `Turns`: acts, uses of adapters, calls, raised events and subscriptions. All of these run routines
of the host in between, which may do the same: a host is `Confined` if what its routines do to a world
comes to acts in the end. So does then all of a session (`Turns.acts`).

Acts lose nothing: a registry develops, and an engine accrues (`Act.accrues`). `Lasting` says what that
means for those who ask an engine, and `lasting_of_turns` that it is true of every engine, wherever a
session has got to.
-/

namespace StructuralCast

open Step

variable {σ : Type}

namespace Registry

variable {registry before after : Registry}

namespace Retains

variable (retains : Retains before after) {target source : TypeId}

include retains

theorem issued {id : TypeId} (issued : before.issued id = true) : after.issued id = true := by
  have larger := retains.larger
  have within := issued_iff.1 issued
  exact issued_iff.2 (by omega)

theorem knows (known : Engine.knows before target source = true) :
    Engine.knows after target source = true := by
  rw [Engine.knows, Bool.and_eq_true] at known ⊢
  exact ⟨retains.issued known.1, retains.issued known.2⟩

theorem claimsStatic (known : Engine.knows before target source = true)
    (claimed : Engine.claimsStatic before target source = true) :
    Engine.claimsStatic after target source = true := by
  rw [Engine.knows, Bool.and_eq_true] at known
  rw [Engine.claimsStatic, Registry.kind, Registry.kind] at claimed ⊢
  rw [(retains.declared known.1).1, (retains.declared known.2).1]
  exact claimed

theorem delegates (delegates : Engine.Delegates before target source) :
    Engine.Delegates after target source := by
  obtain ⟨known, wanted, offered⟩ := delegates
  refine ⟨retains.knows known, ?_⟩
  rw [Engine.knows, Bool.and_eq_true] at known
  simp only [TypeInfo.isDelegate, (retains.declared known.1).1, (retains.declared known.2).1]
  exact ⟨wanted, offered⟩

end Retains
end Registry

/-! ### Acts -/

namespace World

/-- One operation that runs no routine of the host. -/
inductive Act : World σ → World σ → Prop where
  | apart {before after : World σ} (apart : Apart before after) : Act before after
  | develop {world : World σ} {registry : Registry} (develops : world.registry.Develops registry)
      (events : EventTable) : Act world { world with registry := registry, events := events }
  | register (world : World σ) (key : TypeKey) (kind : TypeKind) (definition : Definition) :
      Act world { world with registry := (world.registry.register key kind definition).1 }
  | addEngine (world : World σ) (config : Config) : Act world (world.addEngine config).2
  | retain (world : World σ) (id : EngineId) : Act world (world.retain id)
  | release (world : World σ) (id : EngineId) : Act world (world.release id)
  | canCast (world : World σ) (id : EngineId) (target source : TypeId) :
      Act world ((Action.onEngine id (Engine.canCast world.registry target source) :
        Action σ CastError Bool).run world).2
  | canStaticCast (world : World σ) (id : EngineId) (shape source : TypeId) :
      Act world ((Action.onEngine id (Engine.canStaticCast world.registry shape source) :
        Action σ CastError Bool).run world).2
  | prepare (world : World σ) (id : EngineId) (target source : TypeId) :
      Act world ((Action.withEngine id (Engine.prepare world.registry target source)).run world).2
  | requestDelegateFactory (world : World σ) (id : EngineId) (target source : TypeId) :
      Act world ((Action.withEngine id
        (Engine.requestDelegateFactory world.registry target source)).run world).2
  | canCastValue (world : World σ) (id : EngineId) (target : TypeId) (value : Value) :
      Act world ((Cast.canCastValue id target value).run world).2
  | cast (world : World σ) (id : EngineId) (target : TypeId) (value : Value) :
      Act world ((Cast.cast id target value).run world).2
  | staticCast (world : World σ) (id : EngineId) (shape source : TypeId) :
      Act world ((Cast.staticCast id shape source).run world).2

/-- Any number of acts. -/
abbrev Acts : World σ → World σ → Prop := Relation.ReflTransGen Act

instance : IsPreorder (World σ) Acts where
  refl _ := .refl
  trans _ _ _ := .trans

end World

/-- Whatever the routines of a host do to a world comes to acts. -/
def Host.Confined (host : Host σ) : Prop := ∀ request world, Leads World.Acts world (host request)

/-- One turn of a session. -/
inductive Turn (host : Host σ) : World σ → World σ → Prop where
  | act {before after : World σ} (acts : before.Act after) : Turn host before after
  | use (world : World σ) (adapter : Adapter) (use : Adapter.Use) :
      Turn host world ((use.run host adapter).run world).2
  | invoke (world : World σ) (c : Callable) (args : List Value) :
      Turn host world ((c.invoke host args).run world).2
  | raise (world : World σ) (key : EventKey) (args : List Value) :
      Turn host world ((Action.raise host key args).run world).2
  | subscribe (world : World σ) (adapter : Adapter) (name : String) (value : Value) :
      Turn host world ((adapter.subscribe name value).run world).2
  | unsubscribe (world : World σ) (adapter : Adapter) (name : String) (value : Value) :
      Turn host world ((adapter.unsubscribe name value).run world).2

/-- Any number of turns. -/
abbrev Turns (host : Host σ) : World σ → World σ → Prop := Relation.ReflTransGen (Turn host)

variable {host : Host σ} {world between later before after : World σ} {id : EngineId}

/-- Forwarding comes to casts and to what routines do. -/
theorem Turn.acts (confined : host.Confined) (turn : Turn host before after) :
    World.Acts before after := by
  have retains : ∀ (world : World σ) (id : EngineId), World.Acts world (world.retain id) :=
    fun world id => .single (.retain world id)
  have releases : ∀ (world : World σ) (id : EngineId), World.Acts world (world.release id) :=
    fun world id => .single (.release world id)
  have casts : ∀ (id : EngineId) (world : World σ) (target : TypeId) (value : Value),
      Leads World.Acts world (Cast.cast id target value) :=
    fun id world target value => .single (.cast world id target value)
  have apart : ∀ {before after : World σ}, World.Apart before after → World.Acts before after :=
    fun apart => .single (.apart apart)
  cases turn with
  | act act => exact .single act
  | use adapter use => exact Adapter.Use.leads_run retains releases casts confined adapter use
  | invoke c args => exact Callable.leads_invoke retains releases casts confined c args before
  | raise key args => exact Action.leads_raise retains releases casts confined key args
  | subscribe adapter name value =>
      exact Adapter.leads_subscribe retains releases apart adapter name value
  | unsubscribe adapter name value =>
      exact Adapter.leads_unsubscribe retains releases apart adapter name value

theorem Turns.acts (confined : host.Confined) (turns : Turns host before after) :
    World.Acts before after := by
  induction turns with
  | refl => exact .refl
  | tail _ turn inductionHypothesis => exact inductionHypothesis.trans (turn.acts confined)

/-- Routines may take turns of their own. -/
theorem Host.Confined.of_turns (confined : host.Confined) {further : Host σ}
    (takes : ∀ request world, Leads (Turns host) world (further request)) : further.Confined :=
  fun request world => Turns.acts confined (takes request world)

/-! ### Acts lose nothing -/

namespace World

/-- The registry develops, and the engines lose nothing that they have found out. An engine that is new
has accrued what it has since it was made. -/
structure Accrues (before after : World σ) : Prop where
  develops : Relation.ReflTransGen Registry.Develops before.registry after.registry
  engines : ∀ id, before.Has id → after.Has id ∧ (before.engine id).Accrues (after.engine id)
  newcomers : ∀ id, ¬ before.Has id → ∃ config, (Engine.fresh id config).Accrues (after.engine id)

/-- An engine that has not been made looks like one that is new. -/
theorem engine_of_not_has (missing : ¬ world.Has id) :
    world.engine id = Engine.fresh id Config.standard := by
  have beyond : world.engines[id.index]? = none :=
    Array.getElem?_eq_none (Nat.le_of_not_lt missing)
  rw [World.engine, Array.getD_eq_getD_getElem?, beyond]
  rfl

theorem Accrues.trans (first : Accrues before between) (further : Accrues between after) :
    Accrues before after := by
  refine ⟨first.develops.trans further.develops, fun id has => ?_, fun id missing => ?_⟩
  · obtain ⟨hasThen, accrues⟩ := first.engines id has
    obtain ⟨hasLater, accruesFurther⟩ := further.engines id hasThen
    exact ⟨hasLater, accrues.trans accruesFurther⟩
  · by_cases hasThen : between.Has id
    · obtain ⟨config, accrues⟩ := first.newcomers id missing
      exact ⟨config, accrues.trans (further.engines id hasThen).2⟩
    · exact further.newcomers id hasThen

/-- Where engines are made is apart from what the engines do that there are. -/
theorem accrues_of_engines
    (develops : Relation.ReflTransGen Registry.Develops before.registry after.registry)
    (size : after.engines.size = before.engines.size)
    (engines : ∀ id, (before.engine id).Accrues (after.engine id)) : Accrues before after := by
  refine ⟨develops, fun id has => ⟨by rwa [Has, size], engines id⟩, fun id missing => ?_⟩
  have accrues := engines id
  rw [engine_of_not_has missing] at accrues
  exact ⟨_, accrues⟩

instance : IsPreorder (World σ) Accrues where
  refl _ := accrues_of_engines .refl rfl fun _ => .refl _
  trans _ _ _ first further := first.trans further

theorem Apart.accrues (apart : Apart before after) : Accrues before after := by
  refine accrues_of_engines (apart.registry ▸ .refl) (by rw [apart.engines]) fun id => ?_
  rw [apart.engine]
  exact .refl _

theorem accrues_setEngine {engine : Engine} (accrues : (world.engine id).Accrues engine) :
    Accrues world (world.setEngine id engine) := by
  refine accrues_of_engines .refl (by simp [setEngine]) fun other => ?_
  rw [engine_setEngine]
  split
  case isTrue same =>
    obtain ⟨rfl, _⟩ := same
    exact accrues
  case isFalse => exact .refl _

theorem engine_addEngine (world : World σ) (config : Config) (id : EngineId) :
    (world.addEngine config).2.engine id =
      if id.index = world.engines.size then Engine.fresh id config else world.engine id := by
  obtain ⟨index⟩ := id
  show (world.engines.push _).getD index _ = _
  rw [Array.getD_eq_getD_getElem?, Array.getElem?_push]
  split
  case isTrue same =>
    obtain rfl : index = world.engines.size := same
    rfl
  case isFalse => exact (Array.getD_eq_getD_getElem? ..).symm

theorem accrues_addEngine (world : World σ) (config : Config) :
    Accrues world (world.addEngine config).2 := by
  refine ⟨.refl, fun id has => ⟨?_, ?_⟩, fun id missing => ?_⟩
  · show id.index < (world.engines.push _).size
    rw [Array.size_push]
    exact Nat.lt_succ_of_lt has
  · rw [engine_addEngine, if_neg (Nat.ne_of_lt has)]
    exact .refl _
  · rw [engine_addEngine, engine_of_not_has missing]
    split
    case isTrue => exact ⟨_, .refl _⟩
    case isFalse => exact ⟨_, .refl _⟩

/-- Making an adapter touches no engine, so a cast does to engines what its strategy asks them. -/
theorem accrues_cast (id : EngineId) (target : TypeId) (value : Value) :
    Leads Accrues world (Cast.cast id target value) := by
  refine Cast.leads_cast
    (fun factory source _ => (Cast.apart_connect factory source factory.events).accrues)
    (fun _ => Apart.accrues ⟨rfl, rfl⟩) (fun source => ?_) (fun source => ?_) value
  · exact accrues_setEngine (Engine.moves_factory target source (world.engine id)).accrues
  · exact accrues_setEngine (Engine.moves_delegateFactory target source (world.engine id)).accrues

theorem accrues_staticCast (id : EngineId) (shape source : TypeId) :
    Leads Accrues world (Cast.staticCast id shape source) := by
  have generates : Leads Engine.Accrues (world.engine id) (do
      let blueprint ← Engine.resolve world.registry true shape source
      Engine.raising (world.registry.synthesize id blueprint)) :=
    Leads.bind (Engine.change_resolve true shape source _).accrues fun _ _ _ => Leads.raising _
  refine Cast.leads_staticCast Apart.accrues (accrues_setEngine generates) ?_
  intro factory between adapted ref relays _ _
  exact accrues_setEngine (Engine.accrues_statics _ shape source _)

theorem Act.accrues (act : Act before after) : Accrues before after := by
  cases act with
  | apart apart => exact apart.accrues
  | develop develops => exact accrues_of_engines (.single develops) rfl fun _ => .refl _
  | register key kind definition =>
      exact accrues_of_engines (Registry.develops_register _ key kind definition) rfl fun _ => .refl _
  | addEngine config => exact accrues_addEngine before config
  | retain id => exact accrues_setEngine (Engine.accrues_owners _ _)
  | release id => exact accrues_setEngine (Engine.accrues_owners _ _)
  | canCast id target source => exact accrues_setEngine (Engine.moves_canCast target source _).accrues
  | canStaticCast id shape source =>
      exact accrues_setEngine (Engine.moves_canStaticCast shape source _).accrues
  | prepare id target source => exact accrues_setEngine (Engine.moves_prepare target source _).accrues
  | requestDelegateFactory id target source =>
      exact accrues_setEngine (Engine.moves_requestDelegateFactory target source _).accrues
  | canCastValue id target value =>
      refine Cast.leads_canCastValue (fun source => ?_) value
      exact accrues_setEngine (Engine.moves_canCast target source _).accrues
  | cast id target value => exact accrues_cast id target value
  | staticCast id shape source => exact accrues_staticCast id shape source

theorem Acts.accrues (acts : Acts before after) : Accrues before after := by
  induction acts with
  | refl => exact refl_of Accrues before
  | tail _ act inductionHypothesis => exact inductionHypothesis.trans act.accrues

end World

/-! ### For the rest of a session -/

/-- What can be relied on of an engine for the rest of a session. -/
structure Lasting (host : Host σ) (id : EngineId) (world : World σ) : Prop where
  verdicts : ∀ later, Turns host world later →
    (later.engine id).verdicts.Extends (world.engine id).verdicts
  staticVerdicts : ∀ later, Turns host world later →
    (later.engine id).staticVerdicts.Extends (world.engine id).staticVerdicts
  isPrepared : ∀ later, Turns host world later → ∀ target source,
    (world.engine id).isPrepared world.registry target source = true →
      (later.engine id).isPrepared later.registry target source = true
  isStaticPrepared : ∀ later, Turns host world later → ∀ shape source,
    (world.engine id).statics.contains shape source = true →
      (later.engine id).statics.contains shape source = true
  verdictCount : ∀ later, Turns host world later →
    (world.engine id).verdictCount ≤ (later.engine id).verdictCount
  factoryCount : ∀ later, Turns host world later →
    (world.engine id).factoryCount ≤ (later.engine id).factoryCount
  /-- A factory that is kept for a pair is the only one that is ever made for it. -/
  factory : ∀ later, Turns host world later → ∀ shape source made,
    (world.engine id).interfaces.find? shape source = some made →
      (Action.withEngine id (Engine.exactFactory later.registry shape source)).run later =
        (.ok made, later)
  delegateFactory : ∀ later, Turns host world later → ∀ target source made,
    (world.engine id).delegates.find? target source = some made →
      (Action.withEngine id (Engine.delegateFactory later.registry target source)).run later =
        (.ok made, later)
  /-- After its first success, a request for a delegate factory has the same answer. -/
  requestAgain : ∀ target source made between,
    (Action.withEngine id (Engine.requestDelegateFactory world.registry target source)).run world =
      (.ok made, between) → ∀ later, Turns host between later →
        (Action.withEngine id
          (Engine.requestDelegateFactory later.registry target source)).run later = (.ok made, later)
  /-- After its first success, presenting static members gives the same adapter. -/
  staticCastAgain : ∀ shape source made between,
    (Cast.staticCast id shape source).run world = (.ok made, between) →
      ∀ later, Turns host between later →
        (Cast.staticCast id shape source).run later = (.ok made, later)
  /-- What is made for a pair is kept for it, and a failure leaves nothing. -/
  factoryKept : ∀ shape source outcome after,
    (Action.withEngine id (Engine.exactFactory world.registry shape source)).run world =
      (outcome, after) → (after.engine id).interfaces.find? shape source = outcome.toOption
  delegateFactoryKept : ∀ target source outcome after,
    (Action.withEngine id (Engine.delegateFactory world.registry target source)).run world =
      (outcome, after) → (after.engine id).delegates.find? target source = outcome.toOption
  staticCastKept : ∀ shape source outcome after, Cast.Presentable id shape source world →
    (Cast.staticCast id shape source).run world = (outcome, after) →
      (after.engine id).statics.find? shape source = outcome.toOption
  searchFails : ∀ shape source cause after,
    (Action.withEngine id (Engine.factory world.registry shape source)).run world =
      (.error cause, after) → (after.engine id).interfaces = (world.engine id).interfaces ∧
        (after.engine id).hasFactory world.registry shape source = false
  /-- A question that is repeated at once has the same answer, and nothing changes any more. -/
  canCastAgain : ∀ target source answer after,
    (Action.onEngine id (Engine.canCast world.registry target source) :
      Action σ CastError Bool).run world = (.ok answer, after) →
        (Action.onEngine id (Engine.canCast after.registry target source) :
          Action σ CastError Bool).run after = (.ok answer, after)

section Lasting

variable {target source shape : TypeId}

/-- After its first success, a request for a delegate factory has the same answer, as long as the engine
accrues and the registry retains what it knew. -/
theorem request_again {made : DelegateFactory} (has : world.Has id)
    (makes : (Action.withEngine id
      (Engine.requestDelegateFactory world.registry target source)).run world = (.ok made, between))
    (accrues : between.Accrues later) (retains : world.registry.Retains later.registry) :
    (Action.withEngine id (Engine.requestDelegateFactory later.registry target source)).run later =
      (.ok made, later) := by
  have delegates := Engine.delegates_of_request (Action.ok_of_withEngine makes)
  rw [Engine.requestDelegateFactory_eq (retains.delegates delegates)]
  have hasThen : between.Has id := by
    have act := World.Act.requestDelegateFactory world id target source
    rw [makes] at act
    exact (act.accrues.engines id has).1
  rw [Engine.requestDelegateFactory_eq delegates] at makes
  obtain ⟨hasLater, keeps⟩ := accrues.engines id hasThen
  have first := Engine.memoized_delegateFactory world.registry target source
  have further := Engine.memoized_delegateFactory later.registry target source
  exact (Action.memoized_withEngine first id).again (Action.memoized_withEngine further id)
    ⟨has, trivial⟩ makes (keeps.delegates.keeps target source made) ⟨hasLater, trivial⟩

/-- After its first success, presenting static members gives the same adapter. -/
theorem staticCast_again {made : Value} (has : world.Has id)
    (makes : (Cast.staticCast id shape source).run world = (.ok made, between))
    (accrues : between.Accrues later) (retains : world.registry.Retains later.registry) :
    (Cast.staticCast id shape source).run later = (.ok made, later) := by
  have presentable := Cast.presentable_of_staticCast has makes
  have ⟨_, known, claimed⟩ := presentable
  have hasThen : between.Has id := by
    have act := World.Act.staticCast world id shape source
    rw [makes] at act
    exact (act.accrues.engines id has).1
  obtain ⟨hasLater, keeps⟩ := accrues.engines id hasThen
  have memoized : Memoized _ _ (Cast.staticCast id shape source : Action σ CastError Value) :=
    Cast.memoized_staticCast id shape source
  exact memoized.again memoized presentable makes (keeps.statics.keeps shape source made)
    ⟨hasLater, retains.knows known, retains.claimsStatic known claimed⟩

/-- A question that is repeated at once has the same answer, and nothing changes any more. -/
theorem canCast_repeated {answer : Bool} (has : world.Has id)
    (asks : (Action.onEngine id (Engine.canCast world.registry target source) :
      Action σ CastError Bool).run world = (.ok answer, after)) :
    (Action.onEngine id (Engine.canCast after.registry target source) :
      Action σ CastError Bool).run after = (.ok answer, after) := by
  rw [Action.run_onEngine] at asks
  have repeated := Engine.canCast_again world.registry target source (world.engine id)
  generalize Engine.canCast world.registry target source (world.engine id) = asked at asks repeated
  obtain ⟨isAnswer, rfl⟩ := Prod.mk.inj asks
  obtain rfl := Except.ok.inj isAnswer
  have sameRegistry : (world.setEngine id asked.2).registry = world.registry := rfl
  rw [Action.run_onEngine, sameRegistry, World.engine_setEngine_self has, repeated]
  have unchanged := World.setEngine_engine (world.setEngine id asked.2) id
  rw [World.engine_setEngine_self has] at unchanged
  rw [unchanged]

end Lasting

/-- Wherever a session has got to, what its engines have found out lasts. -/
theorem lasting_of_turns (confined : host.Confined) {start : σ}
    (reached : Turns host (World.initial start) world) (has : world.Has id) :
    Lasting host id world := by
  have grown : world.registry.Grown :=
    (Registry.retains_of_develops (reached.acts confined).accrues.develops .initial).2
  have accrues : ∀ {earlier later : World σ}, Turns host earlier later → earlier.Accrues later :=
    fun turns => (turns.acts confined).accrues
  have engines : ∀ {earlier later : World σ}, Turns host earlier later → earlier.Has id →
      (earlier.engine id).Accrues (later.engine id) :=
    fun turns made => ((accrues turns).engines id made).2
  have retains : ∀ {later : World σ}, Turns host world later →
      world.registry.Retains later.registry :=
    fun turns => (Registry.retains_of_develops (accrues turns).develops grown).1
  refine {
    verdicts := fun later turns => (engines turns has).verdicts.keeps
    staticVerdicts := fun later turns => (engines turns has).staticVerdicts.keeps
    isPrepared := fun later turns target source prepared => ?_
    isStaticPrepared := fun later turns shape source present =>
      (engines turns has).statics.contains present
    verdictCount := fun later turns => (engines turns has).verdictCount_le
    factoryCount := fun later turns => (engines turns has).interfaces.size
    factory := fun later turns shape source made kept => ?_
    delegateFactory := fun later turns target source made kept => ?_
    requestAgain := fun target source made between makes later turns => ?_
    staticCastAgain := fun shape source made between makes later turns => ?_
    factoryKept := fun shape source outcome after ran => ?_
    delegateFactoryKept := fun target source outcome after ran => ?_
    staticCastKept := fun shape source outcome after presentable ran =>
      (Cast.memoized_staticCast id shape source).kept world outcome after presentable ran
    searchFails := fun shape source cause after fails => ?_
    canCastAgain := fun target source answer after asks => ?_ }
  · exact (engines turns has).isPrepared (retains turns) prepared
  · exact (Action.memoized_withEngine (Engine.memoized_exactFactory later.registry shape source) id).ready
      later made ⟨((accrues turns).engines id has).1, trivial⟩
      ((engines turns has).interfaces.keeps shape source made kept)
  · exact (Action.memoized_withEngine
      (Engine.memoized_delegateFactory later.registry target source) id).ready
      later made ⟨((accrues turns).engines id has).1, trivial⟩
      ((engines turns has).delegates.keeps target source made kept)
  · have toBetween : Turns host world between := by
      have act := World.Act.requestDelegateFactory world id target source
      rw [makes] at act
      exact .single (.act act)
    exact request_again has makes (accrues turns) (retains (toBetween.trans turns))
  · have toBetween : Turns host world between := by
      have act := World.Act.staticCast world id shape source
      rw [makes] at act
      exact .single (.act act)
    exact staticCast_again has makes (accrues turns) (retains (toBetween.trans turns))
  · exact (Action.memoized_withEngine (Engine.memoized_exactFactory world.registry shape source) id).kept
      world outcome after ⟨has, trivial⟩ ran
  · exact (Action.memoized_withEngine
      (Engine.memoized_delegateFactory world.registry target source) id).kept
      world outcome after ⟨has, trivial⟩ ran
  · rw [Action.run_withEngine] at fails
    obtain ⟨isError, rfl⟩ := Prod.mk.inj fails
    rw [World.engine_setEngine_self has]
    exact Engine.missing_of_factory (Prod.ext isError rfl)
  · exact canCast_repeated has asks

namespace Acquaintance

/-- A host that asks an engine whenever it is asked to run something, and hands back the receiver. -/
def curious : Host Unit := fun request => do
  let registry := (← get).registry
  let _ ← Action.onEngine ⟨0⟩ (Engine.canCast registry ⟨17⟩ ⟨16⟩)
  return request.receiver

theorem curious_confined : curious.Confined := by
  intro request world
  refine Leads.get_bind (Leads.bind ?_ fun _ _ _ => Leads.pure _)
  exact .single (.canCast world ⟨0⟩ ⟨17⟩ ⟨16⟩)

/-- A world with an engine. -/
def founded : World Unit := ((World.initial ()).addEngine Config.standard).2.retain ⟨0⟩

theorem founded_reached : World.Acts (World.initial ()) founded :=
  (Relation.ReflTransGen.single (.addEngine _ Config.standard)).tail (.retain _ ⟨0⟩)

/-- A method of instances that takes nothing and introduces someone. -/
def introduces (result : TypeId) (body : Option RoutineId) : Method :=
  { name := "Introduce", params := [], result := result, isStatic := false, genericArity := 0,
    visibility := .visible, body := body }

/-- Shape 16 introduces one of its kind, and class 17 one of its own. -/
def peopled : World Unit :=
  let shaped := { founded with registry := (founded.registry.register (.named "Greeter") .interface
    { Definition.empty with methods := [introduces ⟨16⟩ none] }).1 }
  { shaped with registry := (shaped.registry.register (.named "Person") .classType
    { Definition.empty with methods := [introduces ⟨17⟩ (some ⟨0⟩)] }).1 }

/-- An object of the class is cast to the shape, and introduces someone, who is cast on the way out. -/
def met : World Unit :=
  let (outcome, wrapped) := (Cast.cast ⟨0⟩ ⟨16⟩ (.object ⟨0, ⟨17⟩, "Person"⟩)).run peopled
  match outcome.toOption.bind Value.adapter? with
  | some adapter => (((Adapter.Use.call "Introduce" []).run curious adapter).run wrapped).2
  | none => wrapped

theorem met_reached : Turns curious (World.initial ()) met := by
  have founds : Turns curious (World.initial ()) founded :=
    (Relation.ReflTransGen.single (.act (.addEngine _ Config.standard))).tail (.act (.retain _ ⟨0⟩))
  have peoples : Turns curious founded peopled :=
    (Relation.ReflTransGen.single (.act (.register _ _ _ _))).tail (.act (.register _ _ _ _))
  have wraps : Turns curious peopled
      ((Cast.cast ⟨0⟩ ⟨16⟩ (.object ⟨0, ⟨17⟩, "Person"⟩)).run peopled).2 :=
    .single (.act (.cast _ ⟨0⟩ ⟨16⟩ _))
  refine (founds.trans peoples).trans ?_
  unfold met
  split
  rename_i outcome wrapped ran
  rw [ran] at wraps
  split
  case h_1 adapter _ => exact wraps.tail (.use wrapped adapter _)
  case h_2 => exact wraps

/-- The factory that is there by then, and the verdicts that have been found, are there to stay. -/
theorem met_lasting :
    curious.Confined ∧ Turns curious (World.initial ()) met ∧ met.Has ⟨0⟩ ∧
      (met.engine ⟨0⟩).isPrepared met.registry ⟨16⟩ ⟨17⟩ = true ∧
      ((met.engine ⟨0⟩).factoryCount, (met.engine ⟨0⟩).verdictCount) = (1, 2) ∧
      Lasting curious ⟨0⟩ met := by
  have checked : 0 < met.engines.size ∧
      (met.engine ⟨0⟩).isPrepared met.registry ⟨16⟩ ⟨17⟩ = true ∧
      ((met.engine ⟨0⟩).factoryCount, (met.engine ⟨0⟩).verdictCount) = (1, 2) := by
    decide +kernel
  obtain ⟨has, prepared, counts⟩ := checked
  exact ⟨curious_confined, met_reached, has, prepared, counts,
    lasting_of_turns curious_confined met_reached has⟩

end Acquaintance
end StructuralCast
