import StructuralCast.Proofs.Forwarding.Errand
import StructuralCast.Proofs.Forwarding.Frame

/-!
Contract: what stands between a caller and a body of the host.

An `EntryPoint` is a use of an adapter, or an invocation of a callable over a callable or of a relay. Its
`Route` says which engine has to be alive, what is checked, what is converted and what then runs; there is
none if the member is unknown. `Route.Rejects` lists what stops it there.

A rejected entry has the host run nothing. Any other one gets to its body, with the converted values, and
a failure of the body is left as it is. Whatever is in the way further on, what the host runs are the
errands of the entry, in order, and all of them if it succeeds (`EntryPoint.runs_only_errands`).
-/

namespace StructuralCast

open Step

variable {σ α : Type} {world : World σ}

/-- How a body is reached and left. -/
structure Route (σ : Type) where
  engine : EngineId
  check : Registry → Except CallError Unit
  args : List (Conversion × Value)
  assigned? : Option (Conversion × Value)
  body : Host σ → List Value → Value → Action σ CallError Value
  back : Value → Action σ CallError Value

namespace Action

theorem run_raising {ε : Type} (outcome : Except ε α) :
    (raising outcome : Action σ ε α).run world = (outcome, world) :=
  rfl

theorem run_checkArguments (member : String) (params : List TypeId) (args : List Value) :
    (checkArguments member params args).run world =
      (world.registry.checkArguments member params args, world) :=
  rfl

end Action

namespace Refuses

variable {id : EngineId} {cause : CallError}

theorem looked {next : World σ → Host σ → Action σ CallError α}
    (refuses : Refuses world (next world) cause) :
    Refuses world (fun host => get >>= fun state => next state host) cause :=
  refuses.after_step rfl

/-- An operation that fails while an engine is kept alive fails as well where the engine is gone. -/
theorem held {operation : Host σ → Action σ CallError α}
    (refuses : ∃ cause, Refuses (world.retain id) operation cause) :
    ∃ cause, Refuses world (fun host => Action.holding id (operation host)) cause := by
  by_cases alive : world.isAlive id = true
  · obtain ⟨cause, refuses⟩ := refuses
    exact ⟨cause, refuses.holding alive⟩
  · exact ⟨.engineDropped, world, fun _ => if_neg alive⟩

end Refuses

namespace Route

/-- What the body gets: converted arguments, and a converted value to assign or null. -/
def convert (route : Route σ) : Action σ CallError (List Value × Value) := do
  let given ← Action.convertAll route.engine route.args
  match route.assigned? with
  | none => return (given, .null)
  | some (conversion, assigned) =>
    return (given, ← Action.convert route.engine conversion assigned)

def run (host : Host σ) (route : Route σ) : Action σ CallError Value :=
  Action.holding route.engine do
    Action.raising (route.check (← get).registry)
    let (given, assigned) ← route.convert
    let result ← route.body host given assigned
    route.back result

/-- What stops an entry before its body. -/
inductive Rejects (route : Route σ) (world : World σ) : Prop where
  | dropped (gone : world.isAlive route.engine = false)
  | check {cause : CallError} (refuses : route.check world.registry = .error cause)
  | conversion {cause : CallError} {after : World σ}
      (fails : route.convert.run (world.retain route.engine) = (.error cause, after))

variable {route : Route σ}

theorem Rejects.refuses (rejects : route.Rejects world) :
    ∃ cause, Refuses world (fun host => route.run host) cause := by
  cases rejects with
  | dropped gone =>
      refine ⟨.engineDropped, world, fun host => if_neg ?_⟩
      rw [gone]
      exact Bool.false_ne_true
  | check refuses => exact Refuses.held ⟨_, .looked (.at_step refuses)⟩
  | conversion fails =>
      refine Refuses.held ?_
      cases checks : route.check world.registry with
      | error cause => exact ⟨cause, .looked (.at_step checks)⟩
      | ok checked =>
          have raised : (Action.raising (route.check (world.retain route.engine).registry) :
              Action σ CallError Unit).run (world.retain route.engine) =
              (.ok checked, world.retain route.engine) := Prod.ext checks rfl
          exact ⟨_, .looked (.after_step raised (.at_step (congrArg Prod.fst fails)))⟩

/-- What becomes of the outcome of the body. -/
def finish (route : Route σ) (ran : Except CallError Value × World σ) :
    Except CallError Value × World σ :=
  ((proceed route.back ran).1, (proceed route.back ran).2.release route.engine)

theorem finish_error (cause : CallError) (after : World σ) :
    route.finish (.error cause, after) = (.error cause, after.release route.engine) :=
  rfl

theorem run_of_accepted (accepted : ¬ route.Rejects world) :
    ∃ given assigned between,
      route.convert.run (world.retain route.engine) = (.ok (given, assigned), between) ∧
        ∀ host, (route.run host).run world =
          route.finish ((route.body host given assigned).run between) := by
  have alive : world.isAlive route.engine = true := by
    by_contra gone
    exact accepted (.dropped (Bool.eq_false_iff.2 gone))
  have checks : route.check (world.retain route.engine).registry = .ok () := by
    cases checked : route.check world.registry with
    | ok _ => exact checked
    | error cause => exact absurd (.check checked) accepted
  cases converts : route.convert.run (world.retain route.engine) with
  | mk outcome between =>
      cases outcome with
      | error cause => exact absurd (.conversion converts) accepted
      | ok values =>
          refine ⟨values.1, values.2, between, rfl, fun host => ?_⟩
          rw [run, run_holding alive, run_bind, run_get]
          dsimp only
          rw [run_bind, Action.run_raising, checks]
          dsimp only
          rw [run_bind, converts]
          dsimp only
          rw [run_bind_eq_proceed]
          rfl

end Route

/-! ### Adapters -/

namespace Action

theorem run_holding_bind_pure {β : Type} (id : EngineId) (action : Action σ CallError β) (answer : α) :
    (holding id action >>= fun _ => pure answer).run world =
      (holding id (action >>= fun _ => pure answer)).run world := by
  by_cases alive : world.isAlive id = true
  · rw [run_bind, run_holding alive, run_holding alive, run_bind]
    obtain ⟨outcome, after⟩ := action.run (world.retain id)
    cases outcome with
    | ok _ => rfl
    | error cause => rfl
  · have dead {γ : Type} (held : Action σ CallError γ) :
        (holding id held).run world = (.error .engineDropped, world) := if_neg alive
    rw [run_bind, dead, dead]

/-- Two checks that are made one after the other. -/
theorem run_checkArguments_twice (member member' : String) (params params' : List TypeId)
    (args args' : List Value) (next : Action σ CallError α) :
    (checkArguments member params args >>= fun _ => checkArguments member' params' args' >>= fun _ =>
      next).run world =
      (get >>= fun state => raising (do
        state.registry.checkArguments member params args
        state.registry.checkArguments member' params' args') >>= fun _ => next).run world := by
  rw [run_bind, run_checkArguments, run_bind, run_get]
  dsimp only
  rw [run_bind, run_raising]
  cases world.registry.checkArguments member params args with
  | error cause => rfl
  | ok _ =>
      dsimp only
      rw [run_bind, run_checkArguments]
      rfl

end Action

namespace Adapter

variable {adapter : Adapter} {host : Host σ}

def callRoute (registry : Registry) (adapter : Adapter) (slot : MethodSlot) (args : List Value) :
    Route σ where
  engine := adapter.factory.engine
  check registry := registry.checkArguments slot.name slot.params args
  args := slot.argConversions.zip args
  assigned? := none
  body host given _ :=
    (adapter.factory.dispatchMethod registry adapter.source slot.source).enter host adapter.source given
  back result :=
    if slot.result = .void then return .null
    else Action.convert adapter.factory.engine slot.resultConversion result

def readRoute (registry : Registry) (adapter : Adapter) (slot : PropertySlot) (index : List Value) :
    Route σ where
  engine := adapter.factory.engine
  check registry := registry.checkArguments slot.name slot.index index
  args := slot.indexConversions.zip index
  assigned? := none
  body host given _ :=
    (adapter.factory.dispatchProperty registry adapter.source slot.source).get host adapter.source given
  back value := Action.convert adapter.factory.engine slot.onGet value

def writeRoute (registry : Registry) (adapter : Adapter) (slot : PropertySlot) (index : List Value)
    (assigned : Value) : Route σ where
  engine := adapter.factory.engine
  check registry := do
    registry.checkArguments slot.name slot.index index
    registry.checkArguments slot.name [slot.type] [assigned]
  args := slot.indexConversions.zip index
  assigned? := some (slot.onSet, assigned)
  body host given value := do
    (adapter.factory.dispatchProperty registry adapter.source slot.source).set host adapter.source given
      value
    return .null
  back _ := return .null

theorem run_callRoute (slot : MethodSlot) (args : List Value) :
    (Action.holding adapter.factory.engine
      (adapter.factory.forward host slot args adapter.source)).run world =
        ((adapter.callRoute world.registry slot args).run host).run world := by
  unfold Route.run
  refine Action.holding_congr ?_
  rw [Factory.run_forward]
  simp only [Factory.calling, Action.checkArguments, Route.convert, callRoute, bind_assoc, pure_bind]
  rfl

theorem run_readRoute (slot : PropertySlot) (index : List Value) :
    (adapter.read host slot index).run world =
      ((adapter.readRoute world.registry slot index).run host).run world := by
  rw [run_read]
  unfold Route.run
  refine Action.holding_congr ?_
  simp only [Factory.reading, Action.checkArguments, Route.convert, readRoute, bind_assoc, pure_bind]

theorem run_writeRoute (slot : PropertySlot) (index : List Value) (assigned : Value) :
    (do adapter.write host slot index assigned; return .null : Action σ CallError Value).run world =
      ((adapter.writeRoute world.registry slot index assigned).run host).run world := by
  rw [run_bind, run_write, ← run_bind, Action.run_holding_bind_pure]
  unfold Route.run
  refine Action.holding_congr ?_
  simp only [Factory.writing, Route.convert, writeRoute, bind_assoc, pure_bind]
  exact Action.run_checkArguments_twice _ _ _ _ _ _ _

/-- The way to the slot that a use selects, if it selects one. -/
def Use.route? (registry : Registry) (adapter : Adapter) (use : Use) : Option (Route σ) :=
  match use.slot? registry adapter with
  | some (.method slot) => some (adapter.callRoute registry slot use.args)
  | some (.property slot) =>
    match use.assigned? with
    | none => some (adapter.readRoute registry slot use.args)
    | some assigned => some (adapter.writeRoute registry slot use.args assigned)
  | _ => none

theorem Use.run_of_route {use : Use} {route : Route σ}
    (found : use.route? world.registry adapter = some route) :
    (use.run host adapter).run world = (route.run host).run world := by
  unfold Use.route? at found
  split at found
  case h_1 slot selects =>
    cases found
    rw [Use.run_of_method selects, run_callRoute]
  case h_2 slot selects =>
    rw [Use.run_of_property selects]
    cases assigns : use.assigned? with
    | none =>
        rw [assigns] at found
        cases found
        exact run_readRoute slot use.args
    | some assigned =>
        rw [assigns] at found
        cases found
        exact run_writeRoute slot use.args assigned
  case h_3 => cases found

/-- A use without a way to a slot ends at no member. -/
theorem Use.performance?_of_unknown {registry : Registry} {use : Use}
    (unknown : use.route? (σ := σ) registry adapter = none) : use.performance? registry adapter = none := by
  have missing : use.slot? registry adapter = none := by
    unfold Use.route? at unknown
    cases selects : use.slot? registry adapter with
    | none => rfl
    | some slot =>
        rw [selects] at unknown
        cases slot with
        | method slot => cases unknown
        | property slot =>
            dsimp only at unknown
            split at unknown <;> cases unknown
        | event slot =>
            -- No use selects an event.
            cases use <;>
              · obtain ⟨_, _, impossible⟩ := Option.map_eq_some_iff.1 selects
                cases impossible
  cases use with
  | call | callSignature | callSlot =>
      have selectsNone := Option.map_eq_none_iff.1 missing
      simp only [performance?, property?, method?, selectsNone, Option.bind_none]
  | get | set | getIndex | setIndex =>
      have selectsNone := Option.map_eq_none_iff.1 missing
      simp only [performance?, property?, method?, selectsNone, Option.map_none, Option.bind_none]

/-- A use without a way to a slot fails, for it has no body to run. -/
theorem Use.refuses_of_unknown {use : Use}
    (unknown : use.route? (σ := σ) world.registry adapter = none) :
    ∃ cause, Refuses world (fun host : Host σ => use.run host adapter) cause := by
  have performs : Performs world.registry (use.performance? world.registry adapter) world
      fun host : Host σ => use.run host adapter := performs_use rfl use
  rw [use.performance?_of_unknown unknown] at performs
  cases performs with
  | refuses cause after _ always => exact ⟨cause, after, always⟩
  | passes _ fitting =>
      obtain ⟨_, impossible, _⟩ := fitting
      cases impossible

end Adapter

/-! ### Callables over callables -/

def DelegateFactory.route (factory : DelegateFactory) (inner : Callable) (args : List Value) : Route σ where
  engine := factory.engine
  check registry := registry.checkArguments factory.targetName factory.params args
  args := factory.argConversions.zip args
  assigned? := none
  body host given _ := inner.invoke host given
  back result :=
    if factory.result = .void then return .null
    else Action.convert factory.engine factory.resultConversion result

theorem Callable.run_route (host : Host σ) (ref : Ref) (factory : DelegateFactory) (inner : Callable)
    (args : List Value) :
    (Callable.adapted ref factory inner).invoke host args = (factory.route inner args).run host := by
  simp only [invoke, DelegateFactory.forward, DelegateFactory.route, Route.run, Route.convert,
    Action.checkArguments, bind_assoc, pure_bind]

/-! ### Relays -/

namespace Relay

/-- The way to the handlers that a relay is to pass an event on to. -/
def route (relay : Relay) (handlers : List Callable) (args : List Value) : Route σ where
  engine := relay.engine
  check _ :=
    if args.length = relay.plan.argConversions.length then .ok ()
    else .error (.arityMismatch "event relay" relay.plan.argConversions.length args.length)
  args := relay.plan.argConversions.zip args
  assigned? := none
  body host given _ := do return (← Multicast.run (Callable.invoke host given) handlers).getD .null
  back result := Action.convert relay.engine relay.plan.resultConversion result

theorem run_of_unheard {host : Host σ} {relay : Relay} {args : List Value}
    (unheard : world.listOf relay.id = []) :
    (relay.invoke host args).run world = (.ok .null, world) := by
  have reads : (Action.relayHandlers relay.id : Action σ CallError _).run world =
      (.ok (world.listOf relay.id), world) := rfl
  rw [invoke, run_bind, reads, unheard]
  rfl

theorem run_of_heard {host : Host σ} {relay : Relay} {args : List Value}
    (heard : world.listOf relay.id ≠ []) :
    (relay.invoke host args).run world =
      if args.length = relay.plan.argConversions.length then
        ((relay.route (world.listOf relay.id) args).run host).run world
      else
        (.error (.arityMismatch "event relay" relay.plan.argConversions.length args.length), world) := by
  have reads : (Action.relayHandlers relay.id : Action σ CallError _).run world =
      (.ok (world.listOf relay.id), world) := rfl
  rw [invoke, run_bind, reads]
  dsimp only
  rw [if_neg (by simpa using heard)]
  by_cases arity : args.length = relay.plan.argConversions.length
  · rw [if_neg (not_not_intro arity), if_pos arity]
    simp only [Route.run, Route.convert, route, bind_assoc, pure_bind, if_pos arity]
    exact Action.holding_congr rfl
  · rw [if_pos arity, if_neg arity]
    rfl

end Relay

/-! ### Entry points -/

/-- A use of an adapter, or an invocation of a callable over a callable or of a relay. -/
inductive EntryPoint where
  | member (adapter : Adapter) (use : Adapter.Use)
  | callable (ref : Ref) (factory : DelegateFactory) (inner : Callable) (args : List Value)
  | event (relay : Relay) (args : List Value)

namespace EntryPoint

def run (host : Host σ) : EntryPoint → Action σ CallError Value
  | member adapter use => use.run host adapter
  | callable ref factory inner args => (Callable.adapted ref factory inner).invoke host args
  | event relay args => relay.invoke host args

/-- The way from the caller to the body, in a world, if there is one. -/
def route? (world : World σ) : EntryPoint → Option (Route σ)
  | member adapter use => use.route? world.registry adapter
  | callable _ factory inner args => some (factory.route inner args)
  | event relay args => some (relay.route (world.listOf relay.id) args)

/-- What the host is to run, in a world. -/
def errands (world : World σ) : EntryPoint → List Errand
  | member adapter use => ((use.performance? world.registry adapter).bind Performance.errand?).toList
  | callable _ _ inner _ => [inner.errand]
  | event relay _ => (world.listOf relay.id).map Callable.errand

/-- The member is unknown, or the entry is stopped before its body. -/
inductive Rejected (entry : EntryPoint) (world : World σ) : Prop where
  | unknown (missing : entry.route? world = none)
  | stopped {route : Route σ} (found : entry.route? world = some route) (rejects : route.Rejects world)

/-- Whatever the host does, the entry gets to its body once, with the converted values, and a failure of
the body is how it fails. -/
def Reaches (entry : EntryPoint) (world : World σ) : Prop :=
  ∃ route ∈ entry.route? world, ∃ given assigned between,
    ∃ finish : Except CallError Value × World σ → Except CallError Value × World σ,
    route.convert.run (world.retain route.engine) = (.ok (given, assigned), between) ∧
      (∀ host, (entry.run host).run world = finish ((route.body host given assigned).run between)) ∧
        ∀ cause after, ∃ last, finish (.error cause, after) = (.error cause, last)

variable {entry : EntryPoint} {route : Route σ}

/-- What goes as its route says reaches its body, unless something stops it. -/
theorem reaches_of_route (found : entry.route? world = some route)
    (runs : ∀ host, (entry.run host).run world = (route.run host).run world)
    (accepted : ¬ route.Rejects world) : entry.Reaches world := by
  obtain ⟨given, assigned, between, converts, always⟩ := Route.run_of_accepted accepted
  refine ⟨route, found, given, assigned, between, route.finish, converts, fun host => ?_, ?_⟩
  · rw [runs, always]
  · exact fun cause after => ⟨_, Route.finish_error cause after⟩

theorem consults_of_refuses {operation : Host σ → Action σ CallError α} {errands : List Errand}
    (refuses : ∃ cause, Refuses world operation cause) :
    Consults errands fun host => (operation host).run world := by
  obtain ⟨cause, last, always⟩ := refuses
  exact .fails cause last always

/-- A relay without handlers gives null, and does nothing else. -/
theorem reaches_of_unheard {relay : Relay} {args : List Value} (unheard : world.listOf relay.id = [])
    (accepted : ¬ (relay.route (world.listOf relay.id) args).Rejects world) :
    (EntryPoint.event relay args).Reaches world := by
  obtain ⟨given, assigned, between, converts, _⟩ := Route.run_of_accepted accepted
  refine ⟨_, rfl, given, assigned, between,
    fun ran => (ran.1.map fun _ => .null, world), converts, fun host => ?_, ?_⟩
  · rw [run, Relay.run_of_unheard unheard, unheard]
    rfl
  · exact fun cause _ => ⟨world, rfl⟩

theorem consults (entry : EntryPoint) (world : World σ) :
    Consults (entry.errands world) fun host => (entry.run host).run world := by
  cases entry with
  | member adapter use => exact (Adapter.performs_use rfl use).consults
  | callable ref factory inner args => exact (Callable.adapted ref factory inner).consults world args
  | event relay args => exact relay.consults world args

/-- A use, or an invocation of a callable, that is rejected fails, and a relay does unless it has no
handlers to run. -/
theorem idle_of_rejected (rejected : entry.Rejected world) :
    Consults [] fun host => (entry.run host).run world := by
  cases entry with
  | member adapter use =>
      cases rejected with
      | unknown missing => exact consults_of_refuses (Adapter.Use.refuses_of_unknown missing)
      | stopped found rejects =>
          exact (consults_of_refuses rejects.refuses).congr fun host => Adapter.Use.run_of_route found
  | callable ref factory inner args =>
      cases rejected with
      | unknown missing => cases missing
      | stopped found rejects =>
          cases found
          refine (consults_of_refuses rejects.refuses).congr fun host => ?_
          rw [run, Callable.run_route]
  | event relay args =>
      cases rejected with
      | unknown missing => cases missing
      | stopped found rejects =>
          cases found
          by_cases unheard : world.listOf relay.id = []
          · exact .ends .null world fun host => Relay.run_of_unheard unheard
          · by_cases arity : args.length = relay.plan.argConversions.length
            · refine (consults_of_refuses rejects.refuses).congr fun host => ?_
              rw [run, Relay.run_of_heard unheard, if_pos arity]
            · exact .fails _ world fun host => by rw [run, Relay.run_of_heard unheard, if_neg arity]

theorem reaches_of_accepted (accepted : ¬ entry.Rejected world) : entry.Reaches world := by
  cases entry with
  | member adapter use =>
      cases found : use.route? (σ := σ) world.registry adapter with
      | none => exact absurd (.unknown found) accepted
      | some route =>
          exact reaches_of_route found (fun host => Adapter.Use.run_of_route found) fun rejects =>
            accepted (.stopped found rejects)
  | callable ref factory inner args =>
      refine reaches_of_route rfl (fun host => ?_) fun rejects => accepted (.stopped rfl rejects)
      rw [run, Callable.run_route]
  | event relay args =>
      have goesOn : ¬ (relay.route (world.listOf relay.id) args).Rejects world :=
        fun rejects => accepted (.stopped rfl rejects)
      by_cases unheard : world.listOf relay.id = []
      · exact reaches_of_unheard unheard goesOn
      · have arity : args.length = relay.plan.argConversions.length := by
          by_contra different
          exact goesOn (.check (if_neg different))
        refine reaches_of_route rfl (fun host => ?_) goesOn
        rw [run, Relay.run_of_heard unheard, if_pos arity]

/-- A use succeeds only at a member with a body. -/
theorem refuses_of_no_errand {adapter : Adapter} {use : Adapter.Use}
    (bodiless : (EntryPoint.member adapter use).errands world = []) :
    ∃ cause, Refuses world (fun host => (EntryPoint.member adapter use).run host) cause := by
  have performs : Performs world.registry (use.performance? world.registry adapter) world
      fun host : Host σ => use.run host adapter := Adapter.performs_use rfl use
  cases performs with
  | refuses cause after _ always => exact ⟨cause, after, always⟩
  | passes _ fitting =>
      obtain ⟨performance, isPerformance, body, _⟩ := fitting
      simp only [errands, Option.mem_def.1 isPerformance, Option.bind_some, Performance.errand?, body,
        Option.map_some, Option.toList_some, List.cons_ne_nil] at bodiless

/-- A rejected entry has the host run nothing, and any other one gets to its body. All that the host is
made to run are the errands of the entry, in order: up to the first failure, which is how the entry fails,
and all of them if it succeeds. A use without an errand fails. -/
theorem runs_only_errands (entry : EntryPoint) (world : World σ) :
    (entry.Rejected world → Consults [] fun host => (entry.run host).run world) ∧
      (¬ entry.Rejected world → entry.Reaches world) ∧
      Consults (entry.errands world) (fun host => (entry.run host).run world) ∧
      ∀ adapter use, entry = .member adapter use → entry.errands world = [] →
        ∃ cause, Refuses world (fun host => entry.run host) cause := by
  refine ⟨idle_of_rejected, reaches_of_accepted, entry.consults world, ?_⟩
  rintro adapter use rfl bodiless
  exact refuses_of_no_errand bodiless

end EntryPoint

/-! ### A tally -/

namespace Tally

/-- A world with an engine that is alive, over the types that are there from the start. -/
def counting : World Unit :=
  { World.initial () with engines := #[{ Engine.fresh ⟨0⟩ Config.standard with owners := 1 }] }

/-- An object that counts, behind a shape with that method. -/
def tally : Adapter :=
  let count : Method := ⟨"Count", [.int], .int, false, 0, .visible, some ⟨7⟩⟩
  { ref := ⟨0⟩
    factory :=
      { engine := ⟨0⟩
        blueprint := ⟨⟨16⟩, ⟨17⟩, false, []⟩
        shapeName := "Counter"
        slots := [.method ⟨"Count", [.int], .int, count, [.identity], .identity⟩] }
    source := .object ⟨0, ⟨17⟩, "Tally"⟩
    relays := [] }

def call (args : List Value) : EntryPoint := .member tally (.callSlot 0 args)

/-- Without a number to add nothing runs, and with one the object counts. -/
theorem tally_counts :
    (call []).Rejected counting ∧ Consults [] (fun host => ((call []).run host).run counting) ∧
      ¬ (call [.int 1]).Rejected counting ∧ (call [.int 1]).Reaches counting ∧
      Consults [⟨⟨7⟩, tally.source⟩] fun host => ((call [.int 1]).run host).run counting := by
  have rejected : (call []).Rejected counting := .stopped rfl (.check rfl)
  have accepted : ¬ (call [.int 1]).Rejected counting := by
    intro rejected
    cases rejected with
    | unknown missing => cases missing
    | stopped found rejects =>
        cases found
        cases rejects with
        | dropped gone => cases gone
        | check refuses => cases refuses
        | conversion fails => cases fails
  obtain ⟨idle, _, _⟩ := (call []).runs_only_errands counting
  obtain ⟨_, reaches, consults, _⟩ := (call [.int 1]).runs_only_errands counting
  exact ⟨rejected, idle rejected, accepted, reaches accepted, consults⟩

end Tally
end StructuralCast
