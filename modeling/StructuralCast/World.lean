import StructuralCast.Engine

/-!
Contract: everything that a running session can change.

A `World` holds the registry, the engines, the fields of objects, the handlers of events, and the
state `σ` of the host. Handlers of an event are callables, or relays: a relay stands for the handler
list that an adapter keeps, and is never seen as a value.

An `Action` changes the world and may fail; a failure keeps the changes made before it.
-/

namespace StructuralCast

/-- The forwarding handler of one adapter for one relayed event. -/
structure Relay where
  id : RelayId
  plan : RelayPlan
  engine : EngineId
deriving DecidableEq

inductive Handler where
  | direct (callable : Callable)
  | relay (relay : Relay)

/-- Whose event it is. -/
inductive EventOwner where
  | object (number : Nat)
  | type (id : TypeId)
deriving DecidableEq

structure EventKey where
  owner : EventOwner
  event : String
deriving DecidableEq

/-- A filter that keeps a key keeps what is stored under it. -/
theorem lookup_filter {κ α : Type} [BEq κ] [LawfulBEq κ] (entries : List (κ × α))
    (keep : κ → Bool) (key : κ) (kept : keep key = true) :
    (entries.filter fun entry => keep entry.1).lookup key = entries.lookup key := by
  induction entries with
  | nil => rfl
  | cons head tail inductionHypothesis =>
      obtain ⟨name, stored⟩ := head
      by_cases same : key = name
      · subst same
        simp [kept]
      · by_cases keepsHead : keep name = true <;>
          simp [keepsHead, List.lookup_cons, beq_false_of_ne same,
            inductionHypothesis]

/-- The handlers of each event, in order of subscription. -/
structure EventTable where
  entries : List (EventKey × List Handler)

namespace EventTable

def empty : EventTable := ⟨[]⟩

def handlers (table : EventTable) (key : EventKey) : List Handler :=
  (table.entries.lookup key).getD []

def set (table : EventTable) (key : EventKey) (handlers : List Handler) : EventTable :=
  ⟨(key, handlers) :: table.entries.filter (·.1 ≠ key)⟩

/-- Forgets every event of an owner. -/
def clear (table : EventTable) (owner : EventOwner) : EventTable :=
  ⟨table.entries.filter (·.1.owner ≠ owner)⟩

/-- Setting the handlers of one event leaves all others alone. -/
theorem handlers_set (table : EventTable) (key : EventKey) (list : List Handler) (other : EventKey) :
    (table.set key list).handlers other = if other = key then list else table.handlers other := by
  by_cases same : other = key
  · subst same
    simp [handlers, set]
  · have kept := lookup_filter table.entries (fun entry => entry ≠ key) other (by simpa using same)
    simp only [handlers, set, List.lookup_cons]
    rw [beq_false_of_ne same, kept, if_neg same]

/-- Clearing takes the handlers of one owner away. -/
theorem handlers_clear (table : EventTable) (owner : EventOwner) (key : EventKey) :
    (table.clear owner).handlers key = if key.owner = owner then [] else table.handlers key := by
  by_cases own : key.owner = owner
  · have gone : (table.entries.filter (·.1.owner ≠ owner)).lookup key = none := by
      rw [List.lookup_eq_none_iff]
      intro entry member
      have other : entry.1.owner ≠ owner := by simpa using (List.mem_filter.1 member).2
      have different : key ≠ entry.1 := by
        intro same
        exact other (by rw [← same, own])
      simpa using different
    simp only [handlers, clear, gone, if_pos own, Option.getD_none]
  · have kept := lookup_filter table.entries (fun entry => entry.owner ≠ owner) key
      (by simpa using own)
    simp only [handlers, clear, kept, if_neg own]

end EventTable

/-- The fields of objects that have been set. -/
structure FieldTable where
  entries : List ((Nat × String) × Value)

namespace FieldTable

def empty : FieldTable := ⟨[]⟩

/-- A field that was never set is null. -/
def get (table : FieldTable) (object : Nat) (name : String) : Value :=
  (table.entries.lookup (object, name)).getD .null

def set (table : FieldTable) (object : Nat) (name : String) (value : Value) : FieldTable :=
  ⟨((object, name), value) :: table.entries.filter (·.1 ≠ (object, name))⟩

/-- Setting one field leaves all others alone. -/
theorem get_set (table : FieldTable) (object : Nat) (name : String) (value : Value)
    (object' : Nat) (name' : String) :
    (table.set object name value).get object' name' =
      if object' = object ∧ name' = name then value else table.get object' name' := by
  by_cases same : (object', name') = (object, name)
  · obtain ⟨rfl, rfl⟩ := Prod.mk.injEq .. ▸ same
    simp [get, set]
  · have kept := lookup_filter table.entries (fun entry => entry ≠ (object, name))
      (object', name') (decide_eq_true same)
    have other : ¬ (object' = object ∧ name' = name) := by simpa using same
    simp only [get, set, List.lookup_cons]
    rw [beq_false_of_ne same, kept, if_neg other]

end FieldTable

structure World (σ : Type) where
  registry : Registry
  engines : Array Engine
  events : EventTable
  relayed : Array (List Callable)
  fields : FieldTable
  nextRef : Nat
  nextObject : Nat
  nextCallable : Nat
  host : σ

abbrev Action (σ ε α : Type) : Type := ExceptT ε (StateM (World σ)) α

/-- A request to the host to run one of its routines. A setter also gets the value assigned. -/
structure HostCall where
  routine : RoutineId
  receiver : Value
  args : List Value
  assigned : Value

/-- How the host runs its routines. -/
abbrev Host (σ : Type) : Type := HostCall → Action σ CallError Value

namespace World

variable {σ : Type}

def initial (host : σ) : World σ :=
  { registry := .initial, engines := #[], events := .empty, relayed := #[], fields := .empty,
    nextRef := 0, nextObject := 0, nextCallable := 0, host := host }

def engine (world : World σ) (id : EngineId) : Engine :=
  world.engines.getD id.index (Engine.fresh id Config.standard)

def setEngine (world : World σ) (id : EngineId) (engine : Engine) : World σ :=
  { world with engines := world.engines.setIfInBounds id.index engine }

/-- One more owner of an engine. -/
def retain (world : World σ) (id : EngineId) : World σ :=
  let engine := world.engine id
  world.setEngine id { engine with owners := engine.owners + 1 }

/-- One owner of an engine less. -/
def release (world : World σ) (id : EngineId) : World σ :=
  let engine := world.engine id
  world.setEngine id { engine with owners := engine.owners - 1 }

def isAlive (world : World σ) (id : EngineId) : Bool := (world.engine id).owners ≠ 0

/-- Makes an engine; it has no owner yet. -/
def addEngine (world : World σ) (config : Config) : EngineId × World σ :=
  let id : EngineId := ⟨world.engines.size⟩
  (id, { world with engines := world.engines.push (Engine.fresh id config) })

/-- A definition starts the events of its type afresh. -/
def defineType (world : World σ) (registry : Registry) (id : TypeId) : World σ :=
  { world with registry := registry, events := world.events.clear (.type id) }

end World

namespace Action

variable {σ ε ε' α : Type}

/-- Runs a step that cannot fail on one engine. -/
def onEngine (id : EngineId) (step : StateM Engine α) : Action σ ε α :=
  ExceptT.mk fun world =>
    let (answer, engine) := step (world.engine id)
    (.ok answer, world.setEngine id engine)

/-- Runs a step on one engine. -/
def withEngine (id : EngineId) (step : EngineStep α) : Action σ CastError α :=
  ExceptT.mk fun world =>
    let (outcome, engine) := step.run (world.engine id)
    (outcome, world.setEngine id engine)

/-- Tells a failure in other words. -/
def mapError (retell : ε → ε') (action : Action σ ε α) : Action σ ε' α :=
  ExceptT.mk fun world =>
    let (outcome, after) := action.run world
    (outcome.mapError retell, after)

/-- Runs an action that needs an engine alive, and keeps it alive until the end. -/
def holding (id : EngineId) (action : Action σ CallError α) : Action σ CallError α :=
  ExceptT.mk fun world =>
    if world.isAlive id then
      let (outcome, after) := action.run (world.retain id)
      (outcome, after.release id)
    else (.error .engineDropped, world)

/-- A new identity for a text or a wrapper. -/
def freshRef : Action σ ε Ref := do
  let world ← get
  set { world with nextRef := world.nextRef + 1 }
  return ⟨world.nextRef⟩

def newText (content : String) : Action σ ε Value := do return .text (← freshRef) content

def newCallable (type : TypeId) (routine : RoutineId) : Action σ ε Value := do
  let world ← get
  set { world with nextCallable := world.nextCallable + 1 }
  return .callable (.native world.nextCallable type routine)

/-- A new object of a class. -/
def instantiate (type : TypeId) : Action σ RegistryError Value := do
  let world ← get
  match world.registry.instantiable type with
  | .error cause => throw cause
  | .ok info =>
    set { world with nextObject := world.nextObject + 1 }
    return .object ⟨world.nextObject, type, info.name⟩

end Action
end StructuralCast
