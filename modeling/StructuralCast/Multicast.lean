import StructuralCast.World
import StructuralCast.Value.Equality

/-!
Contract: handler lists as lists.

Handlers are added at the end. Removing takes away the last one that matches and keeps the order of
the others. A run goes from first to last, stops at the first failure, and gives the last result,
or none when there is no handler.
-/

namespace StructuralCast

namespace Multicast

variable {η : Type}

/-- Takes away the first match, if there is one. -/
def removeFirst? (matching : η → Bool) : List η → Option (List η)
  | [] => none
  | head :: tail =>
    if matching head then some tail else (removeFirst? matching tail).map (head :: ·)

/-- Takes away the last match, if there is one. -/
def removeLast? (matching : η → Bool) (handlers : List η) : Option (List η) :=
  (removeFirst? matching handlers.reverse).map List.reverse

/-- Runs handlers in order; `last` is the result so far. -/
def runAfter {m : Type → Type} [Monad m] {α : Type} (run : η → m α) (last : Option α) :
    List η → m (Option α)
  | [] => pure last
  | handler :: rest => do runAfter run (some (← run handler)) rest

def run {m : Type → Type} [Monad m] {α : Type} (invoke : η → m α) (handlers : List η) :
    m (Option α) :=
  runAfter invoke none handlers

end Multicast

namespace Handler

/-- Whether a handler is this callable; a relay never is. -/
def isCallable (c : Callable) : Handler → Bool
  | direct other => other.same c
  | relay _ => false

end Handler

namespace Action

variable {σ ε : Type}

def handlers (key : EventKey) : Action σ ε (List Handler) := do
  return (← get).events.handlers key

/-- An event of a type that was never given out has no place to keep its handlers. -/
def keepsHandlers (registry : Registry) (key : EventKey) : Bool :=
  match key.owner with
  | .object _ => true
  | .type id => registry.issued id

/-- Subscribes a handler, after all others. -/
def subscribe (key : EventKey) (handler : Handler) : Action σ ε Unit :=
  modify fun world =>
    if keepsHandlers world.registry key then
      { world with events := world.events.set key (world.events.handlers key ++ [handler]) }
    else world

/-- Takes away the last subscription of a callable, and tells whether there was one. -/
def unsubscribe (key : EventKey) (c : Callable) : Action σ ε Bool := do
  let world ← get
  match Multicast.removeLast? (Handler.isCallable c) (world.events.handlers key) with
  | some rest =>
    set { world with events := world.events.set key rest }
    return true
  | none => return false

/-- Makes the empty handler list of a relay. -/
def newRelayList : Action σ ε RelayId := do
  let world ← get
  set { world with relayed := world.relayed.push [] }
  return ⟨world.relayed.size⟩

def relayHandlers (id : RelayId) : Action σ ε (List Callable) := do
  return (← get).relayed.getD id.index []

def setRelayHandlers (id : RelayId) (handlers : List Callable) : Action σ ε Unit :=
  modify fun world => { world with relayed := world.relayed.setIfInBounds id.index handlers }

end Action
end StructuralCast
