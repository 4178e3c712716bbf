import StructuralCast.Script.Perform

/-!
Contract: running a script.

`evaluate` gives the value of a term. It is also the host of the library: the routine of a member or
callable is a list of terms, run in order with a frame of its own, and its value is that of the last
term. Terms and routines call each other, so evaluation counts down from `depth`.

`Script.run` runs the steps one after the other in a session of their own. A step that fails does
not stop the session.
-/

namespace StructuralCast.Script

/-- Runs a body: each term in order, the last one for its value. -/
def runBody (eval : Term → Run Value) : List Term → Run Value
  | [] => return .null
  | [term] => eval term
  | term :: rest => do
    let _ ← eval term
    runBody eval rest

/-- Runs a routine of the session, given how to evaluate terms in a frame. -/
def runRoutine (eval : Frame → Term → Run Value) : Host Session := fun call =>
  Action.mapError Fault.toCallError do
    let frame : Frame := ⟨call.receiver, call.args, call.assigned⟩
    match (← Run.session).routines[call.routine.index]? with
    | some body => runBody (eval frame) body
    | none => Run.wrong "no routine"

/-- Performs an operation and binds its answer, if that is a value, to a variable. -/
def performAndBind (eval : Term → Run Value) (host : Host Session) (frame : Frame)
    (operation : Operation Term) (boundAs : Option String) : Run Answer := do
  let answer ← perform eval host frame operation
  match answer.value? with
  | some value => Run.bindVariable boundAs value
  | none => pure ()
  return answer

def evaluate : Nat → Frame → Term → Run Value
  | 0, _, _ => Run.wrong "nested too deeply"
  | depth + 1, frame, term =>
    match term with
    | .null => return .null
    | .bool truth => return .bool truth
    | .int number => return .int number
    | .text content => Action.newText content
    | .float bits => return .float bits
    | .enumeration type value => do return .enumeration (← Run.resolveType type) value
    | .struct fields type => do
      let values ← fields.mapM (evaluate depth frame)
      return .struct (← Run.resolveType type) values
    | .named name => do
      match (← Run.session).values.find? name with
      | some value => return value
      | none => Run.wrong ("no variable " ++ name)
    | .receiver => return frame.receiver
    | .argument index =>
      match frame.args[index]? with
      | some value => return value
      | none => Run.wrong ("no argument " ++ toString index)
    | .assigned => return frame.assigned
    | .create type => do
      let id ← Run.resolveType type
      Action.mapError Fault.registry (Action.instantiate id)
    | .callable type body => do
      let id ← Run.resolveType type
      Action.newCallable id (← Run.addRoutine body)
    | .proxy inner shape name => do
      let value ← evaluate depth frame inner
      let id ← Run.resolveType shape
      return .proxy (← Action.freshRef) id name value
    | .foreignCallable inner type name => do
      let value ← evaluate depth frame inner
      let id ← Run.resolveType type
      let routine ← Run.addRoutine [.forwardTo value]
      return .callable (.foreign (← Action.freshRef) id ⟨id, name, routine⟩ value)
    | .forwardTo inner =>
      match inner with
      | .callable c => Fault.ofCall (c.invoke (runRoutine (evaluate depth)) frame.args)
      | _ => return .null
    | .perform operation boundAs => do
      let answer ← performAndBind (evaluate depth frame) (runRoutine (evaluate depth)) frame
        operation boundAs
      return answer.toValue

/-- How deeply terms and routines may be nested. -/
def depthLimit : Nat := 100000

/-- What one step gives: an answer or a fault, and the notes taken on the way. -/
structure StepResult where
  outcome : Except Fault Answer
  log : List LogEntry
  /-- The registry after the step, for naming types. -/
  registry : Registry

def runStep (step : Operation Term × Option String) (world : World Session) :
    StepResult × World Session :=
  let (outcome, after) :=
    (performAndBind (evaluate depthLimit Frame.outermost) (runRoutine (evaluate depthLimit))
      Frame.outermost step.1 step.2).run world
  (⟨outcome, after.host.log, after.registry⟩, { after with host := { after.host with log := [] } })

def runSteps : List (Operation Term × Option String) → World Session → List StepResult
  | [], _ => []
  | step :: rest, world =>
    let (result, after) := runStep step world
    result :: runSteps rest after

/-- Runs a session whose main engine has the given configuration. -/
def run (config : Config) (steps : List (Operation Term × Option String)) : List StepResult :=
  let start := (makeEngine Session.mainEngine config).run (World.initial Session.initial)
  runSteps steps start.2

end StructuralCast.Script
