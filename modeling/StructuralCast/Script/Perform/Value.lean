import StructuralCast.Script.Operand
import StructuralCast.Invocation
import StructuralCast.Value.Text

/-!
Contract: what a script may do with values, events and handler lists.

Notes are kept with the registry of the moment, so that later declarations do not rename what they
show.
-/

namespace StructuralCast.Script

open Run

variable (eval : Term → Run Value) (host : Host Session)

/-- What a value counts in a sum. -/
def summand : Value → Int64
  | .int number => number
  | _ => 0

def performValue (frame : Frame) : ValueOperation Term → Run Answer
  | .val value => do return .value (← eval value)
  | .fail message => throw (.call (.host message))
  | .log tag values => do
    let operands ← evalAll eval values
    let known ← registry
    modifySession fun s => { s with log := s.log ++ [⟨tag, operands, known⟩] }
    return .value (operands.getLast?.getD .null)
  | .add left right => do
    let one ← eval left
    let other ← eval right
    return .value (.int (summand one + summand other))
  | .concat values => do
    let operands ← evalAll eval values
    return .value (← Action.newText (String.join (operands.map Value.display)))
  | .display value => do return .text (← eval value).display
  | .dump value => do return .text (← eval value).dump
  | .equal left right => do
    let one ← eval left
    let other ← eval right
    return .comparison (one.equals other) (one.feed = other.feed)
  | .sameAllocation left right => do
    let one ← eval left
    let other ← eval right
    return .truth (one.sameAllocation other)
  | .distinct values => do return .positions (Value.classes (← evalAll eval values))
  | .inspect value => do
    let operand ← eval value
    let callable :=
      match operand with
      | .callable c => some c.dump
      | _ => none
    return .inspection ⟨operand, callable, operand.facade?⟩
  | .peel value => do return .value (← eval value).peel
  | .field on name => do
    let object ← asInstance (← eval on)
    return .value ((← get).fields.get object.number name)
  | .setField on value name => do
    let object ← asInstance (← eval on)
    let assigned ← eval value
    modify fun world => { world with fields := world.fields.set object.number name assigned }
    return .done
  | .invoke on args => do
    let c ← asCallable (← eval on)
    let operands ← evalAll eval args
    return .value (← Fault.ofCall (c.invoke host operands))
  | .raise args event table => do
    let operands ←
      match args with
      | .given terms => evalAll eval terms
      | .forwarded => pure frame.args
    let key ← eventKey eval table event
    return .raised (← Fault.ofCall (Action.raise host key operands))
  | .tableAdd value event table => do
    let c ← asCallable (← eval value)
    Action.subscribe (← eventKey eval table event) (.direct c)
    return .done
  | .tableRemove value event table => do
    let c ← asCallable (← eval value)
    return .truth (← Action.unsubscribe (← eventKey eval table event) c)
  | .handlerCount event table => do
    return .count (← Action.handlers (← eventKey eval table event)).length
  | .multicastAdd name value => do
    let c ← asCallable (← eval value)
    let handlers := (((← session).multicasts.find? name).getD []) ++ [c]
    modifySession fun s => { s with multicasts := s.multicasts.bind name handlers }
    return .multicast none handlers.length
  | .multicastRemove name value => do
    let c ← asCallable (← eval value)
    let handlers := ((← session).multicasts.find? name).getD []
    match Multicast.removeLast? (·.same c) handlers with
    | some rest =>
      modifySession fun s => { s with multicasts := s.multicasts.bind name rest }
      return .multicast (some true) rest.length
    | none => return .multicast (some false) handlers.length
  | .multicastInvoke name args => do
    let operands ← evalAll eval args
    let handlers := ((← session).multicasts.find? name).getD []
    return .raised (← Fault.ofCall (Multicast.run (Callable.invoke host operands) handlers))

end StructuralCast.Script
