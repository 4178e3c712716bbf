import StructuralCast.Script.Operand
import StructuralCast.Forwarding
import StructuralCast.Subscription

/-!
Contract: what a script may do with adapters.
-/

namespace StructuralCast.Script

open Run

variable (eval : Term → Run Value) (host : Host Session)

def performAdapter : AdapterOperation Term → Run Answer
  | .source on => do return .value (← asAdapter (← eval on)).source
  | .sameFactory left right => do
    let one ← eval left
    let other ← eval right
    match one, other with
    | .adapter _ factory _ _, .adapter _ factory' _ _ => return .truth (factory.same factory')
    | .callable (.adapted _ factory _), .callable (.adapted _ factory' _) =>
      return .truth (factory.same factory')
    | _, _ => wrong "not two adapters"
  | .factory on => do return .factory (← asAdapter (← eval on)).factory
  | .slots on => do return .slots (← asAdapter (← eval on)).factory
  | .call on name args => do
    let adapter ← asAdapter (← eval on)
    let operands ← evalAll eval args
    return .value (← Fault.ofCall (adapter.call host name operands))
  | .callSignature on args name params => do
    let adapter ← asAdapter (← eval on)
    let operands ← evalAll eval args
    let types ← resolveTypes params
    return .value (← Fault.ofCall (adapter.callSignature host name types operands))
  | .callSlot on index args => do
    let adapter ← asAdapter (← eval on)
    let operands ← evalAll eval args
    return .value (← Fault.ofCall (adapter.callSlot host index operands))
  | .get on name => do
    let adapter ← asAdapter (← eval on)
    return .value (← Fault.ofCall (adapter.get host name))
  | .set on name value => do
    let adapter ← asAdapter (← eval on)
    let assigned ← eval value
    Fault.ofCall (adapter.set host name assigned)
    return .done
  | .getIndex on args => do
    let adapter ← asAdapter (← eval on)
    let operands ← evalAll eval args
    return .value (← Fault.ofCall (adapter.getIndex host operands))
  | .setIndex on args value => do
    let adapter ← asAdapter (← eval on)
    let operands ← evalAll eval args
    let assigned ← eval value
    Fault.ofCall (adapter.setIndex host operands assigned)
    return .done
  | .subscribe on name value => do
    let adapter ← asAdapter (← eval on)
    let operand ← eval value
    Fault.ofCall (adapter.subscribe name operand)
    return .done
  | .unsubscribe on name value => do
    let adapter ← asAdapter (← eval on)
    let operand ← eval value
    return .truth (← Fault.ofCall (adapter.unsubscribe name operand))

end StructuralCast.Script
