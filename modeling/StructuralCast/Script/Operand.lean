import StructuralCast.Script.Answer

/-!
Contract: operands of operations.

Operands are evaluated from left to right through `eval`; a value of the wrong sort is a mistake of
the script.
-/

namespace StructuralCast.Script

namespace Run

variable (eval : Term → Run Value)

def evalAll (terms : List Term) : Run (List Value) := terms.mapM eval

def asCallable : Value → Run Callable
  | .callable c => return c
  | _ => wrong "not a callable"

def asInstance : Value → Run Instance
  | .object o => return o
  | _ => wrong "not an object"

def asAdapter (value : Value) : Run Adapter :=
  match value.adapter? with
  | some a => return a
  | none => wrong "not an adapter"

def eventKey (table : TableRef Term) (event : String) : Run EventKey :=
  match table with
  | .ofObject on => do return ⟨.object (← asInstance (← eval on)).number, event⟩
  | .ofType type => do return ⟨.type (← resolveType type), event⟩

end Run

end StructuralCast.Script
