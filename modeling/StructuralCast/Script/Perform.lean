import StructuralCast.Script.Perform.Registry
import StructuralCast.Script.Perform.Value
import StructuralCast.Script.Perform.Engine
import StructuralCast.Script.Perform.Adapter

/-!
Contract: what each operation of a script does.

Operations evaluate their terms through `eval` and run bodies through `host`; all else they leave to
the library.
-/

namespace StructuralCast.Script

def perform (eval : Term → Run Value) (host : Host Session) (frame : Frame) : Operation Term → Run Answer
  | .registry operation => performRegistry eval host operation
  | .value operation => performValue eval host frame operation
  | .engine name operation => performEngine eval name operation
  | .adapter operation => performAdapter eval host operation

end StructuralCast.Script
