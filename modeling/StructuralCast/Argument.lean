import StructuralCast.Cast

/-!
Contract: arguments on their way from a caller to a member.

Arguments are checked against the declared types before anything is converted, and conversions stop
at the first that fails. A generic parameter accepts every value.
-/

namespace StructuralCast

namespace Registry

def accepts (registry : Registry) (param : TypeId) (value : Value) : Bool :=
  registry.kind param = .genericParam || registry.admits param value.type?

/-- The first argument that is not accepted, and why. -/
def checkEach (registry : Registry) : List (TypeId × Value) → Except CallError Unit
  | [] => .ok ()
  | (param, arg) :: rest =>
    if registry.accepts param arg then registry.checkEach rest
    else if arg.isNull then .error (.nullValue (registry.name param))
    else .error (.typeMismatch (registry.name param) (registry.typeName arg))

def checkArguments (registry : Registry) (member : String) (params : List TypeId)
    (args : List Value) : Except CallError Unit :=
  if params.length = args.length then registry.checkEach (params.zip args)
  else .error (.arityMismatch member params.length args.length)

end Registry

namespace Action

variable {σ ε : Type}

def raising {α : Type} (outcome : Except ε α) : Action σ ε α := ExceptT.mk (pure outcome)

def checkArguments (member : String) (params : List TypeId) (args : List Value) :
    Action σ CallError Unit := do
  raising ((← get).registry.checkArguments member params args)

/-- Carries out a conversion. -/
def convert (engine : EngineId) (conversion : Conversion) (value : Value) :
    Action σ CallError Value := do
  let registry := (← get).registry
  match conversion with
  | .identity => return value
  | .passThrough => return value
  | .unbox target =>
    if value.isNull then throw (.nullValue (registry.name target))
    else if value.type? = some target then return value
    else throw (.typeMismatch (registry.name target) (registry.typeName value))
  | .downcast target =>
    if registry.admits target value.type? then return value
    else throw (.invalidCast (registry.typeName value) (registry.name target))
  | .duck target =>
    let converted ← (Cast.cast engine target value).mapError CastError.toCallError
    if converted.isNull && registry.isValueType target then
      throw (.nullValue (registry.name target))
    else return converted

def convertAll (engine : EngineId) : List (Conversion × Value) → Action σ CallError (List Value)
  | [] => return []
  | (conversion, value) :: rest => do
    let converted ← convert engine conversion value
    return converted :: (← convertAll engine rest)

end Action
end StructuralCast
