import StructuralCast.Multicast
import StructuralCast.Text.Blank

/-!
Contract: casting values.

Null stays null. Any other value first loses what engines put on it, so adapters never pile up. If
it fits the target as it is, it is the answer; otherwise the strategy that claims the pair makes it:
an adapter over the value, a callable over the callable, the text or value of an enum, or the value
itself between generic parameters.

Making an adapter subscribes one relay for each relayed event; a source without events of its own
cannot be adapted then.
-/

namespace StructuralCast.Cast

variable {σ : Type}

def failure (registry : Registry) (target : TypeId) (value : Value) : CastError :=
  Engine.noCast registry target (value.type?.getD .object)

/-- Where the events of an adapted source are kept. -/
def eventKey (registry : Registry) (factory : Factory) (source : Value) (event : String) :
    Except CallError EventKey :=
  if factory.isStatic then .ok ⟨.type factory.source, event⟩
  else
    match source with
    | .object o => .ok ⟨.object o.number, event⟩
    | other => .error (.unknownMember (registry.typeName other) event)

/-- Subscribes the relays of a new adapter; an event that is not relayed has none. -/
def connect (factory : Factory) (source : Value) :
    List EventSlot → Action σ CallError (List (Option RelayId))
  | [] => return []
  | slot :: rest => do
    let relay ←
      match slot.relay with
      | none => pure none
      | some plan => do
        match eventKey (← get).registry factory source slot.sourceEvent with
        | .error cause => throw cause
        | .ok key => do
          let id ← Action.newRelayList
          Action.subscribe key (.relay ⟨id, plan, factory.engine⟩)
          pure (some id)
    let others ← connect factory source rest
    return relay :: others

/-- A new adapter over a source. -/
def adapt (factory : Factory) (source : Value) : Action σ CallError Value := do
  let relays ← connect factory source factory.events
  return .adapter (← Action.freshRef) factory source relays

/-- Reads an enum value: the name of a variant, or else a number with blanks around it. -/
def parseEnum (registry : Registry) (target : TypeId) (content : String) :
    Except CallError Value :=
  let info := registry.info target
  match info.variantNamed? content with
  | some variant => .ok (.enumeration target variant.value)
  | none =>
    match Text.parseInt64? (Text.trimBlanks content.toList) with
    | some value => .ok (.enumeration target value)
    | none => .error (.unknownVariant info.name content)

/-- Writes an enum value: the name of the first variant with that value, or else the number. -/
def formatEnum (registry : Registry) (type : TypeId) (value : Int64) : String :=
  match (registry.info type).variantValued? value with
  | some variant => variant.name
  | none => toString value.toInt

/-- Casts a plain value by the strategy in charge. -/
def byStrategy (engine : EngineId) (target : TypeId) (value : Value) :
    Strategy → Action σ CastError Value
  | .interface => do
    let registry := (← get).registry
    let source := value.type?.getD .object
    let factory ← Action.withEngine engine (Engine.factory registry target source)
    (adapt factory value).mapError CastError.call
  | .delegate => do
    let registry := (← get).registry
    match value with
    | .callable c =>
      let factory ← Action.withEngine engine (Engine.delegateFactory registry target c.type)
      return .callable (.adapted (← Action.freshRef) factory c)
    | other => throw (failure registry target other)
  | .enumText => do
    let registry := (← get).registry
    match value with
    | .text _ content =>
      match parseEnum registry target content with
      | .ok parsed => return parsed
      | .error cause => throw (.call cause)
    | .enumeration type number =>
      if target = .text then Action.newText (formatEnum registry type number)
      else throw (failure registry target value)
    | other => throw (failure registry target other)
  | .genericParam => return value

/-- Casts a value to a type. -/
def cast (engine : EngineId) (target : TypeId) (value : Value) : Action σ CastError Value := do
  let registry := (← get).registry
  if !registry.issued target then throw (failure registry target value)
  else if value.isNull then return .null
  else
    let plain := value.unadapt
    if registry.admits target plain.type? then return plain
    else
      match Strategy.claimant? registry target (plain.type?.getD .object) with
      | some strategy => byStrategy engine target plain strategy
      | none => throw (failure registry target plain)

/-- Whether a value can be cast to a type, judged by its types alone. -/
def canCastValue (engine : EngineId) (target : TypeId) (value : Value) :
    Action σ CastError Bool := do
  let registry := (← get).registry
  if !registry.issued target then return false
  else if value.isNull then return target ≠ .void && !registry.isValueType target
  else
    match value.unadapt.type? with
    | some source => Action.onEngine engine (Engine.canCast registry target source)
    | none => return false

/-- The adapter that presents the static members of a type as an interface, made on first use. -/
def staticCast (engine : EngineId) (shape source : TypeId) : Action σ CastError Value := do
  let world ← get
  let registry := world.registry
  if Engine.knows registry shape source ∧ Engine.claimsStatic registry shape source then
    match (world.engine engine).statics.find? shape source with
    | some ready => return ready
    | none =>
      let factory ← Action.withEngine engine do
        let blueprint ← Engine.resolve registry true shape source
        Engine.raising (registry.synthesize engine blueprint)
      let made ← (adapt factory .null).mapError CastError.call
      Action.onEngine engine <| modify fun state =>
        { state with statics := state.statics.insert shape source made }
      return made
  else throw (Engine.noCast registry shape source)

end StructuralCast.Cast
