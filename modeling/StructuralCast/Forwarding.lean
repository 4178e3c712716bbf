import StructuralCast.Invocation

/-!
Contract: using members through an adapter.

Every use finds a slot, checks the arguments, converts them, picks the member that the runtime type
of the source has in place of the bound one, runs it and converts the result. A method may be called
by name, by name and parameter types, or by position; a method without a body whose receiver is
itself an adapter is called through that adapter.
-/

namespace StructuralCast

variable {σ : Type}

namespace Factory

def unknown (factory : Factory) (member : String) : CallError :=
  .unknownMember factory.shapeName member

/-- The runtime type of a source, where it may have members of its own. -/
def runtimeType? (factory : Factory) (source : Value) : Option TypeId :=
  if factory.isStatic then none else source.type?.filter (· ≠ factory.source)

/-- The types below the one that a factory is made for, the most derived first. -/
def derivedTypes (factory : Factory) (registry : Registry) (source : Value) : List TypeId :=
  match factory.runtimeType? source with
  | some type => (registry.chain type).takeWhile (· ≠ factory.source)
  | none => []

/-- A method that takes the place of another one in a derived type. -/
def overridesMethod (bound candidate : Method) : Bool :=
  candidate.name = bound.name && !candidate.isStatic && candidate.isPublic &&
    candidate.params = bound.params && candidate.result = bound.result &&
    candidate.genericArity = bound.genericArity

/-- A property that takes the place of another one in a derived type. -/
def overridesProperty (bound candidate : Property) : Bool :=
  !candidate.isStatic && candidate.name = bound.name && candidate.type = bound.type &&
    candidate.index = bound.index

/-- The method that runs for a bound one. -/
def dispatchMethod (factory : Factory) (registry : Registry) (source : Value) (bound : Method) :
    Method :=
  let override? := (factory.derivedTypes registry source).findSome? fun owner =>
    (registry.info owner).methods.find? (overridesMethod bound)
  override?.getD bound

/-- The property that is used for a bound one. -/
def dispatchProperty (factory : Factory) (registry : Registry) (source : Value)
    (bound : Property) : Property :=
  let override? := (factory.derivedTypes registry source).findSome? fun owner =>
    (registry.info owner).properties.find? (overridesProperty bound)
  override?.getD bound

/-- Calls a slot; `enter` calls a method of the adapter that the source is, if it is one. -/
def forwardVia (host : Host σ)
    (enter : Option (String → List TypeId → List Value → Action σ CallError Value))
    (factory : Factory) (source : Value) (slot : MethodSlot) (args : List Value) :
    Action σ CallError Value := do
  Action.checkArguments slot.name slot.params args
  let converted ← Action.convertAll factory.engine (slot.argConversions.zip args)
  let method := factory.dispatchMethod (← get).registry source slot.source
  let result ←
    match method.body, enter with
    | none, some call => call method.name method.params converted
    | _, _ => method.invoke host source converted
  if slot.result = .void then return .null
  else Action.convert factory.engine slot.resultConversion result

/-- The slot of a name and parameter types. -/
def slotWithSignature? (factory : Factory) (name : String) (params : List TypeId) :
    Option MethodSlot :=
  factory.methods.find? fun slot => slot.name = name && slot.params = params

/-- Calls the method of a name and parameter types, where `forward` calls a slot. -/
def callSignatureVia (factory : Factory)
    (forward : MethodSlot → List Value → Action σ CallError Value) (name : String)
    (params : List TypeId) (args : List Value) : Action σ CallError Value :=
  Action.holding factory.engine do
    match factory.slotWithSignature? name params with
    | some slot => forward slot args
    | none => throw (factory.unknown name)

/-- Calls a slot of an adapter over a source. -/
def forward (host : Host σ) (factory : Factory) (slot : MethodSlot) (args : List Value) :
    Value → Action σ CallError Value
  | .adapter ref inner innerSource relays =>
    forwardVia host
      (some (callSignatureVia inner fun innerSlot innerArgs =>
        forward host inner innerSlot innerArgs innerSource))
      factory (.adapter ref inner innerSource relays) slot args
  | source => forwardVia host none factory source slot args

end Factory

namespace Adapter

/-- The slot that a call by name selects: the first one that accepts every argument. -/
def selectSlot (registry : Registry) (factory : Factory) (name : String) (args : List Value) :
    Except CallError MethodSlot :=
  let named := factory.methods.filter (·.name = name)
  let fitting := named.filter (·.params.length = args.length)
  let acceptsAll (slot : MethodSlot) : Bool :=
    (slot.params.zip args).all fun pair => registry.accepts pair.1 pair.2
  match fitting.find? acceptsAll with
  | some slot => .ok slot
  | none =>
    if !fitting.isEmpty then
      .error (.typeMismatch ("an overload of `" ++ name ++ "`")
        (Text.Dump.commaSeparated (args.map registry.typeName)))
    else
      match named with
      | slot :: _ => .error (.arityMismatch name slot.params.length args.length)
      | [] => .error (factory.unknown name)

def call (host : Host σ) (adapter : Adapter) (name : String) (args : List Value) :
    Action σ CallError Value :=
  Action.holding adapter.factory.engine do
    let slot ← Action.raising (selectSlot (← get).registry adapter.factory name args)
    adapter.factory.forward host slot args adapter.source

def callSignature (host : Host σ) (adapter : Adapter) (name : String) (params : List TypeId)
    (args : List Value) : Action σ CallError Value :=
  adapter.factory.callSignatureVia
    (fun slot slotArgs => adapter.factory.forward host slot slotArgs adapter.source)
    name params args

def callSlot (host : Host σ) (adapter : Adapter) (index : Nat) (args : List Value) :
    Action σ CallError Value :=
  Action.holding adapter.factory.engine do
    match adapter.factory.methods[index]? with
    | some slot => adapter.factory.forward host slot args adapter.source
    | none => throw (adapter.factory.unknown ("#" ++ toString index))

/-- How an index is called in messages. -/
def indexerName : String := "this[]"

/-- A property without index types. -/
def propertySlot? (factory : Factory) (name : String) (usable : PropertySlot → Bool) :
    Option PropertySlot :=
  factory.properties.find? fun slot => slot.name = name && slot.index.isEmpty && usable slot

/-- An indexer with as many index types as there are index values. -/
def indexerSlot? (factory : Factory) (arity : Nat) (usable : PropertySlot → Bool) :
    Option PropertySlot :=
  factory.properties.find? fun slot =>
    slot.index.length = arity && !slot.index.isEmpty && usable slot

def read (host : Host σ) (adapter : Adapter) (slot : PropertySlot) (index : List Value) :
    Action σ CallError Value :=
  let factory := adapter.factory
  Action.holding factory.engine do
    Action.checkArguments slot.name slot.index index
    let converted ← Action.convertAll factory.engine (slot.indexConversions.zip index)
    let property := factory.dispatchProperty (← get).registry adapter.source slot.source
    let value ← property.get host adapter.source converted
    Action.convert factory.engine slot.onGet value

def write (host : Host σ) (adapter : Adapter) (slot : PropertySlot) (index : List Value)
    (assigned : Value) : Action σ CallError Unit :=
  let factory := adapter.factory
  Action.holding factory.engine do
    Action.checkArguments slot.name slot.index index
    Action.checkArguments slot.name [slot.type] [assigned]
    let converted ← Action.convertAll factory.engine (slot.indexConversions.zip index)
    let value ← Action.convert factory.engine slot.onSet assigned
    let property := factory.dispatchProperty (← get).registry adapter.source slot.source
    property.set host adapter.source converted value

def get (host : Host σ) (adapter : Adapter) (name : String) : Action σ CallError Value :=
  match propertySlot? adapter.factory name PropertySlot.readable with
  | some slot => adapter.read host slot []
  | none => throw (adapter.factory.unknown name)

def set (host : Host σ) (adapter : Adapter) (name : String) (assigned : Value) :
    Action σ CallError Unit :=
  match propertySlot? adapter.factory name PropertySlot.writable with
  | some slot => adapter.write host slot [] assigned
  | none => throw (adapter.factory.unknown name)

def getIndex (host : Host σ) (adapter : Adapter) (index : List Value) :
    Action σ CallError Value :=
  match indexerSlot? adapter.factory index.length PropertySlot.readable with
  | some slot => adapter.read host slot index
  | none => throw (adapter.factory.unknown indexerName)

def setIndex (host : Host σ) (adapter : Adapter) (index : List Value) (assigned : Value) :
    Action σ CallError Unit :=
  match indexerSlot? adapter.factory index.length PropertySlot.writable with
  | some slot => adapter.write host slot index assigned
  | none => throw (adapter.factory.unknown indexerName)

end Adapter
end StructuralCast
