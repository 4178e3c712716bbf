import StructuralCast.Argument

/-!
Contract: running members, callables and handlers.

`Host` is the only way to run code that this library does not know. Everything else here decides
whether it runs, on which arguments, and what happens to its result: members without a body fail, a
callable over a callable converts on the way in and out, a relay converts and passes on to the
handlers of its adapter, and a raised event runs the handlers that were subscribed when it began.
-/

namespace StructuralCast

variable {σ : Type}

namespace Method

def invoke (host : Host σ) (method : Method) (receiver : Value) (args : List Value) :
    Action σ CallError Value :=
  match method.body with
  | some routine => host ⟨routine, receiver, args, .null⟩
  | none => throw (.missingBody method.name)

end Method

namespace Property

def get (host : Host σ) (property : Property) (receiver : Value) (index : List Value) :
    Action σ CallError Value :=
  match property.getter with
  | none => throw (.unknownMember property.name "get")
  | some accessor =>
    match accessor.body with
    | some routine => host ⟨routine, receiver, index, .null⟩
    | none => throw (.missingBody (property.name ++ ".get"))

def set (host : Host σ) (property : Property) (receiver : Value) (index : List Value)
    (assigned : Value) : Action σ CallError Unit :=
  match property.setter with
  | none => throw (.unknownMember property.name "set")
  | some accessor =>
    match accessor.body with
    | some routine => do
      let _ ← host ⟨routine, receiver, index, assigned⟩
    | none => throw (.missingBody (property.name ++ ".set"))

end Property

namespace DelegateFactory

/-- Calls through a delegate factory; `inner` runs the callable that is wrapped. -/
def forward (factory : DelegateFactory) (inner : List Value → Action σ CallError Value)
    (args : List Value) : Action σ CallError Value :=
  Action.holding factory.engine do
    Action.checkArguments factory.targetName factory.params args
    let converted ← Action.convertAll factory.engine (factory.argConversions.zip args)
    let result ← inner converted
    if factory.result = .void then return .null
    else Action.convert factory.engine factory.resultConversion result

end DelegateFactory

namespace Callable

/-- Calls a callable. One of the host runs its routine, whatever else it shows. -/
def invoke (host : Host σ) (args : List Value) : Callable → Action σ CallError Value
  | native _ _ routine => host ⟨routine, .null, args, .null⟩
  | adapted _ factory inner => factory.forward (fun converted => invoke host converted inner) args
  | foreign _ _ body _ => host ⟨body.routine, .null, args, .null⟩

end Callable

namespace Relay

/-- Passes a source event on to the handlers of an adapter, if it has any. -/
def invoke (host : Host σ) (relay : Relay) (args : List Value) : Action σ CallError Value := do
  let handlers ← Action.relayHandlers relay.id
  if handlers.isEmpty then return .null
  else if args.length ≠ relay.plan.argConversions.length then
    throw (.arityMismatch "event relay" relay.plan.argConversions.length args.length)
  else
    Action.holding relay.engine do
      let converted ← Action.convertAll relay.engine (relay.plan.argConversions.zip args)
      let last ← Multicast.run (Callable.invoke host converted) handlers
      Action.convert relay.engine relay.plan.resultConversion (last.getD .null)

end Relay

namespace Handler

def invoke (host : Host σ) (args : List Value) : Handler → Action σ CallError Value
  | direct c => c.invoke host args
  | relay r => r.invoke host args

end Handler

namespace Action

/-- Raises an event: the answer is the result of the last handler, or none. -/
def raise (host : Host σ) (key : EventKey) (args : List Value) :
    Action σ CallError (Option Value) := do
  let subscribed ← handlers key
  Multicast.run (Handler.invoke host args) subscribed

end Action
end StructuralCast
