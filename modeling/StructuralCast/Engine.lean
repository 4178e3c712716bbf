import StructuralCast.Compatibility
import StructuralCast.Value

/-!
Contract: one cast engine, what it has found out so far, and how it finds out more.

An engine remembers verdicts, factories and static adapters for ever. `Engine.factory` is where
widening happens: of the types on the chain of a source, the most general one that can be adapted
serves all the types below it. Questions that fail leave verdicts behind, but no factory.

Nothing here runs code of the host, and nothing but the engine itself changes.
-/

namespace StructuralCast

open Text

structure Config where
  widen : Bool
  redZone : Nat
  growth : Nat
deriving DecidableEq

namespace Config

def standard : Config := { widen := true, redZone := 100 * 1024, growth := 1024 * 1024 }

def dump (config : Config) : String :=
  Dump.record "EngineConfig"
    [("widen_to_ancestors", toString config.widen),
     ("stack_red_zone", toString config.redZone),
     ("stack_growth", toString config.growth)]

end Config

/-- An engine lives as long as it has owners: those who hold it by name, and calls in progress. -/
structure Engine where
  id : EngineId
  config : Config
  owners : Nat
  interfaces : PairTable Factory
  delegates : PairTable DelegateFactory
  statics : PairTable Value
  verdicts : PairTable Bool
  staticVerdicts : PairTable Bool

/-- A step of an engine that may fail; what was found out before the failure stays. -/
abbrev EngineStep (α : Type) : Type := ExceptT CastError (StateM Engine) α

namespace Engine

def fresh (id : EngineId) (config : Config) : Engine :=
  { id := id, config := config, owners := 0, interfaces := .empty, delegates := .empty,
    statics := .empty, verdicts := .empty, staticVerdicts := .empty }

def verdictCount (engine : Engine) : Nat := engine.verdicts.size + engine.staticVerdicts.size

def factoryCount (engine : Engine) : Nat := engine.interfaces.size

def dump (registry : Registry) (engine : Engine) : String :=
  Dump.record "Engine"
    [("config", engine.config.dump),
     ("types", toString registry.size),
     ("verdicts", toString engine.verdictCount),
     ("factories", toString engine.factoryCount)]

/-- The sources whose factories may serve a source type, the most general first. -/
def candidates (registry : Registry) (engine : Engine) (source : TypeId) : List TypeId :=
  if engine.config.widen then (registry.chain source).reverse else [source]

/-- The factory that is ready for a pair. -/
def readyFactory? (registry : Registry) (engine : Engine) (target source : TypeId) :
    Option Factory :=
  (engine.candidates registry source).findSome? (engine.interfaces.find? target)

def hasFactory (registry : Registry) (engine : Engine) (target source : TypeId) : Bool :=
  (engine.readyFactory? registry target source).isSome

/-- Whether a cast between two types needs no further planning. -/
def isPrepared (registry : Registry) (engine : Engine) (target source : TypeId) : Bool :=
  engine.hasFactory registry target source || engine.delegates.contains target source

/-- Runs an analysis against the verdicts of the engine. -/
def analyzing {α : Type} (registry : Registry) (analysis : Setting → Analysis α) : StateM Engine α :=
  fun engine =>
    let setting : Setting := ⟨registry, engine.hasFactory registry⟩
    let (answer, after) := analysis setting ⟨engine.verdicts, none⟩
    (answer, { engine with verdicts := after.verdicts })

/-- The question of compatibility where nothing is under analysis yet. -/
def ask (setting : Setting) : Ask Analysis := Compatibility.compatible setting []

def raising {α : Type} (outcome : Except CastError α) : EngineStep α := ExceptT.mk (pure outcome)

def noCast (registry : Registry) (target source : TypeId) : CastError :=
  .invalidCast (registry.name source) (registry.name target)

def knows (registry : Registry) (target source : TypeId) : Bool :=
  registry.issued target && registry.issued source

/-- Whether values of `source` can be cast to `target`. -/
def canCast (registry : Registry) (target source : TypeId) : StateM Engine Bool :=
  if knows registry target source then
    analyzing registry fun setting => ask setting false target source
  else pure false

def resolve (registry : Registry) (onStatic : Bool) (shape source : TypeId) :
    EngineStep Blueprint :=
  ExceptT.mk <| analyzing registry fun setting =>
    Resolution.blueprint registry (ask setting) onStatic shape source

/-- The factory for exactly this pair, made on first use. -/
def exactFactory (registry : Registry) (shape source : TypeId) : EngineStep Factory := do
  match (← get).interfaces.find? shape source with
  | some factory => return factory
  | none =>
    let blueprint ← resolve registry false shape source
    let factory ← raising (registry.synthesize (← get).id blueprint)
    modify fun engine => { engine with interfaces := engine.interfaces.insert shape source factory }
    return factory

/-- Makes a factory for the first candidate that allows it; the last one tells why none does. -/
def firstFactory (registry : Registry) (shape last : TypeId) : List TypeId → EngineStep Factory
  | [] => exactFactory registry shape last
  | candidate :: rest =>
    tryCatch (exactFactory registry shape candidate) fun _ => firstFactory registry shape last rest

/-- The factory that serves a pair: one that is ready, or else the most general one possible. -/
def factory (registry : Registry) (shape source : TypeId) : EngineStep Factory := do
  let engine ← get
  match engine.readyFactory? registry shape source with
  | some ready => return ready
  | none =>
    firstFactory registry shape source
      ((engine.candidates registry source).filter (· ≠ source))

/-- The delegate factory for a pair, made on first use. -/
def delegateFactory (registry : Registry) (target source : TypeId) : EngineStep DelegateFactory := do
  match (← get).delegates.find? target source with
  | some factory => return factory
  | none =>
    let question : StateM Engine Bool := analyzing registry fun setting =>
      Strategy.delegate.accepts setting (ask setting) target source
    if ← question then
      let factory ← raising (registry.synthesizeDelegate (← get).id target source)
      modify fun engine =>
        { engine with delegates := engine.delegates.insert target source factory }
      return factory
    else throw (noCast registry target source)

/-- The delegate factory of two types that are known to be delegates. -/
def requestDelegateFactory (registry : Registry) (target source : TypeId) :
    EngineStep DelegateFactory :=
  if knows registry target source ∧ (registry.info target).isDelegate ∧
      (registry.info source).isDelegate then
    delegateFactory registry target source
  else throw (noCast registry target source)

/-- Gets ready for casts between two types. -/
def prepare (registry : Registry) (target source : TypeId) : EngineStep Unit :=
  if knows registry target source then
    if registry.assignable target source then return ()
    else
      match Strategy.claimant? registry target source with
      | some .interface => do
        let _ ← factory registry target source
      | some .delegate => do
        let _ ← delegateFactory registry target source
      | some .enumText => return ()
      | some .genericParam => return ()
      | none => throw (noCast registry target source)
  else throw (noCast registry target source)

/-- Static members can be presented as an interface, except those of an interface. -/
def claimsStatic (registry : Registry) (shape source : TypeId) : Bool :=
  registry.kind shape = .interface && registry.kind source ≠ .interface

/-- Whether the static members of `source` can be presented as `shape`. -/
def canStaticCast (registry : Registry) (shape source : TypeId) : StateM Engine Bool := do
  if knows registry shape source then
    let engine ← get
    match engine.staticVerdicts.find? shape source with
    | some verdict => return verdict
    | none =>
      let verdict ←
        if claimsStatic registry shape source then
          if engine.statics.contains shape source then pure true
          else do
            let outcome ← (resolve registry true shape source).run
            pure outcome.isOk
        else pure false
      modify fun engine =>
        { engine with staticVerdicts := engine.staticVerdicts.insert shape source verdict }
      return verdict
  else return false

end Engine
end StructuralCast
