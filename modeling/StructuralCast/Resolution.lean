import StructuralCast.Shape

/-!
Contract: which member of a source type serves each member of a shape.

Resolution never decides by itself whether two types are compatible: it asks, through a function
`ask` in some monad, and it asks about no more than it needs, in a fixed order. With the
compatibility analysis as `ask` the answers are remembered on the way; with a plain relation,
in the monad `Id`, the same definitions say what resolution means.

Of the methods with the right name and shape of parameter list the closest one wins, and the first
of equally close ones. Of properties and events the first that fits wins.
-/

namespace StructuralCast

/-- A question about compatibility: can `source` stand in for `target`? For types that may be
converted in either direction, `bothWays` allows the answer for the reversed pair. -/
abbrev Ask (m : Type → Type) : Type := (bothWays : Bool) → (target source : TypeId) → m Bool

/-- A member of a shape and the member that serves it. -/
inductive Binding where
  | method (declaring : TypeId) (required provided : Method)
  | property (declaring : TypeId) (required provided : Property)
  | event (declaring : TypeId) (required provided : Event)
deriving DecidableEq

namespace Binding

def required : Binding → ShapeMember
  | method declaring wanted _ => ⟨declaring, .method wanted⟩
  | property declaring wanted _ => ⟨declaring, .property wanted⟩
  | event declaring wanted _ => ⟨declaring, .event wanted⟩

def provided : Binding → Member
  | method _ _ served => .method served
  | property _ _ served => .property served
  | event _ _ served => .event served

end Binding

/-- A shape whose every member is served by a source type. -/
structure Blueprint where
  shape : TypeId
  source : TypeId
  isStatic : Bool
  bindings : List Binding
deriving DecidableEq

namespace Resolution

variable {m : Type → Type} [Monad m]

/-- What can be said of a method before any question is asked. -/
def Eligible (required : Method) (onStatic : Bool) (candidate : Method) : Prop :=
  candidate.isStatic = onStatic ∧ candidate.isPublic ∧ candidate.name = required.name ∧
    candidate.genericArity = required.genericArity ∧
    candidate.params.length = required.params.length

instance (required : Method) (onStatic : Bool) (candidate : Method) :
    Decidable (Eligible required onStatic candidate) := by
  unfold Eligible
  infer_instance

/-- The pairs of types that have to be compatible, parameters first. Arguments flow from the shape
to the source and results back, hence the two directions. -/
def correspondence (required candidate : Method) : List (TypeId × TypeId) :=
  candidate.params.zip required.params ++ [(required.result, candidate.result)]

/-- Adds up closeness, but never to less than the least. -/
def addCloseness (left right : Int) : Int := max Registry.leastCloseness (left + right)

/-- The summed closeness of pairs that are all compatible. -/
def score? (registry : Registry) (ask : Ask m) : List (TypeId × TypeId) → m (Option Int)
  | [] => pure (some 0)
  | (target, source) :: rest => do
    if ← ask true target source then
      let others ← score? registry ask rest
      return others.map (addCloseness (registry.closeness target source))
    else return none

/-- A later candidate has to be strictly closer. -/
def improve (best : Option (Method × Int)) (candidate : Method) : Option Int → Option (Method × Int)
  | none => best
  | some score =>
    match best with
    | none => some (candidate, score)
    | some (method, highest) =>
      if highest < score then some (candidate, score) else some (method, highest)

def bestAmong (registry : Registry) (ask : Ask m) (required : Method) :
    Option (Method × Int) → List Method → m (Option (Method × Int))
  | best, [] => pure best
  | best, candidate :: rest => do
    let score ← score? registry ask (correspondence required candidate)
    bestAmong registry ask required (improve best candidate score) rest

def bestMethod (registry : Registry) (ask : Ask m) (onStatic : Bool) (offer : Offer)
    (required : Method) : m (Option Method) := do
  let candidates := offer.methods.filter fun candidate => Eligible required onStatic candidate
  let best ← bestAmong registry ask required none candidates
  return best.map Prod.fst

/-- A required direction needs a public accessor. -/
def covers (required candidate : Option Accessor) : Bool :=
  match required, candidate with
  | none, _ => true
  | some _, some accessor => accessor.isPublic
  | some _, none => false

/-- Asks about pairs until one is not compatible. -/
def allCompatible (ask : Ask m) : List (TypeId × TypeId) → m Bool
  | [] => pure true
  | (target, source) :: rest => do
    if ← ask false target source then allCompatible ask rest else return false

def propertyFits (ask : Ask m) (onStatic : Bool) (required candidate : Property) : m Bool := do
  if candidate.name = required.name ∧ candidate.isStatic = onStatic then
    if ← ask false required.type candidate.type then
      if covers required.getter candidate.getter ∧ covers required.setter candidate.setter ∧
          required.index.length = candidate.index.length then
        allCompatible ask (required.index.zip candidate.index)
      else return false
    else return false
  else return false

def eventFits (ask : Ask m) (onStatic : Bool) (required candidate : Event) : m Bool := do
  if candidate.name = required.name ∧ candidate.isStatic = onStatic then
    ask false required.handler candidate.handler
  else return false

/-- The first item that passes a test. -/
def firstFitting {α : Type} (fits : α → m Bool) : List α → m (Option α)
  | [] => pure none
  | candidate :: rest => do
    if ← fits candidate then return some candidate else firstFitting fits rest

/-- Finds the member that serves a member of a shape. -/
def bind? (registry : Registry) (ask : Ask m) (onStatic : Bool) (offer : Offer)
    (required : ShapeMember) : m (Option Binding) :=
  match required.member with
  | .method wanted => do
    let served ← bestMethod registry ask onStatic offer wanted
    return served.map (Binding.method required.declaring wanted)
  | .property wanted => do
    let served ← firstFitting (propertyFits ask onStatic wanted) offer.properties
    return served.map (Binding.property required.declaring wanted)
  | .event wanted => do
    let served ← firstFitting (eventFits ask onStatic wanted) offer.events
    return served.map (Binding.event required.declaring wanted)

/-- Binds members in order, up to the first that nothing serves. -/
def bindAll (registry : Registry) (ask : Ask m) (onStatic : Bool) (offer : Offer)
    (shape source : TypeId) : List ShapeMember → m (Except CastError (List Binding))
  | [] => pure (.ok [])
  | required :: rest => do
    match ← bind? registry ask onStatic offer required with
    | none =>
      return .error (.memberNotImplemented (registry.name shape) (registry.name source)
        (required.describe registry))
    | some binding => do
      let others ← bindAll registry ask onStatic offer shape source rest
      return others.map (binding :: ·)

/-- Binds every member of a shape to what a source type offers. -/
def blueprint (registry : Registry) (ask : Ask m) (onStatic : Bool) (shape source : TypeId) :
    m (Except CastError Blueprint) :=
  match registry.shapeMembers shape with
  | .error cause => pure (.error cause)
  | .ok required => do
    let offer := Offer.of registry source onStatic
    let bindings ← bindAll registry ask onStatic offer shape source required
    return bindings.map (Blueprint.mk shape source onStatic)

end Resolution
end StructuralCast
