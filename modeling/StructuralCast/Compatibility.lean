import StructuralCast.Strategy
import StructuralCast.Resolution
import StructuralCast.PairTable

/-!
Contract: whether values of one type can be used as another, natively or member by member.

Shapes mention themselves and each other, so the question about a pair may come up again while the
pair is under analysis. It is then answered yes: the pair holds if all else does. `compatible` is
given the pairs under analysis, outermost first, and notes the outermost pair that an answer
assumed. A negative verdict is stored always, a positive one only if it assumes no pair outside its
own analysis; what is stored is never asked again.

The analysis ends because no pair is taken up twice, and there are only so many of them.
-/

namespace StructuralCast

/-- What does not change during an analysis. `prepared` tells for which pairs an adapter is ready,
which settles them without looking at their members. -/
structure Setting where
  registry : Registry
  prepared : (target source : TypeId) → Bool

structure AnalysisState where
  verdicts : PairTable Bool
  /-- The outermost pair that the analysis in progress has assumed, by its depth. -/
  lowest : Option Nat

abbrev Analysis : Type → Type := StateM AnalysisState

namespace Strategy

variable {m : Type → Type} [Monad m]

/-- Two delegates agree if their parameters do, one by one, and their results. -/
def signaturesAgree (ask : Ask m) (target source : Option Signature) : m Bool :=
  match target, source with
  | some wanted, some offered => do
    if wanted.params.length = offered.params.length then
      if ← Resolution.allCompatible ask (wanted.params.zip offered.params) then
        ask false wanted.result offered.result
      else return false
    else return false
  | _, _ => pure false

/-- Whether a strategy can turn values of `source` into values of `target`. -/
def accepts (setting : Setting) (ask : Ask m) (target source : TypeId) : Strategy → m Bool
  | interface => do
    let registry := setting.registry
    if claims registry target source interface then
      if setting.prepared target source then return true
      else return (← Resolution.blueprint registry ask false target source).isOk
    else return false
  | delegate => do
    let registry := setting.registry
    if claims registry target source delegate then
      signaturesAgree ask (registry.info target).invoke (registry.info source).invoke
    else return false
  | enumText => pure (claims setting.registry target source enumText)
  | genericParam => pure (claims setting.registry target source genericParam)

/-- Whether a strategy can turn values of `target` back into values of `source`. -/
def acceptsReversed (setting : Setting) (ask : Ask m) (target source : TypeId) : Strategy → m Bool
  | genericParam => pure false
  | strategy => strategy.accepts setting ask source target

/-- Asks the strategies in order until one of them says yes. -/
def anyOf (test : Strategy → m Bool) : List Strategy → m Bool
  | [] => pure false
  | strategy :: rest => do
    if ← test strategy then return true else anyOf test rest

end Strategy

namespace Compatibility

/-- What makes a pair compatible, given the answers for the pairs that its members mention. -/
def analyze {m : Type → Type} [Monad m] (setting : Setting) (ask : Ask m)
    (target source : TypeId) : m Bool := do
  if setting.registry.related target source then return true
  else if ← Strategy.anyOf (Strategy.accepts setting ask target source) Strategy.all then
    return true
  else Strategy.anyOf (Strategy.acceptsReversed setting ask target source) Strategy.all

/-- All ordered pairs of types that have been given out. -/
def pairs (registry : Registry) : List (TypeId × TypeId) :=
  registry.ids.flatMap fun target => registry.ids.map fun source => (target, source)

/-- The depth of a pair among those under analysis. -/
def assumption? (stack : List (TypeId × TypeId)) (bothWays : Bool) (target source : TypeId) :
    Option Nat :=
  stack.findIdx? fun pair => pair = (target, source) || (bothWays && pair = (source, target))

/-- A pair that may be taken up: given out, and not under analysis yet. -/
def Fresh (registry : Registry) (stack : List (TypeId × TypeId)) (pair : TypeId × TypeId) : Prop :=
  registry.issued pair.1 ∧ registry.issued pair.2 ∧ pair ∉ stack

instance (registry : Registry) (stack : List (TypeId × TypeId)) (pair : TypeId × TypeId) :
    Decidable (Fresh registry stack pair) := by
  unfold Fresh
  infer_instance

/-- How many pairs are left to take up. -/
def remaining (registry : Registry) (stack : List (TypeId × TypeId)) : Nat :=
  (pairs registry).countP fun pair => pair ∉ stack

theorem mem_pairs_iff {registry : Registry} {pair : TypeId × TypeId} :
    pair ∈ pairs registry ↔ registry.issued pair.1 ∧ registry.issued pair.2 := by
  obtain ⟨target, source⟩ := pair
  simp [pairs, Registry.mem_ids_iff]

theorem remaining_append_lt {registry : Registry} {stack : List (TypeId × TypeId)}
    {pair : TypeId × TypeId} (fresh : Fresh registry stack pair) :
    remaining registry (stack ++ [pair]) < remaining registry stack := by
  have split : ∀ candidates : List (TypeId × TypeId),
      (candidates.countP fun other => other ∉ stack ++ [pair]) +
          (candidates.filter fun other => other ∉ stack).countP (· = pair) =
        candidates.countP fun other => other ∉ stack := by
    intro candidates
    induction candidates with
    | nil => rfl
    | cons head tail inductionHypothesis =>
        by_cases seen : head ∈ stack <;> by_cases same : head = pair <;>
          simp_all <;> omega
  have counted : 0 < ((pairs registry).filter fun other => other ∉ stack).countP (· = pair) := by
    rw [List.countP_pos_iff]
    have member : pair ∈ pairs registry := mem_pairs_iff.2 ⟨fresh.1, fresh.2.1⟩
    exact ⟨pair, by simp [member, fresh.2.2], by simp⟩
  have total := split (pairs registry)
  unfold remaining
  omega

/-- The outermost of two assumptions. -/
def outermost : Option Nat → Option Nat → Option Nat
  | none, other => other
  | some depth, none => some depth
  | some left, some right => some (min left right)

/-- Answers yes on the strength of the pair at a depth. -/
def assume (depth : Nat) : Analysis Bool := fun state =>
  (true, { state with lowest := outermost state.lowest (some depth) })

/-- Whether a verdict on the pair at a depth assumes nothing outside its own analysis. -/
def standsAlone (depth : Nat) : Option Nat → Bool
  | none => true
  | some assumed => depth ≤ assumed

/-- Runs the analysis of the pair at a depth, stores its verdict if it may be stored, and hands its
assumptions on to the pair around it. -/
def concluding (depth : Nat) (target source : TypeId) (analysis : Analysis Bool) : Analysis Bool :=
  fun state =>
    let (verdict, after) := analysis { state with lowest := none }
    let alone := standsAlone depth after.lowest
    let verdicts :=
      if !verdict || alone then after.verdicts.insert target source verdict else after.verdicts
    let lowest := if alone then state.lowest else outermost state.lowest after.lowest
    (verdict, { verdicts := verdicts, lowest := lowest })

/-- Whether `source` can stand in for `target`, given the pairs under analysis. -/
def compatible (setting : Setting) (stack : List (TypeId × TypeId)) (bothWays : Bool)
    (target source : TypeId) : Analysis Bool := do
  if target = source then return true
  else
    match assumption? stack bothWays target source with
    | some depth => assume depth
    | none =>
      match (← get).verdicts.find? target source with
      | some verdict => return verdict
      | none =>
        let ask : Ask Analysis :=
          if _fresh : Fresh setting.registry stack (target, source) then
            fun bothWays' target' source' =>
              compatible setting (stack ++ [(target, source)]) bothWays' target' source'
          else fun _ _ _ => pure false
        concluding stack.length target source (analyze setting ask target source)
termination_by remaining setting.registry stack
decreasing_by exact remaining_append_lt ‹Fresh _ _ _›

end Compatibility
end StructuralCast
