import Mathlib.Computability.StateTransition
import Mathlib.Data.List.ModifyLast
import StructuralCast.Proofs.Compatibility.Guard
import StructuralCast.Proofs.Inquiry.Questions
import StructuralCast.Proofs.Registry.Registration

/-!
Contract: an analysis ends, and it leaves its guard as it found it.

`compatible` is handed the pairs under analysis. A deliberation is the same analysis on one guard, step
by step (`Deliberation.step`): a pair that is taken up gets a frame of its own, an assumption is noted on
the innermost frame, and a frame that is taken off hands what it has assumed on to the frame around it.
Nothing bounds its steps.

A question is answered as `compatible` answers it (`Deliberation.runs_answer`), so a deliberation comes
to its end. No step puts a pair on the guard that is there already, nor one that no member mentions
(`Deliberation.nested_step`), so the guard holds no more frames than there are pairs of types.
`Compatibility.guard_balanced` says both of every deliberation.
-/

namespace StructuralCast.Compatibility

theorem length_pairs (registry : Registry) : (pairs registry).length = registry.size * registry.size := by
  simp [pairs, Registry.ids, List.length_flatMap, Function.comp_def]

theorem standsAlone_of_lt {depth assumed : Nat} (further : assumed < depth) :
    standsAlone depth (some assumed) = false :=
  decide_eq_false (Nat.not_le.2 further)

theorem standsAlone_of_le {depth assumed : Nat} (within : depth ≤ assumed) :
    standsAlone depth (some assumed) = true :=
  decide_eq_true within

/-! ### The guard -/

/-- A pair under analysis, with the depth of the outermost pair that was assumed on its behalf. -/
structure Frame where
  target : TypeId
  source : TypeId
  lowest : Option Nat
deriving DecidableEq

/-- The frames of an analysis, the outermost first. -/
abbrev Guard : Type := List Frame

namespace Guard

variable {guard : Guard} {target source : TypeId} {noted : Option Nat}

def pairs (guard : Guard) : List (TypeId × TypeId) :=
  guard.map fun frame => (frame.target, frame.source)

/-- What the innermost frame has assumed. -/
def lowest (guard : Guard) : Option Nat := guard.getLast?.bind Frame.lowest

def setLowest (guard : Guard) (noted : Option Nat) : Guard :=
  guard.modifyLast fun frame => { frame with lowest := noted }

/-- Notes an assumption on the innermost frame. -/
def assume (guard : Guard) (depth : Nat) : Guard :=
  guard.modifyLast fun frame => { frame with lowest := outermost frame.lowest (some depth) }

def push (guard : Guard) (target source : TypeId) : Guard := guard ++ [⟨target, source, none⟩]

/-- Takes the innermost frame off. What it has assumed about pairs further out goes to the frame around
it; if there is no such pair, a positive verdict stands on its own. -/
def pop (guard : Guard) : Guard × Bool :=
  match guard.getLast? with
  | none => (guard, true)
  | some frame =>
    let around : Guard := guard.dropLast
    match frame.lowest with
    | some depth => if depth < around.length then (around.assume depth, false) else (around, true)
    | none => (around, true)

/-- A guard is empty, or it has an innermost frame. -/
theorem cases (guard : Guard) : guard = [] ∨ ∃ (around : Guard) (frame : Frame), guard = around ++ [frame] :=
  List.eq_nil_or_concat' guard

@[simp] theorem pairs_push : (guard.push target source).pairs = guard.pairs ++ [(target, source)] := by
  simp [pairs, push]

@[simp] theorem lowest_push : (guard.push target source).lowest = none := by
  simp [Guard.lowest, push]

theorem setLowest_push :
    (guard.push target source).setLowest noted = guard ++ [⟨target, source, noted⟩] :=
  List.modifyLast_concat _ _ _

@[simp] theorem pairs_setLowest : (guard.setLowest noted).pairs = guard.pairs := by
  rcases guard.cases with rfl | ⟨around, frame, rfl⟩
  · rfl
  · rw [setLowest, List.modifyLast_concat]
    simp [pairs]

@[simp] theorem length_pairs : guard.pairs.length = guard.length := List.length_map _

@[simp] theorem setLowest_lowest : guard.setLowest guard.lowest = guard := by
  rcases guard.cases with rfl | ⟨around, frame, rfl⟩
  · rfl
  · rw [setLowest, List.modifyLast_concat]
    simp [Guard.lowest]

theorem lowest_setLowest (nonempty : guard.pairs ≠ []) : (guard.setLowest noted).lowest = noted := by
  rcases guard.cases with rfl | ⟨around, frame, rfl⟩
  · exact absurd rfl nonempty
  · rw [setLowest, List.modifyLast_concat]
    simp [Guard.lowest]

@[simp] theorem setLowest_setLowest (earlier : Option Nat) :
    (guard.setLowest earlier).setLowest noted = guard.setLowest noted := by
  rcases guard.cases with rfl | ⟨around, frame, rfl⟩
  · rfl
  · simp only [setLowest, List.modifyLast_concat]

theorem dropLast_setLowest : (guard.setLowest noted).dropLast = guard.dropLast := by
  rcases guard.cases with rfl | ⟨around, frame, rfl⟩
  · rfl
  · rw [setLowest, List.modifyLast_concat, List.dropLast_concat, List.dropLast_concat]

theorem assume_eq (guard : Guard) (depth : Nat) :
    guard.assume depth = guard.setLowest (outermost guard.lowest (some depth)) := by
  rcases guard.cases with rfl | ⟨around, frame, rfl⟩
  · rfl
  · simp [assume, setLowest, List.modifyLast_concat, Guard.lowest]

theorem pairs_pop (guard : Guard) : guard.pop.1.pairs = guard.pairs.dropLast := by
  rcases guard.cases with rfl | ⟨around, frame, rfl⟩
  · rfl
  · have whole : (pairs (around ++ [frame])).dropLast = pairs around := by simp [pairs]
    rw [whole, pop, List.getLast?_concat]
    simp only [List.dropLast_concat]
    split
    case h_1 =>
      split
      case isTrue => rw [assume_eq, pairs_setLowest]
      case isFalse => rfl
    case h_2 => rfl

/-- Taking a frame off is what the end of an analysis does to the assumptions around it. -/
theorem pop_concat (guard : Guard) (target source : TypeId) (noted : Option Nat) :
    pop (guard ++ [⟨target, source, noted⟩]) =
      (guard.setLowest
        (if standsAlone guard.length noted then guard.lowest else outermost guard.lowest noted),
        standsAlone guard.length noted) := by
  rw [pop, List.getLast?_concat]
  simp only [List.dropLast_concat]
  cases noted with
  | none => simp [standsAlone]
  | some depth =>
      rcases Nat.lt_or_ge depth guard.length with further | within
      · simp [further, standsAlone_of_lt further, assume_eq]
      · simp [Nat.not_lt.2 within, standsAlone_of_le within]

end Guard

/-! ### The steps -/

/-- Who waits for the verdict on a pair, and how that one goes on. -/
structure Caller where
  target : TypeId
  source : TypeId
  next : Bool → Inquiry Bool

def Caller.pair (caller : Caller) : TypeId × TypeId := (caller.target, caller.source)

/-- An analysis in progress. The innermost caller comes first. -/
structure Deliberation where
  guard : Guard
  verdicts : PairTable Bool
  callers : List Caller
  current : Inquiry Bool

namespace Deliberation

variable {setting : Setting} {guard : Guard} {verdicts : PairTable Bool} {callers : List Caller}

def step (setting : Setting) : Deliberation → Option Deliberation
  | ⟨guard, verdicts, callers, .ask bothWays target source next⟩ =>
    if target = source then some ⟨guard, verdicts, callers, next true⟩
    else
      match assumption? guard.pairs bothWays target source with
      | some depth => some ⟨guard.assume depth, verdicts, callers, next true⟩
      | none =>
        match verdicts.find? target source with
        | some verdict => some ⟨guard, verdicts, callers, next verdict⟩
        | none =>
          some ⟨guard.push target source, verdicts, ⟨target, source, next⟩ :: callers,
            analyze setting Inquiry.question target source⟩
  | ⟨guard, verdicts, caller :: callers, .done verdict⟩ =>
    let (around, alone) := guard.pop
    let stored :=
      if !verdict || alone then verdicts.insert caller.target caller.source verdict else verdicts
    some ⟨around, stored, callers, caller.next verdict⟩
  | ⟨_, _, [], .done _⟩ => none

/-- One deliberation comes to another one, in any number of steps. -/
abbrev Runs (setting : Setting) : Deliberation → Deliberation → Prop :=
  StateTransition.Reaches (step setting)

/-- The deliberation of a question that is asked on a guard. -/
def about (guard : Guard) (verdicts : PairTable Bool) (bothWays : Bool) (target source : TypeId) :
    Deliberation :=
  ⟨guard, verdicts, [], .ask bothWays target source .done⟩

/-- How a deliberation goes on with the outcome of an analysis. -/
def resume (guard : Guard) (callers : List Caller) (next : Bool → Inquiry Bool)
    (outcome : Bool × AnalysisState) : Deliberation :=
  ⟨guard.setLowest outcome.2.lowest, outcome.2.verdicts, callers, next outcome.1⟩

/-! ### Every question is answered -/

/-- The end of an analysis: its verdict is stored and its assumptions are handed on, as `concluding` does. -/
theorem step_concluded (analysis : Analysis Bool) (target source : TypeId) (next : Bool → Inquiry Bool) :
    step setting (resume (guard.push target source) (⟨target, source, next⟩ :: callers) .done
        (analysis ⟨verdicts, none⟩)) =
      some (resume guard callers next
        (concluding guard.pairs.length target source analysis ⟨verdicts, guard.lowest⟩)) := by
  unfold concluding
  dsimp only
  generalize analysis ⟨verdicts, none⟩ = run
  obtain ⟨verdict, after⟩ := run
  simp only [resume, step, Guard.setLowest_push, Guard.pop_concat, Guard.length_pairs]

/-- Where the questions of an inquiry are answered, the inquiry comes to its result. -/
theorem runs_inquiry {stack : List (TypeId × TypeId)} (nonempty : stack ≠ [])
    (answers : ∀ (guard : Guard) verdicts callers bothWays target source next, guard.pairs = stack →
      Runs setting ⟨guard, verdicts, callers, .ask bothWays target source next⟩
        (resume guard callers next
          (compatible setting stack bothWays target source ⟨verdicts, guard.lowest⟩)))
    (inquiry : Inquiry Bool) (guard : Guard) (ofStack : guard.pairs = stack) (verdicts : PairTable Bool)
    (callers : List Caller) :
    Runs setting ⟨guard, verdicts, callers, inquiry⟩
      (resume guard callers .done
        (inquiry.interpret (compatible setting stack) ⟨verdicts, guard.lowest⟩)) := by
  induction inquiry generalizing guard verdicts with
  | done result =>
      have same : resume guard callers .done (result, ⟨verdicts, guard.lowest⟩) =
          ⟨guard, verdicts, callers, .done result⟩ := by simp [resume]
      exact same ▸ .refl
  | ask bothWays target source next inductionHypothesis =>
      generalize answered :
        compatible setting stack bothWays target source ⟨verdicts, guard.lowest⟩ = outcome
      have first := answers guard verdicts callers bothWays target source next ofStack
      have further := inductionHypothesis outcome.1 (guard.setLowest outcome.2.lowest)
        (Guard.pairs_setLowest.trans ofStack) outcome.2.verdicts
      rw [answered] at first
      rw [Guard.lowest_setLowest (ofStack ▸ nonempty)] at further
      simp only [resume, Guard.setLowest_setLowest] at further
      have continued : (Inquiry.ask bothWays target source next).interpret (compatible setting stack)
          ⟨verdicts, guard.lowest⟩ =
            (next outcome.1).interpret (compatible setting stack) outcome.2 := by
        rw [← answered]
        rfl
      rw [continued]
      exact first.trans further

/-- The analysis of a pair comes to its verdict, if questions below it are answered. A pair with a type
that was never given out has none. -/
theorem runs_analysis (closed : setting.registry.Closed) {target source : TypeId}
    (isNew : (target, source) ∉ guard.pairs)
    (answers : Fresh setting.registry guard.pairs (target, source) →
      ∀ (within : Guard) verdicts callers bothWays target' source' next,
        within.pairs = guard.pairs ++ [(target, source)] →
          Runs setting ⟨within, verdicts, callers, .ask bothWays target' source' next⟩
            (resume within callers next (compatible setting (guard.pairs ++ [(target, source)]) bothWays
              target' source' ⟨verdicts, within.lowest⟩))) :
    Runs setting
      ⟨guard.push target source, verdicts, callers, analyze setting Inquiry.question target source⟩
      (resume (guard.push target source) callers .done
        (analyze setting (deeper setting guard.pairs target source) target source ⟨verdicts, none⟩)) := by
  rw [← interpret_analyze setting (deeper setting guard.pairs target source)]
  by_cases fresh : Fresh setting.registry guard.pairs (target, source)
  · rw [deeper, if_pos fresh]
    have analyzed := runs_inquiry (by simp) (answers fresh)
      (analyze setting Inquiry.question target source) (guard.push target source) Guard.pairs_push verdicts
      callers
    rwa [Guard.lowest_push] at analyzed
  · have foreign : (target, source) ∉ pairs setting.registry := fun given =>
      fresh ⟨(mem_pairs_iff.1 given).1, (mem_pairs_iff.1 given).2, isNew⟩
    obtain ⟨verdict, isDone⟩ := exists_done_of_foreign closed foreign
    rw [isDone]
    have unchanged : resume (guard.push target source) callers .done (verdict, ⟨verdicts, none⟩) =
        ⟨guard.push target source, verdicts, callers, .done verdict⟩ := by
      rw [resume, ← Guard.lowest_push, Guard.setLowest_lowest]
    exact unchanged ▸ .refl

/-- A question is answered as `compatible` answers it. -/
theorem runs_answer (closed : setting.registry.Closed) (guard : Guard) (verdicts : PairTable Bool)
    (callers : List Caller) (bothWays : Bool) (target source : TypeId) (next : Bool → Inquiry Bool) :
    Runs setting ⟨guard, verdicts, callers, .ask bothWays target source next⟩
      (resume guard callers next
        (compatible setting guard.pairs bothWays target source ⟨verdicts, guard.lowest⟩)) := by
  -- A pair that is taken up leaves less pairs to take up below it.
  induction measure : remaining setting.registry guard.pairs using Nat.strong_induction_on
    generalizing guard verdicts callers bothWays target source next with
  | _ bound inductionHypothesis =>
    rw [compatible_apply]
    by_cases same : target = source
    · rw [if_pos same]
      exact .single (by simp [step, resume, same])
    rw [if_neg same]
    cases matched : assumption? guard.pairs bothWays target source with
    | some depth => exact .single (by simp [step, resume, same, matched, assume, Guard.assume_eq])
    | none =>
      cases stored : verdicts.find? target source with
      | some verdict => exact .single (by simp [step, resume, same, matched, stored])
      | none =>
        have takenUp : step setting ⟨guard, verdicts, callers, .ask bothWays target source next⟩ =
            some ⟨guard.push target source, verdicts, ⟨target, source, next⟩ :: callers,
              analyze setting Inquiry.question target source⟩ := by
          simp [step, same, matched, stored]
        refine .head takenUp (.tail (runs_analysis closed (not_mem_of_assumption? matched) ?_)
          (step_concluded _ target source next))
        intro fresh within verdicts callers bothWays target' source' next ofStack
        rw [← ofStack]
        refine inductionHypothesis _ ?_ _ _ _ _ _ _ _ rfl
        rw [ofStack, ← measure]
        exact remaining_append_lt fresh

/-! ### No pair is taken up twice -/

/-- What a deliberation about a pair may ask about: the pair itself, and pairs of types that have been
given out, if the pair is one. -/
def Concerns (registry : Registry) (first : TypeId × TypeId) (target source : TypeId) : Prop :=
  (target, source) = first ∨ (target, source) ∈ pairs registry ∧ first ∈ pairs registry

/-- What every step keeps: on top of the pairs that the guard held at first lies one for each caller. -/
structure Nested (registry : Registry) (outer : List (TypeId × TypeId)) (first : TypeId × TypeId)
    (reached : Deliberation) : Prop where
  stacked : reached.guard.pairs = outer ++ (reached.callers.map Caller.pair).reverse
  distinct : reached.guard.pairs.Nodup
  asks : reached.current.Asks (Concerns registry first)
  waiting : ∀ caller ∈ reached.callers, Concerns registry first caller.target caller.source ∧
    ∀ answer, (caller.next answer).Asks (Concerns registry first)

section Nested

variable {outer : List (TypeId × TypeId)} {first : TypeId × TypeId} {before after reached : Deliberation}

theorem nested_about {registry : Registry} {bothWays : Bool} {target source : TypeId}
    (distinct : guard.pairs.Nodup) :
    Nested registry guard.pairs (target, source) (about guard verdicts bothWays target source) where
  stacked := (List.append_nil _).symm
  distinct := distinct
  asks := ⟨.inl rfl, fun _ => trivial⟩
  waiting := List.forall_mem_nil _

theorem asks_takenUp (closed : setting.registry.Closed) {target source : TypeId}
    (concerned : Concerns setting.registry first target source) :
    (analyze setting Inquiry.question target source).Asks (Concerns setting.registry first) := by
  refine (asks_analyze closed).mono fun _ _ ⟨mentioned, given⟩ => .inr ⟨mentioned, ?_⟩
  exact concerned.elim (fun same => same ▸ given) And.right

theorem nested_step (closed : setting.registry.Closed)
    (nested : Nested setting.registry outer first before) (stepped : step setting before = some after) :
    Nested setting.registry outer first after := by
  obtain ⟨guard, verdicts, callers, current⟩ := before
  obtain ⟨stacked, distinct, asks, waiting⟩ := nested
  dsimp only at stacked distinct asks waiting
  cases current with
  | ask bothWays target source next =>
      obtain ⟨concerned, further⟩ := asks
      have answered {guard' : Guard} (same : guard'.pairs = guard.pairs) (answer : Bool) :
          Nested setting.registry outer first ⟨guard', verdicts, callers, next answer⟩ :=
        ⟨same.trans stacked, same ▸ distinct, further answer, waiting⟩
      simp only [step] at stepped
      split at stepped
      case isTrue =>
        cases stepped
        exact answered rfl true
      case isFalse =>
        split at stepped
        case h_1 depth matched =>
          cases stepped
          exact answered (by rw [Guard.assume_eq, Guard.pairs_setLowest]) true
        case h_2 unmatched =>
          split at stepped
          case h_1 verdict stored =>
            cases stepped
            exact answered rfl verdict
          case h_2 =>
            -- Only here does the guard grow, by a pair that has just been looked for on it in vain.
            cases stepped
            refine ⟨?_, ?_, asks_takenUp closed concerned, ?_⟩
            · simp [stacked, Caller.pair]
            · rw [Guard.pairs_push]
              exact List.nodup_append.2 ⟨distinct, List.nodup_singleton _, fun pair isPair other isNew same =>
                not_mem_of_assumption? unmatched (List.mem_singleton.1 isNew ▸ same ▸ isPair)⟩
            · exact List.forall_mem_cons.2 ⟨⟨concerned, further⟩, waiting⟩
  | done verdict =>
      cases callers with
      | nil => cases stepped
      | cons caller callers =>
          have popped : guard.pop.1.pairs = outer ++ (callers.map Caller.pair).reverse := by
            rw [Guard.pairs_pop, stacked, List.map_cons, List.reverse_cons, ← List.append_assoc,
              List.dropLast_concat]
          have still : guard.pop.1.pairs.Nodup := by
            rw [Guard.pairs_pop]
            exact distinct.sublist (List.dropLast_sublist _)
          obtain ⟨⟨_, continued⟩, waitingAround⟩ := List.forall_mem_cons.1 waiting
          cases stepped
          exact ⟨popped, still, continued verdict, waitingAround⟩

theorem nested_of_runs (closed : setting.registry.Closed)
    (nested : Nested setting.registry outer first before) (runs : Runs setting before after) :
    Nested setting.registry outer first after := by
  induction runs with
  | refl => exact nested
  | tail _ stepped inductionHypothesis => exact nested_step closed inductionHypothesis stepped

namespace Nested

variable {registry : Registry} (nested : Nested registry outer first reached)

include nested in
theorem length_le (known : outer ⊆ pairs registry) (given : first ∈ pairs registry) :
    reached.guard.length ≤ registry.size * registry.size := by
  have all : reached.guard.pairs ⊆ pairs registry := by
    intro pair member
    rw [nested.stacked] at member
    rcases List.mem_append.1 member with isOuter | isNested
    · exact known isOuter
    · obtain ⟨caller, isCaller, rfl⟩ := List.mem_map.1 (List.mem_reverse.1 isNested)
      rcases (nested.waiting caller isCaller).1 with isFirst | ⟨isGiven, _⟩
      · have same : caller.pair = first := isFirst
        rwa [same]
      · exact isGiven
  have bounded := (List.subperm_of_subset nested.distinct all).length_le
  rwa [Guard.length_pairs, length_pairs] at bounded

include nested in
/-- A pair with a type that was never given out is taken up alone. -/
theorem length_le_of_foreign (foreign : first ∉ pairs registry) :
    reached.guard.length ≤ outer.length + 1 := by
  have alone : reached.callers.map Caller.pair = List.replicate reached.callers.length first := by
    refine List.eq_replicate_iff.2 ⟨List.length_map _, fun pair member => ?_⟩
    obtain ⟨caller, isCaller, rfl⟩ := List.mem_map.1 member
    exact (nested.waiting caller isCaller).1.resolve_right fun given => foreign given.2
  have once := nested.distinct
  rw [nested.stacked, alone, List.reverse_replicate] at once
  have few := List.nodup_replicate.1 (List.nodup_append.1 once).2.1
  rw [← Guard.length_pairs, nested.stacked, List.length_append, List.length_reverse, List.length_map]
  omega

end Nested
end Nested

end Deliberation

/-! ### What a question does to the guard -/

theorem lowest_of_compatible (setting : Setting) (stack : List (TypeId × TypeId)) (bothWays : Bool)
    (target source : TypeId) (state : AnalysisState) :
    (compatible setting stack bothWays target source state).2.lowest = state.lowest ∨
      ∃ depth < stack.length, (compatible setting stack bothWays target source state).2.lowest =
        outermost state.lowest (some depth) := by
  refine compatible_induction (motive := fun stack _ _ state outcome =>
    outcome.2.lowest = state.lowest ∨
      ∃ depth < stack.length, outcome.2.lowest = outermost state.lowest (some depth))
    ?same ?assumed ?stored ?analyzed stack bothWays target source state
  case same => exact fun _ _ _ => .inl rfl
  case assumed =>
    intro stack _ _ _ _ depth matched
    exact .inr ⟨depth, (List.findIdx?_eq_some_iff_getElem.1 matched).1, rfl⟩
  case stored => exact fun _ _ _ _ _ _ => .inl rfl
  case analyzed =>
    intro stack target source state _ _ _ _
    unfold concluding
    dsimp only
    generalize analyze setting (deeper setting stack target source) target source _ = run
    obtain ⟨verdict, verdicts, noted⟩ := run
    dsimp only
    cases noted with
    | none => exact .inl rfl
    | some depth =>
        rcases Nat.lt_or_ge depth stack.length with further | within
        · exact .inr ⟨depth, further, by simp [standsAlone_of_lt further]⟩
        · exact .inl (by simp [standsAlone_of_le within])

/-- An assumption changes what was noted only if it is about a pair further out. -/
theorem outermost_cases (noted : Option Nat) (depth : Nat) :
    outermost noted (some depth) = noted ∨
      outermost noted (some depth) = some depth ∧ ∀ earlier, noted = some earlier → depth < earlier := by
  cases noted with
  | none => exact .inr ⟨rfl, fun _ impossible => by cases impossible⟩
  | some earlier =>
      by_cases further : depth < earlier
      · refine .inr ⟨congrArg some (Nat.min_eq_right (Nat.le_of_lt further)), ?_⟩
        rintro _ ⟨⟩
        exact further
      · exact .inl (congrArg some (Nat.min_eq_left (Nat.le_of_not_lt further)))

open Deliberation in
/-- What it means that a question about a pair, asked on a guard, is answered and leaves the guard
balanced. -/
structure Balanced (setting : Setting) (guard : Guard) (verdicts : PairTable Bool) (bothWays : Bool)
    (target source : TypeId) : Prop where
  /-- The deliberation comes to its end, with the answer and the verdicts of `compatible`. -/
  ends : StateTransition.eval (step setting) (about guard verdicts bothWays target source) =
    Part.some (resume guard [] .done
      (compatible setting guard.pairs bothWays target source ⟨verdicts, guard.lowest⟩))
  distinct : ∀ reached, Runs setting (about guard verdicts bothWays target source) reached →
    reached.guard.pairs.Nodup ∧ guard.pairs <+: reached.guard.pairs
  bounded : setting.registry.issued target → setting.registry.issued source →
    ∀ reached, Runs setting (about guard verdicts bothWays target source) reached →
      reached.guard.length ≤ setting.registry.size * setting.registry.size
  /-- If one of the two types was never given out, no more than their own frame is put on the guard. -/
  shallow : ¬ (setting.registry.issued target ∧ setting.registry.issued source) →
    ∀ reached, Runs setting (about guard verdicts bothWays target source) reached →
      reached.guard.length ≤ guard.length + 1
  /-- In the end the guard holds its frames again, and only the innermost one may have been changed. -/
  restored : ∀ last ∈ StateTransition.eval (step setting) (about guard verdicts bothWays target source),
    last.guard.pairs = guard.pairs ∧ last.guard.dropLast = guard.dropLast
  /-- What changes there is that a pair further out has been assumed, one that is on the guard. -/
  lowered : ∀ last ∈ StateTransition.eval (step setting) (about guard verdicts bothWays target source),
    last.guard.lowest = guard.lowest ∨ ∃ depth < guard.length, last.guard.lowest = some depth ∧
      ∀ earlier, guard.lowest = some earlier → depth < earlier
  /-- The chains that an analysis looks at are whole, because climbs come to their ends. -/
  climbs : ∀ id, setting.registry.Lineage id (setting.registry.chain id)

open Deliberation in
/-- Every question is answered, and leaves the guard on which it is asked balanced. -/
theorem guard_balanced {setting : Setting} (grown : setting.registry.Grown)
    (acyclic : setting.registry.Acyclic) {guard : Guard} (distinct : guard.pairs.Nodup)
    (known : guard.pairs ⊆ pairs setting.registry) (verdicts : PairTable Bool) (bothWays : Bool)
    (target source : TypeId) : Balanced setting guard verdicts bothWays target source := by
  have ends : StateTransition.eval (step setting) (about guard verdicts bothWays target source) =
      Part.some (resume guard [] .done
        (compatible setting guard.pairs bothWays target source ⟨verdicts, guard.lowest⟩)) :=
    Part.eq_some_iff.2 (StateTransition.mem_eval.2
      ⟨runs_answer grown.closed guard verdicts [] bothWays target source .done, rfl⟩)
  have nested {reached : Deliberation}
      (runs : Runs setting (about guard verdicts bothWays target source) reached) :
      Nested setting.registry guard.pairs (target, source) reached :=
    nested_of_runs grown.closed (nested_about distinct) runs
  refine
    { ends := ends
      distinct := fun reached runs => ⟨(nested runs).distinct, ?kept⟩
      bounded := fun targetIssued sourceIssued reached runs =>
        (nested runs).length_le known (mem_pairs_iff.2 ⟨targetIssued, sourceIssued⟩)
      shallow := fun foreign reached runs => ?shallow
      restored := fun last isLast => ?restored
      lowered := fun last isLast => ?lowered
      climbs := Registry.lineage_chain grown acyclic }
  case kept =>
    rw [(nested runs).stacked]
    exact List.prefix_append _ _
  case shallow =>
    have few := (nested runs).length_le_of_foreign fun given => foreign (mem_pairs_iff.1 given)
    rwa [Guard.length_pairs] at few
  case restored =>
    rw [ends] at isLast
    obtain rfl := Part.mem_some_iff.1 isLast
    exact ⟨Guard.pairs_setLowest, Guard.dropLast_setLowest⟩
  case lowered =>
    rw [ends] at isLast
    obtain rfl := Part.mem_some_iff.1 isLast
    dsimp only [resume]
    rcases lowest_of_compatible setting guard.pairs bothWays target source ⟨verdicts, guard.lowest⟩ with
      same | ⟨depth, onGuard, lowered⟩
    · rw [same, Guard.setLowest_lowest]
      exact .inl rfl
    · have nonempty : guard.pairs ≠ [] := List.ne_nil_of_length_pos (Nat.zero_lt_of_lt onGuard)
      rw [Guard.length_pairs] at onGuard
      rw [lowered, Guard.lowest_setLowest nonempty]
      exact (outermost_cases guard.lowest depth).imp_right fun ⟨noted, further⟩ =>
        ⟨depth, onGuard, noted, further⟩

/-! ### An instance -/

/-- A book has chapters and a chapter is in a book, and so it is with films and their scenes. -/
def library : Registry :=
  let gives (name : String) (result : TypeId) : Method := ⟨name, [], result, false, 0, .visible, none⟩
  Registry.initial.registered
    [ .declare (.named "Book") .interface, .declare (.named "Chapter") .interface,
      .declare (.named "Film") .classType, .declare (.named "Scene") .classType,
      .define ⟨16⟩ { Definition.empty with methods := [gives "Part" ⟨17⟩] },
      .define ⟨17⟩ { Definition.empty with methods := [gives "Whole" ⟨16⟩] },
      .define ⟨18⟩ { Definition.empty with methods := [gives "Part" ⟨19⟩] },
      .define ⟨19⟩ { Definition.empty with methods := [gives "Whole" ⟨18⟩] } ]

theorem library_orderly : library.Orderly :=
  .of_earlier (Registry.retains_of_develops (Registry.develops_registered _ _) .initial).2
    (by decide +kernel)

/-- In the library no adapter is ready. -/
def reading : Setting := ⟨library, fun _ _ => false⟩

/-- While it is open whether films are books, scenes are chapters on the assumption that they are. The
frame of films and books says so in the end, and no verdict is stored. -/
theorem library_balanced :
    StateTransition.eval (Deliberation.step reading)
        (.about [⟨⟨16⟩, ⟨18⟩, none⟩] .empty true ⟨17⟩ ⟨19⟩) =
      Part.some ⟨[⟨⟨16⟩, ⟨18⟩, some 0⟩], .empty, [], .done true⟩ ∧
    ∀ reached, Deliberation.Runs reading (.about [⟨⟨16⟩, ⟨18⟩, none⟩] .empty true ⟨17⟩ ⟨19⟩) reached →
      reached.guard.length ≤ 400 := by
  have balanced : Balanced reading [⟨⟨16⟩, ⟨18⟩, none⟩] .empty true ⟨17⟩ ⟨19⟩ :=
    guard_balanced library_orderly.grown library_orderly.acyclic (by decide) (by decide +kernel) _ _ _ _
  refine ⟨?ends, ?bounded⟩
  case ends =>
    generalize outcome : compatible reading [(⟨16⟩, ⟨18⟩)] true ⟨17⟩ ⟨19⟩ ⟨.empty, none⟩ = answer
    have verdict : answer.1 = true := by rw [← outcome]; decide +kernel
    have entries : answer.2.verdicts.entries = [] := by rw [← outcome]; decide +kernel
    have lowest : answer.2.lowest = some 0 := by rw [← outcome]; decide +kernel
    obtain ⟨_, ⟨_⟩, _⟩ := answer
    cases verdict
    cases entries
    cases lowest
    exact balanced.ends.trans
      (congrArg (fun answer => Part.some (Deliberation.resume _ [] .done answer)) outcome)
  case bounded =>
    have size : reading.registry.size = 20 := by decide +kernel
    have bounded := balanced.bounded (by decide +kernel) (by decide +kernel)
    rwa [size] at bounded

end StructuralCast.Compatibility
