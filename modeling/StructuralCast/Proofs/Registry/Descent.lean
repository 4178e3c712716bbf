import Mathlib.Data.List.Nodup
import StructuralCast.Proofs.Registry.Traversal

/-!
Contract: walking a graph by recursion.

`Descends` visits a node that has not been seen, then what its successors lead to, and then what is
pending besides. All visits share what has been seen. `preorder` has one list of pending nodes and takes
visited nodes out of those that remain: it visits the same nodes in the same order
(`descends_preorder`), so the recursion ends on every graph that it cannot leave.

`Collects` is a recursion that also changes a state at each visit and stops where this fails. It has one
outcome, which is that of changing the state at the visited nodes in order (`collects_iff`).
-/

namespace StructuralCast

variable {α : Type} {next : α → List α} {seen pending visited : List α}

/-! ### The recursion -/

/-- The nodes that a recursive walk visits, in order, where some have been seen before. -/
inductive Descends (next : α → List α) : (seen pending visited : List α) → Prop where
  | done (seen : List α) : Descends next seen [] []
  | again {seen rest visited : List α} {node : α} (known : node ∈ seen)
      (further : Descends next seen rest visited) : Descends next seen (node :: rest) visited
  | visit {seen rest first second : List α} {node : α} (new : node ∉ seen)
      (below : Descends next (seen ++ [node]) (next node) first)
      (further : Descends next (seen ++ node :: first) rest second) :
      Descends next seen (node :: rest) (node :: first ++ second)

namespace Descends

theorem unique {others : List α} (descends : Descends next seen pending visited)
    (descends' : Descends next seen pending others) : others = visited := by
  induction descends generalizing others with
  | done =>
      cases descends'
      rfl
  | again known _ inductionHypothesis =>
      cases descends' with
      | again _ further' => exact inductionHypothesis further'
      | visit new => exact absurd known new
  | visit new _ _ belowHypothesis furtherHypothesis =>
      cases descends' with
      | again known => exact absurd known new
      | visit _ below' further' =>
          obtain rfl := belowHypothesis below'
          obtain rfl := furtherHypothesis further'
          rfl

/-- Nothing is visited twice, nor what has been seen before. -/
theorem nodup (descends : Descends next seen pending visited) :
    visited.Nodup ∧ ∀ node ∈ visited, node ∉ seen := by
  induction descends with
  | done => exact ⟨List.nodup_nil, fun _ member => absurd member List.not_mem_nil⟩
  | again _ _ inductionHypothesis => exact inductionHypothesis
  | @visit seen rest first second node new _ _ belowHypothesis furtherHypothesis =>
      obtain ⟨firstNodup, firstNew⟩ := belowHypothesis
      obtain ⟨secondNodup, secondNew⟩ := furtherHypothesis
      refine ⟨List.Nodup.append (List.nodup_cons.2 ⟨fun member => ?_, firstNodup⟩) secondNodup ?_,
        fun other member => ?_⟩
      · exact firstNew node member (by simp)
      · intro other inFirst inSecond
        exact secondNew other inSecond (List.mem_append_right seen inFirst)
      · rcases List.mem_append.1 member with inFirst | inSecond
        · rcases List.mem_cons.1 inFirst with rfl | below
          · exact new
          · exact fun known => firstNew other below (List.mem_append_left _ known)
        · exact fun known => secondNew other inSecond (List.mem_append_left _ known)

end Descends

/-! ### One list of pending nodes -/

section Preorder

variable [DecidableEq α] {remaining rest nodes : List α} {node : α}

theorem preorder_nil : preorder next remaining [] = [] :=
  preorder_of_nextVisit_eq_nil rfl

theorem preorder_cons_of_mem (remains : node ∈ remaining) :
    preorder next remaining (node :: rest) =
      node :: preorder next (remaining.erase node) (next node ++ rest) := by
  apply preorder_of_nextVisit
  simp [nextVisit, remains]

theorem preorder_cons_of_not_mem (gone : node ∉ remaining) :
    preorder next remaining (node :: rest) = preorder next remaining rest := by
  have skips : nextVisit remaining (node :: rest) = nextVisit remaining rest := by
    simp [nextVisit, gone]
  cases found : nextVisit remaining rest with
  | nil =>
      rw [preorder_of_nextVisit_eq_nil found, preorder_of_nextVisit_eq_nil (skips.trans found)]
  | cons first others =>
      rw [preorder_of_nextVisit found, preorder_of_nextVisit (skips.trans found)]

/-- Among different nodes, to take one out is to have seen it. -/
theorem erase_unseen (nodup : nodes.Nodup) (seen : List α) (node : α) :
    (nodes.filter (· ∉ seen)).erase node = nodes.filter (· ∉ seen ++ [node]) := by
  rw [(nodup.filter _).erase_eq_filter, List.filter_filter]
  apply List.filter_congr
  intro other _
  by_cases same : other = node <;> simp [same]

theorem length_unseen_lt (nodup : nodes.Nodup) (member : node ∈ nodes) (new : node ∉ seen)
    (first : List α) :
    (nodes.filter (· ∉ seen ++ node :: first)).length < (nodes.filter (· ∉ seen)).length := by
  have remains : node ∈ nodes.filter (· ∉ seen) := List.mem_filter.2 ⟨member, by simpa using new⟩
  have shorter := List.length_erase_of_mem remains
  have positive := List.length_pos_of_mem remains
  rw [erase_unseen nodup] at shorter
  have fewer : (nodes.filter (· ∉ seen ++ node :: first)).Sublist
      (nodes.filter (· ∉ seen ++ [node])) := by
    apply List.monotone_filter_right
    intro other
    simp only [List.mem_append, List.mem_cons, not_or, decide_eq_true_eq, List.not_mem_nil]
    exact fun ⟨notSeen, notNode, _⟩ => ⟨notSeen, notNode, not_false⟩
  have bound := fewer.length_le
  omega

/-- The recursion ends, and `preorder` visits first what the recursion visits. -/
theorem exists_descends (nodup : nodes.Nodup)
    (stays : ∀ left ∈ nodes, ∀ right ∈ next left, right ∈ nodes) (seen pending : List α)
    (begins : ∀ start ∈ pending, start ∈ nodes) :
    ∃ visited, Descends next seen pending visited ∧ ∀ after,
      preorder next (nodes.filter (· ∉ seen)) (pending ++ after) =
        visited ++ preorder next (nodes.filter (· ∉ seen ++ visited)) after := by
  -- By the number of nodes that have not been seen: a visit makes it smaller for what lies below the
  -- node and for what comes after it. Nodes that have been seen are skipped one after the other.
  induction size : (nodes.filter (· ∉ seen)).length using Nat.strong_induction_on
    generalizing seen pending with
  | h size smaller =>
    subst size
    induction pending with
    | nil => exact ⟨[], .done seen, fun after => by simp⟩
    | cons node rest skipped =>
        obtain ⟨member, others⟩ := List.forall_mem_cons.1 begins
        by_cases known : node ∈ seen
        · obtain ⟨visited, descends, walks⟩ := skipped others
          refine ⟨visited, .again known descends, fun after => ?_⟩
          rw [List.cons_append, preorder_cons_of_not_mem (by simp [known]), walks]
        · obtain ⟨first, below, walksBelow⟩ := smaller _ (length_unseen_lt nodup member known [])
            (seen ++ [node]) (next node) (stays node member) rfl
          obtain ⟨second, further, walksFurther⟩ := smaller _
            (length_unseen_lt nodup member known first) (seen ++ node :: first) rest others rfl
          refine ⟨node :: first ++ second, .visit known below further, fun after => ?_⟩
          have joined : seen ++ [node] ++ first = seen ++ node :: first := by simp
          rw [List.cons_append, preorder_cons_of_mem (by simp [member, known]), erase_unseen nodup,
            walksBelow, joined, walksFurther]
          simp

/-- The recursion and the walk visit the same nodes in the same order. -/
theorem descends_preorder (nodup : nodes.Nodup)
    (stays : ∀ left ∈ nodes, ∀ right ∈ next left, right ∈ nodes)
    (begins : ∀ start ∈ pending, start ∈ nodes) :
    Descends next [] pending (preorder next nodes pending) := by
  obtain ⟨visited, descends, walks⟩ := exists_descends nodup stays [] pending begins
  have walked := walks []
  simp only [List.append_nil, preorder_nil, List.not_mem_nil, not_false_iff, decide_true,
    List.filter_true] at walked
  rwa [walked]

end Preorder

/-! ### Collecting -/

section Collects

variable {β ε : Type} {enter : β → α → Except ε β} {state : β}

/-- The outcome of a recursive walk that changes a state at each node and stops at the first failure:
what has been seen in the end, and the state. -/
inductive Collects (next : α → List α) (enter : β → α → Except ε β) :
    (seen : List α) → (state : β) → (pending : List α) → Except ε (List α × β) → Prop where
  | done (seen : List α) (state : β) : Collects next enter seen state [] (.ok (seen, state))
  | again {seen rest : List α} {state : β} {node : α} {outcome : Except ε (List α × β)}
      (known : node ∈ seen) (further : Collects next enter seen state rest outcome) :
      Collects next enter seen state (node :: rest) outcome
  | fail {seen rest : List α} {state : β} {node : α} {cause : ε} (new : node ∉ seen)
      (fails : enter state node = .error cause) :
      Collects next enter seen state (node :: rest) (.error cause)
  | failBelow {seen rest : List α} {state between : β} {node : α} {cause : ε} (new : node ∉ seen)
      (entered : enter state node = .ok between)
      (below : Collects next enter (seen ++ [node]) between (next node) (.error cause)) :
      Collects next enter seen state (node :: rest) (.error cause)
  | visit {seen seen' rest : List α} {state between after : β} {node : α}
      {outcome : Except ε (List α × β)} (new : node ∉ seen)
      (entered : enter state node = .ok between)
      (below : Collects next enter (seen ++ [node]) between (next node) (.ok (seen', after)))
      (further : Collects next enter seen' after rest outcome) :
      Collects next enter seen state (node :: rest) outcome

theorem Collects.unique {outcome outcome' : Except ε (List α × β)}
    (collects : Collects next enter seen state pending outcome)
    (collects' : Collects next enter seen state pending outcome') : outcome' = outcome := by
  induction collects generalizing outcome' with
  | done =>
      cases collects'
      rfl
  | again known _ inductionHypothesis =>
      cases collects' with
      | again _ further' => exact inductionHypothesis further'
      | fail new => exact absurd known new
      | failBelow new => exact absurd known new
      | visit new => exact absurd known new
  | fail new fails =>
      cases collects' with
      | again known => exact absurd known new
      | fail _ fails' =>
          obtain rfl := Except.error.inj (fails.symm.trans fails')
          rfl
      | failBelow _ entered' => cases fails.symm.trans entered'
      | visit _ entered' => cases fails.symm.trans entered'
  | failBelow new entered _ belowHypothesis =>
      cases collects' with
      | again known => exact absurd known new
      | fail _ fails' => cases fails'.symm.trans entered
      | failBelow _ entered' below' =>
          obtain rfl := Except.ok.inj (entered.symm.trans entered')
          exact belowHypothesis below'
      | visit _ entered' below' =>
          obtain rfl := Except.ok.inj (entered.symm.trans entered')
          cases belowHypothesis below'
  | visit new entered _ _ belowHypothesis furtherHypothesis =>
      cases collects' with
      | again known => exact absurd known new
      | fail _ fails' => cases fails'.symm.trans entered
      | failBelow _ entered' below' =>
          obtain rfl := Except.ok.inj (entered.symm.trans entered')
          cases belowHypothesis below'
      | visit _ entered' below' further' =>
          obtain rfl := Except.ok.inj (entered.symm.trans entered')
          cases belowHypothesis below'
          exact furtherHypothesis further'

/-- The state is changed at the visited nodes, in order. -/
theorem collects_of_descends (descends : Descends next seen pending visited) (state : β) :
    Collects next enter seen state pending ((visited.foldlM enter state).map (seen ++ visited, ·)) := by
  induction descends generalizing state with
  | done =>
      rw [List.append_nil]
      exact .done _ state
  | again known _ inductionHypothesis => exact .again known (inductionHypothesis state)
  | @visit seen rest first second node new _ _ belowHypothesis furtherHypothesis =>
      have joined : seen ++ [node] ++ first = seen ++ node :: first := by simp
      rw [List.cons_append, List.foldlM_cons]
      cases entered : enter state node with
      | error cause => exact .fail new entered
      | ok between =>
          have below := belowHypothesis between
          rw [joined] at below
          show Collects next enter seen state (node :: rest)
            (((first ++ second).foldlM enter between).map _)
          rw [List.foldlM_append]
          cases collected : first.foldlM enter between with
          | error cause =>
              rw [collected] at below
              exact .failBelow new entered below
          | ok after =>
              rw [collected] at below
              have further := furtherHypothesis after
              rw [List.append_assoc] at further
              exact .visit new entered below further

/-- A recursion that collects has one outcome. -/
theorem collects_iff (descends : Descends next seen pending visited) {outcome : Except ε (List α × β)} :
    Collects next enter seen state pending outcome ↔
      outcome = (visited.foldlM enter state).map (seen ++ visited, ·) := by
  constructor
  · intro collects
    exact (collects_of_descends descends state).unique collects
  · rintro rfl
    exact collects_of_descends descends state

end Collects

end StructuralCast
