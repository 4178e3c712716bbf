import Mathlib.Data.List.TakeWhile
import Mathlib.Logic.Relation
import StructuralCast.Traversal

/-!
Contract: which nodes a walk visits.

A walk visits a pending node if it remains (`mem_preorder_of_mem`), the successors of what it visits
(`mem_preorder_of_next`), and nothing else (`reached_of_mem_preorder`). Where successors never leave the
nodes that remain, these are the nodes that are reached from the pending ones (`mem_preorder_iff`).
-/

namespace StructuralCast

variable {α : Type} [DecidableEq α] {next : α → List α} {remaining pending : List α}

/-- What the next visit skips may not be visited. -/
theorem pending_of_nextVisit {node : α} {rest : List α}
    (found : nextVisit remaining pending = node :: rest) :
    ∃ skipped, pending = skipped ++ node :: rest ∧ ∀ other ∈ skipped, other ∉ remaining := by
  refine ⟨pending.takeWhile fun other => decide (other ∉ remaining), ?_, ?_⟩
  · rw [← found, nextVisit, List.takeWhile_append_dropWhile]
  · intro other member
    have skips := List.mem_takeWhile_imp member
    simpa using skips

theorem not_mem_of_nextVisit_eq_nil (found : nextVisit remaining pending = []) {node : α}
    (isPending : node ∈ pending) : node ∉ remaining := by
  have skips := List.dropWhile_eq_nil_iff.1 found node isPending
  simpa using skips

/-- The equation of a walk that goes on. -/
theorem preorder_of_nextVisit {node : α} {rest : List α}
    (found : nextVisit remaining pending = node :: rest) :
    preorder next remaining pending =
      node :: preorder next (remaining.erase node) (next node ++ rest) := by
  rw [preorder]
  split
  case h_1 ended =>
    rw [ended] at found
    cases found
  case h_2 node' rest' found' =>
    rw [found'] at found
    obtain ⟨rfl, rfl⟩ := List.cons.inj found
    rfl

theorem preorder_of_nextVisit_eq_nil (found : nextVisit remaining pending = []) :
    preorder next remaining pending = [] := by
  rw [preorder]
  split
  case h_1 => rfl
  case h_2 node rest found' =>
    rw [found'] at found
    cases found

/-- Pending nodes are visited. -/
theorem mem_preorder_of_mem {node : α} (isPending : node ∈ pending) (remains : node ∈ remaining) :
    node ∈ preorder next remaining pending := by
  induction remaining, pending using preorder.induct next with
  | case1 remaining pending found =>
      exact absurd remains (not_mem_of_nextVisit_eq_nil found isPending)
  | case2 remaining pending first rest found inductionHypothesis =>
      rw [preorder_of_nextVisit found]
      by_cases same : node = first
      · exact same ▸ List.mem_cons_self
      · obtain ⟨skipped, split, skips⟩ := pending_of_nextVisit found
        rw [split] at isPending
        rcases List.mem_append.1 isPending with before | after
        · exact absurd remains (skips node before)
        · have later : node ∈ rest := (List.mem_cons.1 after).resolve_left same
          refine List.mem_cons_of_mem _ (inductionHypothesis ?_ ?_)
          · exact List.mem_append_right _ later
          · exact (List.mem_erase_of_ne same).2 remains

/-- The successors of a visited node are visited. -/
theorem mem_preorder_of_next {node successor : α} (visited : node ∈ preorder next remaining pending)
    (follows : successor ∈ next node) (remains : successor ∈ remaining) :
    successor ∈ preorder next remaining pending := by
  induction remaining, pending using preorder.induct next with
  | case1 remaining pending found =>
      rw [preorder_of_nextVisit_eq_nil found] at visited
      exact absurd visited List.not_mem_nil
  | case2 remaining pending first rest found inductionHypothesis =>
      rw [preorder_of_nextVisit found] at visited ⊢
      by_cases same : successor = first
      · exact same ▸ List.mem_cons_self
      · have stillRemains : successor ∈ remaining.erase first := (List.mem_erase_of_ne same).2 remains
        refine List.mem_cons_of_mem _ ?_
        rcases List.mem_cons.1 visited with rfl | later
        · exact mem_preorder_of_mem (List.mem_append_left _ follows) stillRemains
        · exact inductionHypothesis later stillRemains

/-- What is visited is reached from a pending node. -/
theorem reached_of_mem_preorder {node : α} (visited : node ∈ preorder next remaining pending) :
    ∃ start ∈ pending, Relation.ReflTransGen (fun left right => right ∈ next left) start node := by
  induction remaining, pending using preorder.induct next with
  | case1 remaining pending found =>
      rw [preorder_of_nextVisit_eq_nil found] at visited
      exact absurd visited List.not_mem_nil
  | case2 remaining pending first rest found inductionHypothesis =>
      obtain ⟨skipped, split, _⟩ := pending_of_nextVisit found
      have isPending : first ∈ pending := by simp [split]
      rw [preorder_of_nextVisit found] at visited
      rcases List.mem_cons.1 visited with rfl | later
      · exact ⟨node, isPending, .refl⟩
      · obtain ⟨start, isStart, path⟩ := inductionHypothesis later
        rcases List.mem_append.1 isStart with successor | other
        · exact ⟨first, isPending, .head successor path⟩
        · exact ⟨start, by simp [split, other], path⟩

/-- A walk within nodes that successors do not leave visits all that is reached. -/
theorem mem_preorder_iff {node : α} (begins : ∀ start ∈ pending, start ∈ remaining)
    (stays : ∀ left ∈ remaining, ∀ right ∈ next left, right ∈ remaining) :
    node ∈ preorder next remaining pending ↔
      ∃ start ∈ pending, Relation.ReflTransGen (fun left right => right ∈ next left) start node := by
  refine ⟨reached_of_mem_preorder, ?_⟩
  rintro ⟨start, isPending, path⟩
  have both : node ∈ preorder next remaining pending ∧ node ∈ remaining := by
    induction path with
    | refl => exact ⟨mem_preorder_of_mem isPending (begins start isPending), begins start isPending⟩
    | tail _ step inductionHypothesis =>
        obtain ⟨visited, remains⟩ := inductionHypothesis
        have remainsToo := stays _ remains _ step
        exact ⟨mem_preorder_of_next visited step remainsToo, remainsToo⟩
  exact both.1

end StructuralCast
