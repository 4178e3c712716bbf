/-!
Contract: walking a graph depth first.

`preorder` visits the nodes that are reached from a list of pending nodes, each once, a node before
its successors and these in their order. The nodes that may still be visited are an argument, and a
visit takes its node out of them: so the walk ends on every graph, with cycles or without.
-/

namespace StructuralCast

/-- What is left of the pending nodes, from the first one that may still be visited. -/
def nextVisit {α : Type} [DecidableEq α] (remaining pending : List α) : List α :=
  pending.dropWhile fun node => decide (node ∉ remaining)

theorem mem_of_nextVisit {α : Type} [DecidableEq α] {remaining pending rest : List α} {node : α}
    (found : nextVisit remaining pending = node :: rest) : node ∈ remaining := by
  induction pending with
  | nil => simp [nextVisit] at found
  | cons head tail inductionHypothesis =>
      by_cases visitable : head ∈ remaining
      · have same : head :: tail = node :: rest := by
          simpa [nextVisit, List.dropWhile_cons, visitable] using found
        obtain ⟨rfl, rfl⟩ := List.cons.inj same
        exact visitable
      · apply inductionHypothesis
        simpa [nextVisit, List.dropWhile_cons, visitable] using found

/-- Depth-first preorder within the nodes that remain. -/
def preorder {α : Type} [DecidableEq α] (next : α → List α) (remaining pending : List α) : List α :=
  match _found : nextVisit remaining pending with
  | [] => []
  | node :: rest => node :: preorder next (remaining.erase node) (next node ++ rest)
termination_by remaining.length
decreasing_by
  have member := mem_of_nextVisit ‹nextVisit remaining pending = _›
  have shorter := List.length_erase_of_mem member
  have positive := List.length_pos_of_mem member
  omega

end StructuralCast
