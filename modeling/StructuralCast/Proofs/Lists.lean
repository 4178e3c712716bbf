import Mathlib.Data.List.Forall2

/-!
Contract: lists in step.

Two lists are in step when their entries are related in order (`List.Forall₂`). Then what is in one has
a partner in the other, and a search by tests that the lists answer in step finds partners (`rel_find?`).
-/

namespace StructuralCast

variable {α β γ : Type} {related : α → β → Prop} {others : β → γ → Prop} {lefts : List α}
  {rights : List β} {lasts : List γ}

theorem exists_of_mem_left (all : List.Forall₂ related lefts rights) {left : α}
    (member : left ∈ lefts) : ∃ right ∈ rights, related left right := by
  induction all with
  | nil => exact absurd member List.not_mem_nil
  | @cons head other _ _ here _ inductionHypothesis =>
      rcases List.mem_cons.1 member with rfl | further
      · exact ⟨other, List.mem_cons_self, here⟩
      · obtain ⟨right, isRight, there⟩ := inductionHypothesis further
        exact ⟨right, List.mem_cons_of_mem _ isRight, there⟩

theorem exists_of_mem_right (all : List.Forall₂ related lefts rights) {right : β}
    (member : right ∈ rights) : ∃ left ∈ lefts, related left right :=
  exists_of_mem_left all.flip member

theorem forall₂_comp (first : List.Forall₂ related lefts rights)
    (second : List.Forall₂ others rights lasts) :
    List.Forall₂ (fun left last => ∃ right, related left right ∧ others right last) lefts lasts := by
  induction first generalizing lasts with
  | nil =>
      cases second
      exact .nil
  | cons here _ inductionHypothesis =>
      cases second with
      | cons there further => exact .cons ⟨_, here, there⟩ (inductionHypothesis further)

/-- A test that both lists answer in step finds things in step. -/
theorem rel_find? (test : α → Bool) (test' : β → Bool)
    (inStep : ∀ left right, related left right → test left = test' right)
    (all : List.Forall₂ related lefts rights) :
    Option.Rel related (lefts.find? test) (rights.find? test') := by
  induction all with
  | nil => exact .none
  | @cons left right _ _ here _ inductionHypothesis =>
      have same := inStep left right here
      by_cases fits : test left = true
      · rw [List.find?_cons_of_pos fits, List.find?_cons_of_pos (same ▸ fits)]
        exact .some here
      · rw [List.find?_cons_of_neg fits, List.find?_cons_of_neg (same ▸ fits)]
        exact inductionHypothesis

/-- What was found in step is nothing twice, or partners. -/
theorem cases_of_rel {found : Option α} {found' : Option β} (rel : Option.Rel related found found') :
    (found = none ∧ found' = none) ∨
      ∃ left right, found = some left ∧ found' = some right ∧ related left right := by
  cases rel with
  | none => exact .inl ⟨rfl, rfl⟩
  | some here => exact .inr ⟨_, _, rfl, rfl, here⟩

theorem rel_getElem? (all : List.Forall₂ related lefts rights) (index : Nat) :
    Option.Rel related lefts[index]? rights[index]? := by
  induction all generalizing index with
  | nil => exact .none
  | cons here _ inductionHypothesis =>
      cases index with
      | zero => exact .some here
      | succ index => exact inductionHypothesis index

end StructuralCast
