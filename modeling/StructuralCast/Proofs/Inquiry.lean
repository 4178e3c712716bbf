import Mathlib.Order.Defs.Unbundled
import Mathlib.Tactic.Common
import StructuralCast.Resolution

/-!
Contract: computations that do nothing but ask whether types are compatible.

Resolution and analysis are written for any monad with a way to ask. An `Inquiry` is such a
computation as a tree: a question with one continuation for each answer, or a result. Running the
tree in a monad is `interpret`, which commutes with `bind` (`interpret_bind`).

`Outcome allowed` relates an inquiry to the results that it can have when each answer is one that
`allowed` admits for its question. It is how answers that come from a changing memory are reasoned
about: no two of them need to agree. Plain evaluation with admitted answers is one of the outcomes
(`outcome_eval`).
-/

namespace StructuralCast

inductive Inquiry (α : Type) where
  | done (result : α)
  | ask (bothWays : Bool) (target source : TypeId) (next : Bool → Inquiry α)

namespace Inquiry

variable {α β : Type}

protected def bind : Inquiry α → (α → Inquiry β) → Inquiry β
  | done result, continuation => continuation result
  | ask bothWays target source next, continuation =>
    ask bothWays target source fun answer => (next answer).bind continuation

instance : Monad Inquiry where
  pure := done
  bind := Inquiry.bind

theorem bind_done (inquiry : Inquiry α) : inquiry.bind done = inquiry := by
  induction inquiry with
  | done result => rfl
  | ask bothWays target source next inductionHypothesis =>
      simp only [Inquiry.bind, inductionHypothesis]

theorem bind_bind {γ : Type} (inquiry : Inquiry α) (first : α → Inquiry β)
    (second : β → Inquiry γ) :
    (inquiry.bind first).bind second = inquiry.bind fun result => (first result).bind second := by
  induction inquiry with
  | done result => rfl
  | ask bothWays target source next inductionHypothesis =>
      simp only [Inquiry.bind, inductionHypothesis]

instance : LawfulMonad Inquiry :=
  LawfulMonad.mk' Inquiry (fun inquiry => bind_done inquiry) (fun _ _ => rfl)
    (fun inquiry first second => bind_bind inquiry first second)

/-- The question itself, with its answer as the result. -/
def question : Ask Inquiry := fun bothWays target source => ask bothWays target source done

/-- Runs an inquiry in a monad in which questions can be asked. -/
def interpret {m : Type → Type} [Monad m] (answer : Ask m) : Inquiry α → m α
  | done result => pure result
  | ask bothWays target source next =>
    answer bothWays target source >>= fun reply => interpret answer (next reply)

section Interpret

variable {m : Type → Type} [Monad m] (answer : Ask m)

@[simp] theorem interpret_pure (result : α) :
    interpret answer (pure result : Inquiry α) = pure result := rfl

@[simp] theorem interpret_ite (condition : Prop) [Decidable condition] (yes no : Inquiry α) :
    interpret answer (if condition then yes else no) =
      if condition then interpret answer yes else interpret answer no := by
  split <;> rfl

variable [LawfulMonad m]

@[simp] theorem interpret_question (bothWays : Bool) (target source : TypeId) :
    interpret answer (question bothWays target source) = answer bothWays target source := by
  simp [question, interpret]

@[simp] theorem interpret_bind (inquiry : Inquiry α) (continuation : α → Inquiry β) :
    interpret answer (inquiry >>= continuation) =
      interpret answer inquiry >>= fun result => interpret answer (continuation result) := by
  show interpret answer (inquiry.bind continuation) = _
  induction inquiry with
  | done result => simp [Inquiry.bind, interpret]
  | ask bothWays target source next inductionHypothesis =>
      simp only [Inquiry.bind, interpret, inductionHypothesis, bind_assoc]

@[simp] theorem interpret_map (change : α → β) (inquiry : Inquiry α) :
    interpret answer (change <$> inquiry) = change <$> interpret answer inquiry := by
  rw [map_eq_pure_bind, interpret_bind, map_eq_pure_bind]
  rfl

end Interpret

/-- The plain answers that a relation gives. -/
def answering (answer : TypeId → TypeId → Bool) : Ask Id := fun _ target source =>
  answer target source

/-- The result when every question has one fixed answer. -/
def eval (answer : TypeId → TypeId → Bool) (inquiry : Inquiry α) : α :=
  inquiry.interpret (answering answer)

/-- The results that an inquiry can have if its answers are admitted ones. -/
def Outcome (allowed : TypeId → TypeId → Bool → Prop) : Inquiry α → α → Prop
  | done result, final => final = result
  | ask _ target source next, final =>
    ∃ answer, allowed target source answer ∧ (next answer).Outcome allowed final

section Outcome

variable {allowed : TypeId → TypeId → Bool → Prop}

@[simp] theorem outcome_pure {result final : α} :
    Outcome allowed (pure result : Inquiry α) final ↔ final = result := Iff.rfl

@[simp] theorem outcome_question {bothWays : Bool} {target source : TypeId} {final : Bool} :
    Outcome allowed (question bothWays target source) final ↔ allowed target source final := by
  simp [question, Outcome]

@[simp] theorem outcome_bind {inquiry : Inquiry α} {continuation : α → Inquiry β} {final : β} :
    Outcome allowed (inquiry >>= continuation) final ↔
      ∃ result, Outcome allowed inquiry result ∧ Outcome allowed (continuation result) final := by
  show Outcome allowed (inquiry.bind continuation) final ↔ _
  induction inquiry with
  | done result => simp [Inquiry.bind, Outcome]
  | ask bothWays target source next inductionHypothesis =>
      simp only [Inquiry.bind, Outcome, inductionHypothesis]
      constructor
      · rintro ⟨answer, admitted, result, reached, rest⟩
        exact ⟨result, ⟨answer, admitted, reached⟩, rest⟩
      · rintro ⟨result, ⟨answer, admitted, reached⟩, rest⟩
        exact ⟨answer, admitted, result, reached, rest⟩

@[simp] theorem outcome_map {inquiry : Inquiry α} {change : α → β} {final : β} :
    Outcome allowed (change <$> inquiry) final ↔
      ∃ result, Outcome allowed inquiry result ∧ final = change result := by
  rw [map_eq_pure_bind, outcome_bind]
  rfl

@[simp] theorem outcome_ite {condition : Prop} [Decidable condition] {yes no : Inquiry α}
    {final : α} :
    Outcome allowed (if condition then yes else no) final ↔
      (condition ∧ Outcome allowed yes final) ∨ (¬ condition ∧ Outcome allowed no final) := by
  split <;> simp [*]

/-- Admitting more answers admits more results. -/
theorem Outcome.mono {wider : TypeId → TypeId → Bool → Prop}
    (widen : ∀ target source answer, allowed target source answer → wider target source answer)
    {inquiry : Inquiry α} {final : α} (outcome : Outcome allowed inquiry final) :
    Outcome wider inquiry final := by
  induction inquiry with
  | done result => exact outcome
  | ask bothWays target source next inductionHypothesis =>
      obtain ⟨answer, admitted, rest⟩ := outcome
      exact ⟨answer, widen _ _ _ admitted, inductionHypothesis answer rest⟩

/-- The plain evaluation is the result that its own answers admit. -/
theorem outcome_eval (answer : TypeId → TypeId → Bool) (inquiry : Inquiry α) :
    Outcome (fun target source reply => reply = answer target source) inquiry (inquiry.eval answer) := by
  induction inquiry with
  | done result => rfl
  | ask bothWays target source next inductionHypothesis =>
      exact ⟨answer target source, rfl, inductionHypothesis (answer target source)⟩

/-- What holds of a state before each question and after it holds after the inquiry, and the result is
one that the answers given in such states admit. -/
theorem outcome_interpret_of {σ : Type} (property : σ → Prop) {answer : Ask (StateM σ)}
    (answers : ∀ bothWays target source state, property state →
      property (answer bothWays target source state).2 ∧
        allowed target source (answer bothWays target source state).1)
    (inquiry : Inquiry α) (state : σ) (held : property state) :
    property (inquiry.interpret answer state).2 ∧
      inquiry.Outcome allowed (inquiry.interpret answer state).1 := by
  induction inquiry generalizing state with
  | done result => exact ⟨held, rfl⟩
  | ask bothWays target source next inductionHypothesis =>
      obtain ⟨heldThen, admitted⟩ := answers bothWays target source state held
      obtain ⟨heldFinally, outcome⟩ := inductionHypothesis _ _ heldThen
      exact ⟨heldFinally, _, admitted, outcome⟩

/-- The same for answers that are right in the states that come later: the result is one that the answers
admit that are right in the end. -/
theorem outcome_interpret_along {σ : Type} (property : σ → Prop) (later : σ → σ → Prop)
    [IsPreorder σ later] (allowed : σ → TypeId → TypeId → Bool → Prop)
    (stays : ∀ {before after}, later before after → ∀ target source reply,
      allowed before target source reply → allowed after target source reply)
    {answer : Ask (StateM σ)}
    (answers : ∀ bothWays target source state, property state →
      property (answer bothWays target source state).2 ∧
        later state (answer bothWays target source state).2 ∧
        allowed (answer bothWays target source state).2 target source
          (answer bothWays target source state).1)
    (inquiry : Inquiry α) (state : σ) (held : property state) :
    property (inquiry.interpret answer state).2 ∧
      later state (inquiry.interpret answer state).2 ∧
      inquiry.Outcome (allowed (inquiry.interpret answer state).2)
        (inquiry.interpret answer state).1 := by
  induction inquiry generalizing state with
  | done result => exact ⟨held, refl_of later state, rfl⟩
  | ask bothWays target source next inductionHypothesis =>
      obtain ⟨heldThen, passed, admitted⟩ := answers bothWays target source state held
      obtain ⟨heldFinally, passedFurther, outcome⟩ := inductionHypothesis _ _ heldThen
      exact ⟨heldFinally, trans_of later passed passedFurther, _,
        stays passedFurther target source _ admitted, outcome⟩

end Outcome
end Inquiry
end StructuralCast
