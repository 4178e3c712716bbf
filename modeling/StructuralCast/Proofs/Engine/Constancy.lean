import StructuralCast.Proofs.Compatibility.Settlement
import StructuralCast.Proofs.Engine.Reachable

/-!
Contract: an engine answers all questions of one analysis alike.

While an analysis goes on, verdicts are stored that the next question finds, so it is not plain that the
answers fit together: an engine that widens may change its mind later, when more adapters are ready.
Within one analysis it does not. Every no that an engine stores follows from noes (`Reachable.refuting`),
so all answers are about one relation (`Compatibility.Settled`), and an inquiry of any length comes out as
with one fixed answer to each question: the one that the engine would give to begin with
(`analyzing_eval`). It would give the same one when the inquiry is over (`answer_after`).
-/

namespace StructuralCast.Engine

variable {registry : Registry} {engine after : Engine}

/-! ### Noes follow from noes -/

theorem Edit.refuting {before : Engine} (edit : Edit registry before after)
    (held : registry.Refuting before.verdicts) : registry.Refuting after.verdicts := by
  cases edit with
  | keepFactory => exact held
  | change changes =>
      cases changes with
      | learn inquiry =>
          exact Compatibility.interpret_refutes ⟨registry, before.hasFactory registry⟩
            (inquiry ⟨registry, before.hasFactory registry⟩) ⟨before.verdicts, none⟩ held
      | keepDelegate => exact held
      | keepStatic => exact held
      | keepVerdict => exact held
      | owners => exact held

theorem Edits.refuting {before : Engine} (edits : Edits registry before after)
    (held : registry.Refuting before.verdicts) : registry.Refuting after.verdicts := by
  induction edits with
  | refl => exact held
  | tail _ step inductionHypothesis => exact step.refuting inductionHypothesis

/-- Every no that a reachable engine has stored follows from the noes that it has stored. -/
theorem Reachable.refuting (reachable : Reachable registry engine) :
    registry.Refuting engine.verdicts :=
  reachable.moves.edits.refuting fun _ _ never => nomatch never

/-! ### One answer to each question -/

/-- What an engine answers when it is asked about a pair. -/
def answer (registry : Registry) (engine : Engine) (target source : TypeId) : Bool :=
  (analyzing registry (fun setting => ask setting false target source) engine).1

theorem canCast_eq_answer (target source : TypeId) :
    (canCast registry target source engine).1 =
      (knows registry target source && answer registry engine target source) := by
  unfold canCast answer
  cases knows registry target source with
  | true => rfl
  | false => rfl

section Answer

variable (refuting : registry.Refuting engine.verdicts)

include refuting

theorem answer_iff (target source : TypeId) :
    answer registry engine target source = true ↔
      Compatibility.Settled ⟨registry, engine.hasFactory registry⟩ engine.verdicts target source :=
  (Compatibility.compatible_settled refuting false target source ⟨engine.verdicts, none⟩
    (Compatibility.remembers_known refuting)).2

/-- An inquiry of an engine comes out as with the answers that the engine gives to begin with. -/
theorem analyzing_eval {α : Type} (inquiry : Setting → Inquiry α) :
    (analyzing registry (fun setting => (inquiry setting).interpret (ask setting)) engine).1 =
      (inquiry ⟨registry, engine.hasFactory registry⟩).eval (answer registry engine) :=
  (Compatibility.interpret_settled refuting (answer_iff refuting) _ ⟨engine.verdicts, none⟩
    (Compatibility.remembers_known refuting)).2

/-- When the inquiry is over, the engine still gives the same answers. -/
theorem answer_after {α : Type} (inquiry : Setting → Inquiry α) :
    answer registry (analyzing registry
      (fun setting => (inquiry setting).interpret (ask setting)) engine).2 = answer registry engine := by
  funext target source
  have remembers := (Compatibility.interpret_settled refuting (answer_iff refuting)
    (inquiry ⟨registry, engine.hasFactory registry⟩) ⟨engine.verdicts, none⟩
    (Compatibility.remembers_known refuting)).1
  have settled := (Compatibility.compatible_settled refuting false target source
    ⟨_, none⟩ remembers).2
  exact Bool.eq_iff_iff.2 (settled.trans (answer_iff refuting target source).symm)

end Answer

end StructuralCast.Engine
