import Mathlib.Data.List.Infix
import StructuralCast.Proofs.Event.Multicast

/-!
Contract: which subscriptions are left after all that has happened to one event.

A `Change` is a subscription, or an attempt to take one away. `survivors` reads the answer off a log of
changes, without going through the lists on the way: a subscription is left if at no later time its
callable has been unsubscribed more often than it was subscribed since. `foldl_leave` says that the
handler lists themselves, changed step by step, come to the same.

An unsubscription counts against the last subscription before it that is still there. So what matters of
a rest of a log is how many unsubscriptions in it have no subscription there to take away (`unmatched`).
-/

namespace StructuralCast

theorem Callable.same_comm (left right : Callable) : left.same right = right.same left := by
  rw [same, same, decide_eq_decide]
  exact eq_comm

namespace Multicast

/-! ### Changes of a handler list -/

/-- What happens to the handlers of an event. An unsubscription may come to nothing. -/
inductive Change where
  | subscribed (handler : Handler)
  | unsubscribed (c : Callable)

namespace Change

/-- What a change leaves of the handlers. -/
def leave (handlers : List Handler) : Change → List Handler
  | subscribed handler => handlers ++ [handler]
  | unsubscribed c => (removeLast? (Handler.isCallable c) handlers).getD handlers

/-- Whether a callable is subscribed. -/
def adds (c : Callable) : Change → Bool
  | subscribed handler => handler.isCallable c
  | unsubscribed _ => false

/-- Whether a callable is unsubscribed. -/
def takes (c : Callable) : Change → Bool
  | subscribed _ => false
  | unsubscribed c' => c'.same c

end Change

open Change

/-- Whether a subscription is left after all later changes. At no time may its callable have been
unsubscribed more often than it was subscribed since. Nobody unsubscribes a relay. -/
def Outlasts (later : List Change) : Handler → Prop
  | .direct c => ∀ part, part <+: later → part.countP (takes c) ≤ part.countP (adds c)
  | .relay _ => True

instance (later : List Change) (handler : Handler) : Decidable (Outlasts later handler) :=
  match handler with
  | .direct c => decidable_of_iff
      (∀ part ∈ later.inits, part.countP (takes c) ≤ part.countP (adds c)) (by
        simp only [List.mem_inits]
        exact Iff.rfl)
  | .relay _ => isTrue trivial

/-- The subscriptions that are left after a log of changes, in order. -/
def survivors : List Change → List Handler
  | [] => []
  | .subscribed handler :: later =>
    if Outlasts later handler then handler :: survivors later else survivors later
  | .unsubscribed _ :: later => survivors later

/-! ### Unsubscriptions that count against nothing -/

section Unmatched

variable {α : Type} (opens closes : α → Bool)

/-- How often something is closed in a log that has not been opened in it before. -/
def unmatched : List α → Nat
  | [] => 0
  | head :: tail => unmatched tail + (closes head).toNat - (opens head).toNat

theorem countP_cons_toNat (test : α → Bool) (head : α) (tail : List α) :
    (head :: tail).countP test = tail.countP test + (test head).toNat := by
  rw [List.countP_cons]
  cases test head with
  | true => rfl
  | false => rfl

theorem unmatched_le_iff {log : List α} {bound : Nat} :
    unmatched opens closes log ≤ bound ↔
      ∀ part, part <+: log → part.countP closes ≤ part.countP opens + bound := by
  induction log generalizing bound with
  | nil => simp [unmatched]
  | cons head tail inductionHypothesis =>
      rw [unmatched]
      constructor
      · intro few part isPart
        rcases List.prefix_cons_iff.1 isPart with rfl | ⟨rest, rfl, isRest⟩
        · exact Nat.zero_le _
        · have fewer : unmatched opens closes tail ≤
              bound + (opens head).toNat - (closes head).toNat := by omega
          have counted := inductionHypothesis.1 fewer rest isRest
          rw [countP_cons_toNat, countP_cons_toNat]
          omega
      · intro counted
        have first := counted [head] (by simp)
        rw [countP_cons_toNat, countP_cons_toNat, List.countP_nil, List.countP_nil] at first
        have fewer : unmatched opens closes tail ≤
            bound + (opens head).toNat - (closes head).toNat := by
          refine inductionHypothesis.2 fun rest isRest => ?_
          have whole := counted (head :: rest) (by simpa using isRest)
          rw [countP_cons_toNat, countP_cons_toNat] at whole
          omega
        omega

end Unmatched

/-! ### One change more -/

section Changes

variable {log : List Change} {handler : Handler} {c : Callable}

/-- Callables that are the same are subscribed and unsubscribed together. -/
theorem counts_of_same {c c' : Callable} (same : c.same c' = true) :
    adds c = adds c' ∧ takes c = takes c' := by
  have alike (other : Callable) : other.same c = other.same c' := by
    have allocation : c.allocation = c'.allocation := of_decide_eq_true same
    rw [Callable.same, Callable.same, allocation]
  constructor
  · funext change
    cases change with
    | subscribed handler =>
        cases handler with
        | direct other => exact alike other
        | relay _ => rfl
    | unsubscribed _ => rfl
  · funext change
    cases change with
    | subscribed _ => rfl
    | unsubscribed other => exact alike other

theorem outlasts_iff_unmatched (log : List Change) (isCallable : handler.isCallable c = true) :
    Outlasts log handler ↔ unmatched (adds c) (takes c) log = 0 := by
  cases handler with
  | relay _ => cases isCallable
  | direct other =>
      obtain ⟨sameAdds, sameTakes⟩ := counts_of_same isCallable
      rw [Outlasts, sameAdds, sameTakes, ← Nat.le_zero, unmatched_le_iff]
      rfl

theorem outlasts_nil (handler : Handler) : Outlasts [] handler := by
  cases handler with
  | relay _ => trivial
  | direct c =>
      rintro part isPart
      rw [List.prefix_nil.1 isPart]
      rfl

/-- One more change is one more time to count at. -/
theorem outlasts_concat (change : Change) :
    Outlasts (log ++ [change]) (.direct c) ↔
      Outlasts log (.direct c) ∧
        log.countP (takes c) + (takes c change).toNat ≤
          log.countP (adds c) + (adds c change).toNat := by
  have counted (test : Change → Bool) :
      (log ++ [change]).countP test = log.countP test + (test change).toNat := by
    rw [List.countP_append, countP_cons_toNat, List.countP_nil, Nat.zero_add]
  rw [Outlasts, Outlasts, ← counted, ← counted]
  simp only [List.prefix_concat_iff, or_imp, forall_and, forall_eq]
  exact and_comm

/-- No subscription ends for one that is made later. -/
theorem outlasts_subscribed (other : Handler) :
    Outlasts (log ++ [.subscribed other]) handler ↔ Outlasts log handler := by
  cases handler with
  | relay _ => exact Iff.rfl
  | direct c =>
      rw [outlasts_concat]
      refine and_iff_left_of_imp fun outlasts => ?_
      have whole := outlasts log List.prefix_rfl
      have nothing : takes c (.subscribed other) = false := rfl
      rw [nothing, Bool.toNat_false]
      omega

/-- A subscription ends with the unsubscription of its callable that finds none made later. -/
theorem outlasts_unsubscribed :
    Outlasts (log ++ [.unsubscribed c]) handler ↔
      Outlasts log handler ∧
        (handler.isCallable c = true → log.countP (takes c) < log.countP (adds c)) := by
  cases handler with
  | relay _ => simp [Outlasts, Handler.isCallable]
  | direct other =>
      rw [outlasts_concat]
      refine and_congr_right fun outlasts => ?_
      have whole := outlasts log List.prefix_rfl
      have nothing : adds other (.unsubscribed c) = false := rfl
      have taken : takes other (.unsubscribed c) = c.same other := rfl
      have isCallable : (Handler.direct other).isCallable c = other.same c := rfl
      rw [nothing, taken, isCallable, Callable.same_comm c other, Bool.toNat_false]
      cases same : other.same c with
      | true =>
          obtain ⟨sameAdds, sameTakes⟩ := counts_of_same same
          rw [sameAdds, sameTakes, Bool.toNat_true]
          exact ⟨fun few _ => few, fun few => few rfl⟩
      | false => exact iff_of_true whole Bool.noConfusion

/-- What is there of a callable is what was subscribed and not taken away. -/
theorem countP_survivors (log : List Change) (c : Callable) :
    (survivors log).countP (Handler.isCallable c) + log.countP (takes c) =
      log.countP (adds c) + unmatched (adds c) (takes c) log := by
  induction log with
  | nil => rfl
  | cons head later inductionHypothesis =>
      rw [countP_cons_toNat, countP_cons_toNat, unmatched]
      cases head with
      | unsubscribed other =>
          have nothing : adds c (.unsubscribed other) = false := rfl
          rw [survivors, nothing, Bool.toNat_false]
          omega
      | subscribed handler =>
          have nothing : takes c (.subscribed handler) = false := rfl
          have added : adds c (.subscribed handler) = handler.isCallable c := rfl
          rw [survivors, nothing, added, Bool.toNat_false]
          cases isCallable : handler.isCallable c with
          | false =>
              rw [Bool.toNat_false]
              split
              case isTrue =>
                rw [countP_cons_toNat, isCallable, Bool.toNat_false]
                omega
              case isFalse => omega
          | true =>
              have balanced := outlasts_iff_unmatched later isCallable
              rw [Bool.toNat_true]
              split
              case isTrue outlasts =>
                have none := balanced.1 outlasts
                rw [countP_cons_toNat, isCallable, Bool.toNat_true]
                omega
              case isFalse ends =>
                have some : unmatched (adds c) (takes c) later ≠ 0 := fun none => ends (balanced.2 none)
                omega

theorem survivors_subscribed (log : List Change) (handler : Handler) :
    survivors (log ++ [.subscribed handler]) = survivors log ++ [handler] := by
  induction log with
  | nil => exact if_pos (outlasts_nil handler)
  | cons head later inductionHypothesis =>
      cases head with
      | unsubscribed _ => exact inductionHypothesis
      | subscribed first =>
          rw [List.cons_append, survivors, survivors, inductionHypothesis]
          simp only [outlasts_subscribed]
          split
          case isTrue => rfl
          case isFalse => rfl

theorem survivors_unsubscribed (log : List Change) (c : Callable) :
    survivors (log ++ [.unsubscribed c]) = (Change.unsubscribed c).leave (survivors log) := by
  induction log with
  | nil => rfl
  | cons head later inductionHypothesis =>
      cases head with
      | unsubscribed _ => exact inductionHypothesis
      | subscribed first =>
          rw [List.cons_append, survivors, survivors, inductionHypothesis]
          simp only [outlasts_unsubscribed, leave]
          by_cases outlasts : Outlasts later first
          case neg => rw [if_neg outlasts, if_neg fun both => outlasts both.1]
          case pos =>
            -- What is there of the callable decides which subscription is taken away.
            have remaining (isCallable : first.isCallable c = true) :
                later.countP (takes c) < later.countP (adds c) ↔
                  0 < (survivors later).countP (Handler.isCallable c) := by
              have counted := countP_survivors later c
              have balanced := (outlasts_iff_unmatched later isCallable).1 outlasts
              omega
            rw [if_pos outlasts, removeLast?_cons]
            rcases removeLast?_cases (Handler.isCallable c) (survivors later) with
              ⟨none, others⟩ | ⟨front, taken, back, whole, isTaken, _, removes⟩
            · have absent : (survivors later).countP (Handler.isCallable c) = 0 :=
                List.countP_eq_zero.2 fun other member => by simp [others other member]
              rw [none]
              cases isCallable : first.isCallable c with
              | true =>
                  have ends : ¬ later.countP (takes c) < later.countP (adds c) := by
                    rw [remaining isCallable]
                    omega
                  rw [if_neg fun both => ends (both.2 rfl)]
                  rfl
              | false =>
                  rw [if_pos ⟨outlasts, Bool.noConfusion⟩]
                  rfl
            · have present : 0 < (survivors later).countP (Handler.isCallable c) :=
                List.countP_pos_iff.2 ⟨taken, by simp [whole], isTaken⟩
              rw [removes, if_pos ⟨outlasts, fun isCallable => (remaining isCallable).2 present⟩]
              rfl

/-- Step by step, the handlers of an event come to what the log of all changes leaves. -/
theorem foldl_leave (log : List Change) : log.foldl leave [] = survivors log := by
  induction log using List.reverseRecOn with
  | nil => rfl
  | append_singleton log change inductionHypothesis =>
      rw [List.foldl_concat, inductionHypothesis]
      cases change with
      | subscribed handler => exact (survivors_subscribed log handler).symm
      | unsubscribed c => exact (survivors_unsubscribed log c).symm

theorem foldl_leave_subscribed (handlers later : List Handler) :
    (later.map Change.subscribed).foldl leave handlers = handlers ++ later := by
  induction later generalizing handlers with
  | nil => exact (List.append_nil handlers).symm
  | cons head tail inductionHypothesis =>
      rw [List.map_cons, List.foldl_cons, inductionHypothesis, leave, List.append_assoc,
        List.singleton_append]

/-- Handlers that are there already are like those that are subscribed first. -/
theorem foldl_leave_from (handlers : List Handler) (log : List Change) :
    log.foldl leave handlers = survivors (handlers.map .subscribed ++ log) := by
  rw [← foldl_leave, List.foldl_append, foldl_leave_subscribed, List.nil_append]

end Changes

end Multicast
end StructuralCast
