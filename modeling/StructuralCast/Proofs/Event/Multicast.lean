import StructuralCast.Multicast

/-!
Contract: handler lists, taken apart.

The handlers of an event are callables and relays (`Handler.callable?`, `Handler.relay?`). A subscription
that is taken away is one of the same callable, the last one, and no other handler goes with it
(`Multicast.removeLast?_cases`): what is left of the callables, of the relays or of any other part of a
list is the part of what is left (`Multicast.removeLast?_filterMap`).
-/

namespace StructuralCast

namespace Multicast

variable {η θ : Type} {matching : η → Bool} {part : η → Option θ} {matching' : θ → Bool}

/-- The first match in a list is the first match in the part of the list that may match. -/
theorem removeFirst?_filterMap (parts : ∀ handler, matching handler = (part handler).any matching')
    (handlers : List η) :
    removeFirst? matching' (handlers.filterMap part) =
      (removeFirst? matching handlers).map (List.filterMap part) := by
  induction handlers with
  | nil => rfl
  | cons head tail inductionHypothesis =>
      have here := parts head
      cases taken : part head with
      | none =>
          rw [taken, Option.any_none] at here
          rw [List.filterMap_cons_none taken, inductionHypothesis, removeFirst?, here,
            if_neg Bool.false_ne_true, Option.map_map]
          congr 1
          funext rest
          exact (List.filterMap_cons_none taken).symm
      | some value =>
          rw [taken, Option.any_some] at here
          rw [List.filterMap_cons_some taken, removeFirst?, removeFirst?, here]
          split
          case isTrue => rfl
          case isFalse =>
            rw [inductionHypothesis, Option.map_map, Option.map_map]
            congr 1
            funext rest
            exact (List.filterMap_cons_some taken).symm

theorem removeLast?_filterMap (parts : ∀ handler, matching handler = (part handler).any matching')
    (handlers : List η) :
    removeLast? matching' (handlers.filterMap part) =
      (removeLast? matching handlers).map (List.filterMap part) := by
  rw [removeLast?, removeLast?, ← List.filterMap_reverse, removeFirst?_filterMap parts,
    Option.map_map, Option.map_map]
  congr 1
  funext rest
  exact List.filterMap_reverse.symm

theorem removeFirst?_append (left right : List η) :
    removeFirst? matching (left ++ right) =
      ((removeFirst? matching left).map (· ++ right)).or
        ((removeFirst? matching right).map (left ++ ·)) := by
  induction left with
  | nil => simp [removeFirst?]
  | cons head tail inductionHypothesis =>
      rw [List.cons_append, removeFirst?, removeFirst?]
      split
      case isTrue => rfl
      case isFalse =>
        rw [inductionHypothesis]
        cases removeFirst? matching tail with
        | some rest => rfl
        | none =>
            cases removeFirst? matching right with
            | some rest => rfl
            | none => rfl

/-- A handler before all others is taken away only if none of these is. -/
theorem removeLast?_cons (head : η) (tail : List η) :
    removeLast? matching (head :: tail) =
      ((removeLast? matching tail).map (head :: ·)).or
        (if matching head then some tail else none) := by
  rw [removeLast?, List.reverse_cons, removeFirst?_append, removeLast?]
  cases removeFirst? matching tail.reverse with
  | some rest => simp
  | none =>
      rw [removeFirst?]
      split
      case isTrue => simp
      case isFalse => simp [removeFirst?]

/-- Nothing matches, or the last match is taken away and the others stay in their order. -/
theorem removeLast?_cases (matching : η → Bool) (handlers : List η) :
    (removeLast? matching handlers = none ∧ ∀ handler ∈ handlers, matching handler = false) ∨
      ∃ front taken back, handlers = front ++ taken :: back ∧ matching taken = true ∧
        (∀ later ∈ back, matching later = false) ∧
        removeLast? matching handlers = some (front ++ back) := by
  induction handlers with
  | nil => exact .inl ⟨rfl, fun _ impossible => absurd impossible List.not_mem_nil⟩
  | cons head tail inductionHypothesis =>
      rw [removeLast?_cons]
      rcases inductionHypothesis with
        ⟨none, others⟩ | ⟨front, taken, back, rfl, isMatch, others, removes⟩
      · rw [none]
        cases here : matching head with
        | true => exact .inr ⟨[], head, tail, rfl, here, others, rfl⟩
        | false => exact .inl ⟨rfl, List.forall_mem_cons.2 ⟨here, others⟩⟩
      · rw [removes]
        exact .inr ⟨head :: front, taken, back, rfl, isMatch, others, rfl⟩

theorem eq_of_removeLast? {handlers rest : List η}
    (removes : removeLast? matching handlers = some rest) :
    ∃ front taken back, handlers = front ++ taken :: back ∧ rest = front ++ back ∧
      matching taken = true := by
  rcases removeLast?_cases matching handlers with
    ⟨none, _⟩ | ⟨front, taken, back, whole, isMatch, _, some⟩
  · cases none.symm.trans removes
  · exact ⟨front, taken, back, whole, Option.some.inj (removes.symm.trans some), isMatch⟩

theorem mem_of_removeLast? {handlers rest : List η}
    (removes : removeLast? matching handlers = some rest) {handler : η} (member : handler ∈ rest) :
    handler ∈ handlers := by
  obtain ⟨front, taken, back, rfl, rfl, _⟩ := eq_of_removeLast? removes
  rcases List.mem_append.1 member with before | behind
  · exact List.mem_append_left _ before
  · exact List.mem_append_right front (List.mem_cons_of_mem taken behind)

/-- A part of a list that cannot match stays as it is. -/
theorem filterMap_of_removeLast? (apart : ∀ handler, matching handler = true → part handler = none)
    {handlers rest : List η} (removes : removeLast? matching handlers = some rest) :
    rest.filterMap part = handlers.filterMap part := by
  obtain ⟨front, taken, back, rfl, rfl, isMatch⟩ := eq_of_removeLast? removes
  rw [List.filterMap_append, List.filterMap_append, List.filterMap_cons_none (apart taken isMatch)]

/-- A test that all matches answer in one way counts one less, or as many as before. -/
theorem countP_of_removeLast? {test : η → Bool} {verdict : Bool}
    (answers : ∀ handler, matching handler = true → test handler = verdict)
    {handlers rest : List η} (removes : removeLast? matching handlers = some rest) :
    rest.countP test + verdict.toNat = handlers.countP test := by
  obtain ⟨front, taken, back, rfl, rfl, isMatch⟩ := eq_of_removeLast? removes
  rw [List.countP_append, List.countP_append, List.countP_cons, answers taken isMatch]
  cases verdict with
  | true =>
      simp only [Bool.toNat_true, if_true]
      omega
  | false =>
      simp only [Bool.toNat_false, Bool.false_eq_true, if_false]
      omega

end Multicast

/-- To be the same is to be the same as anything that either is the same as. -/
theorem Callable.same_eq_of_same {c c' : Callable} (same : c.same c' = true) (other : Callable) :
    c.same other = c'.same other := by
  have allocation : c.allocation = c'.allocation := of_decide_eq_true same
  rw [Callable.same, Callable.same, allocation]

namespace Handler

def callable? : Handler → Option Callable
  | direct c => some c
  | relay _ => none

def relay? : Handler → Option Relay
  | direct _ => none
  | relay r => some r

theorem isCallable_eq (c : Callable) (handler : Handler) :
    handler.isCallable c = handler.callable?.any (·.same c) := by
  cases handler with
  | direct other => rfl
  | relay r => rfl

theorem relay?_of_isCallable {c : Callable} (handler : Handler) (isCallable : handler.isCallable c = true) :
    handler.relay? = none := by
  cases handler with
  | direct other => rfl
  | relay r => cases isCallable

theorem relays_of_relays (relays : List Relay) :
    (relays.map Handler.relay).filterMap relay? = relays := by
  rw [List.filterMap_map]
  exact List.filterMap_some

theorem callables_of_relays (relays : List Relay) :
    (relays.map Handler.relay).filterMap callable? = [] := by
  rw [List.filterMap_map]
  exact List.filterMap_eq_nil_iff.2 fun _ _ => rfl

end Handler
end StructuralCast
