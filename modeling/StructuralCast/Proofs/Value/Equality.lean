import Mathlib.Tactic.Common
import StructuralCast.Proofs.Value.Wrapper
import StructuralCast.Value.Text

/-!
Contract: equality of values, and what goes with it.

Values are equal exactly if they hand the same to a hash function (`Value.equals_iff_feed_eq`), so
equality is an equivalence that hashing respects, over all values whatsoever. A value equals what is left
of it when its wrappers are off, hands on the same, and reads the same.

What a value hands to a hash function can be told from what follows it: the first token settles the
kind, and a struct says how many fields follow. The comparison with a value whose wrappers are off is
therefore stated with any rest behind (`Value.equalsPeeled_iff`), which is what the induction over fields
needs.
-/

namespace StructuralCast

/-! ### Values without wrappers -/

theorem Value.isNull_iff {value : Value} : value.isNull = true ↔ value = .null := by
  cases value <;> simp [Value.isNull]

/-- No wrapper can be taken off: there is none, or there is one and it is around null. -/
inductive Value.Bare : Value → Prop where
  | null : Bare .null
  | bool (truth : Bool) : Bare (.bool truth)
  | int (number : Int64) : Bare (.int number)
  | float (bits : UInt64) : Bare (.float bits)
  | text (ref : Ref) (content : String) : Bare (.text ref content)
  | enumeration (type : TypeId) (value : Int64) : Bare (.enumeration type value)
  | struct (type : TypeId) (fields : List Value) : Bare (.struct type fields)
  | object (handle : Instance) : Bare (.object handle)
  | native (number : Nat) (type : TypeId) (routine : RoutineId) :
      Bare (.callable (.native number type routine))
  | foreign (ref : Ref) (type : TypeId) (body : HostBody) :
      Bare (.callable (.foreign ref type body .null))
  | adapter (ref : Ref) (factory : Factory) (relays : List (Option RelayId)) :
      Bare (.adapter ref factory .null relays)
  | proxy (ref : Ref) (shape : TypeId) (shapeName : String) : Bare (.proxy ref shape shapeName .null)

mutual

theorem Value.bare_peel : (value : Value) → value.peel.Bare
  | .adapter ref factory source relays => by
    by_cases empty : source.isNull = true
    · simp only [Value.peel, if_pos empty]
      rw [Value.isNull_iff.1 empty]
      exact .adapter ref factory relays
    · simp only [Value.peel, if_neg empty]
      exact source.bare_peel
  | .proxy ref shape shapeName inner => by
    by_cases empty : inner.isNull = true
    · simp only [Value.peel, if_pos empty]
      rw [Value.isNull_iff.1 empty]
      exact .proxy ref shape shapeName
    · simp only [Value.peel, if_neg empty]
      exact inner.bare_peel
  | .callable c => c.bare_peel
  | .null => .null
  | .bool truth => .bool truth
  | .int number => .int number
  | .float bits => .float bits
  | .text ref content => .text ref content
  | .enumeration type value => .enumeration type value
  | .struct type fields => .struct type fields
  | .object handle => .object handle

theorem Callable.bare_peel : (c : Callable) → c.peel.Bare
  | .native number type routine => .native number type routine
  | .adapted _ _ inner => inner.bare_peel
  | .foreign ref type body inner => by
    by_cases empty : inner.isNull = true
    · simp only [Callable.peel, if_pos empty]
      rw [Value.isNull_iff.1 empty]
      exact .foreign ref type body
    · simp only [Callable.peel, if_neg empty]
      exact inner.bare_peel

end

theorem Value.peel_of_bare {value : Value} (bare : value.Bare) : value.peel = value := by
  cases bare <;> rfl

/-- Once the wrappers are off, there is nothing more to take off. -/
theorem Value.peel_peel (value : Value) : value.peel.peel = value.peel :=
  Value.peel_of_bare value.bare_peel

/-! ### What wrappers hand on -/

mutual

theorem Value.feed_peel : (value : Value) → value.peel.feed = value.feed
  | .adapter ref factory source relays => by
    by_cases empty : source.isNull = true
    · simp only [Value.peel, if_pos empty]
    · simp only [Value.peel, Value.feed, if_neg empty]
      exact source.feed_peel
  | .proxy ref shape shapeName inner => by
    by_cases empty : inner.isNull = true
    · simp only [Value.peel, if_pos empty]
    · simp only [Value.peel, Value.feed, if_neg empty]
      exact inner.feed_peel
  | .callable c => by
    simp only [Value.peel, Value.feed]
    exact c.feed_peel
  | .null | .bool _ | .int _ | .float _ | .text _ _ | .enumeration _ _ | .struct _ _ | .object _ => rfl

theorem Callable.feed_peel : (c : Callable) → c.peel.feed = c.feed
  | .native _ _ _ => by simp only [Callable.peel, Value.feed]
  | .adapted _ _ inner => by
    simp only [Callable.peel, Callable.feed]
    exact inner.feed_peel
  | .foreign ref type body inner => by
    by_cases empty : inner.isNull = true
    · simp only [Callable.peel, if_pos empty, Value.feed]
    · simp only [Callable.peel, Callable.feed, if_neg empty]
      exact inner.feed_peel

end

mutual

theorem Value.display_peel : (value : Value) → value.peel.display = value.display
  | .adapter ref factory source relays => by
    by_cases empty : source.isNull = true
    · simp only [Value.peel, if_pos empty]
    · simp only [Value.peel, Value.display, if_neg empty]
      exact source.display_peel
  | .proxy ref shape shapeName inner => by
    by_cases empty : inner.isNull = true
    · simp only [Value.peel, if_pos empty]
    · simp only [Value.peel, Value.display, if_neg empty]
      exact inner.display_peel
  | .callable c => by
    simp only [Value.peel, Value.display]
    exact c.display_peel
  | .null | .bool _ | .int _ | .float _ | .text _ _ | .enumeration _ _ | .struct _ _ | .object _ => rfl

theorem Callable.display_peel : (c : Callable) → c.peel.display = c.display
  | .native _ _ _ => by simp only [Callable.peel, Value.display]
  | .adapted _ _ inner => by
    simp only [Callable.peel, Callable.display]
    exact inner.display_peel
  | .foreign ref type body inner => by
    by_cases empty : inner.isNull = true
    · simp only [Callable.peel, if_pos empty, Value.display]
    · simp only [Callable.peel, Callable.display, if_neg empty]
      exact inner.display_peel

end

/-! ### Equality is what hashing sees -/

mutual

/-- Comparing with a bare value is comparing what the two hand on, whatever follows. -/
theorem Value.equalsPeeled_iff : (left : Value) → {right : Value} → (bare : right.Bare) →
    (rest rest' : List HashToken) →
      ((left.equalsPeeled right = true ∧ rest = rest') ↔ left.feed ++ rest = right.feed ++ rest')
  | .adapter ref factory source relays, _, bare, rest, rest' => by
    by_cases empty : source.isNull = true
    · cases Value.isNull_iff.1 empty
      cases bare <;> simp [Value.equalsPeeled, Value.feed, Callable.feed, Value.sameAllocation,
        Value.allocation?, Callable.allocation, Value.isNull]
    · simp only [Value.equalsPeeled, Value.feed, if_neg empty]
      exact source.equalsPeeled_iff bare rest rest'
  | .proxy ref shape shapeName inner, _, bare, rest, rest' => by
    by_cases empty : inner.isNull = true
    · cases Value.isNull_iff.1 empty
      cases bare <;> simp [Value.equalsPeeled, Value.feed, Callable.feed, Value.sameAllocation,
        Value.allocation?, Callable.allocation, Value.isNull]
    · simp only [Value.equalsPeeled, Value.feed, if_neg empty]
      exact inner.equalsPeeled_iff bare rest rest'
  | .callable c, _, bare, rest, rest' => by
    simp only [Value.equalsPeeled, Value.feed]
    exact c.equalsPeeled_iff bare rest rest'
  | .struct type fields, _, bare, rest, rest' => by
    cases bare with
    | struct type' fields' =>
        have within := Value.fieldsEqual_iff fields fields' rest rest'
        simp [Value.equalsPeeled, Value.feed, and_assoc, within]
    | _ => simp [Value.equalsPeeled, Value.feed, Callable.feed, Value.isNull]
  | .null, _, bare, rest, rest' => by
    cases bare <;> simp [Value.equalsPeeled, Value.feed, Callable.feed, Value.isNull]
  | .bool truth, _, bare, rest, rest' => by
    cases bare <;> simp [Value.equalsPeeled, Value.feed, Callable.feed, Value.isNull]
  | .int number, _, bare, rest, rest' => by
    cases bare <;> simp [Value.equalsPeeled, Value.feed, Callable.feed, Value.isNull]
  | .float bits, _, bare, rest, rest' => by
    cases bare <;> simp [Value.equalsPeeled, Value.feed, Callable.feed, Value.isNull]
  | .text ref content, _, bare, rest, rest' => by
    cases bare <;> simp [Value.equalsPeeled, Value.feed, Callable.feed, Value.isNull]
  | .enumeration type value, _, bare, rest, rest' => by
    cases bare <;> simp [Value.equalsPeeled, Value.feed, Callable.feed, Value.isNull, and_assoc]
  | .object handle, _, bare, rest, rest' => by
    cases bare <;> simp [Value.equalsPeeled, Value.feed, Callable.feed, Value.isNull]

theorem Callable.equalsPeeled_iff : (c : Callable) → {right : Value} → (bare : right.Bare) →
    (rest rest' : List HashToken) →
      ((c.equalsPeeled right = true ∧ rest = rest') ↔ c.feed ++ rest = right.feed ++ rest')
  | .native number type routine, _, bare, rest, rest' => by
    cases bare <;> simp [Callable.equalsPeeled, Value.feed, Callable.feed, Value.sameAllocation,
      Value.allocation?, Callable.allocation, Value.isNull]
  | .adapted _ _ inner, _, bare, rest, rest' => by
    simp only [Callable.equalsPeeled, Callable.feed]
    exact inner.equalsPeeled_iff bare rest rest'
  | .foreign ref type body inner, _, bare, rest, rest' => by
    by_cases empty : inner.isNull = true
    · cases Value.isNull_iff.1 empty
      cases bare <;> simp [Callable.equalsPeeled, Value.feed, Callable.feed, Value.sameAllocation,
        Value.allocation?, Callable.allocation, Value.isNull]
    · simp only [Callable.equalsPeeled, Callable.feed, if_neg empty]
      exact inner.equalsPeeled_iff bare rest rest'

theorem Value.fieldsEqual_iff : (lefts rights : List Value) → (rest rest' : List HashToken) →
    ((Value.fieldsEqual lefts rights = true ∧ rest = rest') ↔
      lefts.length = rights.length ∧
        Value.feedAll lefts ++ rest = Value.feedAll rights ++ rest')
  | [], [], rest, rest' => by simp [Value.fieldsEqual, Value.feedAll]
  | [], _ :: _, rest, rest' => by simp [Value.fieldsEqual]
  | _ :: _, [], rest, rest' => by simp [Value.fieldsEqual]
  | left :: lefts, right :: rights, rest, rest' => by
    have here := left.equalsPeeled_iff right.bare_peel
      (Value.feedAll lefts ++ rest) (Value.feedAll rights ++ rest')
    have further := Value.fieldsEqual_iff lefts rights rest rest'
    rw [right.feed_peel] at here
    simp only [Value.fieldsEqual, Value.feedAll, Bool.and_eq_true, List.length_cons,
      Nat.add_right_cancel_iff, List.append_assoc]
    rw [← here, and_assoc, further]
    exact and_left_comm

end

/-- Values are equal exactly if they hand the same to a hash function. -/
theorem Value.equals_iff_feed_eq {left right : Value} :
    left.equals right = true ↔ left.feed = right.feed := by
  have compared := left.equalsPeeled_iff right.bare_peel [] []
  simpa only [Value.equals, right.feed_peel, List.append_nil, and_true] using compared

/-- Equality is reflexive, symmetric and transitive, over all values. What is equal is hashed alike, and
a value equals what is left of it when its wrappers are off, is hashed like that and reads like that. -/
theorem Value.equality_lawful :
    Equivalence (fun left right : Value => left.equals right = true) ∧
      (∀ left right : Value, left.equals right = true → left.feed = right.feed) ∧
      ∀ value : Value, value.equals value.peel = true ∧ value.peel.feed = value.feed ∧
        value.peel.display = value.display ∧ value.peel.peel = value.peel := by
  simp only [Value.equals_iff_feed_eq]
  refine ⟨⟨fun _ => rfl, fun same => same.symm, fun first second => first.trans second⟩,
    fun _ _ same => same, fun value => ?_⟩
  exact ⟨value.feed_peel.symm, value.feed_peel, value.display_peel, value.peel_peel⟩

end StructuralCast
