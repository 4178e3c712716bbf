import Mathlib.Tactic.Common
import StructuralCast.Text.Blank

/-!
Contract: reading back the decimal text of a number.

A numeral is written without blanks and, at most, with a minus in front of its digits. So trimming
leaves it alone, a sign is read as what it is, and the digits amount to the number that they were made
from. Every 64-bit number is read back as itself (`parseInt64?_toString`), the least one included, for it
is only tested against the range when its sign is known.
-/

namespace StructuralCast.Text

/-! ### Digits -/

theorem digitValue?_of_isDigit {c : Char} (digit : c.isDigit = true) :
    digitValue? c = some (c.toNat - '0'.toNat) := by
  rw [Char.isDigit, Bool.and_eq_true, decide_eq_true_eq, decide_eq_true_eq] at digit
  exact if_pos digit

/-- Digits are read as the number that they stand for, whatever has been read before. -/
theorem parseDigits?_of_isDigit {cs : List Char} (digits : ∀ c ∈ cs, c.isDigit = true) (high : Nat) :
    parseDigits? high cs = some (Nat.ofDigitChars 10 cs high) := by
  induction cs generalizing high with
  | nil => rfl
  | cons head rest inductionHypothesis =>
      obtain ⟨headDigit, restDigits⟩ := List.forall_mem_cons.1 digits
      rw [parseDigits?, digitValue?_of_isDigit headDigit, Option.bind_eq_bind, Option.bind_some,
        inductionHypothesis restDigits, Nat.ofDigitChars_cons]

theorem isDigit_of_mem_numeral {n : Nat} {c : Char} (member : c ∈ Nat.toDigits 10 n) :
    c.isDigit = true :=
  Nat.isDigit_of_mem_toDigits (by decide) (by decide) member

theorem parseNat?_numeral (n : Nat) : parseNat? (Nat.toDigits 10 n) = some n := by
  have digits : parseDigits? 0 (Nat.toDigits 10 n) = some n := by
    rw [parseDigits?_of_isDigit fun _ => isDigit_of_mem_numeral,
      Nat.ofDigitChars_toDigits (by decide) (by decide)]
  cases numeral : Nat.toDigits 10 n with
  | nil => exact absurd numeral Nat.toDigits_ne_nil
  | cons head rest =>
      rw [numeral] at digits
      exact digits

/-! ### Signs -/

/-- What starts with no sign is read as digits. -/
theorem parseInt?_of_digit {head : Char} {rest : List Char} (digit : head.isDigit = true) :
    parseInt? (head :: rest) = (parseNat? (head :: rest)).map Int.ofNat := by
  unfold parseInt?
  split
  case h_1 start =>
    cases start
    exact absurd digit (by decide)
  case h_2 start =>
    cases start
    exact absurd digit (by decide)
  case h_3 => rfl

theorem toList_toString_of_nonneg {n : Int} (nonneg : 0 ≤ n) :
    (toString n).toList = Nat.toDigits 10 n.toNat := by
  rw [Int.toString_eq_repr, Int.repr_eq_if, if_pos nonneg, Nat.toList_repr]

theorem toList_toString_of_neg {n : Int} (negative : n < 0) :
    (toString n).toList = '-' :: Nat.toDigits 10 (-n).toNat := by
  rw [Int.toString_eq_repr, Int.repr_eq_if, if_neg (by omega), String.toList_append, Nat.toList_repr]
  rfl

theorem parseInt?_toString (n : Int) : parseInt? (toString n).toList = some n := by
  rcases Int.lt_or_le n 0 with negative | nonneg
  · rw [toList_toString_of_neg negative, parseInt?, parseNat?_numeral]
    show some (-((-n).toNat : Int)) = some n
    rw [Int.toNat_of_nonneg (by omega), Int.neg_neg]
  · rw [toList_toString_of_nonneg nonneg]
    cases numeral : Nat.toDigits 10 n.toNat with
    | nil => exact absurd numeral Nat.toDigits_ne_nil
    | cons head rest =>
        have member : head ∈ Nat.toDigits 10 n.toNat := numeral ▸ List.mem_cons_self
        rw [parseInt?_of_digit (isDigit_of_mem_numeral member), ← numeral, parseNat?_numeral,
          Option.map_some]
        exact congrArg some (Int.toNat_of_nonneg nonneg)

/-! ### Blanks -/

theorem isBlank_of_isDigit {c : Char} (digit : c.isDigit = true) : isBlank c = false := by
  have range : 48 ≤ c.toNat ∧ c.toNat ≤ 57 := by
    rw [Char.isDigit, Bool.and_eq_true, decide_eq_true_eq, decide_eq_true_eq] at digit
    exact digit
  rw [← Bool.not_eq_true]
  intro blank
  simp only [isBlank, Bool.or_eq_true, Bool.and_eq_true, decide_eq_true_eq, beq_iff_eq] at blank
  omega

theorem isBlank_of_mem_toString {n : Int} {c : Char} (member : c ∈ (toString n).toList) :
    isBlank c = false := by
  rcases Int.lt_or_le n 0 with negative | nonneg
  · rw [toList_toString_of_neg negative] at member
    rcases List.mem_cons.1 member with rfl | digit
    · decide
    · exact isBlank_of_isDigit (isDigit_of_mem_numeral digit)
  · rw [toList_toString_of_nonneg nonneg] at member
    exact isBlank_of_isDigit (isDigit_of_mem_numeral member)

/-- Trimming takes nothing off a text without blanks. -/
theorem trimBlanks_of_not_blank {cs : List Char} (solid : ∀ c ∈ cs, isBlank c = false) :
    trimBlanks cs = cs := by
  have kept : ∀ text : List Char, (∀ c ∈ text, isBlank c = false) → text.dropWhile isBlank = text := by
    intro text solid
    cases text with
    | nil => rfl
    | cons head rest =>
        rw [List.dropWhile_cons, if_neg]
        rw [solid head List.mem_cons_self]
        exact Bool.false_ne_true
  rw [trimBlanks, kept cs solid, kept cs.reverse fun c member => solid c (List.mem_reverse.1 member),
    List.reverse_reverse]

/-! ### 64 bits -/

/-- The text of a number is read as that number. -/
theorem parseInt64?_toString (number : Int64) :
    parseInt64? (trimBlanks (toString number.toInt).toList) = some number := by
  have inRange : Int64.minValue.toInt ≤ number.toInt ∧ number.toInt ≤ Int64.maxValue.toInt :=
    ⟨Int64.le_toInt number, Int64.toInt_le number⟩
  rw [trimBlanks_of_not_blank fun _ => isBlank_of_mem_toString, parseInt64?, parseInt?_toString,
    Option.bind_eq_bind, Option.bind_some, if_pos inRange, Int64.ofInt_toInt]

end StructuralCast.Text
