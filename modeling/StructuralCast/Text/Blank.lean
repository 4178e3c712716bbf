/-!
Contract: blanks around a number, and the number itself.

`isBlank` is the Unicode property `White_Space`. `parseInt64?` reads an optional sign and at least
one ASCII digit, and refuses what does not fit 64 bits.
-/

namespace StructuralCast.Text

/-- The 25 code points of the property `White_Space`. -/
def isBlank (c : Char) : Bool :=
  let n := c.toNat
  (0x09 ≤ n && n ≤ 0x0d) || n == 0x20 || n == 0x85 || n == 0xa0 || n == 0x1680 ||
    (0x2000 ≤ n && n ≤ 0x200a) || n == 0x2028 || n == 0x2029 || n == 0x202f || n == 0x205f ||
    n == 0x3000

def trimBlanks (cs : List Char) : List Char :=
  ((cs.dropWhile isBlank).reverse.dropWhile isBlank).reverse

def digitValue? (c : Char) : Option Nat :=
  if '0' ≤ c ∧ c ≤ '9' then some (c.toNat - '0'.toNat) else none

/-- Reads the digits after what has been read as `high` so far. -/
def parseDigits? (high : Nat) : List Char → Option Nat
  | [] => some high
  | c :: rest => do parseDigits? (10 * high + (← digitValue? c)) rest

def parseNat? : List Char → Option Nat
  | [] => none
  | cs => parseDigits? 0 cs

def parseInt? : List Char → Option Int
  | '-' :: rest => (parseNat? rest).map fun n => -(n : Int)
  | '+' :: rest => (parseNat? rest).map Int.ofNat
  | cs => (parseNat? cs).map Int.ofNat

def parseInt64? (cs : List Char) : Option Int64 := do
  let n ← parseInt? cs
  if Int64.minValue.toInt ≤ n ∧ n ≤ Int64.maxValue.toInt then some (Int64.ofInt n) else none

end StructuralCast.Text
