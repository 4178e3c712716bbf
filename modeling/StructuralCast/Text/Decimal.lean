/-!
Contract: decimal text of IEEE-754 binary64 values, given by their bits.

`Binary64.decode` splits the 64 bits into sign, significand and exponent. `shortest` finds the
fewest decimal digits that read back as the same value: it tests, on ever finer decimal grids, the
two grid points next to the value against the interval of reals that round to it, in exact
arithmetic. Of two points inside the nearer one is taken, and a tie goes up.

`FloatFormat` holds what is left to decide: how many fraction digits a positional number keeps and
where positional notation ends.
-/

namespace StructuralCast.Text

def twoTo (n : Nat) : Nat := Nat.pow 2 n

def tenTo (n : Nat) : Nat := Nat.pow 10 n

/-- The value that 64 bits stand for. A finite value is `significand * 2 ^ exponent`. -/
inductive Binary64 where
  | nan
  | infinite (negative : Bool)
  | finite (negative : Bool) (significand : Nat) (exponent : Int)
deriving DecidableEq

namespace Binary64

def decode (bits : UInt64) : Binary64 :=
  let negative := bits.toNat / twoTo 63 == 1
  let biased : Nat := bits.toNat / twoTo 52 % 2048
  let fraction : Nat := bits.toNat % twoTo 52
  if biased = 2047 then
    if fraction = 0 then .infinite negative else .nan
  else if biased = 0 then .finite negative fraction (-1074)
  else .finite negative (twoTo 52 + fraction) (biased - 1075)

end Binary64

/-- A positive number in lowest decimal form: `digits * 10 ^ scale`. -/
structure Decimal where
  digits : Nat
  scale : Int
deriving DecidableEq

/-- The reals that round to one binary64 value, all over the denominator `unit`. -/
structure RoundingInterval where
  value : Nat
  low : Nat
  high : Nat
  unit : Nat
  closed : Bool

namespace RoundingInterval

/-- Below a power of two the neighbouring value is only half as far away; the ends belong to the
interval when the significand is even. -/
def ofFinite (significand : Nat) (exponent : Int) : RoundingInterval :=
  let narrow := significand = twoTo 52 ∧ -1074 < exponent
  let factor := twoTo (exponent - 2).toNat
  { value := 4 * significand * factor
    low := (4 * significand - if narrow then 1 else 2) * factor
    high := (4 * significand + 2) * factor
    unit := twoTo (2 - exponent).toNat
    closed := significand % 2 = 0 }

/-- The interval measured in steps of `10 ^ scale`. -/
def rescale (interval : RoundingInterval) (scale : Int) : RoundingInterval :=
  let finer := tenTo (-scale).toNat
  { interval with
    value := interval.value * finer
    low := interval.low * finer
    high := interval.high * finer
    unit := interval.unit * tenTo scale.toNat }

def contains (interval : RoundingInterval) (point : Nat) : Bool :=
  let scaled := point * interval.unit
  if interval.closed then interval.low ≤ scaled && scaled ≤ interval.high
  else interval.low < scaled && scaled < interval.high

/-- The integer inside the interval that is nearest to its value, if one of the two neighbours
is inside. -/
def nearest? (interval : RoundingInterval) : Option Nat :=
  let below := interval.value / interval.unit
  let remainder := interval.value % interval.unit
  let down := interval.contains below
  let up := interval.contains (below + 1)
  if up && (!down || interval.unit ≤ 2 * remainder) then some (below + 1)
  else if down then some below
  else none

/-- How many decimal digits stand before the point; for a value below one, minus the number of
zeros after it. -/
def magnitude (interval : RoundingInterval) : Int :=
  if interval.unit ≤ interval.value then (toString (interval.value / interval.unit)).length
  else
    let zeros := (List.range 400).find? fun n => interval.unit ≤ interval.value * tenTo (n + 1)
    Int.neg (zeros.getD 400)

end RoundingInterval

/-- Moves trailing zeros into the scale. -/
def Decimal.strip : Nat → Decimal → Decimal
  | 0, decimal => decimal
  | fuel + 1, decimal =>
    if decimal.digits ≠ 0 ∧ decimal.digits % 10 = 0 then
      strip fuel ⟨decimal.digits / 10, decimal.scale + 1⟩
    else decimal

/-- The fewest digits that read back as `significand * 2 ^ exponent`. Seventeen always do. -/
def shortest (significand : Nat) (exponent : Int) : Decimal :=
  let interval := RoundingInterval.ofFinite significand exponent
  let top := interval.magnitude
  let hit := (List.range 17).findSome? fun (n : Nat) =>
    let scale := top - (n + 1)
    ((interval.rescale scale).nearest?).map (Decimal.mk · scale)
  (hit.getD ⟨0, 0⟩).strip 20

/-- How a float is written: the least number of fraction digits in positional notation, and
whether numbers outside `1e-4 ≤ x < 1e16` take an exponent. -/
structure FloatFormat where
  leastFraction : Nat
  exponents : Bool

namespace FloatFormat

/-- Text for readers: always positional, and `1` for one. -/
def plain : FloatFormat := ⟨0, false⟩

/-- Text that shows the type: `1.0` for one, and exponents for the very large and small. -/
def explicit : FloatFormat := ⟨1, true⟩

private def zeros (count : Nat) : String := String.ofList (List.replicate count '0')

/-- `point` is the position of the decimal point relative to the first digit. -/
def positional (format : FloatFormat) (digits : String) (point : Int) : String :=
  if point ≤ 0 then "0." ++ zeros (-point).toNat ++ digits
  else if digits.length ≤ point.toNat then
    let whole := digits ++ zeros (point.toNat - digits.length)
    if format.leastFraction = 0 then whole else whole ++ "." ++ zeros format.leastFraction
  else
    String.ofList (digits.toList.take point.toNat) ++ "." ++
      String.ofList (digits.toList.drop point.toNat)

def scientific (digits : String) (point : Int) : String :=
  let fraction := String.ofList (digits.toList.drop 1)
  String.ofList (digits.toList.take 1) ++ (if fraction = "" then "" else "." ++ fraction) ++
    "e" ++ toString (point - 1)

def write (format : FloatFormat) (bits : UInt64) : String :=
  match Binary64.decode bits with
  | .nan => "NaN"
  | .infinite negative => if negative then "-inf" else "inf"
  | .finite negative significand exponent =>
    let sign := if negative then "-" else ""
    if significand = 0 then
      sign ++ (if format.leastFraction = 0 then "0" else "0." ++ zeros format.leastFraction)
    else
      let decimal := shortest significand exponent
      let digits := toString decimal.digits
      let point := digits.length + decimal.scale
      let outside := point < -3 ∨ 16 < point
      sign ++
        (if format.exponents ∧ outside then scientific digits point
         else format.positional digits point)

end FloatFormat
end StructuralCast.Text
