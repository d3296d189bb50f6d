import FlightRecorder.Binary

/-!
# Decimal text of floating-point numbers

A floating-point number is written with as few digits as tell it apart from its
neighbours, and with those digits as near to it as possible. Which digits these
are is arithmetic; where the point goes, when an exponent is written and how
infinities are spelt is a matter of the format, and the formats of this library
are records of such decisions.

* `FlightRecorder.Decimal` – a decimal number with its sign;
* `FlightRecorder.Decimal.shortest` – the shortest decimal that reads back as a
  given binary number: the first digit count at which one of the two neighbours
  of the number on the decimal grid rounds to the number again;
* `FlightRecorder.Notation` – the decisions of a format, and
  `FlightRecorder.Notation.render`.
-/

namespace FlightRecorder

/-- The number `digits * 10 ^ exponent`, with its sign; zero has a sign too. -/
structure Decimal where
  negative : Bool
  digits : Nat
  exponent : Int
  deriving DecidableEq, Repr, Inhabited

/-- What becomes of a number halfway between two candidates of equal length. -/
inductive TieRule where
  /-- The candidate whose last digit is even. -/
  | even
  /-- The larger candidate. -/
  | away
  deriving DecidableEq, Repr

namespace Decimal

/-- The number of decimal digits of a positive integer. -/
def digitCount (n : Nat) : Nat :=
  (Nat.toDigits 10 n).length

/-- Move trailing zeros of the digits into the exponent; `steps` bounds their
number. -/
def stripZeros : Nat → Nat → Int → Nat × Int
  | 0, digits, exponent => (digits, exponent)
  | steps + 1, digits, exponent =>
    if digits ≠ 0 ∧ digits % 10 = 0 then stripZeros steps (digits / 10) (exponent + 1)
    else (digits, exponent)

/-- Raise `k` while `num * 10 ^ k < den`; `steps` bounds the rise. -/
def leadingZeros : Nat → Nat → Nat → Nat
  | 0, _, _ => 0
  | steps + 1, num, den =>
    if num < den then leadingZeros steps (num * 10) den + 1 else 0

/-- The exponent of the leading digit of the positive fraction `num / den`. -/
def leadingExponent (num den : Nat) : Int :=
  if den ≤ num then (digitCount (num / den) : Int) - 1
  else -(leadingZeros (digitCount den + 1) num den : Int)

/-- The candidate among the multiples of `10 ^ k` for the fraction `num / den`,
if one of its two neighbours there lies between `low / den` and `high / den`.
The ends count when `ends` says so. -/
def candidate (tie : TieRule) (ends : Bool) (low num high den : Nat) (k : Int) : Option Nat :=
  -- All four quantities in units of the grid.
  let up := Nat.pow 10 (-k).toNat
  let unit := den * Nat.pow 10 k.toNat
  let floor := num * up / unit
  let between (d : Nat) : Bool :=
    if ends then decide (low * up ≤ d * unit) && decide (d * unit ≤ high * up)
    else decide (low * up < d * unit) && decide (d * unit < high * up)
  match between floor && floor != 0, between (floor + 1) with
  | false, false => none
  | true, false => some floor
  | false, true => some (floor + 1)
  | true, true =>
    let twice := 2 * (num * up - floor * unit)
    if twice < unit then some floor
    else if unit < twice then some (floor + 1)
    else match tie with
      | .away => some (floor + 1)
      | .even => some (if floor % 2 = 0 then floor else floor + 1)

/-- Try the grids from the one of `10 ^ k` downwards, `steps` of them. -/
def search (tie : TieRule) (ends : Bool) (low num high den : Nat) : Nat → Int → Nat × Int
  | 0, k => (num, k)
  | steps + 1, k =>
    match candidate tie ends low num high den k with
    | some d => (d, k)
    | none => search tie ends low num high den steps (k - 1)

/-- **The shortest decimal** that reads back as `significand * 2 ^ exponent`. The
numbers that read back as it reach half way to its neighbours, and include the
two midpoints exactly when the significand is even. -/
def shortest (tie : TieRule) (negative : Bool) (significand : Nat) (exponent : Int)
    (narrowBelow : Bool) : Decimal :=
  if significand = 0 then ⟨negative, 0, 0⟩
  else
    -- The number and the two midpoints, over the common denominator `den`.
    let scale := Nat.pow 2 exponent.toNat
    let den := 4 * Nat.pow 2 (-exponent).toNat
    let num := 4 * significand * scale
    let high := num + 2 * scale
    let low := num - (if narrowBelow then 1 else 2) * scale
    let first := leadingExponent num den
    let (digits, k) := search tie (significand % 2 == 0) low num high den 20 first
    let (digits, k) := stripZeros (digitCount digits) digits k
    ⟨negative, digits, k⟩

/-- The exponent of the leading digit; zero for zero. -/
def magnitude (d : Decimal) : Int :=
  if d.digits = 0 then 0 else d.exponent + digitCount d.digits - 1

/-- The bits of the wide binary number nearest to a decimal. A magnitude that is
out of reach of the format is settled without computing the power of ten. -/
def toBits (d : Decimal) : Nat :=
  if d.digits = 0 ∨ d.magnitude < -400 then binary64.round d.negative 0 1
  else if 400 < d.magnitude then binary64.infinity d.negative
  else binary64.round d.negative (d.digits * Nat.pow 10 d.exponent.toNat)
    (Nat.pow 10 (-d.exponent).toNat)

/-- Whether the nearest binary number is a finite one. -/
def isFinite (d : Decimal) : Bool :=
  match binary64.decode d.toBits with
  | .finite .. => true
  | _ => false

end Decimal

/-- How a format writes floating-point numbers. -/
structure Notation where
  tie : TieRule
  /-- Smallest and largest exponent of the leading digit that are written
  positionally; without them, every number is. -/
  positional : Option (Int × Int)
  /-- Whether an integer written positionally ends in `.0`. -/
  pointZero : Bool
  /-- Whether a positive exponent has a sign. -/
  plusSign : Bool

namespace Notation

/-- Digits with the point after the leading `whole` of them, in `n` digits or
more: zeros are added on either side as needed. -/
def place (digits : List Char) (whole : Int) : List Char × List Char :=
  if whole ≤ 0 then (['0'], List.replicate (-whole).toNat '0' ++ digits)
  else
    let n := whole.toNat
    (digits.take n ++ List.replicate (n - digits.length) '0', digits.drop n)

/-- The text of a decimal number. -/
def renderDecimal (n : Notation) (d : Decimal) : String :=
  let sign := if d.negative then "-" else ""
  let digits := Nat.toDigits 10 d.digits
  let e := d.magnitude
  let isPositional := match n.positional with
    | none => true
    | some (least, greatest) => decide (least ≤ e) && decide (e ≤ greatest)
  if isPositional then
    let (whole, fraction) := place digits (e + 1)
    let fraction := if d.digits = 0 then [] else fraction
    let tail := if fraction.isEmpty then (if n.pointZero then ".0" else "")
      else "." ++ String.ofList fraction
    sign ++ String.ofList whole ++ tail
  else
    let fraction := digits.drop 1
    let point := if fraction.isEmpty then "" else "."
    let mark := if 0 ≤ e ∧ n.plusSign then "e+" else "e"
    sign ++ String.ofList (digits.take 1) ++ point ++ String.ofList fraction ++ mark ++ toString e

/-- The text of a binary number. -/
def render (n : Notation) : BinaryNumber → String
  | .notANumber => "NaN"
  | .infinite negative => if negative then "-inf" else "inf"
  | .finite negative m e narrow => n.renderDecimal (Decimal.shortest n.tie negative m e narrow)

end Notation

/-- The notation of plain cells: positional from `0.0001` to below `1e16`, an
integer ends in `.0`, and of two equally near candidates the larger is taken. -/
def cellNotation : Notation :=
  { tie := .away, positional := some (-4, 15), pointZero := true, plusSign := false }

/-- The notation of structured documents: positional from `0.00001` to below
`1e16`, an integer ends in `.0`, a positive exponent has a sign, and of two
equally near candidates the even one is taken. -/
def documentNotation : Notation :=
  { tie := .even, positional := some (-5, 15), pointZero := true, plusSign := true }

/-- The notation of settings: always positional, and an integer has no point. -/
def settingNotation : Notation :=
  { tie := .away, positional := none, pointZero := false, plusSign := false }

end FlightRecorder
