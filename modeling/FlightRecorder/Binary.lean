/-!
# Binary floating-point formats

A finite floating-point number is an integer times a power of two. This file
reads that integer and that power off the bits of a number, and rounds an
arbitrary fraction to the nearest number of a format – both in exact integer
arithmetic.

* `FlightRecorder.BinaryFormat` – the widths of a format, with the two formats
  in use, `binary32` and `binary64`;
* `FlightRecorder.BinaryFormat.decode` – what the bits stand for;
* `FlightRecorder.BinaryFormat.round` – the bits of the number nearest to a
  fraction, a tie going to the even neighbour;
* `FlightRecorder.BinaryFormat.product`, `FlightRecorder.BinaryFormat.quotient` –
  arithmetic with one rounding.
-/

namespace FlightRecorder

/-- A binary format: a sign bit, then the exponent, then the fraction. -/
structure BinaryFormat where
  fractionBits : Nat
  exponentBits : Nat
  deriving DecidableEq, Repr

/-- The format of 32 bits. -/
def binary32 : BinaryFormat := ⟨23, 8⟩

/-- The format of 64 bits. -/
def binary64 : BinaryFormat := ⟨52, 11⟩

/-- What the bits of a floating-point number stand for. -/
inductive BinaryNumber where
  | notANumber
  | infinite (negative : Bool)
  /-- The number `significand * 2 ^ exponent`, with its sign. `narrowBelow` tells
  that the gap to the next smaller number is half the gap to the next larger. -/
  | finite (negative : Bool) (significand : Nat) (exponent : Int) (narrowBelow : Bool)
  deriving DecidableEq, Repr, Inhabited

/-- The size of a finite number as a fraction, by numerator and denominator. -/
def BinaryNumber.fraction : BinaryNumber → Nat × Nat
  | .finite _ m e _ => (m * Nat.pow 2 e.toNat, Nat.pow 2 (-e).toNat)
  | _ => (0, 1)

namespace BinaryFormat

/-- The exponent of the smallest positive number of the format. -/
def leastExponent (f : BinaryFormat) : Int :=
  2 - (Nat.pow 2 (f.exponentBits - 1) : Nat) - f.fractionBits

/-- What the bits of a number of this format stand for. -/
def decode (f : BinaryFormat) (bits : Nat) : BinaryNumber :=
  let fraction := bits % Nat.pow 2 f.fractionBits
  let biased := bits / Nat.pow 2 f.fractionBits % Nat.pow 2 f.exponentBits
  let negative := bits / Nat.pow 2 (f.fractionBits + f.exponentBits) % 2 == 1
  if biased = Nat.pow 2 f.exponentBits - 1 then
    if fraction = 0 then .infinite negative else .notANumber
  else if biased = 0 then .finite negative fraction f.leastExponent false
  else
    .finite negative (Nat.pow 2 f.fractionBits + fraction) (f.leastExponent + (biased - 1 : Nat))
      (fraction == 0 && biased != 1)

/-- The bits of a number of this format, from its sign, its biased exponent and
its fraction. -/
def encode (f : BinaryFormat) (negative : Bool) (biased fraction : Nat) : Nat :=
  ((if negative then Nat.pow 2 f.exponentBits else 0) + biased) * Nat.pow 2 f.fractionBits +
    fraction

/-- The bits of an infinity. -/
def infinity (f : BinaryFormat) (negative : Bool) : Nat :=
  f.encode negative (Nat.pow 2 f.exponentBits - 1) 0

/-- The bits of what is not a number: the highest bit of the fraction is set. -/
def notANumber (f : BinaryFormat) (negative : Bool) : Nat :=
  f.encode negative (Nat.pow 2 f.exponentBits - 1) (Nat.pow 2 (f.fractionBits - 1))

/-- The integer nearest to a fraction, a tie going to the even neighbour. -/
def roundToEven (num den : Nat) : Nat :=
  let q := num / den
  let twice := 2 * (num % den)
  if den < twice ∨ (twice = den ∧ q % 2 = 1) then q + 1 else q

/-- The power of two at which a positive fraction, divided by it, has the
significand width of the format, or the least exponent if that is larger. -/
def scaleFor (f : BinaryFormat) (num den : Nat) : Int :=
  let guess : Int := (num.log2 : Int) - den.log2 - f.fractionBits
  -- The true exponent is the guess or one less.
  let fits (e : Int) : Bool :=
    Nat.pow 2 f.fractionBits * (den * Nat.pow 2 e.toNat) ≤ num * Nat.pow 2 (-e).toNat
  let e := if fits guess then guess else guess - 1
  max e f.leastExponent

/-- **Rounding**: the bits of the number of the format that is nearest to
`num / den`, a tie going to the even neighbour and a fraction beyond the largest
number to infinity. -/
def round (f : BinaryFormat) (negative : Bool) (num den : Nat) : Nat :=
  if num = 0 then f.encode negative 0 0
  else
    let e := f.scaleFor num den
    let q := roundToEven (num * Nat.pow 2 (-e).toNat) (den * Nat.pow 2 e.toNat)
    -- Rounding up may carry into the next binade.
    let (q, e) := if q = Nat.pow 2 (f.fractionBits + 1) then (q / 2, e + 1) else (q, e)
    if q < Nat.pow 2 f.fractionBits then f.encode negative 0 q
    else
      let biased := (e - f.leastExponent).toNat + 1
      if Nat.pow 2 f.exponentBits - 1 ≤ biased then f.infinity negative
      else f.encode negative biased (q - Nat.pow 2 f.fractionBits)

/-- The bits of a number with a sign, from those of its size. -/
def signed (f : BinaryFormat) (negative : Bool) (bits : Nat) : Nat :=
  if negative then bits + Nat.pow 2 (f.fractionBits + f.exponentBits) else bits

/-- **The product** of the sizes of two finite numbers. -/
def product (f : BinaryFormat) (x y : Nat) : Nat :=
  let (num, den) := (f.decode x).fraction
  let (num', den') := (f.decode y).fraction
  f.round false (num * num') (den * den')

/-- **The quotient** of the sizes of two finite numbers. -/
def quotient (f : BinaryFormat) (x y : Nat) : Nat :=
  let (num, den) := (f.decode x).fraction
  let (num', den') := (f.decode y).fraction
  f.round false (num * den') (den * num')

/-- The bits of the integer `x` in this format. -/
def ofInt (f : BinaryFormat) (x : Int) : Nat :=
  f.round (decide (x < 0)) x.natAbs 1

end BinaryFormat

/-- The bits in the wide format of the number whose bits in the narrow format
are given; widening is exact. -/
def widen (bits : UInt32) : UInt64 :=
  match binary32.decode bits.toNat with
  | .notANumber => (binary64.notANumber false).toUInt64
  | .infinite negative => (binary64.infinity negative).toUInt64
  | .finite negative m e _ =>
    (binary64.round negative (m * Nat.pow 2 e.toNat) (Nat.pow 2 (-e).toNat)).toUInt64

end FlightRecorder
