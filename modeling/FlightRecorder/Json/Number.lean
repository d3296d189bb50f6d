import FlightRecorder.Json
import FlightRecorder.Text.Digits

/-!
# Numbers of structured documents

A number without fraction and exponent that fits a signed or an unsigned word of
64 bits is an integer. All others are floating-point numbers, and these are read
in steps: the digits, as many of them as make a word, are rounded to a number,
which is then multiplied with or divided by a power of ten that is rounded
itself. Where digits and power are exact, the outcome is the nearest number; it
may be a close neighbour of it elsewhere.

* `FlightRecorder.Json.takeWord` – the digits that make a word;
* `FlightRecorder.Json.scaled?` – a number times a power of ten;
* `FlightRecorder.Json.numberOf?` – the number with given parts.
-/

namespace FlightRecorder.Json

/-- Read digits behind those of `n` for as long as they make a word of 64 bits,
and leave the others. -/
def takeWord (n : Nat) : List Char → Nat × List Char
  | [] => (n, [])
  | c :: cs =>
    let longer := n * 10 + Text.digitsValue [c]
    if longer < Nat.pow 2 64 then takeWord longer cs else (n, c :: cs)

/-- The exponent of the largest power of ten that is used. -/
def maxPower : Nat := 308

/-- A power of ten. -/
def power (k : Nat) : Nat :=
  binary64.round false (Nat.pow 10 k) 1

/-- **A number times a power of ten**, if that is finite. A number that is to be
divided by more than the largest power is divided by that first, and one for
which this is not enough either is nothing but zero. -/
def scaled? (x : Nat) (exponent : Int) : Option Nat :=
  if x = 0 then some 0
  else if 0 ≤ exponent then
    if exponent ≤ maxPower then
      let y := binary64.product x (power exponent.toNat)
      if y = binary64.infinity false then none else some y
    else none
  else
    let k := (-exponent).toNat
    if k ≤ maxPower then some (binary64.quotient x (power k))
    else if k ≤ 2 * maxPower then
      some (binary64.quotient (binary64.quotient x (power maxPower)) (power (k - maxPower)))
    else some 0

/-- A floating-point number from its parts: sign, whole part, fraction and
exponent. -/
def realOf? (negative : Bool) (whole fraction : List Char) (exponent : Int) : Option Json :=
  let (n, left) := takeWord 0 whole
  let (n, left') := takeWord n fraction
  -- Every whole digit that is left counts ten times, every fraction digit read a tenth.
  let exponent := exponent + left.length - (fraction.length - left'.length : Nat)
  (scaled? (binary64.ofInt n) exponent).map fun x => ofBits (binary64.signed negative x).toUInt64

/-- **A number** from its parts: sign, whole part, and, if written, fraction and
exponent. -/
def numberOf? (negative : Bool) (whole : List Char) (fraction : Option (List Char))
    (exponent : Option Int) : Option Json :=
  let n := Text.digitsValue whole
  if fraction.isNone ∧ exponent.isNone ∧ ¬ negative ∧ n < Nat.pow 2 64 then some (.int n)
  else if fraction.isNone ∧ exponent.isNone ∧ negative ∧ n ≠ 0 ∧ n ≤ Nat.pow 2 63 then
    some (.int (-n))
  else realOf? negative whole (fraction.getD []) (exponent.getD 0)

end FlightRecorder.Json
