/-!
# Blanks and letter case

Two character rules of hand-written settings.

* `FlightRecorder.Text.trimList` removes the white space around an option. White
  space is the Unicode property of that name, which is more than the blanks of
  ASCII and less than all characters that look empty.
* `FlightRecorder.Text.foldCase` brings a text to lower case as far as the
  recognised words can tell: the only character beyond ASCII whose lower case is
  a letter of ASCII is the Kelvin sign.
-/

namespace FlightRecorder.Text

/-- The Unicode property *white space*. -/
def isBlank (c : Char) : Bool :=
  let n := c.toNat
  (0x9 ≤ n && n ≤ 0xd) || n == 0x20 || n == 0x85 || n == 0xa0 || n == 0x1680 ||
    (0x2000 ≤ n && n ≤ 0x200a) || n == 0x2028 || n == 0x2029 || n == 0x202f ||
    n == 0x205f || n == 0x3000

/-- Characters without the white space at their two ends. -/
def trimList (cs : List Char) : List Char :=
  ((cs.dropWhile isBlank).reverse.dropWhile isBlank).reverse

/-- The lower case of an ASCII letter; any other character is left alone. -/
def lowerAscii (s : String) : String :=
  s.map Char.toLower

/-- Lower case, the Kelvin sign included. -/
def foldCase (s : String) : String :=
  s.map fun c => if c = '\u212a' then 'k' else c.toLower

/-- Equality up to the case of ASCII letters. -/
def eqIgnoreCase (s t : String) : Bool :=
  lowerAscii s == lowerAscii t

end FlightRecorder.Text
