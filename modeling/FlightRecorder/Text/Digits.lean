/-!
# Digits

The number that a run of digits stands for. The characters are expected to be
digits; what is read from anything else means nothing.
-/

namespace FlightRecorder.Text

/-- The number written by decimal digits. -/
def digitsValue (cs : List Char) : Nat :=
  cs.foldl (fun n c => n * 10 + (c.toNat - '0'.toNat)) 0

end FlightRecorder.Text
