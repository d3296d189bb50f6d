import FlightRecorder.Text.Graphic

/-!
# Quoted text

Diagnostics show a text between double quotes, in a form that fits on one line
and hides nothing: a quote and a backslash are preceded by a backslash, the
common controls have a letter, and every character that is not graphic is given
by its code point.

* `FlightRecorder.Text.quoted` – the quoted form of a text;
* `FlightRecorder.Text.hexDigits` – the digits a code point is given in.
-/

namespace FlightRecorder.Text

/-- The hexadecimal digits of a number, in lower case and without leading
zeros. -/
def hexDigits (n : Nat) : List Char :=
  Nat.toDigits 16 n

/-- The quoted form of one character. -/
def quotedChar (c : Char) : List Char :=
  if c = '\x00' then ['\\', '0']
  else if c = '\t' then ['\\', 't']
  else if c = '\r' then ['\\', 'r']
  else if c = '\n' then ['\\', 'n']
  else if c = '"' then ['\\', '"']
  else if c = '\\' then ['\\', '\\']
  else if isGraphic c then [c]
  else ['\\', 'u', '\x7b'] ++ hexDigits c.toNat ++ ['\x7d']

/-- **The quoted form** of a text. -/
def quoted (s : String) : String :=
  String.ofList ('"' :: s.toList.flatMap quotedChar ++ ['"'])

end FlightRecorder.Text
