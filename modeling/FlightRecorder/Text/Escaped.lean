import FlightRecorder.Text.Quoted

/-!
# Escaped text

The text of a string inside a structured document: what stands between its two
quotes. A quote and a backslash are preceded by a backslash; the characters
below the blank are given by a letter where there is one and by four
hexadecimal digits where there is none; everything else stands for itself.

* `FlightRecorder.Text.escape` – the escaped form;
* `FlightRecorder.Text.unescapeUntilQuote` – its reader, which also knows the
  escapes that the writer never uses.
-/

namespace FlightRecorder.Text

/-- Exactly four hexadecimal digits, in lower case. -/
def fourHex (n : Nat) : List Char :=
  [n / 4096 % 16, n / 256 % 16, n / 16 % 16, n % 16].map Nat.digitChar

/-- The escaped form of one character. -/
def escapeChar (c : Char) : List Char :=
  if c = '"' then ['\\', '"']
  else if c = '\\' then ['\\', '\\']
  else if c = '\x08' then ['\\', 'b']
  else if c = '\x0c' then ['\\', 'f']
  else if c = '\n' then ['\\', 'n']
  else if c = '\r' then ['\\', 'r']
  else if c = '\t' then ['\\', 't']
  else if c.toNat < 0x20 then ['\\', 'u'] ++ fourHex c.toNat
  else [c]

/-- The escaped form of a list of characters. -/
def escapeList (cs : List Char) : List Char :=
  cs.flatMap escapeChar

/-- **The escaped form** of a text, without quotes around it. -/
def escape (s : String) : String :=
  String.ofList (escapeList s.toList)

/-- The value of a hexadecimal digit. -/
def hexValue? (c : Char) : Option Nat :=
  if c.isDigit then some (c.toNat - '0'.toNat)
  else if 'a'.toNat ≤ c.toNat ∧ c.toNat ≤ 'f'.toNat then some (c.toNat - 'a'.toNat + 10)
  else if 'A'.toNat ≤ c.toNat ∧ c.toNat ≤ 'F'.toNat then some (c.toNat - 'A'.toNat + 10)
  else none

/-- The number written by four hexadecimal digits. -/
def hexQuad? (a b c d : Char) : Option Nat := do
  let a ← hexValue? a
  let b ← hexValue? b
  let c ← hexValue? c
  let d ← hexValue? d
  return ((a * 16 + b) * 16 + c) * 16 + d

/-- The character that a letter after a backslash stands for. -/
def letterEscape? : Char → Option Char
  | '"' => some '"'
  | '\\' => some '\\'
  | '/' => some '/'
  | 'b' => some '\x08'
  | 'f' => some '\x0c'
  | 'n' => some '\n'
  | 'r' => some '\r'
  | 't' => some '\t'
  | _ => none

/-- Read escaped text up to the quote that ends it: the text, and what follows
that quote. A code point beyond the first plane takes two escapes of four
digits, one of a leading half and one of a trailing half; half of such a pair is
refused, and so is a bare control. -/
def unescapeUntilQuote : List Char → Option (List Char × List Char)
  | [] => none
  | '"' :: rest => some ([], rest)
  | '\\' :: 'u' :: a :: b :: c :: d :: rest =>
    match hexQuad? a b c d with
    | none => none
    | some n =>
      if 0xd800 ≤ n ∧ n < 0xdc00 then
        match rest with
        | '\\' :: 'u' :: e :: f :: g :: h :: rest =>
          match hexQuad? e f g h with
          | none => none
          | some m =>
            if 0xdc00 ≤ m ∧ m < 0xe000 then
              (unescapeUntilQuote rest).map fun (cs, left) =>
                (Char.ofNat (0x10000 + (n - 0xd800) * 0x400 + (m - 0xdc00)) :: cs, left)
            else none
        | _ => none
      else if 0xdc00 ≤ n ∧ n < 0xe000 then none
      else (unescapeUntilQuote rest).map fun (cs, left) => (Char.ofNat n :: cs, left)
  | '\\' :: e :: rest =>
    match letterEscape? e with
    | none => none
    | some c => (unescapeUntilQuote rest).map fun (cs, left) => (c :: cs, left)
  | c :: rest =>
    if c.toNat < 0x20 ∨ c = '\\' then none
    else (unescapeUntilQuote rest).map fun (cs, left) => (c :: cs, left)

end FlightRecorder.Text
