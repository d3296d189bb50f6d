import FlightRecorder.Calendar
import FlightRecorder.Decimal
import FlightRecorder.Text.Digits
import FlightRecorder.Text.Escaped
import FlightRecorder.Toml

/-!
# Scalars of settings documents

Strings, numbers and times as they are written in a settings document. Each
reader takes the characters from some point on and returns what it read with the
characters behind it; what may follow is the caller's matter.

* `FlightRecorder.Toml.string?` – the four forms of strings: between double
  quotes with escapes, between single quotes without, and either of them on
  several lines between three quotes;
* `FlightRecorder.Toml.number?` – integers of four bases and floating-point
  numbers, with underscores between digits;
* `FlightRecorder.Toml.moment?` – dates and times of day.
-/

namespace FlightRecorder.Toml

/-! ### Blanks -/

/-- What comments and strings of one line may contain: tabs and all characters
that are not controls of ASCII. -/
def isInline (c : Char) : Bool :=
  c == '\t' || (decide (0x20 ≤ c.toNat) && c.toNat != 0x7f)

/-- What is left after blanks on a line. -/
def skipSpace (cs : List Char) : List Char :=
  cs.dropWhile fun c => c == ' ' || c == '\t'

/-- What is left after blanks and line ends. -/
def skipLines : List Char → List Char
  | [] => []
  | '\r' :: '\n' :: rest => skipLines rest
  | c :: rest => if c = ' ' ∨ c = '\t' ∨ c = '\n' then skipLines rest else c :: rest

/-! ### Strings -/

/-- The character with the code point that the first `n` hexadecimal digits
give. -/
def codePoint? (n : Nat) (cs : List Char) : Option (Char × List Char) := do
  let digits ← (cs.take n).mapM Text.hexValue?
  let code := digits.foldl (fun a d => a * 16 + d) 0
  if digits.length = n ∧ code.isValidChar then some (Char.ofNat code, cs.drop n) else none

/-- What stands after a backslash. -/
def escape? : List Char → Option (Char × List Char)
  | 'u' :: rest => codePoint? 4 rest
  | 'U' :: rest => codePoint? 8 rest
  | '/' :: _ => none
  | c :: rest => (Text.letterEscape? c).map (·, rest)
  | [] => none

/-- The rest of a string between double quotes, with at most so many
characters. -/
def quoted? : Nat → List Char → Option (List Char × List Char)
  | 0, _ => none
  | _ + 1, [] => none
  | fuel + 1, c :: rest =>
    if c = '"' then some ([], rest)
    else if c = '\\' then do
      let (e, rest) ← escape? rest
      let (cs, rest) ← quoted? fuel rest
      return (e :: cs, rest)
    else if isInline c then (quoted? fuel rest).map fun (cs, rest) => (c :: cs, rest)
    else none

/-- The rest of a string between single quotes. -/
def literal? (cs : List Char) : Option (List Char × List Char) :=
  let text := cs.takeWhile fun c => isInline c && c != '\x27'
  match cs.drop text.length with
  | '\x27' :: rest => some (text, rest)
  | _ => none

/-- What is left after a backslash at the end of a line: the blanks and line ends
behind it count for nothing. -/
def continued? (cs : List Char) : Option (List Char) :=
  match skipSpace cs with
  | '\n' :: rest => some (skipLines rest)
  | '\r' :: '\n' :: rest => some (skipLines rest)
  | _ => none

/-- The rest of a string on several lines that ends in three marks, with at most
so many characters. One or two marks are part of it, also right before the last
three; a line end is a line feed. -/
def multiLine? (mark : Char) : Nat → List Char → Option (List Char × List Char)
  | 0, _ => none
  | _ + 1, [] => none
  | fuel + 1, '\r' :: '\n' :: rest =>
    (multiLine? mark fuel rest).map fun (cs, rest) => ('\n' :: cs, rest)
  | fuel + 1, c :: rest =>
    if c = mark then
      let run := ((c :: rest).takeWhile (· == mark)).length
      if run < 3 then (multiLine? mark fuel rest).map fun (cs, rest) => (c :: cs, rest)
      else if run ≤ 5 then some (List.replicate (run - 3) mark, (c :: rest).drop run)
      else none
    else if c = '\\' ∧ mark = '"' then
      match continued? rest with
      | some rest => multiLine? mark fuel rest
      | none => do
        let (e, rest) ← escape? rest
        let (cs, rest) ← multiLine? mark fuel rest
        return (e :: cs, rest)
    else if c = '\n' ∨ isInline c then
      (multiLine? mark fuel rest).map fun (cs, rest) => (c :: cs, rest)
    else none

/-- A line end right after the three marks is no part of the string. -/
def dropLineEnd : List Char → List Char
  | '\n' :: rest => rest
  | '\r' :: '\n' :: rest => rest
  | cs => cs

/-- **A string.** -/
def string? : List Char → Option (List Char × List Char)
  | '"' :: '"' :: '"' :: rest => multiLine? '"' (rest.length + 1) (dropLineEnd rest)
  | '\x27' :: '\x27' :: '\x27' :: rest => multiLine? '\x27' (rest.length + 1) (dropLineEnd rest)
  | '"' :: rest => quoted? (rest.length + 1) rest
  | '\x27' :: rest => literal? rest
  | _ => none

/-! ### Numbers -/

/-- Digits, with single underscores between them. -/
def digits? (isDigit : Char → Bool) (cs : List Char) : Option (List Char × List Char) :=
  let run := cs.takeWhile fun c => isDigit c || c == '_'
  if (run.splitOn '_').any (·.isEmpty) then none
  else some (run.filter (· != '_'), cs.drop run.length)

/-- An integer, if it is a signed word of 64 bits. -/
def integer? (x : Int) : Option Toml :=
  if -Int.pow 2 63 ≤ x ∧ x < Int.pow 2 63 then some (.integer x) else none

/-- An integer to one of the bases that are powers of two. -/
def based? (base : Nat) (cs : List Char) : Option (Toml × List Char) := do
  let isDigit (c : Char) : Bool := (Text.hexValue? c).any fun d => decide (d < base)
  let (digits, rest) ← digits? isDigit cs
  let n := digits.foldl (fun n c => n * base + (Text.hexValue? c).getD 0) 0
  return (← integer? n, rest)

/-- The exponent of a number: a letter, perhaps a sign, and digits. -/
def exponent? : List Char → Option (Option Int × List Char)
  | [] => some (none, [])
  | c :: rest =>
    if c = 'e' ∨ c = 'E' then do
      let (negative, rest) := match rest with
        | '-' :: rest => (true, rest)
        | '+' :: rest => (false, rest)
        | rest => (false, rest)
      let (digits, rest) ← digits? Char.isDigit rest
      let n : Int := Text.digitsValue digits
      return (some (if negative then -n else n), rest)
    else some (none, c :: rest)

/-- The fraction of a number: a point and digits. -/
def fraction? : List Char → Option (Option (List Char) × List Char)
  | '.' :: rest => (digits? Char.isDigit rest).map fun (digits, rest) => (some digits, rest)
  | rest => some (none, rest)

/-- A number after its sign. One that is too large for a floating-point number is
refused, unless it is negative. -/
def unsigned? (negative : Bool) : List Char → Option (Toml × List Char)
  | 'i' :: 'n' :: 'f' :: rest => some (.float (binary64.infinity negative).toUInt64, rest)
  | 'n' :: 'a' :: 'n' :: rest => some (.float (binary64.notANumber negative).toUInt64, rest)
  | cs => do
    let (whole, rest) ← digits? Char.isDigit cs
    if whole.length ≠ 1 ∧ whole.head? = some '0' then none
    let (fraction, rest) ← fraction? rest
    let (exponent, rest) ← exponent? rest
    if fraction.isNone ∧ exponent.isNone then
      let n : Int := Text.digitsValue whole
      return (← integer? (if negative then -n else n), rest)
    else
      let d : Decimal :=
        { negative, digits := Text.digitsValue (whole ++ fraction.getD [])
          exponent := exponent.getD 0 - (fraction.getD []).length }
      if d.isFinite ∨ negative then return (.float d.toBits.toUInt64, rest) else none

/-- **A number.** -/
def number? : List Char → Option (Toml × List Char)
  | '0' :: 'x' :: rest => based? 16 rest
  | '0' :: 'o' :: rest => based? 8 rest
  | '0' :: 'b' :: rest => based? 2 rest
  | '-' :: rest => unsigned? true rest
  | '+' :: rest => unsigned? false rest
  | cs => unsigned? false cs

/-! ### Times -/

/-- A number of exactly `n` digits within bounds. -/
def field? (n least greatest : Nat) (cs : List Char) : Option (Nat × List Char) :=
  let digits := cs.take n
  let x := Text.digitsValue digits
  if digits.length = n ∧ digits.all Char.isDigit ∧ least ≤ x ∧ x ≤ greatest then
    some (x, cs.drop n)
  else none

/-- One given character. -/
def mark? (c : Char) : List Char → Option (List Char)
  | x :: rest => if x = c then some rest else none
  | [] => none

/-- What was read when `rest` is left of `cs`. -/
def consumed (cs rest : List Char) : List Char :=
  cs.take (cs.length - rest.length)

/-- A date of the calendar. -/
def date? (cs : List Char) : Option (List Char × List Char) := do
  let (year, rest) ← field? 4 0 9999 cs
  let (month, rest) ← field? 2 1 12 (← mark? '-' rest)
  let longest := (Calendar.monthLengths year).getD (month - 1) 0
  let (_, rest) ← field? 2 1 longest (← mark? '-' rest)
  return (consumed cs rest, rest)

/-- The fraction of a second, to the nanosecond and without zeros at its end. -/
def secondFraction : List Char → List Char × List Char
  | '.' :: rest =>
    let digits := rest.takeWhile Char.isDigit
    if digits.isEmpty then ([], '.' :: rest)
    else
      let kept := ((digits.take 9).reverse.dropWhile (· == '0')).reverse
      (if kept.isEmpty then [] else '.' :: kept, rest.drop digits.length)
  | rest => ([], rest)

/-- A time of day, up to a last hour. -/
def timeOfDay? (lastHour : Nat) (cs : List Char) : Option (List Char × List Char) := do
  let (_, rest) ← field? 2 0 lastHour cs
  let (_, rest) ← field? 2 0 59 (← mark? ':' rest)
  let (_, rest) ← field? 2 0 60 (← mark? ':' rest)
  let (fraction, left) := secondFraction rest
  return (consumed cs rest ++ fraction, left)

/-- An offset from universal time, if there is one. -/
def offset : List Char → List Char × List Char
  | [] => ([], [])
  | c :: cs =>
    if c = 'Z' ∨ c = 'z' then (['Z'], cs)
    else if c = '+' ∨ c = '-' then
      let read : Option (List Char × List Char) := do
        let (hour, rest) ← field? 2 0 23 cs
        let (minute, rest) ← field? 2 0 59 (← mark? ':' rest)
        -- There is no negative zero among the offsets.
        let sign := if hour = 0 ∧ minute = 0 then '+' else c
        return (sign :: consumed cs rest, rest)
      read.getD ([], c :: cs)
    else ([], c :: cs)

/-- **A date, a time of day, or both.** -/
def moment? (cs : List Char) : Option (Toml × List Char) :=
  let text (t : List Char) : Toml := .moment (String.ofList t)
  match date? cs with
  | none => (timeOfDay? 23 cs).map fun (time, rest) => (text time, rest)
  | some (date, c :: rest) =>
    if c = 'T' ∨ c = 't' ∨ c = ' ' then
      match timeOfDay? 23 rest with
      | some (time, rest) =>
        let (zone, rest) := offset rest
        some (text (date ++ 'T' :: time ++ zone), rest)
      | none => some (text date, c :: rest)
    else some (text date, c :: rest)
  | some (date, []) => some (text date, [])

end FlightRecorder.Toml
