import FlightRecorder.Json.Number

/-!
# Reading structured documents

A reader for the text of `FlightRecorder.Json`: blanks are allowed around every
token, every escape is known, and nothing may follow the document.

The reader descends into a document with a bound on its nesting,
`FlightRecorder.Json.maxDepth`, and reads the items of an array with a bound on
their number, the length of the text. What a number is worth is not its business:
it takes numbers apart, and leaves the parts to whoever reads.

* `FlightRecorder.Json.readBy?` – the document a text stands for, if any, for a given
  worth of numbers;
* `FlightRecorder.Json.read?` – the same for `FlightRecorder.Json.numberOf?`.
-/

namespace FlightRecorder.Json

/-- How deep arrays and objects may be nested, plus one. -/
def maxDepth : Nat := 128

/-- The blanks between tokens. -/
def isSpace (c : Char) : Bool :=
  c == ' ' || c == '\t' || c == '\n' || c == '\r'

/-- What is left after the blanks. -/
def skip (cs : List Char) : List Char :=
  cs.dropWhile isSpace

/-- The exponent of a number: a letter, perhaps a sign, and digits. -/
def exponent? : List Char → Option (Option Int × List Char)
  | c :: rest =>
    if c = 'e' ∨ c = 'E' then
      let (negative, rest) := match rest with
        | '-' :: rest => (true, rest)
        | '+' :: rest => (false, rest)
        | rest => (false, rest)
      let digits := rest.takeWhile Char.isDigit
      if digits.isEmpty then none
      else
        let n : Int := Text.digitsValue digits
        some (some (if negative then -n else n), rest.dropWhile Char.isDigit)
    else some (none, c :: rest)
  | [] => some (none, [])

/-- The fraction of a number: a point and digits. -/
def fraction? : List Char → Option (Option (List Char) × List Char)
  | '.' :: rest =>
    let digits := rest.takeWhile Char.isDigit
    if digits.isEmpty then none else some (some digits, rest.dropWhile Char.isDigit)
  | rest => some (none, rest)

/-- What numbers are worth: the parts of a number are its sign, the digits before the
point, and, if they are written, those behind it and the exponent. -/
abbrev Numeral := Bool → List Char → Option (List Char) → Option Int → Option Json

/-- A number, without leading zeros. -/
def number? (worth : Numeral) (cs : List Char) : Option (Json × List Char) := do
  let (negative, cs) := match cs with
    | '-' :: rest => (true, rest)
    | rest => (false, rest)
  let whole := cs.takeWhile Char.isDigit
  if whole.isEmpty || (whole.head? == some '0' && whole.length != 1) then none
  let (fraction, rest) ← fraction? (cs.dropWhile Char.isDigit)
  let (exponent, rest) ← exponent? rest
  let n ← worth negative whole fraction exponent
  return (n, rest)

/-- The items of an array after its opening bracket and a look at what follows,
up to the closing one. -/
def items? (item : List Char → Option (Json × List Char)) :
    Nat → List Char → Option (List Json × List Char)
  | 0, _ => none
  | fuel + 1, cs =>
    match item cs with
    | none => none
    | some (j, rest) =>
      match skip rest with
      | ']' :: rest => some ([j], rest)
      | ',' :: rest => (items? item fuel rest).map fun (js, rest) => (j :: js, rest)
      | _ => none

/-- One member of an object: a key, a colon and a value. -/
def member? (item : List Char → Option (Json × List Char)) (cs : List Char) :
    Option ((String × Json) × List Char) :=
  match skip cs with
  | '"' :: rest =>
    match Text.unescapeUntilQuote rest with
    | none => none
    | some (key, rest) =>
      match skip rest with
      | ':' :: rest => (item rest).map fun (j, rest) => ((String.ofList key, j), rest)
      | _ => none
  | _ => none

/-- The members of an object, up to the closing brace. -/
def members? (item : List Char → Option (Json × List Char)) :
    Nat → List Char → Option (List (String × Json) × List Char)
  | 0, _ => none
  | fuel + 1, cs =>
    match member? item cs with
    | none => none
    | some (m, rest) =>
      match skip rest with
      | '\x7d' :: rest => some ([m], rest)
      | ',' :: rest => (members? item fuel rest).map fun (ms, rest) => (m :: ms, rest)
      | _ => none

/-- A document at the start of a text, nested less than `depth` deep, and what
follows it. -/
def value? (worth : Numeral) : Nat → List Char → Option (Json × List Char)
  | 0, _ => none
  | depth + 1, cs =>
    match skip cs with
    | 'n' :: 'u' :: 'l' :: 'l' :: rest => some (.null, rest)
    | 't' :: 'r' :: 'u' :: 'e' :: rest => some (.bool true, rest)
    | 'f' :: 'a' :: 'l' :: 's' :: 'e' :: rest => some (.bool false, rest)
    | '"' :: rest =>
      (Text.unescapeUntilQuote rest).map fun (s, rest) => (.string (String.ofList s), rest)
    | '[' :: rest =>
      if depth = 0 then none
      else match skip rest with
        | ']' :: rest => some (.array [], rest)
        | rest =>
          (items? (value? worth depth) rest.length rest).map fun (js, rest) => (.array js, rest)
    | '\x7b' :: rest =>
      if depth = 0 then none
      else match skip rest with
        | '\x7d' :: rest => some (.object [], rest)
        | rest =>
          (members? (value? worth depth) rest.length rest).map fun (ms, rest) => (.object ms, rest)
    | rest => number? worth rest

/-- The document that a whole text stands for, if numbers are worth so much. -/
def readBy? (worth : Numeral) (s : String) : Option Json :=
  match value? worth maxDepth s.toList with
  | some (j, rest) => if (skip rest).isEmpty then some j else none
  | none => none

/-- **The document** that a whole text stands for. -/
def read? (s : String) : Option Json :=
  readBy? numberOf? s

end FlightRecorder.Json
