import FlightRecorder.Toml.Moment

/-!
# Reading settings documents

A document is a list of lines: an assignment, a header, the header of an item of
an array, a comment, or nothing.

* `FlightRecorder.Toml.value?` – a value, nested less than
  `FlightRecorder.Toml.maxDepth` deep;
* `FlightRecorder.Toml.read?` – the document that a text stands for, if it stands
  for one.
-/

namespace FlightRecorder.Toml

/-- How deep arrays and inline tables may be nested, and how many parts a dotted
name may have, plus one. -/
def maxDepth : Nat := 80

/-! ### Names -/

/-- The characters of names without quotes. -/
def isBare (c : Char) : Bool :=
  c.isAlphanum || c == '-' || c == '_'

/-- One part of a name. -/
def part? : List Char → Option (List Char × List Char)
  | '"' :: rest => quoted? (rest.length + 1) rest
  | '\x27' :: rest => literal? rest
  | cs =>
    let name := cs.takeWhile isBare
    if name.isEmpty then none else some (name, cs.dropWhile isBare)

/-- A name of less than so many parts, with points between them and blanks around
each. -/
def name? : Nat → List Char → Option (List String × List Char)
  | 0, _ => none
  | parts + 1, cs => do
    if parts = 0 then none
    let (part, rest) ← part? (skipSpace cs)
    match skipSpace rest with
    | '.' :: rest =>
      let (others, rest) ← name? parts rest
      return (String.ofList part :: others, rest)
    | rest => return ([String.ofList part], rest)

/-! ### Values -/

/-- What is left after blanks, line ends and comments. -/
def skipFiller (comment : Bool) : List Char → List Char
  | [] => []
  | '\r' :: '\n' :: rest => skipFiller false rest
  | c :: rest =>
    if c = '\n' then skipFiller false rest
    else if comment then if isInline c then skipFiller true rest else c :: rest
    else if c = ' ' ∨ c = '\t' then skipFiller false rest
    else if c = '#' then skipFiller true rest
    else c :: rest

/-- The items of an array up to its end, at most so many of them. -/
def items? (value : List Char → Option (Toml × List Char)) :
    Nat → List Char → Option (List Toml × List Char)
  | 0, _ => none
  | fuel + 1, cs =>
    match skipFiller false cs with
    | ']' :: rest => some ([], rest)
    | cs => do
      let (v, rest) ← value cs
      match skipFiller false rest with
      | ']' :: rest => return ([v], rest)
      | ',' :: rest =>
        let (vs, rest) ← items? value fuel rest
        return (v :: vs, rest)
      | _ => none

/-- An assignment: a name, an equals sign, a value. -/
def assignment? (value : List Char → Option (Toml × List Char)) (cs : List Char) :
    Option ((List String × Toml) × List Char) := do
  let (name, rest) ← name? maxDepth cs
  let (v, rest) ← value (skipSpace (← mark? '=' rest))
  return ((name, v), rest)

/-- The assignments of an inline table up to its end, at least one and at most so
many of them. -/
def assignments? (value : List Char → Option (Toml × List Char)) :
    Nat → Members → List Char → Option (Members × List Char)
  | 0, _, _ => none
  | fuel + 1, ms, cs => do
    let ((name, v), rest) ← assignment? value cs
    let ms ← ms.assign? name v
    match skipSpace rest with
    | '\x7d' :: rest => return (ms, rest)
    | ',' :: rest => assignments? value fuel ms rest
    | _ => none

/-- **A value**, nested less than `depth` deep. -/
def value? : Nat → List Char → Option (Toml × List Char)
  | 0, _ => none
  | depth + 1, cs =>
    match cs with
    | '[' :: rest =>
      if depth = 0 then none
      else (items? (value? depth) (rest.length + 1) rest).map fun (vs, rest) => (.array vs, rest)
    | '\x7b' :: rest =>
      if depth = 0 then none
      else match skipSpace rest with
        | '\x7d' :: rest => some (.table [], rest)
        | rest =>
          (assignments? (value? depth) rest.length [] rest).map fun (ms, rest) =>
            (.table (finishMembers ms), rest)
    | 't' :: 'r' :: 'u' :: 'e' :: rest => some (.boolean true, rest)
    | 'f' :: 'a' :: 'l' :: 's' :: 'e' :: rest => some (.boolean false, rest)
    | cs =>
      match string? cs with
      | some (s, rest) => some (.string (String.ofList s), rest)
      | none => (moment? cs).or (number? cs)

/-! ### Lines -/

/-- What is left after the end of a line, before which there may be blanks and a
comment. -/
def lineEnd? (cs : List Char) : Option (List Char) :=
  let rest := match skipSpace cs with
    | '#' :: rest => rest.dropWhile isInline
    | rest => rest
  match rest with
  | [] => some []
  | '\n' :: rest => some rest
  | '\r' :: '\n' :: rest => some rest
  | _ => none

/-- The header of a table or of an item of an array. -/
def header? (d : Draft) : List Char → Option (Draft × List Char)
  | '[' :: rest => do
    let (path, rest) ← name? maxDepth rest
    return (← d.openItem? path, ← mark? ']' (← mark? ']' rest))
  | rest => do
    let (path, rest) ← name? maxDepth rest
    return (← d.open? path, ← mark? ']' rest)

/-- One line. -/
def line? (d : Draft) (cs : List Char) : Option (Draft × List Char) :=
  match skipSpace cs with
  | [] => some (d, [])
  | '\n' :: _ | '\r' :: _ | '#' :: _ => (lineEnd? cs).map (d, ·)
  | '[' :: rest => do
    let (d, rest) ← header? d rest
    return (d, ← lineEnd? rest)
  | cs => do
    let ((name, v), rest) ← assignment? (value? maxDepth) cs
    return (← d.assign? name v, ← lineEnd? rest)

/-- At most so many lines. -/
def lines? : Nat → Draft → List Char → Option Draft
  | _, d, [] => some d
  | 0, _, _ :: _ => none
  | fuel + 1, d, c :: cs => do
    let (d, rest) ← line? d (c :: cs)
    lines? fuel d rest

/-- A text without the mark of its byte order. -/
def dropByteOrderMark : List Char → List Char
  | '\ufeff' :: rest => rest
  | cs => cs

/-- **The document** that a whole text stands for. It is a table, or a moment in
the disguise of one. -/
def read? (text : String) : Option Toml := do
  let d ← lines? text.length {} (dropByteOrderMark text.toList)
  unmask? (.table (finishMembers d.root))

end FlightRecorder.Toml
