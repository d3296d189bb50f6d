/-!
# Comma-separated records

Plain traces are records of fields: a comma between two fields, a line feed
after each record. A field that contains a comma, a quote, a line feed or a
carriage return stands between quotes, and a quote inside it is written twice.

* `FlightRecorder.Csv.render` – the text of a list of records;
* `FlightRecorder.Csv.read?` – a reader of such text. It is as lenient as such
  readers are: a record may also end in a carriage return and a line feed, and
  the last one may end with the text.
-/

namespace FlightRecorder.Csv

/-- Whether a field has to stand between quotes. -/
def needsQuotes (field : List Char) : Bool :=
  field.any fun c => c == ',' || c == '"' || c == '\n' || c == '\r'

/-- Write every quote of a field twice. -/
def doubleQuotes (field : List Char) : List Char :=
  field.flatMap fun c => if c = '"' then ['"', '"'] else [c]

/-- The characters of a field. -/
def fieldChars (field : List Char) : List Char :=
  if needsQuotes field then '"' :: doubleQuotes field ++ ['"'] else field

/-- The characters of the fields of a record, with commas between them. -/
def recordChars : List String → List Char
  | [] => []
  | [field] => fieldChars field.toList
  | field :: next :: rest => fieldChars field.toList ++ ',' :: recordChars (next :: rest)

/-- **The text** of a list of records. -/
def render (records : List (List String)) : String :=
  String.ofList (records.flatMap fun r => recordChars r ++ ['\n'])

/-! ### Reading -/

/-- Where the reader of a text is: at the start of a field, inside a field
without quotes, inside quotes, behind a quote that was inside quotes, or behind
a carriage return that was not. -/
inductive Place where
  | start
  | plain
  | quoted
  | closing
  | carriage
  deriving DecidableEq, Repr

/-- The state of the reader: finished records, finished fields of the current
record, characters of the current field – each list in reverse – and its place. -/
structure Reading where
  records : List (List String) := []
  fields : List String := []
  field : List Char := []
  place : Place := .start
  deriving Repr

namespace Reading

/-- End the current field. -/
def endField (r : Reading) : Reading :=
  { r with fields := String.ofList r.field.reverse :: r.fields, field := [], place := .start }

/-- End the current record. -/
def endRecord (r : Reading) : Reading :=
  let r := r.endField
  { r with records := r.fields.reverse :: r.records, fields := [] }

/-- Add a character to the current field. -/
def add (r : Reading) (place : Place) (c : Char) : Reading :=
  { r with field := c :: r.field, place }

/-- Take the next character; `none` where the text breaks the rules. -/
def step (r : Reading) (c : Char) : Option Reading :=
  match r.place, c with
  | .quoted, '"' => some { r with place := .closing }
  | .quoted, c => some (r.add .quoted c)
  | .start, '"' => some { r with place := .quoted }
  | .closing, '"' => some (r.add .quoted '"')
  | .carriage, c => if c = '\n' then some r.endRecord else none
  | _, '\r' => some { r with place := .carriage }
  | _, ',' => some r.endField
  | _, '\n' => some r.endRecord
  | .closing, _ => none
  | .plain, '"' => none
  | _, c => some (r.add .plain c)

/-- What has been read when the text ends. -/
def finish? (r : Reading) : Option (List (List String)) :=
  match r.place with
  | .quoted | .carriage => none
  | .start => if r.fields.isEmpty then some r.records.reverse else some r.endRecord.records.reverse
  | _ => some r.endRecord.records.reverse

end Reading

/-- **The records** that a text stands for. -/
def read? (s : String) : Option (List (List String)) :=
  (s.toList.foldlM Reading.step ({} : Reading)).bind Reading.finish?

end FlightRecorder.Csv
