import FlightRecorder.Decimal
import FlightRecorder.Text.Escaped

/-!
# Structured documents

The document type of structured traces and settings, and its one written form:
no blanks, members in the order they are given, repeated keys kept.

* `FlightRecorder.Json` – a document; integers and other numbers are told apart,
  as they are by the text;
* `FlightRecorder.Json.render` – its text.

The reader of such text is in `FlightRecorder.Json.Reader`.
-/

namespace FlightRecorder

/-- A structured document. -/
inductive Json where
  | null
  | bool (b : Bool)
  | int (x : Int)
  | real (d : Decimal)
  | string (s : String)
  | array (items : List Json)
  | object (members : List (String × Json))
  deriving Repr, Inhabited

namespace Json

/-- The characters of a string literal. -/
def quote (s : String) : List Char :=
  '"' :: Text.escapeList s.toList ++ ['"']

mutual

/-- The characters of a document. -/
def chars : Json → List Char
  | .null => "null".toList
  | .bool true => "true".toList
  | .bool false => "false".toList
  | .int x => (toString x).toList
  | .real d => (documentNotation.renderDecimal d).toList
  | .string s => quote s
  | .array items => '[' :: itemChars items ++ [']']
  | .object members => '\x7b' :: memberChars members ++ ['\x7d']

/-- The characters of the items of an array, with commas between them. -/
def itemChars : List Json → List Char
  | [] => []
  | [item] => chars item
  | item :: next :: rest => chars item ++ ',' :: itemChars (next :: rest)

/-- The characters of the members of an object, with commas between them. -/
def memberChars : List (String × Json) → List Char
  | [] => []
  | [(key, item)] => quote key ++ ':' :: chars item
  | (key, item) :: next :: rest =>
    quote key ++ ':' :: (chars item ++ ',' :: memberChars (next :: rest))

end

/-- **The text** of a document. -/
def render (j : Json) : String :=
  String.ofList j.chars

/-- The number whose bits in the wide format are given; what is not a finite
number has no text and becomes null. -/
def ofBits (bits : UInt64) : Json :=
  match binary64.decode bits.toNat with
  | .finite negative m e narrow =>
    .real (Decimal.shortest documentNotation.tie negative m e narrow)
  | _ => .null

/-- A string, or null where there is none. -/
def ofString? : Option String → Json
  | some s => .string s
  | none => .null

/-- The member of an object with the given key; of several, the last. -/
def get? (j : Json) (key : String) : Option Json :=
  match j with
  | .object members => members.reverse.lookup key
  | _ => none

end Json

end FlightRecorder
