import FlightRecorder.Json
import FlightRecorder.Kind

/-!
# The catalogue of sites

What is known of the event sites before anything is recorded at them: where in
the traced program they are, what kind of event happens there, and what kind of
value goes with it.

* `FlightRecorder.SiteInfo` – what is known of one site, with its document and
  the strict reader of that document;
* `FlightRecorder.Catalog` – the known sites in increasing order; a site that is
  registered twice keeps what was registered last;
* `FlightRecorder.Catalog.registerAll` – registering sites, which breaks off at a
  site that no catalogue has a slot for.

That the memory at hand does not suffice for a catalogue that could be is not
modelled: no call returns from that.
-/

namespace FlightRecorder

/-- What is known of one event site. -/
structure SiteInfo where
  site : Nat
  className : String := ""
  methodName : String := ""
  methodDesc : String := ""
  methodHash : String := ""
  line : Int32 := 0
  instruction : Int32 := 0
  /-- Free attributes, in the order they were given; a key may repeat. -/
  attributes : List (String × String) := []
  eventKind : String := ""
  valueKind : SiteKind
  deriving DecidableEq, Repr, Inhabited

namespace SiteInfo

/-- What is shown of a site that was recorded but never registered. -/
def unknown (site : Nat) (kind : SiteKind) : SiteInfo :=
  { site, valueKind := kind }

/-- The attributes in one cell. -/
def attributesCell (i : SiteInfo) : String :=
  ",".intercalate (i.attributes.map fun (key, value) => key ++ "=" ++ value)

/-- Whether structured traces leave out the values of the site: it declares
none. -/
def skipsValues (i : SiteInfo) : Bool :=
  i.valueKind == .void

/-- The document of a site, with every field. -/
def toJson (i : SiteInfo) : Json :=
  .object
    [("site_id", .int i.site),
      ("class_name", .string i.className),
      ("method_name", .string i.methodName),
      ("method_desc", .string i.methodDesc),
      ("method_hash", .string i.methodHash),
      ("line", .int i.line.toInt),
      ("instruction_index", .int i.instruction.toInt),
      ("attributes",
        .array (i.attributes.map fun (key, value) => .array [.string key, .string value])),
      ("event_kind", .string i.eventKind),
      ("value_kind", .string i.valueKind.name)]

end SiteInfo

/-! ### Reading documents strictly -/

namespace Json

/-- A word of 64 bits. -/
def word? : Json → Option Nat
  | .int x => if 0 ≤ x ∧ x < Int.pow 2 64 then some x.toNat else none
  | _ => none

/-- A signed word of 32 bits. -/
def int32? : Json → Option Int32
  | .int x => if -Int.pow 2 31 ≤ x ∧ x < Int.pow 2 31 then some (.ofInt x) else none
  | _ => none

/-- A string. -/
def string? : Json → Option String
  | .string s => some s
  | _ => none

/-- A truth value. -/
def bool? : Json → Option Bool
  | .bool b => some b
  | _ => none

/-- One of the names of an enumeration: a string, or an object with that name as
its only key and nothing under it. -/
def choice? {α : Type} (name : α → String) (all : List α) : Json → Option α
  | .string s => all.find? (name · == s)
  | .object [(s, .null)] => all.find? (name · == s)
  | _ => none

/-- A pair of strings. -/
def stringPair? : Json → Option (String × String)
  | .array [.string key, .string value] => some (key, value)
  | _ => none

/-- A list of pairs of strings. -/
def stringPairs? : Json → Option (List (String × String))
  | .array items => items.mapM stringPair?
  | _ => none

/-- The fields of a record by name, given as the members of an object or, in the
order of `names`, as the items of an array. A field that is missing is absent; a
record with more items than fields is refused. -/
def fields? (names : List String) : Json → Option (String → Option Json)
  | .object members => some fun name => members.reverse.lookup name
  | .array items =>
    if names.length < items.length then none
    else some fun name => (names.zip items).lookup name
  | _ => none

end Json

namespace SiteInfo

/-- The names of the fields, in order. -/
def fieldNames : List String :=
  ["site_id", "class_name", "method_name", "method_desc", "method_hash", "line",
    "instruction_index", "attributes", "event_kind", "value_kind"]

/-- Read the document of a site: every field but the attributes is needed,
unknown ones are ignored. -/
def ofJson? (j : Json) : Option SiteInfo := do
  let field ← j.fields? fieldNames
  let attributes ← match field "attributes" with
    | none => some []
    | some items => items.stringPairs?
  return {
    site := ← (← field "site_id").word?
    className := ← (← field "class_name").string?
    methodName := ← (← field "method_name").string?
    methodDesc := ← (← field "method_desc").string?
    methodHash := ← (← field "method_hash").string?
    line := ← (← field "line").int32?
    instruction := ← (← field "instruction_index").int32?
    attributes
    eventKind := ← (← field "event_kind").string?
    valueKind := ← (← field "value_kind").choice? SiteKind.name SiteKind.all }

end SiteInfo

/-- The known sites, in increasing order. -/
structure Catalog where
  sites : List SiteInfo := []
  deriving DecidableEq, Repr, Inhabited

namespace Catalog

/-- Put a site at its place in an ordered list, replacing the one there. -/
def place (i : SiteInfo) : List SiteInfo → List SiteInfo
  | [] => [i]
  | x :: rest =>
    if x.site < i.site then x :: place i rest
    else if x.site = i.site then i :: rest
    else i :: x :: rest

/-- Register a site. -/
def register (c : Catalog) (i : SiteInfo) : Catalog :=
  ⟨place i c.sites⟩

/-- The bytes that a slot of the catalogue takes: 24 for each of the five texts and
for the attributes, and 24 for the four other fields. -/
def slotBytes : Nat := 168

/-- How many slots a catalogue can have, in a memory of `2 ^ 63 - 1` bytes. -/
def maxSites : Nat := (Nat.pow 2 63 - 1) / slotBytes

/-- What is left of a catalogue when the registration of a site breaks off. It was
to be given a slot for the site, and could not be made so large. Sites are words of
64 bits, and behind the last of them comes zero: for that one the catalogue is made
as small as nothing, and loses its sites. -/
def afterBreak (c : Catalog) (site : Nat) : Catalog :=
  if site + 1 = Nat.pow 2 64 then {} else c

/-- Register several sites, one after the other. Where the registration of one
breaks off, those behind it are not registered. -/
def registerAll (c : Catalog) : List SiteInfo → Catalog
  | [] => c
  | i :: rest =>
    if i.site < maxSites then (c.register i).registerAll rest else c.afterBreak i.site

/-- Whether the registration of several sites breaks off. -/
def breaksOff (is : List SiteInfo) : Bool :=
  is.any fun i => decide (maxSites ≤ i.site)

/-- What is known of a site. -/
def find? (c : Catalog) (site : Nat) : Option SiteInfo :=
  c.sites.find? (·.site == site)

/-- One past the highest known site, or zero. -/
def extent (c : Catalog) : Nat :=
  match c.sites.getLast? with
  | some i => i.site + 1
  | none => 0

end Catalog

end FlightRecorder
