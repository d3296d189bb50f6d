import FlightRecorder.Json
import FlightRecorder.SiteBuffer

/-!
# What events are written as

A buffer is written in two forms: as cells of a plain trace, and as columns of a
structured one. Both read the buffer through the same view, so event `i` of one
is event `i` of the other.

* `FlightRecorder.Datum.cellText`, `FlightRecorder.SiteBuffer.cells` – the plain
  form: count and size, then value, sequence number and thread of each event,
  padded with empty cells to a given width;
* `FlightRecorder.Datum.document`, `FlightRecorder.SiteBuffer.columns` – the
  structured form: one array for the values, one for the sequence numbers, one
  for the threads;
* `FlightRecorder.Datum.describe` – the form diagnostics use.
-/

namespace FlightRecorder

/-- What an object reads as once it has been collected. -/
def collectedMark : String := "<GC>"

/-! ### Single values -/

/-- The text of an identity: type and token, then the captured text, escaped so
that it stays on one line. -/
def identityText (typeName token : String) (text : Option String) : String :=
  match text with
  | some text => typeName ++ "@" ++ token ++ ":" ++ Text.escape text
  | none => typeName ++ "@" ++ token

/-- The document of an identity, its members in the order of their keys. -/
def identityDocument (typeName token : String) (text : Option String) : Json :=
  let str := match text with
    | some text => [("str", Json.string text)]
    | none => []
  .object (("id", .string token) :: str ++ [("type", .string typeName)])

/-- The text of a value in a cell of a plain trace. -/
def Datum.cellText (h : Heap) : Datum Resolved → String
  | .boolean b => if b then "true" else "false"
  | .byte x => toString x.toInt
  | .char x => toString x.toNat
  | .short x => toString x.toInt
  | .int x => toString x.toInt
  | .long x => toString x.toInt
  | .float bits => cellNotation.render (binary32.decode bits.toNat)
  | .double bits => cellNotation.render (binary64.decode bits.toNat)
  | .object .null => "null"
  | .object .collected => collectedMark
  | .object (.live r) =>
    let o := h.info r
    identityText o.typeName o.token o.text
  | .objectId id => identityText id.typeName (toString id.id.toNat) id.content

/-- The document of a value in a structured trace. -/
def Datum.document (h : Heap) : Datum Resolved → Json
  | .boolean b => .bool b
  | .byte x => .int x.toInt
  | .char x => .int x.toNat
  | .short x => .int x.toInt
  | .int x => .int x.toInt
  | .long x => .int x.toInt
  | .float bits => .ofBits (widen bits)
  | .double bits => .ofBits bits
  | .object .null => .null
  | .object .collected => .object [("id", .string collectedMark)]
  | .object (.live r) =>
    let o := h.info r
    identityDocument o.typeName o.token o.text
  | .objectId id => identityDocument id.typeName (toString id.id.toNat) id.content

/-- The description of a value in diagnostics. -/
def Datum.describe (h : Heap) (v : Value) : String :=
  let content := match v with
    | .boolean b => if b then "true" else "false"
    | .byte x => toString x.toInt
    | .char x => toString x.toNat
    | .short x => toString x.toInt
    | .int x => toString x.toInt
    | .long x => toString x.toInt
    | .float bits => cellNotation.render (binary32.decode bits.toNat)
    | .double bits => cellNotation.render (binary64.decode bits.toNat)
    | .object none => "null"
    | .object (some r) => (h.info r).typeName ++ "@" ++ (h.info r).token
    | .objectId id =>
      let text := match id.content with
        | some text => "Some(" ++ Text.quoted text ++ ")"
        | none => "None"
      "ObjectId \x7b id: " ++ toString id.id.toNat ++ ", type_name: " ++ Text.quoted id.typeName ++
        ", content: " ++ text ++ " \x7d"
  v.kind.name ++ "(" ++ content ++ ")"

/-! ### Buffers -/

namespace SiteBuffer

/-- The three cells of an event. -/
def eventCells (h : Heap) (c : Heap.Census) (e : Event) : List String :=
  [(e.cell.read c).cellText h, toString e.seq.toNat, toString e.thread.toNat]

/-- The three cells of a place without an event. -/
def noEventCells : List String := ["", "", ""]

/-- The names of the cells of a buffer with room for `width` events. -/
def cellNames (width : Nat) : List String :=
  "freq" :: "record" :: (List.range width).flatMap fun i =>
    [s!"value{i + 1}", s!"seqnum{i + 1}", s!"thread{i + 1}"]

/-- The cells of a site without a buffer. -/
def emptyCells (width : Nat) : List String :=
  List.replicate (2 + 3 * width) ""

/-- **The plain form** of a buffer: its count, its size and its events, padded to
`width` events with empty cells. -/
def cells (b : SiteBuffer) (h : Heap) (c : Heap.Census) (width : Nat) : List String :=
  toString b.count :: toString b.size :: (b.events.flatMap (eventCells h c) ++
    (List.replicate (width - b.size) noEventCells).flatten)

end SiteBuffer

/-- The columns of a site in a structured trace. -/
structure Columns where
  count : Nat
  size : Nat
  /-- A site that declares no values has no such column. -/
  values : Option (List Json)
  seqs : List UInt64
  threads : List UInt32
  deriving Repr

namespace Columns

/-- The columns of a site that has not recorded anything. -/
def empty (skipValues : Bool) : Columns :=
  { count := 0, size := 0, values := if skipValues then none else some []
    seqs := [], threads := [] }

/-- The members that columns contribute to the object of their site. -/
def members (c : Columns) : List (String × Json) :=
  let values := match c.values with
    | some values => [("value", Json.array values)]
    | none => []
  ("freq", .int c.count) :: ("record", .int c.size) :: values ++
    [("seqnum", .array (c.seqs.map fun s => .int s.toNat)),
      ("thread", .array (c.threads.map fun t => .int t.toNat))]

end Columns

/-- **The structured form** of a buffer. -/
def SiteBuffer.columns (b : SiteBuffer) (h : Heap) (c : Heap.Census) (skipValues : Bool) :
    Columns :=
  { count := b.count
    size := b.size
    values := if skipValues then none
      else some (b.events.map fun e => (e.cell.read c).document h)
    seqs := b.events.map (·.seq)
    threads := b.events.map (·.thread) }

/-- The description of a buffer in diagnostics. -/
def SiteBuffer.describe (b : SiteBuffer) : String :=
  "SiteBuffer \x7b kind: " ++ b.kind.name ++ s!", size: {b.size}, count: {b.count}, " ++
    s!"capacity: {b.capacity}, buffer_size: {b.limit}" ++ " \x7d"

end FlightRecorder
