import FlightRecorder.Catalog
import FlightRecorder.Csv
import FlightRecorder.SiteBuffer.Rendering

/-!
# Traces

A trace is the catalogue joined with the buffers of a moment: every site that is
known or was recorded has one row, in increasing order of sites. A site that was
never recorded has no buffer in its row, and a site that was never registered
has nothing but its kind besides.

* `FlightRecorder.TraceRow`, `FlightRecorder.rowsOf` – the rows;
* `FlightRecorder.plainText` – the trace as comma-separated records, one for each
  row after a header;
* `FlightRecorder.documentText` – the trace as a structured document;
* `FlightRecorder.TraceFormat.render` – one or the other;
* `FlightRecorder.deliver` – handing the text to a receiver that takes only so
  many bytes.
-/

namespace FlightRecorder

/-- The two forms of a trace. -/
inductive TraceFormat where
  /-- Comma-separated records. -/
  | text
  /-- A structured document. -/
  | json
  deriving DecidableEq, Repr, Inhabited

/-- The extension of the files that traces of a format are written to. -/
def TraceFormat.extension : TraceFormat → String
  | .text => "txt"
  | .json => "json"

/-- One site of a trace, with its buffer if it was recorded. -/
structure TraceRow where
  info : SiteInfo
  buffer : Option SiteBuffer
  deriving Repr

/-- Put buffers, in increasing order, on the rows of their sites, which are in
increasing order too. A site that has no row gets one, and a buffer takes the
place of one that is on its row already. -/
def placeAll (rows : List TraceRow) (buffers : List (Nat × SiteBuffer)) : List TraceRow :=
  match rows, buffers with
  | rows, [] => rows
  | [], (site, b) :: buffers => placeAll [⟨.unknown site (.of b.kind), some b⟩] buffers
  | r :: rows, (site, b) :: buffers =>
    if r.info.site < site then r :: placeAll rows ((site, b) :: buffers)
    else if r.info.site = site then placeAll ({ r with buffer := some b } :: rows) buffers
    else placeAll (⟨.unknown site (.of b.kind), some b⟩ :: r :: rows) buffers
termination_by rows.length + 2 * buffers.length

/-- **The rows** of a trace: known sites, in increasing order, and buffers, joined
by site. -/
def rowsOf (known : List SiteInfo) (buffers : List (Nat × SiteBuffer)) : List TraceRow :=
  placeAll (known.map fun i => ⟨i, none⟩) (buffers.mergeSort fun x y => decide (x.1 ≤ y.1))

/-! ### Plain traces -/

/-- The names of the cells that come before those of the buffer. -/
def siteCellNames : List String :=
  ["cname", "mname", "mdesc", "mhash", "line", "inst", "attr", "event", "vtype"]

/-- The cells that come before those of the buffer. -/
def SiteInfo.cells (i : SiteInfo) : List String :=
  [i.className, i.methodName, i.methodDesc, i.methodHash, toString i.line.toInt,
    toString i.instruction.toInt, i.attributesCell, i.eventKind, i.valueKind.name]

/-- The cells of a row. -/
def TraceRow.cells (row : TraceRow) (h : Heap) (c : Heap.Census) (width : Nat) : List String :=
  row.info.cells ++ match row.buffer with
    | some b => b.cells h c width
    | none => SiteBuffer.emptyCells width

/-- The header and the records of a plain trace. -/
def plainRecords (h : Heap) (c : Heap.Census) (width : Nat) (rows : List TraceRow) :
    List (List String) :=
  (siteCellNames ++ SiteBuffer.cellNames width) :: rows.map fun row => row.cells h c width

/-- **The plain text** of a trace. -/
def plainText (h : Heap) (c : Heap.Census) (width : Nat) (rows : List TraceRow) : String :=
  Csv.render (plainRecords h c width rows)

/-! ### Structured traces -/

/-- The tag at the top of a structured trace. -/
def formatTag : String := "latest"

/-- The document of a row. -/
def TraceRow.document (row : TraceRow) (h : Heap) (c : Heap.Census) : Json :=
  let i := row.info
  let columns := match row.buffer with
    | some b => b.columns h c i.skipsValues
    | none => .empty i.skipsValues
  .object
    ([("cname", .string i.className),
      ("mname", .string i.methodName),
      ("mdesc", .string i.methodDesc),
      ("mhash", .string i.methodHash),
      ("line", .int i.line.toInt),
      ("inst", .int i.instruction.toInt),
      ("event", .string i.eventKind),
      ("attr", .object (i.attributes.map fun (key, value) => (key, .string value))),
      ("vtype", .string i.valueKind.name)] ++ columns.members)

/-- The document of a trace. -/
def traceDocument (h : Heap) (c : Heap.Census) (rows : List TraceRow) : Json :=
  .object
    [("format", .string formatTag), ("events", .array (rows.map fun row => row.document h c))]

/-- **The structured text** of a trace. -/
def documentText (h : Heap) (c : Heap.Census) (rows : List TraceRow) : String :=
  (traceDocument h c rows).render

/-- The text of a trace in a format; only plain traces have a width. -/
def TraceFormat.render (f : TraceFormat) (h : Heap) (c : Heap.Census) (width : Nat)
    (rows : List TraceRow) : String :=
  match f with
  | .text => plainText h c width rows
  | .json => documentText h c rows

/-- The failure of a receiver, as the format reports it. -/
def TraceFormat.failure (f : TraceFormat) (detail : String) : Failure :=
  match f with
  | .text => .output detail
  | .json => .document detail

/-- Hand a text to a receiver that takes at most so many bytes, if it has such a
bound, and fails with `detail` beyond them. -/
def deliver (f : TraceFormat) (bound : Option Nat) (detail text : String) :
    Except Failure String :=
  match bound with
  | some n => if n < text.utf8ByteSize then .error (f.failure detail) else .ok text
  | none => .ok text

end FlightRecorder
