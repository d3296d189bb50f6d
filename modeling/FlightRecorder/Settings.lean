import FlightRecorder.Archive
import FlightRecorder.Catalog
import FlightRecorder.Registry
import FlightRecorder.Trace

/-!
# Settings of a recorder

Everything that can be chosen about a recorder, with the choices made when
nothing is said, the conditions under which settings are accepted, and their
document.

* `FlightRecorder.Settings`, `FlightRecorder.Settings.check` – the settings and
  their acceptance; of several faults, the first in the order of the conditions
  is reported;
* `FlightRecorder.Settings.traceFilePath`, `FlightRecorder.Settings.limits` – what
  follows from them;
* `FlightRecorder.Settings.toJson`, `FlightRecorder.Settings.ofJson?` – the
  document and its strict reader.

Settings are also read from a string of options
(`FlightRecorder.Settings.Options`) and from files and environment variables
(`FlightRecorder.Settings.Layers`).
-/

namespace FlightRecorder

/-- When traces are saved while the recorder is running. -/
inductive PartialSave where
  /-- Only when it is closed. -/
  | no
  /-- Periodically, beginning anew from empty buffers each time. -/
  | writeAndReset
  /-- Periodically, going on with the same buffers. -/
  | writeSnapshot
  deriving DecidableEq, Repr, Inhabited

namespace PartialSave

/-- Whether saving empties the buffers. -/
def resets : PartialSave → Bool
  | .writeAndReset => true
  | _ => false

/-- The written name. -/
def name : PartialSave → String
  | .no => "No"
  | .writeAndReset => "WriteAndReset"
  | .writeSnapshot => "WriteSnapshot"

/-- The word for it in settings. -/
def word : PartialSave → String
  | .no => "no"
  | .writeAndReset => "write_and_reset"
  | .writeSnapshot => "write_snapshot"

/-- All choices. -/
def all : List PartialSave := [.no, .writeAndReset, .writeSnapshot]

end PartialSave

/-- The word for a trace format in settings. -/
def TraceFormat.word : TraceFormat → String
  | .text => "text"
  | .json => "json"

/-- The written name of a trace format. -/
def TraceFormat.name : TraceFormat → String
  | .text => "Text"
  | .json => "Json"

/-- All trace formats. -/
def TraceFormat.all : List TraceFormat := [.text, .json]

/-- The word for a retention policy in settings. -/
def Retention.word : Retention → String
  | .strong => "strong"
  | .weak => "weak"
  | .id => "id"

/-- All retention policies. -/
def Retention.all : List Retention := [.strong, .weak, .id]

/-- The word for a compression in settings. -/
def Compression.word : Compression → String
  | .fast => "fast"
  | .balanced => "balanced"
  | .best => "best"

/-- All compressions. -/
def Compression.all : List Compression := [.fast, .balanced, .best]

/-- The word for a tie-break in settings. -/
def TieBreak.word : TieBreak → String
  | .siteOrder => "site_order"
  | .reverse => "reverse"

/-- All tie-breaks. -/
def TieBreak.all : List TieBreak := [.siteOrder, .reverse]

/-- Everything that can be chosen about a recorder. -/
structure Settings where
  /-- The ceiling to begin with, and the width of plain traces. -/
  bufferSize : Nat := 32
  globalCapacity : Nat := Nat.pow 2 16
  evictionUnit : Nat := 16
  format : TraceFormat := .json
  retention : Retention := .strong
  /-- The path of the final trace. -/
  traceFile : Option String := none
  /-- The directory of the final trace, if its path is not given. -/
  outputDir : Option String := none
  compress : Bool := false
  compressionLevel : Compression := .balanced
  partialSave : PartialSave := .no
  /-- The period of partial saves, in milliseconds. -/
  saveInterval : Nat := 10000
  /-- Whether the final numbers are reported when the recorder is closed. -/
  showBufferSize : Bool := false
  tieBreak : TieBreak := .siteOrder
  deriving DecidableEq, Repr, Inhabited

namespace Settings

/-- The smallest size that a buffer may be given. -/
def minBufferSize : Nat := 4

/-- **Acceptance**: the first condition that the settings do not meet, if any. -/
def check (s : Settings) : Except Failure Unit :=
  if s.bufferSize < minBufferSize then
    .error (.settings (.bufferTooSmall minBufferSize s.bufferSize))
  else if s.evictionUnit = 0 then .error (.settings .evictionUnitZero)
  else if s.globalCapacity = 0 then .error (.settings .globalCapacityZero)
  else if s.partialSave ≠ .no ∧ s.saveInterval = 0 then .error (.settings .saveIntervalZero)
  else .ok ()

/-- The path of the final trace. -/
def traceFilePath (s : Settings) : String :=
  match s.traceFile with
  | some path => path
  | none =>
    let name := "trace." ++ s.format.extension
    match s.outputDir with
    | some dir => Path.join dir name
    | none => name

/-- How artifacts are compressed, if they are. -/
def compression (s : Settings) : Option Compression :=
  if s.compress then some s.compressionLevel else none

/-- The limits of the registry. -/
def limits (s : Settings) : RegistryLimits :=
  { bufferSize := s.bufferSize, globalCapacity := s.globalCapacity
    evictionUnit := s.evictionUnit, retention := s.retention, tieBreak := s.tieBreak }

/-- The names of the settings, in order. -/
def fieldNames : List String :=
  ["buffer_size", "global_capacity", "eviction_unit", "format", "retention", "trace_file",
    "output_dir", "compress", "compression_level", "partial_save", "save_interval_ms",
    "show_buffer_size", "tie_break"]

/-- The document of settings. -/
def toJson (s : Settings) : Json :=
  .object
    [("buffer_size", .int s.bufferSize),
      ("global_capacity", .int s.globalCapacity),
      ("eviction_unit", .int s.evictionUnit),
      ("format", .string s.format.word),
      ("retention", .string s.retention.word),
      ("trace_file", .ofString? s.traceFile),
      ("output_dir", .ofString? s.outputDir),
      ("compress", .bool s.compress),
      ("compression_level", .string s.compressionLevel.word),
      ("partial_save", .string s.partialSave.word),
      ("save_interval_ms", .int s.saveInterval),
      ("show_buffer_size", .bool s.showBufferSize),
      ("tie_break", .string s.tieBreak.word)]

/-- How the values of settings are read in some notation: one reader for each
type of setting. -/
structure FieldReader (ν : Type) where
  word? : ν → Option Nat
  bool? : ν → Option Bool
  string? : ν → Option (Option String)
  choice? : {α : Type} → (α → String) → List α → ν → Option α

/-- Read settings field by field; those that are absent keep their defaults. -/
def ofFields? {ν : Type} (read : FieldReader ν) (field : String → Option ν) :
    Option Settings := do
  let d : Settings := {}
  let get {α : Type} (name : String) (read : ν → Option α) (default : α) : Option α :=
    match field name with
    | none => some default
    | some v => read v
  return {
    bufferSize := ← get "buffer_size" read.word? d.bufferSize
    globalCapacity := ← get "global_capacity" read.word? d.globalCapacity
    evictionUnit := ← get "eviction_unit" read.word? d.evictionUnit
    format := ← get "format" (read.choice? TraceFormat.word TraceFormat.all) d.format
    retention := ← get "retention" (read.choice? Retention.word Retention.all) d.retention
    traceFile := ← get "trace_file" read.string? d.traceFile
    outputDir := ← get "output_dir" read.string? d.outputDir
    compress := ← get "compress" read.bool? d.compress
    compressionLevel :=
      ← get "compression_level" (read.choice? Compression.word Compression.all) d.compressionLevel
    partialSave :=
      ← get "partial_save" (read.choice? PartialSave.word PartialSave.all) d.partialSave
    saveInterval := ← get "save_interval_ms" read.word? d.saveInterval
    showBufferSize := ← get "show_buffer_size" read.bool? d.showBufferSize
    tieBreak := ← get "tie_break" (read.choice? TieBreak.word TieBreak.all) d.tieBreak }

/-- The strict reader of documents: every value has the very type of its
setting, and only a path may be null. -/
def documentReader : FieldReader Json where
  word? := Json.word?
  bool? := Json.bool?
  string?
    | .null => some none
    | .string s => some (some s)
    | _ => none
  choice? := Json.choice?

/-- Read the document of settings. -/
def ofJson? (j : Json) : Option Settings := do
  ofFields? documentReader (← j.fields? fieldNames)

/-- The description of an optional path in diagnostics. -/
def describePath : Option String → String
  | some path => "Some(" ++ Text.quoted path ++ ")"
  | none => "None"

/-- The description of settings in diagnostics. -/
def describe (s : Settings) : String :=
  "TracerConfig \x7b buffer_size: " ++ toString s.bufferSize ++
    ", global_capacity: " ++ toString s.globalCapacity ++
    ", eviction_unit: " ++ toString s.evictionUnit ++
    ", format: " ++ s.format.name ++
    ", retention: " ++ s.retention.name ++
    ", trace_file: " ++ describePath s.traceFile ++
    ", output_dir: " ++ describePath s.outputDir ++
    ", compress: " ++ toString s.compress ++
    ", compression_level: " ++ s.compressionLevel.name ++
    ", partial_save: " ++ s.partialSave.name ++
    ", save_interval_ms: " ++ toString s.saveInterval ++
    ", show_buffer_size: " ++ toString s.showBufferSize ++
    ", tie_break: " ++ s.tieBreak.name ++ " \x7d"

end Settings

end FlightRecorder
