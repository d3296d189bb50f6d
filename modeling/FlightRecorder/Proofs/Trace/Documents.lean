import FlightRecorder.Proofs.Json
import FlightRecorder.Trace

/-!
# Structured traces decode to their rows

A structured trace is meant for other programs to read. The decoder of this file is such a
program: it knows the keys and their order, and nothing of buffers. It gets back every row
of a trace, as far as the row is shown at all. Floating-point numbers are left out, since
their text is only the shortest of those that round to them.

* `FlightRecorder.Shown` – what there is to see of a value, which determines it if its kind
  is known (`FlightRecorder.Datum.eq_or_live_of_shown_eq`);
* `FlightRecorder.ShownRow` – what there is to see of a row, in columns that belong
  together (`FlightRecorder.TraceRow.aligned_shown`);
* `FlightRecorder.Json.trace?` – the decoder, which takes members in order, knows every key
  and allows no others;
* `FlightRecorder.readable_traceDocument` – a trace is nested six deep and has no numbers but
  words, so that it can be read;
* `FlightRecorder.trace?_traceDocument` – the decoder on the document of a trace;
* `FlightRecorder.structured_trace_of_rows` – **both together**, from the text on.
-/

namespace FlightRecorder

/-! ### What there is to see -/

/-- A value as a structured trace shows it. -/
inductive Shown where
  | null
  /-- An object that has been collected. -/
  | collected
  | boolean (b : Bool)
  | integer (x : Int)
  /-- A floating-point number, as a number of the wide format. -/
  | real (bits : UInt64)
  /-- An object, or an interned identity: its type, its token and, if captured, its text. -/
  | identity (typeName token : String) (text : Option String)
  deriving DecidableEq

/-- What there is to see of a value. -/
def Datum.shown (h : Heap) : Datum Resolved → Shown
  | .boolean b => .boolean b
  | .byte x => .integer x.toInt
  | .char x => .integer x.toNat
  | .short x => .integer x.toInt
  | .int x => .integer x.toInt
  | .long x => .integer x.toInt
  | .float bits => .real (widen bits)
  | .double bits => .real bits
  | .object .null => .null
  | .object .collected => .collected
  | .object (.live r) => .identity (h.info r).typeName (h.info r).token (h.info r).text
  | .objectId id => .identity id.typeName (toString id.id.toNat) id.content

/-- The kinds of floating-point numbers. -/
def Kind.isReal : Kind → Bool
  | .float | .double => true
  | _ => false

/-- **What there is to see determines the value**: nothing else of its kind looks the same.
Only of living objects there may be several of one type, with one token and one text. -/
theorem Datum.eq_or_live_of_shown_eq {h : Heap} {d d' : Datum Resolved} (hkind : d.kind = d'.kind)
    (hreal : d.kind.isReal = false) (hshown : d.shown h = d'.shown h) :
    d = d' ∨ ∃ r r', d = .object (.live r) ∧ d' = .object (.live r') := by
  -- of data of two kinds nothing is left to show
  cases d <;> cases d' <;> try (cases hkind; done)
  case boolean.boolean => exact Or.inl (congrArg _ (Shown.boolean.inj hshown))
  case byte.byte => exact Or.inl (congrArg _ (Int8.toInt_inj.mp (Shown.integer.inj hshown)))
  case char.char =>
    exact Or.inl (congrArg _
      (UInt16.toNat_inj.mp (Int.ofNat_inj.mp (Shown.integer.inj hshown))))
  case short.short => exact Or.inl (congrArg _ (Int16.toInt_inj.mp (Shown.integer.inj hshown)))
  case int.int => exact Or.inl (congrArg _ (Int32.toInt_inj.mp (Shown.integer.inj hshown)))
  case long.long => exact Or.inl (congrArg _ (Int64.toInt_inj.mp (Shown.integer.inj hshown)))
  case float.float => exact absurd hreal.symm Bool.false_ne_true
  case double.double => exact absurd hreal.symm Bool.false_ne_true
  case object.object o o' =>
    cases o <;> cases o' <;> try (cases hshown; done)
    case null.null => exact Or.inl rfl
    case collected.collected => exact Or.inl rfl
    case live.live r r' => exact Or.inr ⟨r, r', rfl, rfl⟩
  case objectId.objectId id id' =>
    obtain ⟨n, typeName, content⟩ := id
    obtain ⟨n', typeName', content'⟩ := id'
    obtain ⟨htype, htoken, htext⟩ := Shown.identity.inj hshown
    have hn : n = n' := UInt64.toNat_inj.mp (Text.toString_injective htoken)
    obtain rfl : typeName = typeName' := htype
    obtain rfl : content = content' := htext
    rw [hn]
    exact Or.inl rfl

/-- A row as a structured trace shows it. -/
structure ShownRow where
  className : String
  methodName : String
  methodDesc : String
  methodHash : String
  line : Int32
  instruction : Int32
  eventKind : String
  attributes : List (String × String)
  valueKind : SiteKind
  count : Nat
  size : Nat
  /-- A site that declares no values has no such column. -/
  values : Option (List Shown)
  seqs : List Nat
  threads : List Nat
  deriving DecidableEq

/-- The columns belong together: there is one entry for each event, and the column of
values is missing exactly where the site declares none. -/
structure ShownRow.Aligned (row : ShownRow) : Prop where
  seqs : row.seqs.length = row.size
  threads : row.threads.length = row.size
  values : ∀ values ∈ row.values, values.length = row.size
  void : row.values = none ↔ row.valueKind = .void

namespace TraceRow

/-- The events on a row; a site without a buffer has none, and has been offered none. -/
def events (row : TraceRow) : List Event := row.buffer.elim [] (·.events)

/-- The count on a row. -/
def count (row : TraceRow) : Nat := row.buffer.elim 0 (·.count)

/-- The size on a row. -/
def size (row : TraceRow) : Nat := row.buffer.elim 0 (·.size)

theorem length_events (row : TraceRow) : row.events.length = row.size := by
  obtain ⟨i, buffer⟩ := row
  cases buffer with
  | none => rfl
  | some b => exact Ring.length_toList b.ring

/-- What there is to see of a row. -/
def shown (row : TraceRow) (h : Heap) (c : Heap.Census) : ShownRow :=
  { className := row.info.className
    methodName := row.info.methodName
    methodDesc := row.info.methodDesc
    methodHash := row.info.methodHash
    line := row.info.line
    instruction := row.info.instruction
    eventKind := row.info.eventKind
    attributes := row.info.attributes
    valueKind := row.info.valueKind
    count := row.count
    size := row.size
    values := if row.info.valueKind = .void then none
      else some (row.events.map fun e => (e.cell.read c).shown h)
    seqs := row.events.map (·.seq.toNat)
    threads := row.events.map (·.thread.toNat) }

theorem aligned_shown (row : TraceRow) (h : Heap) (c : Heap.Census) : (row.shown h c).Aligned where
  seqs := (List.length_map _).trans row.length_events
  threads := (List.length_map _).trans row.length_events
  values := by
    intro values hvalues
    simp only [shown] at hvalues
    split_ifs at hvalues with hvoid
    · cases hvalues
    · rw [← Option.some.inj hvalues]
      exact (List.length_map _).trans row.length_events
  void := by simp [shown]

/-- A row that can be read back exactly: its numbers are words, as those of a recorder
always are, and none of its values is a floating-point number. -/
structure Exact (row : TraceRow) : Prop where
  count_lt : row.count < Nat.pow 2 64
  size_lt : row.size < Nat.pow 2 64
  kind : ∀ e ∈ row.events, e.cell.kind.isReal = false

/-- The members of a row that come before its columns. -/
def siteMembers (row : TraceRow) : List (String × Json) :=
  [("cname", .string row.info.className),
    ("mname", .string row.info.methodName),
    ("mdesc", .string row.info.methodDesc),
    ("mhash", .string row.info.methodHash),
    ("line", .int row.info.line.toInt),
    ("inst", .int row.info.instruction.toInt),
    ("event", .string row.info.eventKind),
    ("attr", .object (row.info.attributes.map fun (key, value) => (key, .string value))),
    ("vtype", .string row.info.valueKind.name)]

/-- The column of values of a row, if it has one. -/
def valueMembers (row : TraceRow) (h : Heap) (c : Heap.Census) : List (String × Json) :=
  if row.info.valueKind = .void then []
  else [("value", .array (row.events.map fun e => (e.cell.read c).document h))]

/-- The members of a row, whether it has a buffer or not. -/
theorem document_eq (row : TraceRow) (h : Heap) (c : Heap.Census) :
    row.document h c = .object (row.siteMembers ++ ("freq", .int row.count) ::
      ("record", .int row.size) :: (row.valueMembers h c ++
        [("seqnum", .array (row.events.map fun e => .int e.seq.toNat)),
          ("thread", .array (row.events.map fun e => .int e.thread.toNat))])) := by
  obtain ⟨i, buffer⟩ := row
  have hskips : i.skipsValues = decide (i.valueKind = .void) := rfl
  by_cases hvoid : i.valueKind = .void
  · cases buffer <;>
      simp [document, hskips, hvoid, SiteBuffer.columns, Columns.empty, Columns.members,
        siteMembers, valueMembers, events, count, size]
  · cases buffer <;>
      simp [document, hskips, hvoid, SiteBuffer.columns, Columns.empty, Columns.members,
        siteMembers, valueMembers, events, count, size]

end TraceRow

/-! ### The decoder -/

namespace Json

variable {α β : Type}

/-- Decoding the members of an object, one after the other. -/
abbrev Decoder := StateT (List (String × Json)) Option

/-- Take the next member, which must have the given key. -/
def take (key : String) (decode : Json → Option α) : Decoder α := fun
  | [] => none
  | (k, j) :: rest => if k = key then (decode j).map (·, rest) else none

/-- Take the next member if it has the given key. -/
def takeIf (key : String) (decode : Json → Option α) : Decoder (Option α) := fun
  | [] => some (none, [])
  | (k, j) :: rest =>
    if k = key then (decode j).map fun a => (some a, rest) else some (none, (k, j) :: rest)

/-- Decode an object of which no member is left. -/
def object? (decoder : Decoder α) : Json → Option α
  | .object members =>
    match decoder.run members with
    | some (a, []) => some a
    | _ => none
  | _ => none

/-- Decode the items of an array. -/
def array? (decode : Json → Option α) : Json → Option (List α)
  | .array items => items.mapM decode
  | _ => none

/-- The members of an object, all of them strings. -/
def strings? : Json → Option (List (String × String))
  | .object members => members.mapM fun (key, j) => j.string?.map (key, ·)
  | _ => none

/-- A declared kind, by its name. -/
def siteKind? (j : Json) : Option SiteKind :=
  j.string?.bind SiteKind.ofName?

/-- A value that is an object. One that has been collected has nothing but an identity. -/
def identity : Decoder Shown := do
  let token ← take "id" string?
  let text ← takeIf "str" string?
  let typeName ← takeIf "type" string?
  match typeName, text with
  | some typeName, text => return .identity typeName token text
  | none, none => if token = collectedMark then return .collected else failure
  | none, some _ => failure

/-- A value. -/
def shown? : Json → Option Shown
  | .null => some .null
  | .bool b => some (.boolean b)
  | .int x => some (.integer x)
  | j => object? identity j

/-- A row. -/
def shownRow : Decoder ShownRow := do
  let className ← take "cname" string?
  let methodName ← take "mname" string?
  let methodDesc ← take "mdesc" string?
  let methodHash ← take "mhash" string?
  let line ← take "line" int32?
  let instruction ← take "inst" int32?
  let eventKind ← take "event" string?
  let attributes ← take "attr" strings?
  let valueKind ← take "vtype" siteKind?
  let count ← take "freq" word?
  let size ← take "record" word?
  let values ← takeIf "value" (array? shown?)
  let seqs ← take "seqnum" (array? word?)
  let threads ← take "thread" (array? word?)
  return { className, methodName, methodDesc, methodHash, line, instruction, eventKind,
           attributes, valueKind, count, size, values, seqs, threads }

/-- The tag of a trace, and its rows. -/
def tagAndRows : Decoder (String × List ShownRow) := do
  let tag ← take "format" string?
  let rows ← take "events" (array? (object? shownRow))
  return (tag, rows)

/-- **The decoder** of traces. -/
def trace? (j : Json) : Option (String × List ShownRow) :=
  object? tagAndRows j

section Steps

variable {key k : String} {decode : Json → Option α} {j : Json} {a : α}

theorem run_take (h : decode j = some a) (f : α → Decoder β) (rest : List (String × Json)) :
    (take key decode >>= f).run ((key, j) :: rest) = (f a).run rest := by
  have htake : (take key decode).run ((key, j) :: rest) = some (a, rest) := by
    rw [StateT.run, take, if_pos rfl, h, Option.map_some]
  rw [StateT.run_bind, htake]
  rfl

theorem run_takeIf (h : decode j = some a) (f : Option α → Decoder β)
    (rest : List (String × Json)) :
    (takeIf key decode >>= f).run ((key, j) :: rest) = (f (some a)).run rest := by
  have htake : (takeIf key decode).run ((key, j) :: rest) = some (some a, rest) := by
    rw [StateT.run, takeIf, if_pos rfl, h, Option.map_some]
  rw [StateT.run_bind, htake]
  rfl

theorem run_takeIf_of_ne (hne : k ≠ key) (f : Option α → Decoder β)
    (rest : List (String × Json)) :
    (takeIf key decode >>= f).run ((k, j) :: rest) = (f none).run ((k, j) :: rest) := by
  have htake : (takeIf key decode).run ((k, j) :: rest) = some (none, (k, j) :: rest) := by
    rw [StateT.run, takeIf, if_neg hne]
  rw [StateT.run_bind, htake]
  rfl

end Steps

/-- Items that are decoded one by one are decoded together. -/
theorem mapM_map_eq_some {f : α → β} {γ : Type} {g : β → Option γ} {w : α → γ} {l : List α}
    (h : ∀ a ∈ l, g (f a) = some (w a)) : (l.map f).mapM g = some (l.map w) := by
  induction l with
  | nil => rfl
  | cons a l ih =>
    have htail := ih fun a ha => h a (List.mem_cons_of_mem _ ha)
    rw [List.map_cons, List.mapM_cons, h a List.mem_cons_self, htail]
    rfl

end Json

/-! ### What is written is a document -/

section Readable

variable {h : Heap} {c : Heap.Census} {depth : Nat} {sort : Json → Prop}
  (hsort : ∀ j, Json.IsWord j → sort j)

open Json (Readable)

include hsort

theorem readable_word {n : Nat} (hn : n < Nat.pow 2 64) :
    Readable sort (depth + 1) (.int n) := by
  have hpow63 : Int.pow 2 63 = 9223372036854775808 := rfl
  have hpow64 : Int.pow 2 64 = 18446744073709551616 := rfl
  have hword : Nat.pow 2 64 = 18446744073709551616 := rfl
  exact .number (hsort _ ⟨by omega, by omega⟩)

theorem readable_int64 {x : Int} (hlow : -Int.pow 2 63 ≤ x) (hhigh : x < Int.pow 2 63) :
    Readable sort (depth + 1) (.int x) := by
  have hpow63 : Int.pow 2 63 = 9223372036854775808 := rfl
  have hpow64 : Int.pow 2 64 = 18446744073709551616 := rfl
  exact .number (hsort _ ⟨hlow, by omega⟩)

theorem readable_int32 (x : Int32) : Readable sort (depth + 1) (.int x.toInt) := by
  have hpow63 : Int.pow 2 63 = 9223372036854775808 := rfl
  have hlow := x.le_toInt
  have hhigh := x.toInt_lt
  exact readable_int64 hsort (by omega) (by omega)

omit hsort in
theorem readable_identityDocument (typeName token : String) (text : Option String) :
    Readable sort (depth + 2) (identityDocument typeName token text) := by
  refine .object ?_
  cases text <;> simp [Readable.string]

/-- Values, if floating-point numbers are readable. -/
theorem readable_datum {d : Datum Resolved}
    (hreal : d.kind.isReal = true → Readable sort (depth + 2) (d.document h)) :
    Readable sort (depth + 2) (d.document h) := by
  have hpow63 : Int.pow 2 63 = 9223372036854775808 := rfl
  have hword : Nat.pow 2 64 = 18446744073709551616 := rfl
  cases d with
  | boolean b => exact .bool b
  | byte x =>
    exact readable_int64 hsort (by have := x.le_toInt; omega) (by have := x.toInt_lt; omega)
  | char x => exact readable_word hsort (by have := x.toNat_lt; omega)
  | short x =>
    exact readable_int64 hsort (by have := x.le_toInt; omega) (by have := x.toInt_lt; omega)
  | int x =>
    exact readable_int64 hsort (by have := x.le_toInt; omega) (by have := x.toInt_lt; omega)
  | long x => exact readable_int64 hsort x.le_toInt x.toInt_lt
  | float bits => exact hreal rfl
  | double bits => exact hreal rfl
  | object o =>
    cases o with
    | null => exact .null
    | collected => exact .object (by simp [Readable.string])
    | live r => exact readable_identityDocument _ _ _
  | objectId id => exact readable_identityDocument _ _ _

theorem readable_siteMembers (row : TraceRow) :
    ∀ member ∈ row.siteMembers, Readable sort (depth + 3) member.2 := by
  have hattributes : Readable sort (depth + 3)
      (.object (row.info.attributes.map fun (key, value) => (key, .string value))) := by
    refine .object fun member hmember => ?_
    obtain ⟨pair, -, rfl⟩ := List.mem_map.mp hmember
    exact .string pair.2
  simp [TraceRow.siteMembers, Readable.string, hattributes, readable_int32 hsort]

/-- **A row is one document**, if what may be no word in it is readable: its count and its
size, and floating-point numbers. -/
theorem readable_row {row : TraceRow} (hcount : Readable sort (depth + 3) (.int row.count))
    (hsize : Readable sort (depth + 3) (.int row.size))
    (hreal : ∀ e ∈ row.events, e.cell.kind.isReal = true →
      Readable sort (depth + 2) ((e.cell.read c).document h)) :
    Readable sort (depth + 4) (row.document h c) := by
  have hvalues : ∀ member ∈ row.valueMembers h c, Readable sort (depth + 3) member.2 := by
    rw [TraceRow.valueMembers]
    split_ifs
    · exact List.forall_mem_nil _
    · refine List.forall_mem_singleton.mpr (.array fun j hj => ?_)
      obtain ⟨e, he, rfl⟩ := List.mem_map.mp hj
      exact readable_datum hsort fun hkind => hreal e he ((Datum.kind_map _ _) ▸ hkind)
  have hseqs : Readable sort (depth + 3) (.array (row.events.map fun e => .int e.seq.toNat)) := by
    refine .array fun j hj => ?_
    obtain ⟨e, -, rfl⟩ := List.mem_map.mp hj
    exact readable_word hsort e.seq.toNat_lt
  have hthreads :
      Readable sort (depth + 3) (.array (row.events.map fun e => .int e.thread.toNat)) := by
    refine .array fun j hj => ?_
    obtain ⟨e, -, rfl⟩ := List.mem_map.mp hj
    exact readable_word hsort (Nat.lt_trans e.thread.toNat_lt (by decide))
  rw [row.document_eq]
  refine .object (List.forall_mem_append.mpr ⟨readable_siteMembers hsort row, ?_⟩)
  refine List.forall_mem_cons.mpr ⟨hcount, ?_⟩
  refine List.forall_mem_cons.mpr ⟨hsize, ?_⟩
  refine List.forall_mem_append.mpr ⟨hvalues, ?_⟩
  exact List.forall_mem_cons.mpr ⟨hseqs, List.forall_mem_singleton.mpr hthreads⟩

omit hsort in
/-- **A trace is one document**, if its rows are. -/
theorem readable_traceDocument {rows : List TraceRow}
    (hrows : ∀ row ∈ rows, Readable sort (depth + 4) (row.document h c)) :
    Readable sort (depth + 6) (traceDocument h c rows) := by
  have hevents : Readable sort (depth + 5) (.array (rows.map fun row => row.document h c)) := by
    refine .array fun j hj => ?_
    obtain ⟨row, hrow, rfl⟩ := List.mem_map.mp hj
    exact hrows row hrow
  exact .object
    (List.forall_mem_cons.mpr ⟨.string formatTag, List.forall_mem_singleton.mpr hevents⟩)

omit hsort in
/-- A row that can be read back exactly has no numbers but words. -/
theorem TraceRow.Exact.readable {row : TraceRow} (hrow : row.Exact) :
    Readable Json.IsWord (depth + 4) (row.document h c) := by
  refine readable_row (fun _ => id) (readable_word (fun _ => id) hrow.count_lt)
    (readable_word (fun _ => id) hrow.size_lt) fun e he hkind => ?_
  rw [hrow.kind e he] at hkind
  cases hkind

end Readable

/-! ### The decoder gets it back -/

section Decoding

variable {h : Heap} {c : Heap.Census}

open Json

theorem string?_string (s : String) : string? (.string s) = some s := rfl

theorem int32?_toInt (x : Int32) : int32? (.int x.toInt) = some x := by
  have hpow31 : Int.pow 2 31 = 2147483648 := rfl
  have hlow := x.le_toInt
  have hhigh := x.toInt_lt
  rw [int32?, if_pos (by omega), Int32.ofInt_toInt]

theorem word?_natCast {n : Nat} (hn : n < Nat.pow 2 64) : word? (.int n) = some n := by
  have hpow64 : Int.pow 2 64 = 18446744073709551616 := rfl
  have hword : Nat.pow 2 64 = 18446744073709551616 := rfl
  rw [word?, if_pos (by omega), Int.toNat_natCast]

theorem strings?_map (pairs : List (String × String)) :
    strings? (.object (pairs.map fun (key, value) => (key, .string value))) = some pairs := by
  have hmap := mapM_map_eq_some (f := fun (pair : String × String) => (pair.1, Json.string pair.2))
    (g := fun (key, j) => j.string?.map (key, ·)) (w := id) (l := pairs) fun pair _ => rfl
  rw [List.map_id] at hmap
  exact hmap

theorem siteKind?_name (k : SiteKind) : siteKind? (.string k.name) = some k := by
  cases k with
  | void => rfl
  | of k => cases k <;> rfl

theorem shown?_identityDocument (typeName token : String) (text : Option String) :
    shown? (identityDocument typeName token text) = some (.identity typeName token text) := by
  cases text <;> rfl

/-- **Each value** is decoded to what there is to see of it. -/
theorem shown?_document {d : Datum Resolved} (hreal : d.kind.isReal = false) :
    shown? (d.document h) = some (d.shown h) := by
  cases d with
  | float bits => exact absurd hreal.symm Bool.false_ne_true
  | double bits => exact absurd hreal.symm Bool.false_ne_true
  | object o =>
    cases o with
    | null => rfl
    | collected => rfl
    | live r => exact shown?_identityDocument _ _ _
  | objectId id => exact shown?_identityDocument _ _ _
  | _ => rfl

/-- **Each row** is decoded to what there is to see of it. -/
theorem shownRow_document {row : TraceRow} (hrow : row.Exact) :
    object? shownRow (row.document h c) = some (row.shown h c) := by
  have hcount : word? (.int row.count) = some row.count := word?_natCast hrow.count_lt
  have hsize : word? (.int row.size) = some row.size := word?_natCast hrow.size_lt
  have hvalues : array? shown? (.array (row.events.map fun e => (e.cell.read c).document h)) =
      some (row.events.map fun e => (e.cell.read c).shown h) :=
    mapM_map_eq_some fun e he => shown?_document ((Datum.kind_map _ _).symm ▸ hrow.kind e he)
  have hseqs : array? word? (.array (row.events.map fun e => .int e.seq.toNat)) =
      some (row.events.map (·.seq.toNat)) :=
    mapM_map_eq_some fun e _ => word?_natCast e.seq.toNat_lt
  have hthreads : array? word? (.array (row.events.map fun e => .int e.thread.toNat)) =
      some (row.events.map (·.thread.toNat)) :=
    mapM_map_eq_some fun e _ => word?_natCast (Nat.lt_trans e.thread.toNat_lt (by decide))
  rw [row.document_eq, TraceRow.siteMembers, TraceRow.valueMembers, TraceRow.shown, object?,
    shownRow]
  simp only [List.cons_append, List.nil_append]
  rw [run_take (string?_string _), run_take (string?_string _), run_take (string?_string _),
    run_take (string?_string _), run_take (int32?_toInt _), run_take (int32?_toInt _),
    run_take (string?_string _), run_take (strings?_map _), run_take (siteKind?_name _),
    run_take hcount, run_take hsize]
  -- the member after the size is the column of values, or that of sequence numbers
  by_cases hvoid : row.info.valueKind = .void
  · rw [if_pos hvoid, if_pos hvoid, List.nil_append, run_takeIf_of_ne (by decide), run_take hseqs,
      run_take hthreads]
    rfl
  · rw [if_neg hvoid, if_neg hvoid, List.singleton_append, run_takeIf hvalues, run_take hseqs,
      run_take hthreads]
    rfl

/-- **A trace** is decoded to its tag and to what there is to see of its rows. -/
theorem trace?_traceDocument {rows : List TraceRow} (hrows : ∀ row ∈ rows, row.Exact) :
    trace? (traceDocument h c rows) = some (formatTag, rows.map (·.shown h c)) := by
  have hevents : array? (object? shownRow) (.array (rows.map fun row => row.document h c)) =
      some (rows.map (·.shown h c)) :=
    mapM_map_eq_some fun row hrow => shownRow_document (hrows row hrow)
  rw [trace?, traceDocument, object?, tagAndRows, run_take (string?_string _), run_take hevents]
  rfl

end Decoding

/-- **Structured traces decode to the rows they came from.** The text of a structured trace
is one document; the decoder gets from it the tag and, row by row and in order, all there
is to see, in columns that belong together. What there is to see of a value determines it
among those of its kind, up to living objects that look the same. -/
theorem structured_trace_of_rows (h : Heap) (c : Heap.Census) (width : Nat)
    {rows : List TraceRow} (hrows : ∀ row ∈ rows, row.Exact) :
    (∃ doc shown, Json.read? (TraceFormat.json.render h c width rows) = some doc ∧
      doc.trace? = some ("latest", shown) ∧ shown = rows.map (·.shown h c) ∧
      ∀ row ∈ shown, row.Aligned) ∧
    ∀ d d' : Datum Resolved, d.kind = d'.kind → d.kind.isReal = false →
      d.shown h = d'.shown h →
        d = d' ∨ ∃ r r', d = .object (.live r) ∧ d' = .object (.live r') := by
  have hread : Json.read? (documentText h c rows) = some (traceDocument h c rows) :=
    Json.read?_render (readable_traceDocument fun row hrow => (hrows row hrow).readable)
  constructor
  · refine ⟨_, _, hread, trace?_traceDocument hrows, rfl, ?_⟩
    rintro _ hshown
    obtain ⟨row, -, rfl⟩ := List.mem_map.mp hshown
    exact row.aligned_shown h c
  · intro d d' hkind hreal hshown
    exact Datum.eq_or_live_of_shown_eq hkind hreal hshown

/-- Objects that are null, collected and alive, with a text that has to be escaped; an
attribute given twice; a site without values, and one without a buffer. -/
theorem structured_trace_of_rows_mixed :
    let h : Heap :=
      ⟨#[⟨"a", "String", none, none, false⟩, ⟨"b", "String", some "x\"\n", none, false⟩], []⟩
    let c : Heap.Census := ⟨#[false, true]⟩
    let objects : Ring Event := (((Ring.new (Event.blank .object) 4).push
      ⟨.object .null, 1, 1⟩).push ⟨.object (.weak ⟨0⟩), 2, 1⟩).push ⟨.object (.weak ⟨1⟩), 5, 2⟩
    let zeros : Ring Event := (Ring.new (Event.blank .int) 4).push ⟨.int 0, 3, 1⟩
    let rows : List TraceRow :=
      [⟨{ site := 0, className := "\\", line := -3, attributes := [("k", "1"), ("k", "2")],
          valueKind := .of .object }, some ⟨.object, .weak, objects⟩⟩,
        ⟨{ site := 1, valueKind := .void }, some ⟨.int, .strong, zeros⟩⟩,
        ⟨{ site := 2, valueKind := .of .long }, none⟩]
    (∀ row ∈ rows, row.Exact) ∧
    (∃ doc shown, Json.read? (TraceFormat.json.render h c 4 rows) = some doc ∧
      doc.trace? = some ("latest", shown) ∧ shown = rows.map (·.shown h c) ∧
      ∀ row ∈ shown, row.Aligned) ∧
    rows.map (·.shown h c) =
      [⟨"\\", "", "", "", -3, 0, "", [("k", "1"), ("k", "2")], .of .object, 3, 3,
          some [.null, .collected, .identity "String" "b" (some "x\"\n")], [1, 2, 5], [1, 1, 2]⟩,
        ⟨"", "", "", "", 0, 0, "", [], .void, 1, 1, none, [3], [1]⟩,
        ⟨"", "", "", "", 0, 0, "", [], .of .long, 0, 0, some [], [], []⟩] := by
  intro h c objects zeros rows
  have hrows : ∀ row ∈ rows, row.Exact := by
    simp only [rows, List.forall_mem_cons]
    refine ⟨⟨by decide, by decide, by decide⟩, ⟨by decide, by decide, by decide⟩,
      ⟨by decide, by decide, by decide⟩, List.forall_mem_nil _⟩
  exact ⟨hrows, (structured_trace_of_rows h c 4 hrows).1, by decide⟩

end FlightRecorder
