import FlightRecorder.Proofs.Json.Exact
import FlightRecorder.Proofs.Recorder.PlainTraces
import FlightRecorder.Proofs.Trace.Documents

/-!
# What stands in the files of portions

A portion is delivered as a text, plain or structured. Both kinds of text can be taken
apart again: a plain one into records, by the reader of such records, and a structured one
into a document, by a reader that keeps numbers as they are written. What is found there
are the events that the registry retained at the moment, each with its number, and nothing
else. So the portions that partition the numbers do so in the files.

* `FlightRecorder.TraceFormat.numbers?` – the sequence numbers in the text of a trace, row
  by row;
* `FlightRecorder.Contains` – a text from which rows can be read back
  (`FlightRecorder.contains_render`);
* `FlightRecorder.Recorder.Session.Delivery` – a portion of a moment, with what stands in
  its file;
* `FlightRecorder.Recorder.Session.deliveries` – the texts that a run delivers;
* `FlightRecorder.Recorder.Session.partition_of_run` – **the portions partition the
  events**.
-/

namespace FlightRecorder

/-! ### Plain traces -/

/-- The sequence numbers in the cells of events, which are three for each. A place without
an event has none. -/
def seqCells : List String → List Nat
  | _ :: seq :: _ :: rest =>
    if seq = "" then seqCells rest else Text.digitsValue seq.toList :: seqCells rest
  | _ => []

/-- The sequence numbers on the records of a plain trace: those of events come behind the
site, the count and the size. -/
def plainNumbers (records : List (List String)) : List (List Nat) :=
  records.tail.map fun record => seqCells (record.drop 11)

section Plain

variable {h : Heap} {c : Heap.Census} {width : Nat}

theorem seqCells_of_empty {cells : List String} (hcells : ∀ cell ∈ cells, cell = "") :
    seqCells cells = [] := by
  fun_induction seqCells cells with
  | case1 value thread rest ih => exact ih fun cell hcell => hcells cell (by simp [hcell])
  | case2 value seq thread rest hne => exact absurd (hcells seq (by simp)) hne
  | case3 => rfl

/-- The cells of events have their sequence numbers. -/
theorem seqCells_eventCells (events : List Event) (rest : List String) :
    seqCells (events.flatMap (SiteBuffer.eventCells h c) ++ rest) =
      events.map (·.seq.toNat) ++ seqCells rest := by
  induction events with
  | nil => rfl
  | cons e events ih =>
    have hchars : (toString e.seq.toNat).toList = Nat.toDigits 10 e.seq.toNat := Nat.toList_repr
    have hne : toString e.seq.toNat ≠ "" := by
      intro hempty
      rw [hempty] at hchars
      exact Nat.toDigits_ne_nil hchars.symm
    rw [List.flatMap_cons, List.append_assoc, SiteBuffer.eventCells, List.cons_append,
      List.cons_append, List.cons_append, List.nil_append, seqCells, if_neg hne, ih, hchars,
      Text.digitsValue_toDigits]
    rfl

/-- **The sequence numbers on a record** are those of the row. -/
theorem seqCells_fields {row : TraceRow} (hfits : ∀ b ∈ row.buffer, b.size ≤ width) :
    seqCells ((row.fields h c width).drop 11) = row.seqs.map UInt64.toNat := by
  rw [TraceRow.fields, TraceRow.seqs]
  cases hbuffer : row.buffer with
  | none =>
    refine seqCells_of_empty fun cell hcell => List.eq_of_mem_replicate (n := 2 + 3 * width) ?_
    exact List.mem_of_mem_drop (i := 2) hcell
  | some b =>
    obtain ⟨n, rfl⟩ := Nat.exists_eq_add_of_le (hfits b hbuffer)
    have hcells : (row.info.cells ++ (toString b.count :: toString b.size ::
        (List.range (b.size + n)).flatMap (b.eventFields h c))).drop 11 =
        (List.range (b.size + n)).flatMap (b.eventFields h c) := rfl
    have hrest : seqCells (List.replicate n SiteBuffer.noEventCells).flatten = [] := by
      refine seqCells_of_empty fun cell hcell => ?_
      obtain ⟨cells, hcells, hcell⟩ := List.mem_flatten.mp hcell
      rw [List.eq_of_mem_replicate hcells] at hcell
      simpa [SiteBuffer.noEventCells] using hcell
    dsimp only
    rw [hcells, flatMap_range_eventFields, seqCells_eventCells, hrest, List.append_nil,
      SiteBuffer.seqs, List.map_map]
    rfl

/-- **The sequence numbers in a plain trace**, if the buffers fit on its rows. -/
theorem plainNumbers_fields {rows : List TraceRow}
    (hfits : ∀ row ∈ rows, ∀ b ∈ row.buffer, b.size ≤ width) :
    plainNumbers (headerFields width :: rows.map fun row => row.fields h c width) =
      rows.map fun row => row.seqs.map UInt64.toNat := by
  rw [plainNumbers, List.tail_cons, List.map_map]
  exact List.map_congr_left fun row hrow => seqCells_fields (hfits row hrow)

end Plain

/-! ### Structured traces -/

/-- The events of a row as a structured trace has them: their values, unless the site
declares none, their sequence numbers and their threads. -/
structure EventColumns where
  values : Option (List Json)
  seqs : List Nat
  threads : List Nat

/-- The events of a row, in columns. -/
def TraceRow.eventColumns (row : TraceRow) (h : Heap) (c : Heap.Census) : EventColumns where
  values := if row.info.valueKind = .void then none
    else some (row.events.map fun e => (e.cell.read c).document h)
  seqs := row.events.map (·.seq.toNat)
  threads := row.events.map (·.thread.toNat)

namespace Json

/-- The columns of a row, found by their keys. -/
def eventColumns? (row : Json) : Option EventColumns := do
  let seqs ← (row.get? "seqnum").bind (array? word?)
  let threads ← (row.get? "thread").bind (array? word?)
  match row.get? "value" with
  | none => return { values := none, seqs, threads }
  | some j => return { values := ← array? some j, seqs, threads }

/-- The columns of all rows of a trace. -/
def traceColumns? (trace : Json) : Option (List EventColumns) :=
  (trace.get? "events").bind (array? eventColumns?)

end Json

section Structured

variable {h : Heap} {c : Heap.Census}

open Json

theorem eventColumns?_document (row : TraceRow) :
    (row.document h c).eventColumns? = some (row.eventColumns h c) := by
  have hseqs : array? word? (.array (row.events.map fun e => .int e.seq.toNat)) =
      some (row.events.map (·.seq.toNat)) :=
    mapM_map_eq_some fun e _ => word?_natCast e.seq.toNat_lt
  have hthreads : array? word? (.array (row.events.map fun e => .int e.thread.toNat)) =
      some (row.events.map (·.thread.toNat)) :=
    mapM_map_eq_some fun e _ => word?_natCast (Nat.lt_trans e.thread.toNat_lt (by decide))
  have hvalues : array? some (.array (row.events.map fun e => (e.cell.read c).document h)) =
      some (row.events.map fun e => (e.cell.read c).document h) :=
    mapM_map_eq_some fun e _ => rfl
  rw [row.document_eq, eventColumns?, TraceRow.eventColumns, TraceRow.siteMembers,
    TraceRow.valueMembers]
  split_ifs with hvoid
  · simp [get?, List.lookup_cons, hseqs, hthreads]
  · simp [get?, List.lookup_cons, hseqs, hthreads, hvalues]

/-- **The columns of a structured trace** are those of its rows. -/
theorem traceColumns?_traceDocument (rows : List TraceRow) :
    (traceDocument h c rows).traceColumns? = some (rows.map fun row => row.eventColumns h c) := by
  have hrows : array? eventColumns? (.array (rows.map fun row => row.document h c)) =
      some (rows.map fun row => row.eventColumns h c) :=
    mapM_map_eq_some fun row _ => eventColumns?_document row
  rw [traceColumns?, traceDocument]
  simpa [get?, List.lookup_cons] using hrows

/-- Floating-point numbers come back as they are written. -/
theorem readable_real {d : Datum Resolved} {depth : Nat} (hreal : d.kind.isReal = true) :
    Readable IsExact (depth + 1) (d.document h) := by
  cases d with
  | float bits => exact readable_ofBits _
  | double bits => exact readable_ofBits bits
  | _ => cases hreal

/-- **The text of a structured trace** is read back as its document, whatever is in it. -/
theorem readExact?_documentText (rows : List TraceRow) :
    readExact? (documentText h c rows) = some (traceDocument h c rows) := by
  have hrow (row : TraceRow) : Readable IsExact (122 + 4) (row.document h c) :=
    readable_row (fun _ => IsWord.isExact) (.number trivial) (.number trivial)
      fun _ _ hreal => readable_real ((Datum.kind_map _ _).symm ▸ hreal)
  exact readExact?_render (readable_traceDocument fun row _ => hrow row)

end Structured

/-! ### Both -/

/-- **The sequence numbers in the text of a trace**, row by row. -/
def TraceFormat.numbers? (f : TraceFormat) (text : String) : Option (List (List Nat)) :=
  match f with
  | .text => (Csv.read? text).map plainNumbers
  | .json => ((Json.readExact? text).bind Json.traceColumns?).map (·.map (·.seqs))

/-- **A text that contains rows**, with their events: a plain text has a header and one
record for each row, and a structured one is a document with their columns. -/
structure Contains (f : TraceFormat) (h : Heap) (c : Heap.Census) (width : Nat) (text : String)
    (rows : List TraceRow) : Prop where
  plain : f = .text → Csv.read? text =
    some (headerFields width :: rows.map fun row => row.fields h c width)
  structured : f = .json → ∃ doc, Json.readExact? text = some doc ∧
    doc = traceDocument h c rows ∧
    doc.traceColumns? = some (rows.map fun row => row.eventColumns h c)
  numbers : f.numbers? text = some (rows.map fun row => row.seqs.map UInt64.toNat)

/-- **A trace contains its rows**, if the buffers fit on them. -/
theorem contains_render (f : TraceFormat) (h : Heap) (c : Heap.Census) {width : Nat}
    {rows : List TraceRow} (hfits : ∀ row ∈ rows, ∀ b ∈ row.buffer, b.size ≤ width) :
    Contains f h c width (f.render h c width rows) rows := by
  cases f with
  | text =>
    have hread := read?_plainText (h := h) (c := c) hfits
    refine ⟨fun _ => hread, fun hf => TraceFormat.noConfusion hf, ?_⟩
    rw [TraceFormat.numbers?, TraceFormat.render, hread, Option.map_some,
      plainNumbers_fields hfits]
  | json =>
    have hread := readExact?_documentText (h := h) (c := c) rows
    have hcolumns := traceColumns?_traceDocument (h := h) (c := c) rows
    refine ⟨fun hf => TraceFormat.noConfusion hf, fun _ => ⟨_, hread, rfl, hcolumns⟩, ?_⟩
    rw [TraceFormat.numbers?, TraceFormat.render, hread, Option.bind_some, hcolumns,
      Option.map_some, List.map_map]
    refine congrArg some (List.map_congr_left fun row _ => ?_)
    obtain ⟨info, buffer⟩ := row
    cases buffer with
    | none => rfl
    | some b => simp [TraceRow.eventColumns, TraceRow.events, TraceRow.seqs, SiteBuffer.seqs]

namespace Recorder

/-- The sequence numbers of a portion, row by row. -/
def Portion.numbers (q : Portion) : List (List Nat) :=
  q.rows.map fun row => row.seqs.map UInt64.toNat

theorem Portion.flatten_numbers (q : Portion) : q.numbers.flatten = q.seqs.map UInt64.toNat := by
  rw [numbers, seqs, List.map_flatMap, List.flatMap_def]

/-- **Portions that divide the numbers among them** do so as natural numbers. -/
theorem Partitioned.numbers {portions : List Portion} {lo : Nat} (h : Partitioned portions lo) :
    let numbers := portions.map Portion.numbers
    numbers.flatten.flatten.Nodup ∧
    (∀ q ∈ numbers, ∀ row ∈ q, row.Pairwise (· < ·)) ∧
    numbers.Pairwise fun q q' => ∀ m ∈ q.flatten, ∀ n ∈ q'.flatten, m < n := by
  intro numbers
  have hflatten : numbers.flatten.flatten =
      (portions.flatMap Portion.seqs).map UInt64.toNat := by
    rw [List.flatten_flatten, List.map_map, List.map_flatMap, List.flatMap_def]
    exact congrArg List.flatten (List.map_congr_left fun q _ => q.flatten_numbers)
  refine ⟨?_, ?_, ?_⟩
  · rw [hflatten]
    exact h.nodup.map fun _ _ => UInt64.toNat_inj.mp
  · rintro _ hnumbers _ hseqs
    obtain ⟨q, hq, rfl⟩ := List.mem_map.mp hnumbers
    obtain ⟨row, hrow, rfl⟩ := List.mem_map.mp hseqs
    exact List.pairwise_map.mpr ((h.increasing q hq row hrow).imp UInt64.lt_iff_toNat_lt.mp)
  · refine List.pairwise_map.mpr (h.successive.imp fun hlt m hm n hn => ?_)
    rw [Portion.flatten_numbers] at hm hn
    obtain ⟨x, hx, rfl⟩ := List.mem_map.mp hm
    obtain ⟨y, hy, rfl⟩ := List.mem_map.mp hn
    exact UInt64.lt_iff_toNat_lt.mp (hlt x hx y hy)

/-- The trace of a narrow recorder contains the present rows. -/
theorem contains_presentText {r : Recorder} (hr : r.Sound) (hn : r.Narrow) (h : Heap) :
    Contains r.settings.format h (r.census h) r.settings.bufferSize (r.presentText h)
      r.presentRows :=
  contains_render _ _ _ fun _ hrow _ hb => hn.size_le hr.registry (hr.mem_buffers_of_row hrow hb)

namespace Session

variable {s : Session} {w : Supplies} {a : Action} {q : Portion}

/-- **A portion of a moment**: from the file it was delivered to, its rows can be read
back, there is one row for a site, and the rows have the buffers of the moment, each on the
row of its site. -/
structure Delivery (s t : Session) (q : Portion) : Prop where
  text : ∃ text, t.recorder.archive.read? t.files q.path = .ok text ∧
    Contains s.recorder.settings.format s.heap s.census s.recorder.settings.bufferSize text q.rows
  ordered : RowsOrdered q.rows
  buffers : ∀ site b, s.recorder.registry.arena.find? site = some b ↔
    ∃ row ∈ q.rows, row.info.site = site ∧ row.buffer = some b

theorem delivery_step (hs : s.recorder.Sound) (hn : s.recorder.Narrow)
    (hq : portionOf s.recorder a (s.step a w).2 = some q) : Delivery s (s.step a w).1 q := by
  obtain ⟨hrows, htext, -⟩ := (outcome_step hs a w).delivered hq
  refine ⟨⟨_, htext, ?_⟩, ?_, fun site b => ?_⟩
  · rw [hrows]
    exact contains_presentText hs hn s.heap
  · rw [hrows]
    exact ordered_rowsOf hs.catalog hs.registry.arena.ordered
  · rw [hrows]
    exact find?_eq_some_iff_row hs.catalog hs.registry.arena.ordered

/-- **The texts that a run delivers**: what stands in the file of each portion when it has
just been delivered. -/
def deliveries (s : Session) (actions : List Action) (w : Supplies := {}) : List String :=
  match actions with
  | [] => []
  | a :: rest =>
    let (t, y) := s.step a w
    let text? := (portionOf s.recorder a y).bind fun q =>
      (t.recorder.archive.read? t.files q.path).toOption
    text?.toList ++ t.deliveries rest w

/-- **The numbers in the texts that a run delivers** are those of its portions. -/
theorem mapM_deliveries {f : TraceFormat} (hs : s.recorder.Sound) (hn : s.recorder.Narrow)
    (hf : s.recorder.settings.format = f) (actions : List Action) (w : Supplies) :
    (s.deliveries actions w).mapM f.numbers? =
      some ((s.portions actions w).map Portion.numbers) := by
  induction actions generalizing s with
  | nil => rfl
  | cons a rest ih =>
    have hsettings : (s.step a w).1.recorder.settings = s.recorder.settings :=
      settings_of_rules (outcome_step hs a w).rules_eq
    have hrest := ih (sound_step hs a w) (narrow_step hn hs a w) (by rw [hsettings, hf])
    rw [deliveries, portions]
    dsimp only
    cases hq : portionOf s.recorder a (s.step a w).2 with
    | none => exact hrest
    | some q =>
      obtain ⟨text, hread, hcontains⟩ := (delivery_step hs hn hq).text
      have hnumbers := hcontains.numbers
      rw [hf] at hnumbers
      rw [Option.bind_some, hread]
      simp only [Except.toOption, Option.toList_some, List.singleton_append, List.mapM_cons,
        hnumbers, hrest, List.map_cons]
      rfl

/-- **The portions partition the events.** Whatever a run is, and whatever is refused
meanwhile, a successful save with a reset delivers a portion of the moment and leaves a
registry without events whose ceiling is as before, and the first close, if it is written,
delivers a portion of the moment too. The clock shows how often it has moved; and over all
texts that a run delivers in which it does not move past its last number, no sequence number
occurs twice, the numbers on a row increase, and all numbers of a text are smaller than
those of any later one. -/
theorem partition_of_run {settings : Settings} {clock : Clock} {start : Recorder}
    (hstart : new? settings clock = .ok start) (heap : Heap) (files : FileTree)
    (actions : List Action) (w : Supplies)
    (hclock : clock.next.toNat + ticks ⟨heap, files, start⟩ actions w ≤ wordSize) :
    (∀ before a, before ++ [a] <+: actions →
      let s := run ⟨heap, files, start⟩ before w
      let t := (s.step a w).1
      (∀ q, portionOf s.recorder a (s.step a w).2 = some q → Delivery s t q) ∧
      ∀ elapsed path, a = .save true elapsed → (s.step a w).2 = .path path →
        t.recorder.registry.arena = {} ∧ t.recorder.registry.totalRetained = 0 ∧
        t.recorder.registry.ceiling = s.recorder.registry.ceiling) ∧
    (run ⟨heap, files, start⟩ actions w).recorder.registry.clock.next =
      UInt64.ofNat (clock.next.toNat + ticks ⟨heap, files, start⟩ actions w) ∧
    ∃ numbers, (deliveries ⟨heap, files, start⟩ actions w).mapM settings.format.numbers? =
        some numbers ∧
      numbers.flatten.flatten.Nodup ∧
      (∀ text ∈ numbers, ∀ row ∈ text, row.Pairwise (· < ·)) ∧
      numbers.Pairwise fun text text' => ∀ m ∈ text.flatten, ∀ n ∈ text'.flatten, m < n := by
  have hsound := sound_of_new? hstart
  have hnarrow := narrow_of_new? hstart
  have hchronicle := chronicle_of_new? hstart
  refine ⟨?_, ?_, ?_⟩
  · intro before a _ s t
    have hs : s.recorder.Sound := sound_run hsound before w
    have hn : s.recorder.Narrow := narrow_run (s := ⟨heap, files, start⟩) hnarrow hsound before w
    refine ⟨fun q hq => delivery_step hs hn hq, ?_⟩
    rintro elapsed path rfl hpath
    obtain ⟨harena, hceiling⟩ := (outcome_step hs _ w).emptied hpath
    refine ⟨harena, ?_, hceiling⟩
    rw [Registry.totalRetained, harena]
  · exact (chronicle_run (s := ⟨heap, files, start⟩) hchronicle actions w).clock
  · have hformat : start.settings.format = settings.format := by rw [eq_of_new? hstart]
    have hpartitioned :=
      partitioned_portions (s := ⟨heap, files, start⟩) hchronicle actions w hclock
    exact ⟨_, mapM_deliveries (s := ⟨heap, files, start⟩) hsound hnarrow hformat actions w,
      hpartitioned.numbers⟩

/-- Two portions, with a save between them that fails, one for which the compressor fails,
and one that keeps the buffers. -/
theorem partition_of_run_interspersed :
    ∃ start, new? { compress := true } (.startingAt 1) = .ok start ∧
      let s : Session := ⟨{}, {}, start⟩
      let w : Supplies := { packed := fun attempt => if attempt = 2 then none else some 9 }
      let actions : List Action :=
        [.recordValue 4 (.int 7) 1, .recordValue 3 (.int 8) 1, .save true 0,
          .recordValue 3 (.int 9) 1, .makeDirectory "trace00002.json.zst", .save true 0,
          .save true 0, .save false 0, .recordValue 4 (.int 10) 1, .close 0,
          .recordValue 4 (.int 11) 1, .close 0]
      1 + s.ticks actions w ≤ wordSize ∧
      (s.portions actions w).map (·.path) = ["trace00001.json.zst", "trace.json.zst"] ∧
      ∃ numbers, (s.deliveries actions w).mapM TraceFormat.json.numbers? = some numbers ∧
        numbers.flatten.flatten.Nodup := by
  have hstart : new? { compress := true } (.startingAt 1) = .ok _ := rfl
  refine ⟨_, hstart, ?_⟩
  intro s w actions
  have hclock : 1 + s.ticks actions w ≤ wordSize := by decide +kernel
  obtain ⟨numbers, hnumbers, hnodup, -⟩ := (partition_of_run hstart {} {} actions w hclock).2.2
  exact ⟨hclock, by decide +kernel, numbers, hnumbers, hnodup⟩

end Session

end Recorder

end FlightRecorder
