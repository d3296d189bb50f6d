import FlightRecorder.Proofs.Json
import FlightRecorder.Proofs.SiteBuffer.Contents
import FlightRecorder.Proofs.SiteBuffer.Fullness
import FlightRecorder.SiteBuffer.Rendering

/-!
# The two written forms of a buffer

A buffer is written as cells of a plain trace and as columns of a structured one, by two
renderers that know nothing of each other. This file proves that they tell the same: cell
by cell the same events in the same order, and for each event the same value, as far as a
cell can show it.

* `FlightRecorder.Json.Collected`, `FlightRecorder.Json.Identifies` – what a document says
  of an object, told by its members;
* `FlightRecorder.SameObject` – a cell and a document that say the same of an object, and
  `FlightRecorder.ObjectForm`, the three forms that there are of the two;
* `FlightRecorder.identityText_inj` – the parts of an identity can be told from its cell;
* `FlightRecorder.Datum.sameValue` – **one value** in a cell and in a document;
* `FlightRecorder.SiteBuffer.take_drop_cells`,
  `FlightRecorder.SiteBuffer.eq_empty_of_mem_drop_cells` – where the events are among the
  cells, and what is behind them;
* `FlightRecorder.SiteBuffer.renderings_of_run` – **both forms of a buffer**, after any
  operations.

Of floating-point numbers the two forms have texts of their own, which are not compared.
-/

namespace FlightRecorder

/-! ### The text of an identity -/

/-- An identity has a separator in it. -/
theorem mem_identityText (typeName token : String) (text : Option String) :
    '@' ∈ (identityText typeName token text).toList := by
  cases text <;> simp [identityText]

/-- So it is no text without one. -/
theorem identityText_ne {cell : String} (hcell : '@' ∉ cell.toList) (typeName token : String)
    (text : Option String) : identityText typeName token text ≠ cell := by
  rintro rfl
  exact hcell (mem_identityText typeName token text)

theorem identityText_ne_collectedMark (typeName token : String) (text : Option String) :
    identityText typeName token text ≠ collectedMark :=
  identityText_ne (by decide) typeName token text

theorem identityText_ne_null (typeName token : String) (text : Option String) :
    identityText typeName token text ≠ "null" :=
  identityText_ne (by decide) typeName token text

/-- **A separator tells where a text ends** that does not have it. -/
theorem append_cons_inj {α : Type} {a : α} {l l' rest rest' : List α} (hl : a ∉ l) (hl' : a ∉ l')
    (heq : l ++ a :: rest = l' ++ a :: rest') : l = l' ∧ rest = rest' := by
  induction l generalizing l' with
  | nil =>
    cases l' with
    | nil => exact ⟨rfl, (List.cons.inj heq).2⟩
    | cons b l' => exact absurd ((List.cons.inj heq).1 ▸ List.mem_cons_self) hl'
  | cons b l ih =>
    cases l' with
    | nil => exact absurd ((List.cons.inj heq).1 ▸ List.mem_cons_self) hl
    | cons b' l' =>
      obtain ⟨hb, htail⟩ := List.cons.inj heq
      obtain ⟨hl'', hrest⟩ := ih (fun h => hl (List.mem_cons_of_mem _ h))
        (fun h => hl' (List.mem_cons_of_mem _ h)) htail
      exact ⟨congrArg₂ _ hb hl'', hrest⟩

/-- What follows the token in an identity. -/
def textSuffix : Option String → List Char
  | some text => ':' :: Text.escapeList text.toList
  | none => []

theorem toList_identityText (typeName token : String) (text : Option String) :
    (identityText typeName token text).toList =
      typeName.toList ++ '@' :: (token.toList ++ textSuffix text) := by
  cases text <;> simp [identityText, textSuffix, Text.escape]

/-- **The parts of an identity** can be told from its text, if no type name has the
separator in front of the token, and no token the one behind it. -/
theorem identityText_inj {typeName typeName' token token' : String} {text text' : Option String}
    (htype : '@' ∉ typeName.toList) (htype' : '@' ∉ typeName'.toList)
    (htoken : ':' ∉ token.toList) (htoken' : ':' ∉ token'.toList)
    (heq : identityText typeName token text = identityText typeName' token' text') :
    typeName = typeName' ∧ token = token' ∧ text = text' := by
  have hchars := congrArg String.toList heq
  rw [toList_identityText, toList_identityText] at hchars
  obtain ⟨hname, hrest⟩ := append_cons_inj htype htype' hchars
  refine ⟨String.toList_inj.mp hname, ?_⟩
  -- a token that goes on where the other one ends would have the separator in it
  cases text with
  | none =>
    rw [textSuffix, List.append_nil] at hrest
    cases text' with
    | none => exact ⟨String.toList_inj.mp (hrest.trans (List.append_nil _)), rfl⟩
    | some s' => exact absurd (hrest ▸ List.mem_append_right _ List.mem_cons_self) htoken
  | some s =>
    cases text' with
    | none =>
      rw [textSuffix, textSuffix, List.append_nil] at hrest
      exact absurd (hrest ▸ List.mem_append_right _ List.mem_cons_self) htoken'
    | some s' =>
      obtain ⟨htokens, htexts⟩ := append_cons_inj htoken htoken' hrest
      have hs := String.toList_inj.mp (Text.escapeList_injective htexts)
      exact ⟨String.toList_inj.mp htokens, congrArg some hs⟩

/-- **The escaped text of an identity** is a string of a document without its quotes. -/
theorem read?_escape (text : String) :
    Json.read? ("\"" ++ Text.escape text ++ "\"") = some (.string text) := by
  have hrender : "\"" ++ Text.escape text ++ "\"" = (Json.string text).render := by
    rw [← String.toList_inj]
    simp [Json.render, Json.chars, Json.quote, Text.escape]
  rw [hrender]
  exact Json.read?_render (.string text)

/-! ### What a document says of an object -/

namespace Json

/-- **A document of a collected object** has the mark for a token, and no type. -/
structure Collected (doc : Json) : Prop where
  token : doc.get? "id" = some (.string collectedMark)
  typeName : doc.get? "type" = none

/-- **A document of an identity** has its token and its type, and its text if there is
one. -/
structure Identifies (doc : Json) (typeName token : String) (text : Option String) : Prop where
  token : doc.get? "id" = some (.string token)
  typeName : doc.get? "type" = some (.string typeName)
  text : doc.get? "str" = text.map .string

variable {doc : Json} {typeName typeName' token token' : String} {text text' : Option String}

theorem Identifies.unique (h : doc.Identifies typeName token text)
    (h' : doc.Identifies typeName' token' text') :
    typeName = typeName' ∧ token = token' ∧ text = text' := by
  have htoken := Option.some.inj (h.token.symm.trans h'.token)
  have htype := Option.some.inj (h.typeName.symm.trans h'.typeName)
  have htext := h.text.symm.trans h'.text
  exact ⟨Json.string.inj htype, Json.string.inj htoken,
    Option.map_injective (fun _ _ => Json.string.inj) htext⟩

theorem Identifies.not_collected (h : doc.Identifies typeName token text) : ¬doc.Collected := by
  intro hcollected
  cases h.typeName.symm.trans hcollected.typeName

theorem identifies_identityDocument (typeName token : String) (text : Option String) :
    (identityDocument typeName token text).Identifies typeName token text := by
  cases text <;> exact ⟨rfl, rfl, rfl⟩

theorem collected_collectedMark : (object [("id", .string collectedMark)]).Collected :=
  ⟨rfl, rfl⟩

theorem not_identifies_null : ¬(null).Identifies typeName token text := nofun

end Json

/-! ### One value -/

/-- **A cell and a document that say the same of an object.** -/
structure SameObject (cell : String) (doc : Json) : Prop where
  null : cell = "null" ↔ doc = .null
  collected : cell = collectedMark ↔ doc.Collected
  identity : (∃ typeName token text, cell = identityText typeName token text) ↔
    ∃ typeName token text, doc.Identifies typeName token text
  /-- The cell is the text of the very identity that the document has. -/
  cell_eq : ∀ {typeName token text}, doc.Identifies typeName token text →
    cell = identityText typeName token text
  /-- The document has the very identity that the cell is the text of, if type names do not
  have the separator in front of the token and tokens do not have the one behind it. -/
  identifies : ∀ {typeName typeName' token token' text text'},
    doc.Identifies typeName token text → '@' ∉ typeName.toList → ':' ∉ token.toList →
    '@' ∉ typeName'.toList → ':' ∉ token'.toList → cell = identityText typeName' token' text' →
    doc.Identifies typeName' token' text'
  /-- What is behind the token is a string of a document but for its quotes. -/
  decoded : ∀ {typeName token text}, doc.Identifies typeName token (some text) →
    ∃ suffix, cell = typeName ++ "@" ++ token ++ ":" ++ suffix ∧
      Json.read? ("\"" ++ suffix ++ "\"") = some (.string text)

/-- **The three forms of an object** in a cell and in a document. -/
inductive ObjectForm : String → Json → Prop
  | null : ObjectForm "null" .null
  | collected : ObjectForm collectedMark (.object [("id", .string collectedMark)])
  | identity (typeName token : String) (text : Option String) :
      ObjectForm (identityText typeName token text) (identityDocument typeName token text)

theorem ObjectForm.sameObject {cell : String} {doc : Json} (h : ObjectForm cell doc) :
    SameObject cell doc := by
  cases h with
  | null =>
    have hnone : ∀ {typeName token text}, ¬Json.null.Identifies typeName token text :=
      Json.not_identifies_null
    exact
      { null := iff_of_true rfl rfl
        collected := iff_of_false (by decide) nofun
        identity := iff_of_false
          (fun ⟨_, _, _, heq⟩ => identityText_ne_null _ _ _ heq.symm) fun ⟨_, _, _, h⟩ => hnone h
        cell_eq := fun h => absurd h hnone
        identifies := fun h => absurd h hnone
        decoded := fun h => absurd h hnone }
  | collected =>
    have hcollected := Json.collected_collectedMark
    exact
      { null := iff_of_false (by decide) nofun
        collected := iff_of_true rfl hcollected
        identity := iff_of_false
          (fun ⟨_, _, _, heq⟩ => identityText_ne_collectedMark _ _ _ heq.symm)
          fun ⟨_, _, _, h⟩ => h.not_collected hcollected
        cell_eq := fun h => absurd hcollected h.not_collected
        identifies := fun h => absurd hcollected h.not_collected
        decoded := fun h => absurd hcollected h.not_collected }
  | identity typeName token text =>
    have hdoc := Json.identifies_identityDocument typeName token text
    refine
      { null := iff_of_false (identityText_ne_null _ _ _) nofun
        collected := iff_of_false (identityText_ne_collectedMark _ _ _) hdoc.not_collected
        identity := iff_of_true ⟨_, _, _, rfl⟩ ⟨_, _, _, hdoc⟩
        cell_eq := ?_
        identifies := ?_
        decoded := ?_ }
    · intro typeName' token' text' h
      obtain ⟨rfl, rfl, rfl⟩ := hdoc.unique h
      rfl
    · intro typeName₁ typeName₂ token₁ token₂ text₁ text₂ h htype₁ htoken₁ htype₂ htoken₂ heq
      obtain ⟨rfl, rfl, rfl⟩ := hdoc.unique h
      obtain ⟨rfl, rfl, rfl⟩ := identityText_inj htype₁ htype₂ htoken₁ htoken₂ heq
      exact hdoc
    · intro typeName' token' text' h
      obtain ⟨rfl, rfl, rfl⟩ := hdoc.unique h
      exact ⟨Text.escape text', rfl, read?_escape text'⟩

/-- **A cell and a document of one value** of a kind. -/
structure SameValue (kind : Kind) (cell : String) (doc : Json) : Prop where
  /-- Scalars, but for floating-point numbers, have one text. -/
  scalar : kind ∈ [.boolean, .byte, .char, .short, .int, .long] → cell = doc.render
  object : kind ∈ [.object, .objectId] → SameObject cell doc

/-- An integer is written the same way everywhere. -/
theorem render_int (x : Int) : (Json.int x).render = toString x := by
  rw [Json.render, Json.chars, String.ofList_toList]

/-- **One value** is the same in both forms. -/
theorem Datum.sameValue (h : Heap) (d : Datum Resolved) :
    SameValue d.kind (d.cellText h) (d.document h) := by
  have hform : d.kind ∈ [.object, .objectId] → ObjectForm (d.cellText h) (d.document h) := by
    intro hkind
    cases d with
    | object o =>
      cases o with
      | null => exact .null
      | collected => exact .collected
      | live r => exact .identity _ _ _
    | objectId id => exact .identity _ _ _
    | _ => simp [kind] at hkind
  refine ⟨fun hkind => ?_, fun hkind => (hform hkind).sameObject⟩
  cases d with
  | boolean b => cases b <;> rfl
  | byte x | short x | int x | long x => exact (render_int x.toInt).symm
  | char x => exact (render_int x.toNat).symm
  | _ => simp [kind] at hkind

/-! ### Where the events are -/

section Pieces

variable {α : Type} {k : Nat} {pieces : List (List α)}

/-- Pieces of one length make a list of that length times as many. -/
theorem length_flatten_of_forall (hk : ∀ l ∈ pieces, l.length = k) :
    pieces.flatten.length = k * pieces.length := by
  induction pieces with
  | nil => rfl
  | cons l pieces ih =>
    obtain ⟨hl, hpieces⟩ := List.forall_mem_cons.mp hk
    rw [List.flatten_cons, List.length_append, hl, ih hpieces, List.length_cons, Nat.mul_succ,
      Nat.add_comm]

/-- The pieces from one on begin where those before it end. -/
theorem drop_flatten_of_forall (hk : ∀ l ∈ pieces, l.length = k) (i : Nat) :
    pieces.flatten.drop (k * i) = (pieces.drop i).flatten := by
  induction pieces generalizing i with
  | nil => simp
  | cons l pieces ih =>
    obtain ⟨hl, hpieces⟩ := List.forall_mem_cons.mp hk
    cases i with
    | zero => rfl
    | succ i =>
      rw [Nat.mul_succ, Nat.add_comm, List.flatten_cons, ← List.drop_drop, List.drop_left' hl,
        ih hpieces, List.drop_succ_cons]

/-- **Each piece** is at its place. -/
theorem take_drop_flatten_of_forall (hk : ∀ l ∈ pieces, l.length = k) {i : Nat} {l : List α}
    (hl : pieces[i]? = some l) : (pieces.flatten.drop (k * i)).take k = l := by
  obtain ⟨hi, rfl⟩ := List.getElem?_eq_some_iff.mp hl
  rw [drop_flatten_of_forall hk, List.drop_eq_getElem_cons hi, List.flatten_cons,
    List.take_left' (hk _ (List.getElem_mem hi))]

end Pieces

namespace SiteBuffer

variable {b : SiteBuffer} {h : Heap} {c : Heap.Census} {width i : Nat} {e : Event} {p : Retention}

/-- The cells of a buffer behind its count and its size, in threes. -/
def triples (b : SiteBuffer) (h : Heap) (c : Heap.Census) (width : Nat) : List (List String) :=
  b.events.map (eventCells h c) ++ List.replicate (width - b.size) noEventCells

theorem cells_eq (b : SiteBuffer) (h : Heap) (c : Heap.Census) (width : Nat) :
    b.cells h c width = toString b.count :: toString b.size :: (b.triples h c width).flatten := by
  rw [cells, triples, List.flatten_append, List.flatMap_def]

theorem length_of_mem_triples : ∀ triple ∈ b.triples h c width, triple.length = 3 := by
  intro triple htriple
  rcases List.mem_append.mp htriple with hevent | hnone
  · obtain ⟨e, -, rfl⟩ := List.mem_map.mp hevent
    rfl
  · rw [List.eq_of_mem_replicate hnone]
    rfl

theorem length_triples (b : SiteBuffer) (h : Heap) (c : Heap.Census) (width : Nat) :
    (b.triples h c width).length = max width b.size := by
  rw [triples, List.length_append, List.length_map, length_events, List.length_replicate]
  omega

theorem length_cells (b : SiteBuffer) (h : Heap) (c : Heap.Census) (width : Nat) :
    (b.cells h c width).length = 2 + 3 * max width b.size := by
  rw [cells_eq, List.length_cons, List.length_cons,
    length_flatten_of_forall length_of_mem_triples, length_triples]
  omega

/-- Behind the count and the size the threes begin. -/
theorem drop_cells (b : SiteBuffer) (h : Heap) (c : Heap.Census) (width i : Nat) :
    (b.cells h c width).drop (2 + 3 * i) = (b.triples h c width).flatten.drop (3 * i) := by
  rw [cells_eq, ← List.drop_drop]
  rfl

/-- **The cells of an event** are at its place. -/
theorem take_drop_cells (he : b.events[i]? = some e) :
    ((b.cells h c width).drop (2 + 3 * i)).take 3 = eventCells h c e := by
  rw [drop_cells]
  refine take_drop_flatten_of_forall length_of_mem_triples ?_
  have hi : i < (b.events.map (eventCells h c)).length := by
    rw [List.length_map]
    exact (List.getElem?_eq_some_iff.mp he).1
  rw [triples, List.getElem?_append_left hi, List.getElem?_map, he]
  rfl

/-- **All cells behind the events are empty.** -/
theorem eq_empty_of_mem_drop_cells {cell : String}
    (hcell : cell ∈ (b.cells h c width).drop (2 + 3 * b.size)) : cell = "" := by
  have hsize : (b.events.map (eventCells h c)).length = b.size := by
    rw [List.length_map, length_events]
  rw [drop_cells, drop_flatten_of_forall length_of_mem_triples, triples, List.drop_left' hsize,
    List.mem_flatten] at hcell
  obtain ⟨triple, htriple, hmem⟩ := hcell
  rw [List.eq_of_mem_replicate htriple] at hmem
  exact List.eq_of_mem_replicate (n := 3) hmem

/-! ### Both forms of a buffer -/

/-- **Every operation keeps a buffer faithful.** -/
theorem Faithful.perform (hb : b.Faithful p) (op : Op) : (b.perform op).2.Faithful p := by
  cases op with
  | add e =>
    rw [perform_add]
    split_ifs with hkind
    · exact hb.push hkind
    · exact hb
  | dropOldest n => exact hb.dropOldest n
  | ensureAtMost bound => exact hb.ensureAtMost bound

/-- So do any number of them. -/
theorem Faithful.after (hb : b.Faithful p) (ops : List Op) : (b.after ops).Faithful p := by
  induction ops generalizing b with
  | nil => exact hb
  | cons op rest ih => exact ih (hb.perform op)

/-- **Both forms of a buffer tell of the same events.** Whatever its kind, its limit and
its retention policy, and whatever was done to it since it was new, for rows of any width
and whoever is alive: there are three cells for each event, or for each place in the width
if these are more, behind the count and the size of the columns. Event `i` that is read
back has its value, its sequence number and its thread in the cells of its place, and at
its place in each of the columns; what the two values say is the same. All other cells
are empty. -/
theorem renderings_of_run (kind : SiteKind) (limit : Nat) (p : Retention) (ops : List Op)
    (h : Heap) (c : Heap.Census) (width : Nat) :
    let b := (new kind limit p).after ops
    let cells := b.cells h c width
    let columns := b.columns h c false
    cells.length = 2 + 3 * max width b.size ∧
      cells.take 2 = [toString columns.count, toString columns.size] ∧
      (∀ cell ∈ cells.drop (2 + 3 * b.size), cell = "") ∧
      b.columns h c true = { columns with values := none } ∧
      columns.count = b.count ∧ columns.size = b.size ∧
      columns.seqs.length = b.size ∧ columns.threads.length = b.size ∧
      ∃ values, columns.values = some values ∧ values.length = b.size ∧
        ∀ i < b.size, ∃ (e : Reading) (d : Datum Resolved),
          b.record? c i = some e ∧ d.map Resolved.ref? = e.value ∧
          values[i]? = some (d.document h) ∧
          columns.seqs[i]? = some e.seq ∧ columns.threads[i]? = some e.thread ∧
          (cells.drop (2 + 3 * i)).take 3 =
            [d.cellText h, toString e.seq.toNat, toString e.thread.toNat] ∧
          SameValue kind.stored (d.cellText h) (d.document h) := by
  intro b cells columns
  have hfaithful : b.Faithful p := (faithful_new kind limit p).after ops
  have hkind : b.kind = kind.stored := ((represents_new kind limit p).transcript ops).2.2.1
  -- both forms go through the same list of events
  have hlength : ∀ {β : Type} (f : Event → β), (b.events.map f).length = b.size := fun f => by
    rw [List.length_map, length_events]
  refine ⟨length_cells b h c width, rfl, fun cell => eq_empty_of_mem_drop_cells, rfl, rfl, rfl,
    hlength _, hlength _, _, rfl, hlength _, fun i hi => ?_⟩
  obtain ⟨e, he⟩ : ∃ e, b.events[i]? = some e :=
    ⟨_, List.getElem?_eq_getElem (b.length_events.symm ▸ hi)⟩
  have hcolumn : ∀ {β : Type} (f : Event → β), (b.events.map f)[i]? = some (f e) := fun f => by
    rw [List.getElem?_map, he, Option.map_some]
  have hvalue : (e.cell.read c).kind = kind.stored := by
    have hload := (hfaithful.storedAs (List.mem_of_getElem? he)).kind_load c
    rwa [Datum.load, Datum.kind_map, hkind] at hload
  refine ⟨e.read c, e.cell.read c, ?_, rfl, hcolumn _, hcolumn _, hcolumn _, take_drop_cells he,
    ?_⟩
  · rw [record?_eq, he, Option.map_some]
  · exact hvalue ▸ Datum.sameValue h (e.cell.read c)

/-- A buffer for two objects that has overwritten one: the next one is gone, the last one has
a text with a quote in it, and there is room for a third. -/
theorem renderings_of_run_collected :
    let specs : List ObjectSpec := [⟨"x", "T", none, none, false⟩, ⟨"y", "T", none, none, false⟩,
      ⟨"z", "T", some "\"", none, false⟩]
    let h := (({} : Heap).createAll specs).release "y"
    let b := (new (.of .object) 2 .weak).after
      [.add ⟨.object (some ⟨0⟩), 1, 7⟩, .add ⟨.object (some ⟨1⟩), 2, 7⟩,
        .add ⟨.object (some ⟨2⟩), 3, 8⟩]
    let cells := b.cells h (h.census []) 3
    cells = ["3", "2", "<GC>", "2", "7", "T@z:\\\"", "3", "8", "", "", ""] ∧
      cells.length = 2 + 3 * max 3 b.size ∧
      ∃ values doc, (b.columns h (h.census []) false).values = some values ∧
        values[1]? = some doc ∧ SameValue .object "T@z:\\\"" doc := by
  intro specs h b cells
  obtain ⟨hlength, -, -, -, -, -, -, -, values, hvalues, -, hevents⟩ :=
    renderings_of_run (.of .object) 2 .weak
      [.add ⟨.object (some ⟨0⟩), 1, 7⟩, .add ⟨.object (some ⟨1⟩), 2, 7⟩,
        .add ⟨.object (some ⟨2⟩), 3, 8⟩] h (h.census []) 3
  have hcells : cells = ["3", "2", "<GC>", "2", "7", "T@z:\\\"", "3", "8", "", "", ""] := by
    decide +kernel
  obtain ⟨e, d, -, -, hdoc, -, -, htriple, hsame⟩ := hevents 1 (by decide)
  have hcell : d.cellText h = "T@z:\\\"" := by
    have htriple' : (cells.drop 5).take 3 = _ := htriple
    rw [hcells] at htriple'
    exact (List.cons.inj htriple').1.symm
  exact ⟨hcells, hlength, values, d.document h, hvalues, hdoc, hcell ▸ hsame⟩

end SiteBuffer

end FlightRecorder
