import FlightRecorder.Proofs.SiteBuffer.Columns
import FlightRecorder.Proofs.SiteBuffer.Fullness
import FlightRecorder.Proofs.SiteBuffer.Slots

/-!
# Buffers in columns of machine words

A buffer laid out as it is in memory, in three columns and a few words, with operations
that check every step (`FlightRecorder.Proofs.SiteBuffer.Columns`). This file proves that
no check ever fails, so that words which run over and slots which are not there need
not be thought of anywhere else.

* `FlightRecorder.SiteBuffer.Layout` – the columns and the words, with the checked
  operations `FlightRecorder.SiteBuffer.Layout.add`,
  `FlightRecorder.SiteBuffer.Layout.dropOldest` and
  `FlightRecorder.SiteBuffer.Layout.ensureAtMost`;
* `FlightRecorder.SiteBuffer.Layout.Represents` – the columns are the slots of a
  buffer, part by part, and the numbers agree; each operation goes through and keeps it
  so (`FlightRecorder.SiteBuffer.Layout.Represents.perform`), and so does any number of
  them (`FlightRecorder.SiteBuffer.Layout.Represents.transcript?`);
* `FlightRecorder.SiteBuffer.Layout.Sound` – how the columns, the head, the size, the
  count and the limit fit together;
* `FlightRecorder.SiteBuffer.layout_of_run` – **any operations on a new buffer**
  without a fault.

The operations here find the memory they ask for. An addition that finds none for more
slots is refused before it writes anything (`FlightRecorder.SiteBuffer.add?`), and its
registry drops the buffer (`FlightRecorder.Registry.store`).
-/

namespace FlightRecorder

namespace SiteBuffer

open Checked

/-! ### The layout and its operations -/

/-- A buffer in memory. -/
structure Layout where
  kind : Kind
  retention : Retention
  values : Array kind.Item
  seqs : Array UInt64
  threads : Array UInt32
  /-- The slot of the oldest event. -/
  head : Nat
  /-- How many events can be read back. -/
  size : Nat
  /-- How many events were offered, less those trimmed. -/
  count : Nat
  /-- How many events may be kept. -/
  limit : Nat

namespace Layout

/-- An empty buffer. -/
def new (kind : SiteKind) (limit : Nat) (p : Retention) : Layout :=
  let limit := max limit 1
  let capacity := min Ring.initialCapacity limit
  { kind := kind.stored, retention := p
    values := Array.replicate capacity kind.stored.fill
    seqs := Array.replicate capacity 0
    threads := Array.replicate capacity 0
    head := 0, size := 0, count := 0, limit }

/-- The number of slots, counted in the column of the sequence numbers. -/
def capacity (l : Layout) : Nat :=
  l.seqs.size

/-- Bring all columns to `capacity` slots. -/
def grow (l : Layout) (capacity : Nat) : Checked Layout := do
  let values ← Checked.grow l.values l.head capacity l.kind.fill
  let seqs ← Checked.grow l.seqs l.head capacity 0
  let threads ← Checked.grow l.threads l.head capacity 0
  return { l with values, seqs, threads, head := 0 }

/-- Skip some events in all columns, keep some of those that follow, and give all
other slots back. -/
def compact (l : Layout) (skip keep : Nat) : Checked Layout := do
  let values ← Checked.compact l.values l.head skip keep
  let seqs ← Checked.compact l.seqs l.head skip keep
  let threads ← Checked.compact l.threads l.head skip keep
  return { l with values, seqs, threads, head := 0 }

/-- The slot for one more event, how many events will be gained by it, and the layout
that has that slot. -/
def makeRoom (l : Layout) : Checked (Nat × Nat × Layout) :=
  if l.size < l.capacity then do
    return (← remainder (← word (l.head + l.size)) l.capacity, 1, l)
  else if l.capacity < l.limit then do
    return (l.size, 1, ← l.grow (min (max (← word (l.capacity * 2)) 1) l.limit))
  else do
    return (l.head, 0, { l with head := ← remainder (← word (l.head + 1)) l.capacity })

/-- Write an event into a slot of all columns. -/
def put (l : Layout) (i : Nat) (e : Reading) : Checked Layout := do
  let some x := l.kind.item? l.retention e.value | throw .wrongKind
  let values ← write l.values i x
  let seqs ← write l.seqs i e.seq
  let threads ← write l.threads i e.thread
  return { l with values, seqs, threads }

/-- Offer an event. A value of another kind is refused before anything is done. -/
def add (l : Layout) (e : Reading) : Checked (Except Failure Nat × Layout) :=
  if e.value.kind = l.kind then do
    let (i, gained, roomy) ← l.makeRoom
    let filled ← roomy.put i e
    let size ← word (filled.size + gained)
    let count ← word (filled.count + 1)
    return (.ok gained, { filled with size, count })
  else .ok (.error (.kindMismatch l.kind e.value.kind), l)

/-- Trim the `n` oldest events, or all if there are fewer. -/
def dropOldest (l : Layout) (n : Nat) : Checked (Nat × Layout) :=
  if min n l.size = 0 then .ok (0, l)
  else do
    let keep ← difference l.size (min n l.size)
    let compacted ← l.compact (min n l.size) keep
    let count ← difference l.count (min n l.size)
    let limit ← difference l.limit (min n l.size)
    return (min n l.size, { compacted with size := keep, count, limit := max limit 1 })

/-- Trim what is beyond a bound. -/
def trimTo (l : Layout) (bound : Nat) : Checked (Nat × Layout) :=
  if bound < l.size then do l.dropOldest (← difference l.size bound) else .ok (0, l)

/-- Lower the limit of a layout with no more events than that. -/
def lowerLimit (l : Layout) (bound : Nat) : Checked Layout :=
  if bound < l.limit then
    if bound < l.capacity then do
      return { ← l.compact 0 l.size with limit := bound }
    else .ok { l with limit := bound }
  else .ok l

/-- Trim down to at most `bound` events, and keep no more than that from now on. A
bound of zero is taken for one. -/
def ensureAtMost (l : Layout) (bound : Nat) : Checked (Nat × Layout) := do
  let (removed, trimmed) ← l.trimTo (max bound 1)
  return (removed, ← trimmed.lowerLimit (max bound 1))

/-- One operation and its answer. -/
def perform (l : Layout) : Op → Checked (Except Failure Nat × Layout)
  | .add e => l.add e
  | .dropOldest n => do
    let (removed, left) ← l.dropOldest n
    return (.ok removed, left)
  | .ensureAtMost bound => do
    let (removed, left) ← l.ensureAtMost bound
    return (.ok removed, left)

/-- Several operations and their answers. -/
def transcript? (l : Layout) : List Op → Checked (List (Except Failure Nat) × Layout)
  | [] => .ok ([], l)
  | op :: rest => do
    let (answer, next) ← l.perform op
    let (answers, last) ← next.transcript? rest
    return (answer :: answers, last)

/-- The `i`-th event as it reads back, the oldest being the zeroth. -/
def record? (l : Layout) (c : Heap.Census) (i : Nat) : Checked (Option Reading) :=
  if i < l.size then do
    let slot ← remainder (← word (l.head + i)) l.capacity
    let value ← read l.values slot
    let seq ← read l.seqs slot
    let thread ← read l.threads slot
    return some ⟨(l.kind.cell value).load c, seq, thread⟩
  else .ok none

end Layout

/-! ### What operations keep -/

variable {b : SiteBuffer}

/-- **The invariant**: well-formed buffers with blank slots, and not too many of them,
to spare. -/
structure Fit (b : SiteBuffer) : Prop where
  wellFormed : b.WellFormed
  tidy : b.Tidy
  snug : b.ring.Snug

theorem fit_new (kind : SiteKind) (limit : Nat) (p : Retention) : (new kind limit p).Fit :=
  ⟨wellFormed_new kind limit p, tidy_new kind limit p, Ring.snug_new _ _⟩

/-- **One operation** keeps a buffer fit. -/
theorem Fit.perform (h : b.Fit) (op : Op) : (b.perform op).2.Fit := by
  cases op with
  | add e =>
    rw [perform_add]
    split_ifs
    · exact ⟨h.wellFormed.push e, h.tidy.push h.wellFormed e, h.snug.push h.wellFormed _⟩
    · exact h
  | dropOldest n =>
    exact ⟨h.wellFormed.dropOldest n, h.tidy.dropOldest h.wellFormed n,
      h.snug.dropOldest h.wellFormed n⟩
  | ensureAtMost bound =>
    exact ⟨h.wellFormed.ensureAtMost bound, h.tidy.ensureAtMost h.wellFormed bound,
      (h.snug.dropOldest h.wellFormed _).lowerLimit (Ring.WellFormed.dropOldest h.wellFormed _) _⟩

/-- Whether an operation offers an event. -/
def Op.isAdd : Op → Bool
  | .add _ => true
  | _ => false

/-! ### A buffer and its layout -/

namespace Layout

variable {l : Layout}

/-- **The layout of a buffer**: the columns hold the slots, each its part of them, and
the numbers are the same. -/
structure Represents (l : Layout) (b : SiteBuffer) : Prop where
  kind : l.kind = b.kind
  retention : l.retention = b.retention
  values : ColumnOf l.kind.cell Event.cell l.values b.ring.slots
  seqs : ColumnOf id Event.seq l.seqs b.ring.slots
  threads : ColumnOf id Event.thread l.threads b.ring.slots
  head : l.head = b.ring.head
  size : l.size = b.size
  count : l.count = b.count
  limit : l.limit = b.limit

theorem represents_new (kind : SiteKind) (limit : Nat) (p : Retention) :
    (new kind limit p).Represents (SiteBuffer.new kind limit p) :=
  ⟨rfl, rfl, .replicate (Kind.cell_fill _) _,
    .replicate (show id 0 = (Event.blank kind.stored).seq from rfl) _,
    .replicate (show id 0 = (Event.blank kind.stored).thread from rfl) _, rfl, rfl, rfl, rfl⟩

/-! The three ways to make room, each as far as it goes through. -/

theorem makeRoom_of_free (hfree : l.size < l.capacity) (hword : l.head + l.size < wordSize) :
    l.makeRoom = .ok ((l.head + l.size) % l.capacity, 1, l) := by
  rw [makeRoom, if_pos hfree, word_of_lt hword, ok_bind, remainder_of_pos (Nat.zero_lt_of_lt hfree)]
  rfl

theorem makeRoom_of_growing {roomy : Layout} (hfull : l.capacity ≤ l.size)
    (hgrow : l.capacity < l.limit) (hword : l.capacity * 2 < wordSize)
    (hroomy : l.grow (min (max (l.capacity * 2) 1) l.limit) = .ok roomy) :
    l.makeRoom = .ok (l.size, 1, roomy) := by
  rw [makeRoom, if_neg hfull.not_gt, if_pos hgrow, word_of_lt hword, ok_bind, hroomy]
  rfl

theorem makeRoom_of_full (hfull : l.capacity ≤ l.size) (hlimit : l.limit ≤ l.capacity)
    (hword : l.head + 1 < wordSize) (hpos : 0 < l.capacity) :
    l.makeRoom = .ok (l.head, 0, { l with head := (l.head + 1) % l.capacity }) := by
  rw [makeRoom, if_neg hfull.not_gt, if_neg hlimit.not_gt, word_of_lt hword, ok_bind,
    remainder_of_pos hpos]
  rfl

namespace Represents

theorem capacity (h : l.Represents b) : l.capacity = b.capacity :=
  h.seqs.size_eq

theorem grow (h : l.Represents b) (hb : b.Fit) {n : Nat} (hle : b.capacity ≤ n) :
    ∃ l', l.grow n = .ok l' ∧ l'.Represents { b with ring := b.ring.grow n } := by
  have hhead : l.head ≤ b.ring.slots.size := h.head ▸ Ring.WellFormed.head_le_capacity hb.wellFormed
  have hblank : l.kind.cell l.kind.fill = b.ring.blank.cell := by
    rw [Kind.cell_fill, h.kind, hb.tidy.blank]
  have hseq : id 0 = b.ring.blank.seq := by rw [hb.tidy.blank]; rfl
  have hthread : id 0 = b.ring.blank.thread := by rw [hb.tidy.blank]; rfl
  obtain ⟨values, hvalues, hvalues'⟩ := h.values.grow hhead hle hblank
  obtain ⟨seqs, hseqs, hseqs'⟩ := h.seqs.grow hhead hle hseq
  obtain ⟨threads, hthreads, hthreads'⟩ := h.threads.grow hhead hle hthread
  rw [h.head] at hvalues' hseqs' hthreads'
  refine ⟨{ l with values, seqs, threads, head := 0 }, ?_,
    { h with values := hvalues', seqs := hseqs', threads := hthreads', head := rfl }⟩
  rw [Layout.grow, hvalues, ok_bind, hseqs, ok_bind, hthreads, ok_bind]
  rfl

theorem compact (h : l.Represents b) (hb : b.WellFormed) {skip : Nat} (hskip : skip ≤ b.capacity)
    (keep : Nat) :
    ∃ l', l.compact skip keep = .ok l' ∧
      l'.Represents { b with ring := b.ring.compact skip keep } := by
  have hhead : l.head ≤ b.ring.slots.size := h.head ▸ Ring.WellFormed.head_le_capacity hb
  obtain ⟨values, hvalues, hvalues'⟩ := h.values.compact hhead hskip keep
  obtain ⟨seqs, hseqs, hseqs'⟩ := h.seqs.compact hhead hskip keep
  obtain ⟨threads, hthreads, hthreads'⟩ := h.threads.compact hhead hskip keep
  rw [h.head] at hvalues' hseqs' hthreads'
  refine ⟨{ l with values, seqs, threads, head := 0 }, ?_,
    { h with values := hvalues', seqs := hseqs', threads := hthreads', head := rfl }⟩
  rw [Layout.compact, hvalues, ok_bind, hseqs, ok_bind, hthreads, ok_bind]
  rfl

/-- Writing an event of the right kind writes all its parts. -/
theorem put (h : l.Represents b) {i : Nat} (hi : i < b.capacity) {e : Reading}
    (he : e.value.kind = b.kind) :
    ∃ l', l.put i e = .ok l' ∧ l'.Represents { b with
      ring := { b.ring with slots := b.ring.slots.setIfInBounds i (e.store b.retention) } } := by
  obtain ⟨x, hx, hcell⟩ := Kind.exists_item? l.retention (he.trans h.kind.symm)
  rw [h.retention] at hcell
  obtain ⟨values, hvalues, hvalues'⟩ := h.values.write hi (a := e.store b.retention) hcell
  obtain ⟨seqs, hseqs, hseqs'⟩ := h.seqs.write hi (x := e.seq) (a := e.store b.retention) rfl
  obtain ⟨threads, hthreads, hthreads'⟩ :=
    h.threads.write hi (x := e.thread) (a := e.store b.retention) rfl
  refine ⟨{ l with values, seqs, threads }, ?_,
    { h with values := hvalues', seqs := hseqs', threads := hthreads' }⟩
  rw [Layout.put, hx]
  simp only [hvalues, hseqs, hthreads, ok_bind]
  rfl

/-- The numbers of slots and items are words, and so is the sum of any two of them. -/
theorem lt_wordSize {b : SiteBuffer} (hslots : b.capacity < Nat.pow 2 63) {m n : Nat}
    (hm : m ≤ b.capacity) (hn : n ≤ b.capacity) : m + n < wordSize := by
  have hword : wordSize = Nat.pow 2 63 + Nat.pow 2 63 := rfl
  omega

/-- **The slot for an event that is accepted**: there is one, and writing the event
there is what storing it comes to. -/
theorem makeRoom (h : l.Represents b) (hb : b.Fit) (hslots : b.capacity < Nat.pow 2 63)
    (e : Reading) :
    ∃ i gained roomy r, l.makeRoom = .ok (i, gained, roomy) ∧
      roomy.Represents { b with ring := r } ∧ i < r.capacity ∧ r.size = b.size ∧
      r.count = b.count ∧
      b.push e = { b with ring := { r with
        slots := r.slots.setIfInBounds i (e.store b.retention)
        size := r.size + gained, count := r.count + 1 } } := by
  have hcapacity := h.capacity
  have hsize : b.size ≤ b.capacity := Ring.WellFormed.size_le_capacity hb.wellFormed
  have hhead : b.ring.head ≤ b.capacity := Ring.WellFormed.head_le_capacity hb.wellFormed
  have hpush : b.push e = { b with ring := b.ring.push (e.store b.retention) } := rfl
  have hlsize := h.size
  have hllimit := h.limit
  have hlhead := h.head
  rw [hpush, Ring.push]
  split_ifs with hfree hgrow
  · have hpos : 0 < b.capacity := lt_of_le_of_lt (Nat.zero_le _) hfree
    have hroom := makeRoom_of_free (l := l) (by rw [hlsize, hcapacity]; exact hfree)
      (by rw [hlhead, hlsize]; exact lt_wordSize hslots hhead hsize)
    rw [hlhead, hlsize, hcapacity] at hroom
    exact ⟨_, 1, l, b.ring, hroom, h, Nat.mod_lt _ hpos, rfl, rfl, rfl⟩
  · have hle : b.capacity ≤ min (max (b.capacity * 2) 1) b.limit := by
      have : b.capacity < b.limit := hgrow
      omega
    obtain ⟨roomy, hroomy, hrepresents⟩ := h.grow hb hle
    have hdouble := lt_wordSize hslots (le_refl b.capacity) (le_refl b.capacity)
    have hfull : l.capacity ≤ l.size := by rw [hcapacity, hlsize]; exact Nat.le_of_not_lt hfree
    have hroom := makeRoom_of_growing hfull
      (by rw [hcapacity, hllimit]; exact hgrow) (by rw [hcapacity]; omega)
      (by rw [hcapacity, hllimit]; exact hroomy)
    have hgrown := Ring.capacity_grow hb.wellFormed hle
    refine ⟨_, 1, roomy, _, hroom, hrepresents, ?_, rfl, rfl, ?_⟩
    · have : b.capacity < b.limit := hgrow
      rw [hgrown, hlsize]
      omega
    · rw [hlsize]
      rfl
  · have hpos : 0 < b.capacity := by
      have : 0 < b.limit := hb.wellFormed.limit_pos
      have : ¬b.capacity < b.limit := hgrow
      omega
    have hfull : l.capacity ≤ l.size := by rw [hcapacity, hlsize]; exact Nat.le_of_not_lt hfree
    have hroom := makeRoom_of_full hfull
      (by rw [hcapacity, hllimit]; exact Nat.le_of_not_lt hgrow)
      (by rw [hlhead]; exact lt_wordSize hslots hhead hpos) (by rw [hcapacity]; exact hpos)
    refine ⟨_, 0, _, { b.ring with head := (b.ring.head + 1) % b.ring.capacity }, hroom, ?_,
      ?_, rfl, rfl, ?_⟩
    · exact { h with head := by rw [hlhead, hcapacity]; rfl }
    · rw [hlhead]
      exact Ring.WellFormed.head_lt hb.wellFormed hpos
    · rw [hlhead]
      rfl

/-- **Adding** goes through, and is what storing comes to. -/
theorem add (h : l.Represents b) (hb : b.Fit) (hslots : b.capacity < Nat.pow 2 63) {e : Reading}
    (hcount : b.count + 1 < wordSize) :
    ∃ l', l.add e = .ok ((b.perform (.add e)).1, l') ∧
      l'.Represents (b.perform (.add e)).2 := by
  rw [perform_add]
  by_cases he : e.value.kind = b.kind
  · obtain ⟨i, gained, roomy, r, hroom, hroomy, hi, hsize, hcounted, hpush⟩ :=
      h.makeRoom hb hslots e
    obtain ⟨filled, hfilled, hwritten⟩ := hroomy.put hi he
    have hpushed : (b.push e).size = b.size + gained := by
      rw [hpush]
      exact congrArg (· + gained) hsize
    have hgained : (b.push e).size - b.size = gained := by omega
    have hfits : filled.size + gained < wordSize := by
      have hle := size_push hb.wellFormed e
      have hcapacity : b.size ≤ b.capacity := Ring.WellFormed.size_le_capacity hb.wellFormed
      have hword : wordSize = Nat.pow 2 63 + Nat.pow 2 63 := rfl
      have hsame : filled.size = b.size := hwritten.size.trans hsize
      omega
    have hcounts : filled.count + 1 < wordSize := by
      have hsame : filled.count = b.count := hwritten.count.trans hcounted
      rwa [hsame]
    refine ⟨{ filled with size := filled.size + gained, count := filled.count + 1 }, ?_, ?_⟩
    · rw [Layout.add, if_pos (he.trans h.kind.symm), hroom, ok_bind]
      simp only [hfilled, ok_bind, word_of_lt hfits, word_of_lt hcounts, if_pos he, hgained]
      rfl
    · rw [if_pos he, hpush]
      exact { hwritten with
        size := congrArg (· + gained) hwritten.size
        count := congrArg (· + 1) hwritten.count }
  · have hl : ¬e.value.kind = l.kind := h.kind ▸ he
    exact ⟨l, by rw [Layout.add, if_neg hl, if_neg he, h.kind], by rw [if_neg he]; exact h⟩

/-- **Trimming** goes through: no more events are counted, kept or allowed for than
there are. -/
theorem dropOldest (h : l.Represents b) (hb : b.WellFormed) (n : Nat) :
    ∃ l', l.dropOldest n = .ok (min n b.size, l') ∧ l'.Represents (b.dropOldest n) := by
  have hsize : b.size ≤ b.capacity := Ring.WellFormed.size_le_capacity hb
  rw [Layout.dropOldest, h.size, h.count, h.limit]
  rcases Nat.eq_zero_or_pos (min n b.size) with hzero | hpos
  · rw [if_pos hzero, hzero, SiteBuffer.dropOldest, Ring.dropOldest_of_eq_zero hzero]
    exact ⟨l, rfl, h⟩
  · have hcount := hb.size_le_count
    have hlimit := hb.size_le_limit
    obtain ⟨compacted, hcompacted, hrepresents⟩ :=
      h.compact hb (show min n b.size ≤ b.capacity by omega) (b.size - min n b.size)
    refine ⟨{ compacted with
      size := b.size - min n b.size, count := b.count - min n b.size
      limit := max (b.limit - min n b.size) 1 }, ?_, ?_⟩
    · rw [if_neg hpos.ne', difference_of_le (by omega), ok_bind, hcompacted, ok_bind,
        difference_of_le (by omega), ok_bind, difference_of_le (by omega)]
      rfl
    · rw [SiteBuffer.dropOldest, Ring.dropOldest_of_pos hpos]
      exact { hrepresents with size := rfl, count := rfl, limit := rfl }

/-- Where there is nothing beyond the bound, trimming that much does nothing. -/
theorem trimTo (h : l.Represents b) (hb : b.WellFormed) (bound : Nat) :
    ∃ l', l.trimTo bound = .ok (b.size - bound, l') ∧
      l'.Represents (b.dropOldest (b.size - bound)) := by
  rw [Layout.trimTo, h.size]
  by_cases hmore : bound < b.size
  · obtain ⟨trimmed, htrimmed, hrepresents⟩ := h.dropOldest hb (b.size - bound)
    rw [Nat.min_eq_left (Nat.sub_le _ _)] at htrimmed
    refine ⟨trimmed, ?_, hrepresents⟩
    rw [if_pos hmore, difference_of_le hmore.le, ok_bind, htrimmed]
  · have hnone : b.size - bound = 0 := by omega
    rw [if_neg hmore, hnone, SiteBuffer.dropOldest, Ring.dropOldest_of_eq_zero (Nat.zero_min _)]
    exact ⟨l, rfl, h⟩

theorem lowerLimit (h : l.Represents b) (hb : b.WellFormed) (bound : Nat) :
    ∃ l', l.lowerLimit bound = .ok l' ∧
      l'.Represents { b with ring := b.ring.lowerLimit bound } := by
  have hcapacity := h.capacity
  rw [Layout.lowerLimit, Ring.lowerLimit, h.limit, hcapacity]
  by_cases hlower : bound < b.limit
  · rw [if_pos hlower, if_pos (show bound < b.ring.limit from hlower)]
    by_cases hfewer : bound < b.capacity
    · obtain ⟨compacted, hcompacted, hrepresents⟩ := h.compact hb (Nat.zero_le _) b.size
      rw [if_pos hfewer, if_pos (show bound < b.ring.capacity from hfewer), h.size, hcompacted]
      exact ⟨_, rfl, { hrepresents with limit := rfl }⟩
    · rw [if_neg hfewer, if_neg (show ¬bound < b.ring.capacity from hfewer)]
      exact ⟨_, rfl, { h with limit := rfl }⟩
  · rw [if_neg hlower, if_neg (show ¬bound < b.ring.limit from hlower)]
    exact ⟨l, rfl, h⟩

/-- **Bounding** goes through: it is trimming and lowering the limit. -/
theorem ensureAtMost (h : l.Represents b) (hb : b.WellFormed) (bound : Nat) :
    ∃ l', l.ensureAtMost bound = .ok (b.size - max bound 1, l') ∧
      l'.Represents (b.ensureAtMost bound) := by
  obtain ⟨trimmed, htrimmed, hrepresents⟩ := h.trimTo hb (max bound 1)
  obtain ⟨lowered, hlowered, hbounded⟩ :=
    hrepresents.lowerLimit (hb.dropOldest _) (max bound 1)
  refine ⟨lowered, ?_, hbounded⟩
  rw [Layout.ensureAtMost, htrimmed, ok_bind]
  simp only [hlowered, ok_bind]
  rfl

/-- **One operation** goes through: the answer is that of the buffer, and the layout is
that of the buffer after it. -/
theorem perform (h : l.Represents b) (hb : b.Fit) (hslots : b.capacity < Nat.pow 2 63) (op : Op)
    (hcount : b.count + [op].countP Op.isAdd < wordSize) :
    ∃ l', l.perform op = .ok ((b.perform op).1, l') ∧ l'.Represents (b.perform op).2 := by
  cases op with
  | add e => exact h.add hb hslots hcount
  | dropOldest n =>
    obtain ⟨left, hleft, hrepresents⟩ := h.dropOldest hb.wellFormed n
    have hanswer : b.size - (b.dropOldest n).size = min n b.size := by
      rw [size_dropOldest]
      omega
    refine ⟨left, ?_, hrepresents⟩
    rw [Layout.perform, SiteBuffer.perform, hleft, hanswer]
    rfl
  | ensureAtMost bound =>
    obtain ⟨left, hleft, hrepresents⟩ := h.ensureAtMost hb.wellFormed bound
    have hanswer : b.size - (b.ensureAtMost bound).size = b.size - max bound 1 := by
      rw [size_ensureAtMost]
      omega
    refine ⟨left, ?_, hrepresents⟩
    rw [Layout.perform, SiteBuffer.perform, hleft, hanswer]
    rfl

/-- No operation counts more than the event that it offers. -/
theorem count_perform_le (b : SiteBuffer) (op : Op) :
    (b.perform op).2.count ≤ b.count + [op].countP Op.isAdd := by
  cases op with
  | add e =>
    rw [perform_add]
    split_ifs
    · exact (count_push b e).le
    · exact Nat.le_add_right _ _
  | dropOldest n => exact (count_dropOldest b n).trans_le (Nat.sub_le _ _)
  | ensureAtMost bound => exact (count_ensureAtMost b bound).trans_le (Nat.sub_le _ _)

/-- **Any operations** go through, by induction on them, as long as the slots and the
events that were offered can be counted. -/
theorem transcript? (h : l.Represents b) (hb : b.Fit) (ops : List Op)
    (hslots : ∀ before, before <+: ops → (b.after before).capacity < Nat.pow 2 63)
    (hcount : b.count + ops.countP Op.isAdd < wordSize) :
    ∃ l', l.transcript? ops = .ok ((transcript SiteBuffer.perform b ops).1, l') ∧
      l'.Represents (b.after ops) ∧ (b.after ops).Fit := by
  induction ops generalizing l b with
  | nil => exact ⟨l, rfl, h, hb⟩
  | cons op rest ih =>
    have hsplit : (op :: rest).countP Op.isAdd = [op].countP Op.isAdd + rest.countP Op.isAdd := by
      rw [← List.singleton_append, List.countP_append]
    have hnow := hslots [] (List.nil_prefix)
    obtain ⟨next, hnext, hrepresents⟩ := h.perform hb hnow op (by omega)
    have hle := count_perform_le b op
    obtain ⟨last, hlast, hfinal, hfit⟩ := ih hrepresents (hb.perform op)
      (fun before hbefore => hslots (op :: before) (List.cons_prefix_cons.mpr ⟨rfl, hbefore⟩))
      (by omega)
    refine ⟨last, ?_, hfinal, hfit⟩
    rw [Layout.transcript?, hnext, ok_bind]
    simp only [hlast, ok_bind]
    rfl

/-- **Reading** goes through, for every place. -/
theorem record? (h : l.Represents b) (hb : b.WellFormed) (hslots : b.capacity < Nat.pow 2 63)
    (c : Heap.Census) (i : Nat) : l.record? c i = .ok (b.record? c i) := by
  have hsize : b.size ≤ b.capacity := Ring.WellFormed.size_le_capacity hb
  have hhead : b.ring.head ≤ b.capacity := Ring.WellFormed.head_le_capacity hb
  rw [Layout.record?, SiteBuffer.record?, Ring.get?, h.size, h.head, h.capacity]
  by_cases hi : i < b.size
  · have hpos : 0 < b.capacity := by omega
    have hslot : b.ring.slotOf i < b.ring.slots.size := Nat.mod_lt _ hpos
    obtain ⟨value, hvalue, hcell⟩ := h.values.getElem? hslot
    obtain ⟨seq, hseq, hseq'⟩ := h.seqs.getElem? hslot
    obtain ⟨thread, hthread, hthread'⟩ := h.threads.getElem? hslot
    rw [id_eq] at hseq' hthread'
    have hremainder : remainder (b.ring.head + i) b.capacity = .ok (b.ring.slotOf i) :=
      remainder_of_pos hpos
    rw [if_pos hi, if_pos (show i < b.ring.size from hi),
      word_of_lt (lt_wordSize hslots hhead (hi.le.trans hsize)), ok_bind, hremainder, ok_bind,
      read_of_getElem? hvalue, ok_bind, read_of_getElem? hseq, ok_bind, read_of_getElem? hthread,
      ok_bind, hcell, hseq', hthread',
      Array.getD_eq_getD_getElem?, Array.getElem?_eq_getElem hslot]
    rfl
  · rw [if_neg hi, if_neg (show ¬i < b.ring.size from hi)]
    rfl

end Represents

/-! ### How the parts of a layout fit together -/

/-- **Sound layouts.** -/
structure Sound (l : Layout) : Prop where
  size_values : l.values.size = l.capacity
  size_threads : l.threads.size = l.capacity
  size_le_capacity : l.size ≤ l.capacity
  capacity_le_limit : l.capacity ≤ l.limit
  limit_pos : 1 ≤ l.limit
  /-- There are no more slots than a new buffer has, or than twice the events. -/
  capacity_le : l.capacity ≤ max 32 (2 * l.size)
  size_le_count : l.size ≤ l.count
  /-- The head moves only once every slot there may be is taken. -/
  head_eq_zero : ¬(l.size = l.capacity ∧ l.capacity = l.limit) → l.head = 0
  head_lt : 0 < l.capacity → l.head < l.capacity
  /-- What is no slot of an event is blank in all columns. -/
  blank : ∀ j < l.capacity, (∀ i < l.size, (l.head + i) % l.capacity ≠ j) →
    l.values[j]? = some l.kind.fill ∧ l.seqs[j]? = some 0 ∧ l.threads[j]? = some 0

/-- The layout of a fit buffer is sound. -/
theorem Represents.sound (h : l.Represents b) (hb : b.Fit) : l.Sound := by
  have hcapacity := h.capacity
  have hwell : b.ring.WellFormed := hb.wellFormed
  refine ⟨h.values.size_eq.trans hcapacity.symm, h.threads.size_eq.trans hcapacity.symm, ?_, ?_, ?_,
    ?_, ?_, fun hmore => ?_, fun hpos => ?_, fun j hj hspare => ?_⟩
  · rw [h.size, hcapacity]
    exact hwell.size_le_capacity
  · rw [hcapacity, h.limit]
    exact hwell.capacity_le_limit
  · rw [h.limit]
    exact hwell.limit_pos
  · rw [hcapacity, h.size]
    exact hb.snug
  · rw [h.size, h.count]
    exact hwell.size_le_count
  · rw [h.head]
    rw [h.size, hcapacity, h.limit] at hmore
    exact hwell.head_eq_zero.resolve_right hmore
  · rw [hcapacity] at hpos ⊢
    rw [h.head]
    exact hwell.head_lt hpos
  · rw [hcapacity] at hj
    have hblank : b.ring.slots[j] = Event.blank b.kind := by
      rw [← hb.tidy.blank]
      refine hb.tidy.ring.getElem_eq_blank hwell hj fun i hi => ?_
      rw [h.head, hcapacity] at hspare
      exact hspare i (h.size.symm ▸ hi)
    obtain ⟨value, hvalue, hcell⟩ := h.values.getElem? hj
    obtain ⟨seq, hseq, hseq'⟩ := h.seqs.getElem? hj
    obtain ⟨thread, hthread, hthread'⟩ := h.threads.getElem? hj
    rw [hblank, ← h.kind, ← Kind.cell_fill] at hcell
    rw [hblank, id_eq] at hseq' hthread'
    exact ⟨Kind.cell_injective _ hcell ▸ hvalue, hseq.trans (congrArg some hseq'),
      hthread.trans (congrArg some hthread')⟩

end Layout

/-- **A buffer in columns of words never faults.** Whatever its kind, its limit and its
retention policy, and whatever is done to a new buffer – events of any kind offered, any
number of them trimmed, any bound set –, while it has fewer than `2 ^ 63` slots and fewer
than `2 ^ 64` events are offered: no sum and no product runs over, no difference is below
zero, no remainder is by zero, no slot, rotation or cut is beyond the end of a column, and
no value meets a column of another kind. The answers are those of the buffer, its layout
is sound at the end, and every event reads back from it as from the buffer. -/
theorem layout_of_run (kind : SiteKind) (limit : Nat) (p : Retention) (ops : List Op)
    (hslots : ∀ before, before <+: ops →
      ((new kind limit p).after before).capacity < Nat.pow 2 63)
    (hadds : ops.countP Op.isAdd < Nat.pow 2 64) :
    let b := (new kind limit p).after ops
    ∃ l, (Layout.new kind limit p).transcript? ops =
        .ok ((transcript perform (new kind limit p) ops).1, l) ∧
      l.Represents b ∧ l.Sound ∧ ∀ c i, l.record? c i = .ok (b.record? c i) := by
  intro b
  have hcount : (new kind limit p).count + ops.countP Op.isAdd < wordSize := by
    have hnone : (new kind limit p).count = 0 := rfl
    rw [hnone, Nat.zero_add]
    exact hadds
  obtain ⟨l, hrun, hrepresents, hfit⟩ :=
    (Layout.represents_new kind limit p).transcript? (fit_new kind limit p) ops hslots hcount
  exact ⟨l, hrun, hrepresents, hrepresents.sound hfit,
    hrepresents.record? hfit.wellFormed (hslots ops List.prefix_rfl)⟩

/-- A buffer for two integers that overwrites one, refuses a value of another kind, is
trimmed to nothing, grows anew and is bounded. -/
theorem layout_of_run_overwriting :
    let ops : List Op := [.add ⟨.int 1, 0, 0⟩, .add ⟨.boolean true, 1, 0⟩, .add ⟨.int 2, 1, 0⟩,
      .add ⟨.int 3, 2, 1⟩, .dropOldest 5, .add ⟨.int 4, 3, 0⟩, .ensureAtMost 0]
    (∀ before, before <+: ops →
        ((new (.of .int) 2 .strong).after before).capacity < Nat.pow 2 63) ∧
      ops.countP Op.isAdd < Nat.pow 2 64 ∧
      ∃ l, (Layout.new (.of .int) 2 .strong).transcript? ops =
          .ok ([.ok 1, .error (.kindMismatch .int .boolean), .ok 1, .ok 0, .ok 2, .ok 1, .ok 0],
            l) ∧
        l.Sound ∧ ∀ c, l.record? c 0 = .ok (some ⟨.int 4, 3, 0⟩) := by
  intro ops
  have hslots : ∀ before ∈ ops.inits,
      ((new (.of .int) 2 .strong).after before).capacity < Nat.pow 2 63 := by decide
  have hslots' : ∀ before, before <+: ops →
      ((new (.of .int) 2 .strong).after before).capacity < Nat.pow 2 63 :=
    fun before hbefore => hslots before ((List.mem_inits _ _).mpr hbefore)
  have hadds : ops.countP Op.isAdd < Nat.pow 2 64 := by decide
  obtain ⟨l, hrun, -, hsound, hread⟩ := layout_of_run (.of .int) 2 .strong ops hslots' hadds
  exact ⟨hslots', hadds, l, hrun, hsound, fun c => hread c 0⟩

end SiteBuffer

end FlightRecorder
