import FlightRecorder.Proofs.SiteBuffer.Events

/-!
# Buffers are bounded queues

Seen from outside, the buffer of a site is nothing but a queue of events with a
limit and a counter. This file says what such a queue is, without slots, heads
or doublings, lets both of them carry out the same operations, and proves that no
sequence of operations tells them apart.

| operation | on the queue | answer |
|---|---|---|
| add | append; at the limit, drop the oldest item first; count one more | 1, or 0 at the limit |
| trim `n` | drop `r = min n length`; limit and count fall by `r` | `r` |
| bound to `m` | drop `r = length - m`; the limit is at most `m`, the count falls by `r` | `r` |

* `FlightRecorder.BoundedQueue` – the queue; its limit is never below one, and
  there are never more items than the limit or the count;
* `FlightRecorder.SiteBuffer.Represents` – the simulation relation;
* `FlightRecorder.SiteBuffer.transcript_eq_queue` – the theorem: the same answers
  after every operation, and the same events, sizes, counts and limits.
-/

namespace FlightRecorder

/-! ### Queues with a limit -/

/-- A queue of items, the oldest first. -/
structure BoundedQueue (α : Type) where
  items : List α
  limit : Nat
  /-- How many items were ever appended, less those trimmed. -/
  count : Nat
  limit_pos : 0 < limit
  length_le_limit : items.length ≤ limit
  length_le_count : items.length ≤ count

namespace BoundedQueue

variable {α : Type}

theorem max_one_pos (limit : Nat) : 0 < max limit 1 :=
  lt_of_lt_of_le Nat.one_pos (Nat.le_max_right limit 1)

/-- An empty queue. A limit of zero is taken for one. -/
def new (limit : Nat) : BoundedQueue α where
  items := []
  limit := max limit 1
  count := 0
  limit_pos := max_one_pos limit
  length_le_limit := Nat.zero_le _
  length_le_count := Nat.zero_le _

/-- Append an item, dropping the oldest where the limit is reached. -/
def push (q : BoundedQueue α) (a : α) : BoundedQueue α where
  items := (if q.items.length = q.limit then q.items.tail else q.items) ++ [a]
  limit := q.limit
  count := q.count + 1
  limit_pos := q.limit_pos
  length_le_limit := by
    have := q.limit_pos
    have := q.length_le_limit
    split_ifs <;> simp <;> omega
  length_le_count := by
    have := q.length_le_count
    split_ifs <;> simp
    · omega
    · omega

/-- How many more items there are after one is appended. -/
def gain (q : BoundedQueue α) : Nat :=
  if q.items.length = q.limit then 0 else 1

/-- How many items there are to drop where `n` are asked for. -/
def excess (q : BoundedQueue α) (n : Nat) : Nat :=
  min n q.items.length

/-- Drop the `n` oldest items, and lower the limit and the count by as many as
there were. -/
def dropOldest (q : BoundedQueue α) (n : Nat) : BoundedQueue α where
  items := q.items.drop (q.excess n)
  limit := max (q.limit - q.excess n) 1
  count := q.count - q.excess n
  limit_pos := by omega
  length_le_limit := by
    have := q.length_le_limit
    rw [List.length_drop]
    omega
  length_le_count := by
    have := q.length_le_count
    rw [List.length_drop]
    omega

/-- How many items are beyond a bound; a bound of zero is taken for one. -/
def beyond (q : BoundedQueue α) (bound : Nat) : Nat :=
  q.items.length - max bound 1

/-- Drop the oldest items beyond a bound, and let the limit be no more than
that. -/
def ensureAtMost (q : BoundedQueue α) (bound : Nat) : BoundedQueue α where
  items := q.items.drop (q.beyond bound)
  limit := min q.limit (max bound 1)
  count := q.count - q.beyond bound
  limit_pos := by
    have := q.limit_pos
    omega
  length_le_limit := by
    have := q.length_le_limit
    rw [List.length_drop, beyond]
    omega
  length_le_count := by
    have := q.length_le_count
    rw [List.length_drop]
    omega

end BoundedQueue

/-! ### Operations and their answers -/

/-- Let a system answer several inputs, one after the other: the answers, and the
state it ends in. -/
def transcript {σ ι β : Type} (step : σ → ι → β × σ) : σ → List ι → List β × σ
  | s, [] => ([], s)
  | s, i :: rest =>
    let (answer, next) := step s i
    let (answers, last) := transcript step next rest
    (answer :: answers, last)

namespace SiteBuffer

/-- What can be done to a buffer. -/
inductive Op where
  | add (e : Reading)
  | dropOldest (n : Nat)
  | ensureAtMost (bound : Nat)

/-- An operation on a buffer. The answer is the number of events gained or
removed; a value of another kind than the buffer's is refused. -/
def perform (b : SiteBuffer) : Op → Except Failure Nat × SiteBuffer
  | .add e =>
    match b.add? e.value e.seq e.thread with
    | .ok after => (.ok (after.size - b.size), after)
    | .error f => (.error f, b)
  | .dropOldest n => (.ok (b.size - (b.dropOldest n).size), b.dropOldest n)
  | .ensureAtMost bound => (.ok (b.size - (b.ensureAtMost bound).size), b.ensureAtMost bound)

theorem perform_add (b : SiteBuffer) (e : Reading) :
    b.perform (.add e) =
      if e.value.kind = b.kind then (.ok ((b.push e).size - b.size), b.push e)
      else (.error (.kindMismatch b.kind e.value.kind), b) := by
  rw [perform, add?_eq]
  split_ifs <;> rfl

end SiteBuffer

/-- The same operation on a queue of events of one kind. -/
def BoundedQueue.perform (kind : Kind) (q : BoundedQueue Reading) :
    SiteBuffer.Op → Except Failure Nat × BoundedQueue Reading
  | .add e =>
    if e.value.kind = kind then (.ok q.gain, q.push e)
    else (.error (.kindMismatch kind e.value.kind), q)
  | .dropOldest n => (.ok (q.excess n), q.dropOldest n)
  | .ensureAtMost bound => (.ok (q.beyond bound), q.ensureAtMost bound)

/-! ### The simulation -/

namespace SiteBuffer

/-- **The simulation relation**: the buffer holds the items of the queue, in the
form in which they are stored, and the numbers agree. -/
structure Represents (b : SiteBuffer) (q : BoundedQueue Reading) : Prop where
  wellFormed : b.WellFormed
  events : b.events = q.items.map (·.store b.retention)
  limit : b.limit = q.limit
  count : b.count = q.count

section Simulation

variable {b : SiteBuffer} {q : BoundedQueue Reading}

theorem represents_new (kind : SiteKind) (limit : Nat) (p : Retention) :
    (new kind limit p).Represents (.new limit) :=
  ⟨wellFormed_new kind limit p, rfl, rfl, rfl⟩

theorem Represents.size (h : b.Represents q) : b.size = q.items.length := by
  rw [← length_events, h.events, List.length_map]

theorem Represents.push (h : b.Represents q) (e : Reading) : (b.push e).Represents (q.push e) where
  wellFormed := h.wellFormed.push e
  events := by
    rw [events_push h.wellFormed, h.size, h.limit, h.events, BoundedQueue.push]
    split_ifs <;> simp
  limit := (limit_push b e).trans h.limit
  count := (count_push b e).trans (congrArg (· + 1) h.count)

theorem Represents.dropOldest (h : b.Represents q) (n : Nat) :
    (b.dropOldest n).Represents (q.dropOldest n) where
  wellFormed := h.wellFormed.dropOldest n
  events := by
    rw [events_dropOldest h.wellFormed, h.events, retention_dropOldest, BoundedQueue.dropOldest,
      List.map_drop]
    rcases Nat.le_total n q.items.length with hle | hle
    · rw [BoundedQueue.excess, Nat.min_eq_left hle]
    · rw [BoundedQueue.excess, Nat.min_eq_right hle, List.drop_of_length_le (by simpa using hle),
        List.drop_of_length_le (by simp)]
  limit := by
    rw [limit_dropOldest h.wellFormed, h.size, h.limit]
    rfl
  count := by
    rw [count_dropOldest, h.size, h.count]
    rfl

theorem Represents.ensureAtMost (h : b.Represents q) (bound : Nat) :
    (b.ensureAtMost bound).Represents (q.ensureAtMost bound) where
  wellFormed := h.wellFormed.ensureAtMost bound
  events := by
    rw [events_ensureAtMost h.wellFormed, h.events, h.size, retention_ensureAtMost,
      BoundedQueue.ensureAtMost, List.map_drop]
    rfl
  limit := by
    rw [limit_ensureAtMost h.wellFormed, h.limit]
    rfl
  count := by
    rw [count_ensureAtMost, h.size, h.count]
    rfl

/-- **One operation**: the answers are the same, and the simulation goes on. -/
theorem Represents.perform (h : b.Represents q) (op : Op) :
    (b.perform op).1 = (q.perform b.kind op).1 ∧
      (b.perform op).2.Represents (q.perform b.kind op).2 ∧
      (b.perform op).2.kind = b.kind ∧ (b.perform op).2.retention = b.retention := by
  cases op with
  | add e =>
    by_cases hkind : e.value.kind = b.kind
    · have hgain : (b.push e).size - b.size = q.gain := by
        have := q.length_le_limit
        rw [size_push h.wellFormed, h.size, h.limit, BoundedQueue.gain]
        split_ifs with hfull <;> omega
      have hbuffer : b.perform (.add e) = (.ok q.gain, b.push e) := by
        rw [perform_add, if_pos hkind, hgain]
      have hqueue : q.perform b.kind (.add e) = (.ok q.gain, q.push e) := if_pos hkind
      rw [hbuffer, hqueue]
      exact ⟨rfl, h.push e, rfl, rfl⟩
    · have hbuffer : b.perform (.add e) = (.error (.kindMismatch b.kind e.value.kind), b) := by
        rw [perform_add, if_neg hkind]
      have hqueue : q.perform b.kind (.add e) = (.error (.kindMismatch b.kind e.value.kind), q) :=
        if_neg hkind
      rw [hbuffer, hqueue]
      exact ⟨rfl, h, rfl, rfl⟩
  | dropOldest n =>
    have hsize : b.size - (b.dropOldest n).size = q.excess n := by
      rw [size_dropOldest, h.size, BoundedQueue.excess]
      omega
    exact ⟨congrArg Except.ok hsize, h.dropOldest n, rfl, rfl⟩
  | ensureAtMost bound =>
    have hsize : b.size - (b.ensureAtMost bound).size = q.beyond bound := by
      rw [size_ensureAtMost, h.size, BoundedQueue.beyond]
      omega
    exact ⟨congrArg Except.ok hsize, h.ensureAtMost bound, rfl, rfl⟩

/-- **Any sequence of operations**, by induction on it. -/
theorem Represents.transcript (h : b.Represents q) (ops : List Op) :
    (transcript SiteBuffer.perform b ops).1 = (transcript (BoundedQueue.perform b.kind) q ops).1 ∧
      (transcript SiteBuffer.perform b ops).2.Represents
        (transcript (BoundedQueue.perform b.kind) q ops).2 ∧
      (transcript SiteBuffer.perform b ops).2.kind = b.kind ∧
      (transcript SiteBuffer.perform b ops).2.retention = b.retention := by
  induction ops generalizing b q with
  | nil => exact ⟨rfl, h, rfl, rfl⟩
  | cons op rest ih =>
    obtain ⟨hanswer, hnext, hkind, hretention⟩ := h.perform op
    obtain ⟨hanswers, hlast, hkinds, hretentions⟩ := ih hnext
    rw [hkind] at hanswers hlast hkinds
    exact ⟨congrArg₂ List.cons hanswer hanswers, hlast, hkinds, hretentions.trans hretention⟩

/-- What can be read of a buffer is what the queue holds, but for the objects that
have died. -/
theorem Represents.record? (h : b.Represents q) (c : Heap.Census) (i : Nat) :
    b.record? c i = q.items[i]?.map (·.recall b.retention c) := by
  rw [record?_eq, h.events, List.getElem?_map, Option.map_map]
  congr 1
  funext e
  exact Event.read_store b.retention c e

theorem Represents.records (h : b.Represents q) (c : Heap.Census) :
    b.records c = q.items.map (·.recall b.retention c) := by
  rw [records_eq, h.events, List.map_map]
  exact List.map_congr_left fun e _ => Event.read_store b.retention c e

end Simulation

/-- **A buffer is a bounded queue.** Whatever its kind, its limit and its retention
policy, no sequence of operations tells it from the queue with the same limit:
the answers agree one by one, and so do in the end the size, the count, the limit
and the events, each with its sequence number and its thread, whoever is alive
when they are read. A value of another kind is refused and changes nothing. -/
theorem transcript_eq_queue (kind : SiteKind) (limit : Nat) (p : Retention) (ops : List Op) :
    let (answers, b) := transcript perform (new kind limit p) ops
    let (expected, q) := transcript (BoundedQueue.perform kind.stored) (.new limit) ops
    answers = expected ∧ b.size = q.items.length ∧ b.count = q.count ∧ b.limit = q.limit ∧
      (∀ c i, b.record? c i = q.items[i]?.map (·.recall p c)) ∧
      (∀ c, b.records c = q.items.map (·.recall p c)) ∧
      ∀ e : Reading, e.value.kind ≠ kind.stored →
        b.perform (.add e) = (.error (.kindMismatch kind.stored e.value.kind), b) := by
  obtain ⟨hanswers, hlast, hkind, hretention⟩ := (represents_new kind limit p).transcript ops
  refine ⟨hanswers, hlast.size, hlast.count, hlast.limit, fun c i => ?_, fun c => ?_,
    fun e he => ?_⟩
  · rw [hlast.record? c i, hretention]
    rfl
  · rw [hlast.records c, hretention]
    rfl
  · have hkind' : (transcript perform (new kind limit p) ops).2.kind = kind.stored := hkind
    rw [perform, add?_eq, hkind', if_neg he]

end SiteBuffer

end FlightRecorder
