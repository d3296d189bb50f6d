import FlightRecorder.Proofs.Ring
import FlightRecorder.SiteBuffer

/-!
# The events of a buffer

What a buffer holds, told through its view: the events, oldest first. Storing
appends one of them, trimming drops the oldest, and reading them back gives what
was stored but for the objects that have died meanwhile.

* `FlightRecorder.Retention.recall` – what a value reads back as once it was
  stored under a retention policy (`FlightRecorder.load_store`);
* `FlightRecorder.SiteBuffer.push` – the buffer after an event it accepts, so
  that `FlightRecorder.SiteBuffer.add?` is a test of kinds and a push
  (`FlightRecorder.SiteBuffer.add?_eq`);
* `FlightRecorder.SiteBuffer.events_push`,
  `FlightRecorder.SiteBuffer.events_dropOldest`,
  `FlightRecorder.SiteBuffer.events_ensureAtMost` – the three operations on the
  view.
-/

namespace FlightRecorder

/-! ### Storing a value and reading it back -/

namespace Datum

variable {α β γ : Type}

theorem map_map (f : α → β) (g : β → γ) (d : Datum α) :
    (d.map f).map g = d.map fun o => g (f o) := by
  cases d <;> rfl

end Datum

/-- What a reference reads back as after it was put into a slot. An object that is
held weakly and alive no more reads as null; nothing else is ever lost. -/
def Retention.recallRef (p : Retention) (c : Heap.Census) (o : Option Ref) : Option Ref :=
  match p with
  | .weak => o.filter c.isAlive
  | .strong | .id => o

/-- What a value reads back as after it was stored. -/
def Retention.recall (p : Retention) (c : Heap.Census) (v : Value) : Value :=
  v.map (p.recallRef c)

theorem ref?_resolve_hold (p : Retention) (c : Heap.Census) (o : Option Ref) :
    ((p.hold o).resolve c).ref? = p.recallRef c o := by
  cases o with
  | none => cases p <;> rfl
  | some r =>
    cases p with
    | strong => rfl
    | id => rfl
    | weak =>
      cases h : c.isAlive r <;>
        simp [Retention.hold, Slot.resolve, Resolved.ref?, Retention.recallRef, Option.filter, h]

theorem load_store (p : Retention) (c : Heap.Census) (v : Value) :
    (p.store v).load c = p.recall c v := by
  rw [Datum.load, Datum.read, Retention.store, Datum.map_map, Datum.map_map, Retention.recall]
  congr 1
  funext o
  exact ref?_resolve_hold p c o

/-- An event put into a buffer. -/
def Reading.store (p : Retention) (e : Reading) : Event :=
  ⟨p.store e.value, e.seq, e.thread⟩

/-- What an event reads back as after it was stored. -/
def Reading.recall (p : Retention) (c : Heap.Census) (e : Reading) : Reading :=
  { e with value := p.recall c e.value }

/-- An event taken out of a buffer. -/
def Event.read (c : Heap.Census) (e : Event) : Reading :=
  ⟨e.cell.load c, e.seq, e.thread⟩

theorem Event.read_store (p : Retention) (c : Heap.Census) (e : Reading) :
    (e.store p).read c = e.recall p c := by
  rw [Event.read, Reading.store, Reading.recall]
  rw [load_store]

/-! ### The three operations -/

namespace SiteBuffer

variable {b : SiteBuffer}

/-- The buffer after an event that it accepts. -/
def push (b : SiteBuffer) (e : Reading) : SiteBuffer :=
  { b with ring := b.ring.push (e.store b.retention) }

/-- Where memory refuses nothing, storing is a test of kinds and a push. -/
theorem add?_eq (b : SiteBuffer) (e : Reading) :
    b.add? e.value e.seq e.thread =
      if e.value.kind = b.kind then .ok (b.push e)
      else .error (.kindMismatch b.kind e.value.kind) := by
  rw [add?, growthRefusal?_none]
  rfl

@[simp] theorem kind_push (b : SiteBuffer) (e : Reading) : (b.push e).kind = b.kind := rfl

@[simp] theorem retention_push (b : SiteBuffer) (e : Reading) :
    (b.push e).retention = b.retention := rfl

@[simp] theorem retention_dropOldest (b : SiteBuffer) (n : Nat) :
    (b.dropOldest n).retention = b.retention := rfl

@[simp] theorem retention_ensureAtMost (b : SiteBuffer) (n : Nat) :
    (b.ensureAtMost n).retention = b.retention := rfl

@[simp] theorem length_events (b : SiteBuffer) : b.events.length = b.size :=
  b.ring.length_toList

/-- Reading all events back is reading each of them back. -/
theorem records_eq (b : SiteBuffer) (c : Heap.Census) : b.records c = b.events.map (·.read c) :=
  rfl

theorem record?_eq (b : SiteBuffer) (c : Heap.Census) (i : Nat) :
    b.record? c i = b.events[i]?.map (·.read c) := by
  rw [record?, Ring.get?_eq]
  rfl

/-- **Well-formed buffers** are those whose ring is well-formed. -/
def WellFormed (b : SiteBuffer) : Prop := b.ring.WellFormed

theorem wellFormed_new (kind : SiteKind) (limit : Nat) (p : Retention) :
    (new kind limit p).WellFormed :=
  Ring.wellFormed_new _ _

theorem WellFormed.push (h : b.WellFormed) (e : Reading) : (b.push e).WellFormed :=
  Ring.WellFormed.push h _

theorem WellFormed.dropOldest (h : b.WellFormed) (n : Nat) : (b.dropOldest n).WellFormed :=
  Ring.WellFormed.dropOldest h n

theorem WellFormed.ensureAtMost (h : b.WellFormed) (bound : Nat) :
    (b.ensureAtMost bound).WellFormed :=
  Ring.WellFormed.ensureAtMost h bound

theorem WellFormed.size_le_limit (h : b.WellFormed) : b.size ≤ b.limit :=
  Ring.WellFormed.size_le_limit h

theorem WellFormed.size_le_count (h : b.WellFormed) : b.size ≤ b.count :=
  Ring.WellFormed.size_le_count h

theorem WellFormed.limit_pos (h : b.WellFormed) : 0 < b.limit :=
  Ring.WellFormed.limit_pos h

/-! ### Their sizes, counts and limits -/

@[simp] theorem size_new (kind : SiteKind) (limit : Nat) (p : Retention) :
    (new kind limit p).size = 0 := rfl

@[simp] theorem size_dropOldest (b : SiteBuffer) (n : Nat) :
    (b.dropOldest n).size = b.size - min n b.size :=
  Ring.size_dropOldest _ _

@[simp] theorem size_ensureAtMost (b : SiteBuffer) (bound : Nat) :
    (b.ensureAtMost bound).size = min b.size (max bound 1) :=
  Ring.size_ensureAtMost _ _

@[simp] theorem count_push (b : SiteBuffer) (e : Reading) : (b.push e).count = b.count + 1 :=
  Ring.count_push _ _

@[simp] theorem count_dropOldest (b : SiteBuffer) (n : Nat) :
    (b.dropOldest n).count = b.count - min n b.size :=
  Ring.count_dropOldest _ _

@[simp] theorem count_ensureAtMost (b : SiteBuffer) (bound : Nat) :
    (b.ensureAtMost bound).count = b.count - (b.size - max bound 1) :=
  Ring.count_ensureAtMost _ _

@[simp] theorem limit_push (b : SiteBuffer) (e : Reading) : (b.push e).limit = b.limit :=
  Ring.limit_push _ _

section Accepted

variable (h : b.WellFormed)

include h

theorem size_push (e : Reading) : (b.push e).size = min (b.size + 1) b.limit :=
  Ring.size_push h _

theorem limit_dropOldest (n : Nat) : (b.dropOldest n).limit = max (b.limit - min n b.size) 1 :=
  Ring.limit_dropOldest h n

/-- A bound that the limit keeps already changes nothing. -/
theorem ensureAtMost_of_limit_le {bound : Nat} (hle : b.limit ≤ bound) :
    b.ensureAtMost bound = b := by
  rw [ensureAtMost, Ring.ensureAtMost_of_limit_le h bound hle]

theorem limit_ensureAtMost (bound : Nat) :
    (b.ensureAtMost bound).limit = min b.limit (max bound 1) :=
  Ring.limit_ensureAtMost h bound

/-- **Storing appends an event**, and drops the oldest where the buffer is
full. -/
theorem events_push (e : Reading) :
    (b.push e).events =
      (if b.size = b.limit then b.events.tail else b.events) ++ [e.store b.retention] :=
  Ring.toList_push h _

/-- **Trimming drops the oldest events.** -/
theorem events_dropOldest (n : Nat) : (b.dropOldest n).events = b.events.drop n :=
  Ring.toList_dropOldest h n

/-- **Bounding drops the oldest events beyond the bound.** -/
theorem events_ensureAtMost (bound : Nat) :
    (b.ensureAtMost bound).events = b.events.drop (b.size - max bound 1) :=
  Ring.toList_ensureAtMost h bound

end Accepted

end SiteBuffer

end FlightRecorder
