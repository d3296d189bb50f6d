import FlightRecorder.Datum
import FlightRecorder.Failure
import FlightRecorder.Ring

/-!
# Site buffers

The buffer of one event site: a ring of the latest events, all of one kind.

* `FlightRecorder.Event` – a stored value with its sequence number and thread;
* `FlightRecorder.SiteBuffer` – the kind, the retention policy that objects are
  held under, and the ring;
* `FlightRecorder.SiteBuffer.add?` – storing an event, which a value of another
  kind and a refusal of memory make fail without a trace;
* `FlightRecorder.SiteBuffer.record?` – reading an event back, given who is
  alive.

An unused slot holds the zero of the kind, and nothing in it keeps an object
alive.
-/

namespace FlightRecorder

/-- A stored event. -/
structure Event where
  cell : Cell
  seq : UInt64
  thread : UInt32
  deriving DecidableEq, Repr

/-- What a slot without an event holds. -/
def Event.blank (kind : Kind) : Event :=
  ⟨Datum.zero .null kind, 0, 0⟩

/-- An event as it is read back. -/
structure Reading where
  value : Value
  seq : UInt64
  thread : UInt32
  deriving DecidableEq, Repr

/-- The latest events of one site. -/
structure SiteBuffer where
  kind : Kind
  retention : Retention
  ring : Ring Event
  deriving Repr

namespace SiteBuffer

/-- An empty buffer for the events of a site that declares `kind`. -/
def new (kind : SiteKind) (limit : Nat) (retention : Retention) : SiteBuffer :=
  { kind := kind.stored, retention, ring := Ring.new (Event.blank kind.stored) limit }

/-- How many events can be read back. -/
def size (b : SiteBuffer) : Nat := b.ring.size

/-- How many events were offered, less those trimmed. -/
def count (b : SiteBuffer) : Nat := b.ring.count

/-- How many slots there are. -/
def capacity (b : SiteBuffer) : Nat := b.ring.capacity

/-- How many events may be kept. -/
def limit (b : SiteBuffer) : Nat := b.ring.limit

/-- What the next event fails with if it needs slots that are not there yet and
memory refuses them. -/
def growthRefusal? (b : SiteBuffer) (growth : Option MemoryFault) : Option Failure :=
  if b.ring.needsSlots then growth.map (.allocation b.ring.grownCapacity ·) else none

/-- Store an event, the oldest making room for it where the buffer is full.
`growth` is why memory refuses the buffer more slots, if it does. -/
def add? (b : SiteBuffer) (value : Value) (seq : UInt64) (thread : UInt32)
    (growth : Option MemoryFault := none) : Except Failure SiteBuffer :=
  if value.kind = b.kind then
    match b.growthRefusal? growth with
    | some f => .error f
    | none => .ok { b with ring := b.ring.push ⟨b.retention.store value, seq, thread⟩ }
  else .error (.kindMismatch b.kind value.kind)

/-- Trim the `n` oldest events. -/
def dropOldest (b : SiteBuffer) (n : Nat) : SiteBuffer :=
  { b with ring := b.ring.dropOldest n }

/-- Trim down to at most `bound` events, and keep no more than that from now
on. -/
def ensureAtMost (b : SiteBuffer) (bound : Nat) : SiteBuffer :=
  { b with ring := b.ring.ensureAtMost bound }

/-- The stored events, oldest first. -/
def events (b : SiteBuffer) : List Event :=
  b.ring.toList

/-- The `i`-th event as it reads back, the oldest being the zeroth. -/
def record? (b : SiteBuffer) (c : Heap.Census) (i : Nat) : Option Reading :=
  (b.ring.get? i).map fun e => ⟨e.cell.load c, e.seq, e.thread⟩

/-- The events as they read back, oldest first. -/
def records (b : SiteBuffer) (c : Heap.Census) : List Reading :=
  b.events.map fun e => ⟨e.cell.load c, e.seq, e.thread⟩

/-- The references that the slots of the buffer keep alive: every slot counts,
whether its event can be read back or not. -/
def held (b : SiteBuffer) : List Ref :=
  b.ring.slots.toList.filterMap (·.cell.held)

@[simp] theorem kind_dropOldest (b : SiteBuffer) (n : Nat) : (b.dropOldest n).kind = b.kind := rfl

@[simp] theorem kind_ensureAtMost (b : SiteBuffer) (n : Nat) :
    (b.ensureAtMost n).kind = b.kind := rfl

@[simp] theorem growthRefusal?_none (b : SiteBuffer) : b.growthRefusal? none = none := by
  simp [growthRefusal?]

/-- An event is refused exactly when its kind is not the buffer's, and the failure
then names the two kinds, or when memory refuses the slots it needs. -/
theorem add?_eq_error_iff {b : SiteBuffer} {v : Value} {seq : UInt64} {thread : UInt32}
    {growth : Option MemoryFault} {f : Failure} :
    b.add? v seq thread growth = .error f ↔
      v.kind ≠ b.kind ∧ f = .kindMismatch b.kind v.kind ∨
        v.kind = b.kind ∧ b.growthRefusal? growth = some f := by
  unfold add?
  by_cases hkind : v.kind = b.kind
  · cases hrefusal : b.growthRefusal? growth <;> simp [hkind]
  · simp [hkind, eq_comm]

end SiteBuffer

end FlightRecorder
