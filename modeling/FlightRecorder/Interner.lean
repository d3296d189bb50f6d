import FlightRecorder.Datum

/-!
# Interned identities

Under the `id` policy buffers hold numbers instead of references. The interner
hands them out, 1, 2, 3, … in the order in which objects are first seen, and an
object keeps its number as long as it is alive.

Entries of dead objects are swept out: on request, and by the interner itself
once more entries were added since the last sweep than the number of entries
that sweep left, or than `FlightRecorder.Interner.sweepFloor` if that is larger.
So there are never more than about twice as many entries as living objects.

* `FlightRecorder.Interner.intern` – the identity of an object;
* `FlightRecorder.Interner.sweep` – forgetting the dead.
-/

namespace FlightRecorder

/-- The numbers of the objects seen so far. -/
structure Interner where
  /-- Objects and their numbers, the latest first. -/
  entries : List (Ref × UInt64) := []
  next : UInt64 := 1
  /-- Entries added since the last sweep. -/
  added : Nat := 0
  /-- How many may be added before the next. -/
  threshold : Nat := 1024
  deriving Repr, Inhabited

namespace Interner

/-- The smallest number of additions that is tolerated between two sweeps. -/
def sweepFloor : Nat := 1024

/-- The number of entries. -/
def size (i : Interner) : Nat :=
  i.entries.length

/-- Forget the objects that are not alive. -/
def sweep (i : Interner) (c : Heap.Census) : Interner :=
  let living := i.entries.filter fun (r, _) => c.isAlive r
  { i with entries := living, added := 0, threshold := max living.length sweepFloor }

/-- Give an object that has no number the next one. -/
def add (i : Interner) (r : Ref) : Interner :=
  { i with entries := (r, i.next) :: i.entries, next := i.next + 1, added := i.added + 1 }

/-- Whether enough was added for a sweep. -/
def sweepDue (i : Interner) : Bool :=
  decide (i.threshold < i.added)

/-- **The identity** of an object, or of null. While this happens the references
`held` are held strongly, besides the program's handles. -/
def intern (h : Heap) (held : List Ref) (i : Interner) : Option Ref → Interner × ObjectId
  | none => (i, .null)
  | some r =>
    let o := h.info r
    match i.entries.lookup r with
    | some id => (i, ⟨id, o.typeName, o.text⟩)
    | none =>
      let grown := i.add r
      (if grown.sweepDue then grown.sweep (h.census held) else grown,
        ⟨i.next, o.typeName, o.text⟩)

end Interner

end FlightRecorder
