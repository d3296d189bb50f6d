import FlightRecorder.Heap

/-!
# Walking nested arrays

When an array of arrays is created, all arrays in it are recorded, breadth
first. The walk keeps a queue of arrays to scan. Scanning one reports it, reports
each array among its elements right after it, and puts those of them at the end
of the queue whose elements are declared to be arrays in turn. An array that is
found twice is scanned twice.

* `FlightRecorder.Heap.walk` – what the walk reports, in order;
* `FlightRecorder.Heap.scanCount` – how many scans it takes. It is finite because
  an array is younger than its elements, so that no chain of nested arrays is
  longer than the heap.
-/

namespace FlightRecorder

/-- What a walk reports about an object. -/
inductive ArrayVisit where
  /-- It was scanned. -/
  | scanned (r : Ref)
  /-- It was found among the elements of the array scanned last. -/
  | found (r : Ref)
  deriving DecidableEq, Repr

namespace Heap

/-- The arrays among the elements of an object, in order. -/
def innerArrays (h : Heap) (r : Ref) : List Ref :=
  (h.info r).children.filter fun e => (h.info e).isArray

/-- The arrays among the elements of an object that are to be scanned too. -/
def innerNested (h : Heap) (r : Ref) : List Ref :=
  (h.innerArrays r).filter fun e => (h.info e).nested

/-- How many scans begin with that of an object, if arrays are nested at most
`depth` deep. -/
def scanCount (h : Heap) : Nat → Ref → Nat
  | 0, _ => 1
  | depth + 1, r => 1 + ((h.innerNested r).map (h.scanCount depth)).foldr (· + ·) 0

/-- Scan the queued arrays, at most `fuel` of them. -/
def scan (h : Heap) : Nat → List Ref → List ArrayVisit
  | 0, _ => []
  | _, [] => []
  | fuel + 1, r :: queue =>
    .scanned r :: (h.innerArrays r).map .found ++ h.scan fuel (queue ++ h.innerNested r)

/-- **The walk** from an array. -/
def walk (h : Heap) (r : Ref) : List ArrayVisit :=
  h.scan (h.scanCount h.objects.size r) [r]

end Heap

end FlightRecorder
