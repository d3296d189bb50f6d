import FlightRecorder.SiteBuffer

/-!
# Arenas

An arena is the set of buffers that events are currently recorded into, by their
sites, together with the number of events they retain. It is replaced as a whole
when the buffers are taken out, so the number always goes with its buffers.

The buffers are listed in increasing order of their sites, each site once; that
is the order in which everything that walks over an arena does so.
-/

namespace FlightRecorder

/-- Buffers by site, in increasing order, and the events they retain. -/
structure Arena where
  buffers : List (Nat × SiteBuffer) := []
  retained : Nat := 0
  deriving Repr

namespace Arena

/-- How many sites an arena can have: a machine word of eight bytes for each, in
a memory of `2 ^ 63 - 1` bytes. -/
def maxSites : Nat := Nat.pow 2 60 - 1

/-- One past the last site that has a buffer, or zero: the number of slots. -/
def extent (a : Arena) : Nat :=
  match a.buffers.getLast? with
  | some (site, _) => site + 1
  | none => 0

/-- Put a buffer at a site of an ordered list, replacing the one there. -/
def place (site : Nat) (b : SiteBuffer) : List (Nat × SiteBuffer) → List (Nat × SiteBuffer)
  | [] => [(site, b)]
  | (s, x) :: rest =>
    if s < site then (s, x) :: place site b rest
    else if s = site then (site, b) :: rest
    else (site, b) :: (s, x) :: rest

/-- The buffer of a site. -/
def find? (a : Arena) (site : Nat) : Option SiteBuffer :=
  a.buffers.lookup site

/-- Put a buffer at a site; the number of retained events is the caller's. -/
def put (a : Arena) (site : Nat) (b : SiteBuffer) : Arena :=
  { a with buffers := place site b a.buffers }

/-- The sites that have a buffer, in increasing order. -/
def sites (a : Arena) : List Nat :=
  a.buffers.map (·.1)

/-- The number of events in the buffers, counted. -/
def totalSize (a : Arena) : Nat :=
  (a.buffers.map fun (_, b) => b.size).foldr (· + ·) 0

/-- The references that the slots of the buffers keep alive. -/
def held (a : Arena) : List Ref :=
  a.buffers.flatMap fun (_, b) => b.held

end Arena

end FlightRecorder
