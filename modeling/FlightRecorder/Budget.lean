import FlightRecorder.SiteBuffer

/-!
# The event budget

All buffers together may retain so many events. When there are more, the budget
is *enforced*: the ceiling that all sites share is lowered and the largest
buffers are trimmed first, so that no hot site holds most of the budget while
cold sites lose their history.

A pass of the enforcement (`FlightRecorder.Ledger.pass`) does four things:

1. it lowers the ceiling by the eviction unit, though not below one;
2. it looks for the buffers of the largest size;
3. it trims the eviction unit off each of them;
4. it trims every buffer that is still above the new ceiling down to it.

A trim is made only while there are too many events
(`FlightRecorder.Ledger.shave`), so a pass comes to rest as soon as there are
not. Passes are repeated until then, or until the ceiling is one
(`FlightRecorder.Ledger.enforce`); the ceiling falls in every pass but the last,
which is why enforcement ends.

The number of retained events is kept beside the buffers, not computed from
them, and it is a word of 64 bits: taking away more than it says wraps around.
Events that are stored are simply added to it, since they are all in memory, and
no memory holds as many events as a word can count.
-/

namespace FlightRecorder

/-- The order in which buffers of equal size are trimmed. -/
inductive TieBreak where
  /-- The lowest site first. -/
  | siteOrder
  /-- The highest site first. -/
  | reverse
  deriving DecidableEq, Repr, Inhabited

/-- The written name of a tie-break. -/
def TieBreak.name : TieBreak → String
  | .siteOrder => "SiteOrder"
  | .reverse => "Reverse"

/-- What enforcement has done so far. -/
structure BudgetStats where
  /-- How often the budget was found exceeded. -/
  enforcements : Nat := 0
  /-- How often the ceiling was lowered. -/
  ceilingDecrements : Nat := 0
  /-- How often a buffer was trimmed. -/
  trims : Nat := 0
  /-- How many events were trimmed. -/
  evicted : Nat := 0
  deriving DecidableEq, Repr, Inhabited

/-- How a budget is enforced. -/
structure BudgetPolicy where
  /-- How many events a trim removes from a largest buffer, and how far a pass
  lowers the ceiling. -/
  evictionUnit : Nat
  tieBreak : TieBreak
  evictionUnit_pos : 0 < evictionUnit
  deriving DecidableEq, Repr

/-- A policy; an eviction unit of zero is taken for one. -/
def BudgetPolicy.of (evictionUnit : Nat) (tieBreak : TieBreak) : BudgetPolicy :=
  ⟨max evictionUnit 1, tieBreak, by omega⟩

/-- The number of values of a word of 64 bits. -/
def wordSize : Nat := Nat.pow 2 64

/-- What is subject to the budget: the buffers by their sites, in increasing
order of sites, and the numbers kept about them. -/
structure Ledger where
  buffers : List (Nat × SiteBuffer)
  /-- The number of retained events. -/
  retained : Nat
  /-- The largest size a buffer should have. -/
  ceiling : Nat
  stats : BudgetStats

namespace Ledger

/-- Whether more events are retained than `capacity`. -/
def isOver (l : Ledger) (capacity : Nat) : Bool :=
  decide (capacity < l.retained)

/-- The number of retained events after `n` are added, as a word. A registry adds
the events that it stores without turning over: there is no memory for so many. -/
def retainedPlus (retained n : Nat) : Nat :=
  (retained + n) % wordSize

/-- The number of retained events after `n` of them are removed. Below zero it
goes on from above, which is adding what `n` lacks to a whole turn. -/
def retainedLess (retained n : Nat) : Nat :=
  if n ≤ retained then retained - n else retainedPlus retained (wordSize - n)

/-- Trim the oldest events off the buffer of a site: as many of them as `amount`
says of that buffer. Removing none is not counted as a trim. -/
def trim (l : Ledger) (amount : SiteBuffer → Nat) (site : Nat) : Ledger :=
  match l.buffers.lookup site with
  | none => l
  | some b =>
    let removed := min (amount b) b.size
    if removed = 0 then l
    else
      { l with
        buffers := l.buffers.map fun (s, x) =>
          if s = site then (s, x.dropOldest removed) else (s, x)
        retained := retainedLess l.retained removed
        stats := { l.stats with
          trims := l.stats.trims + 1
          evicted := l.stats.evicted + removed } }

/-- Trim the buffer of a site, provided that too many events are retained. -/
def shave (capacity : Nat) (amount : SiteBuffer → Nat) (l : Ledger) (site : Nat) : Ledger :=
  if l.isOver capacity then l.trim amount site else l

/-- The largest size of a buffer. -/
def largestSize (l : Ledger) : Nat :=
  (l.buffers.map fun (_, b) => b.size).foldl max 0

/-- The sites whose buffers have the largest size, unless that is zero, in the
order in which they are to be trimmed. -/
def heaviest (l : Ledger) (tieBreak : TieBreak) : List Nat :=
  let m := l.largestSize
  let sites := (l.buffers.filter fun (_, b) => b.size == m && m != 0).map (·.1)
  match tieBreak with
  | .siteOrder => sites
  | .reverse => sites.reverse

/-- The ceiling that the next pass works with. -/
def nextCeiling (p : BudgetPolicy) (l : Ledger) : Nat :=
  max (l.ceiling - p.evictionUnit) 1

/-- Lower the ceiling to that of the next pass, if it is above it. -/
def lowerCeiling (p : BudgetPolicy) (l : Ledger) : Ledger :=
  if l.nextCeiling p < l.ceiling then
    { l with
      ceiling := l.nextCeiling p
      stats := { l.stats with ceilingDecrements := l.stats.ceilingDecrements + 1 } }
  else l

/-- One pass of the enforcement. -/
def pass (p : BudgetPolicy) (capacity : Nat) (l : Ledger) : Ledger :=
  let ceiling := l.nextCeiling p
  let l := l.lowerCeiling p
  let l := (l.heaviest p.tieBreak).foldl
    (shave capacity fun b => min p.evictionUnit b.size) l
  (l.buffers.map (·.1)).foldl (shave capacity fun b => b.size - ceiling) l

/-- Make passes until no more than `capacity` events are retained or the ceiling
is at one. `bound` is a number the ceiling does not exceed. -/
def passes (p : BudgetPolicy) (capacity : Nat) : Nat → Ledger → Ledger
  | 0, l => l.pass p capacity
  | bound + 1, l =>
    let next := l.pass p capacity
    if next.isOver capacity ∧ l.nextCeiling p ≠ 1 then next.passes p capacity bound else next

/-- **Enforcement** of the budget: nothing if it is kept, and otherwise as many
passes as it takes. -/
def enforce (p : BudgetPolicy) (capacity : Nat) (l : Ledger) : Ledger :=
  if l.isOver capacity then
    let l := { l with stats := { l.stats with enforcements := l.stats.enforcements + 1 } }
    l.passes p capacity l.ceiling
  else l

end Ledger

end FlightRecorder
