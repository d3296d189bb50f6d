import FlightRecorder.Arena
import FlightRecorder.Budget
import FlightRecorder.Clock
import FlightRecorder.Diagnostics

/-!
# The registry of sites

Every event passes through the registry. It creates the buffer of a site with
the first event of the site, stamps events with the sequence clock, keeps the
number of retained events, and enforces the budget as soon as an event exceeds
it.

```text
 record site v ──→ buffer of the site ──→ ensure at most the ceiling
                    (created if missing)   tick, add, count
                                           too many events? ──→ enforce the budget
```

* `FlightRecorder.Registry.record` – one event;
* `FlightRecorder.Registry.detach` and `FlightRecorder.Registry.restore` – taking
  all buffers out at once, and putting them back with what was recorded
  meanwhile appended to them;
* `FlightRecorder.Registry.degrade` – what becomes of the registry when memory is
  refused: it loses its buffers and records nothing more;
* `FlightRecorder.Memory` – what memory refuses while an event is recorded;
* `FlightRecorder.Registry.breaksOff` – the one call that does not return.

Nothing here fails. What goes wrong is reported to the diagnostics.
-/

namespace FlightRecorder

/-- The limits of a registry. -/
structure RegistryLimits where
  /-- The ceiling to begin with. -/
  bufferSize : Nat := 32
  /-- How many events all sites together may retain. -/
  globalCapacity : Nat := Nat.pow 2 16
  /-- How many events a step of the enforcement removes. -/
  evictionUnit : Nat := 16
  retention : Retention := .strong
  tieBreak : TieBreak := .siteOrder
  deriving DecidableEq, Repr, Inhabited

/-- What memory refuses while one event is recorded, and why; unless it is told
otherwise, nothing. More than there can be is refused in any case. -/
structure Memory where
  /-- Slots of the arena, for a site behind all that have one. -/
  sites : Option MemoryFault := none
  /-- The slots that a new buffer begins with. -/
  buffer : Option MemoryFault := none
  /-- More slots for a buffer. -/
  growth : Option MemoryFault := none
  deriving DecidableEq, Repr, Inhabited

/-- Memory that refuses nothing. -/
def Memory.ample : Memory := {}

/-- Buffers under a budget, and all that governs them. -/
structure Registry where
  arena : Arena
  /-- The number of events a buffer may have. -/
  ceiling : Nat
  globalCapacity : Nat
  retention : Retention
  policy : BudgetPolicy
  stats : BudgetStats
  clock : Clock
  closed : Bool
  degraded : Bool
  diagnostics : Diagnostics

namespace Registry

/-- A registry without buffers. -/
def new (limits : RegistryLimits) (clock : Clock) : Registry :=
  { arena := {}
    ceiling := max limits.bufferSize 1
    globalCapacity := limits.globalCapacity
    retention := limits.retention
    policy := .of limits.evictionUnit limits.tieBreak
    stats := {}
    clock
    closed := false
    degraded := false
    diagnostics := {} }

/-- The number of retained events. -/
def totalRetained (r : Registry) : Nat :=
  r.arena.retained

/-- Whether a site has a buffer. -/
def isRecorded (r : Registry) (site : Nat) : Bool :=
  (r.arena.find? site).isSome

/-- Turn every later record into nothing. -/
def close (r : Registry) : Registry :=
  { r with closed := true }

/-- Give up for good: drop all buffers, and report the cause the first time. -/
def degrade (r : Registry) (cause : Failure) : Registry :=
  if r.degraded then r
  else
    { r with
      degraded := true
      arena := {}
      diagnostics :=
        { r.diagnostics.report cause with metrics := r.diagnostics.metrics.degradedOnce } }

/-- Whether an arena is left without the slot of a site although it was made as
large as the site asked for. Sites are words, and behind the last word comes zero:
an arena without slots is large enough for that, and has no slot. -/
def lacksSlot (r : Registry) (site : Nat) : Bool :=
  r.arena.buffers.isEmpty && site + 1 == wordSize

/-- Why the arena cannot be made so large that it has a slot for a site. -/
def slotRefusal? (r : Registry) (site : Nat) (m : Memory) : Option Failure :=
  if r.lacksSlot site then none
  else if Arena.maxSites < site + 1 then some (.allocation ((site + 1) % wordSize))
  else if r.arena.extent ≤ site then m.sites.map (.allocation (site + 1) ·)
  else none

/-- Why there cannot be a new buffer at a site: the arena comes first, then the
buffer itself. -/
def bufferRefusal? (r : Registry) (site : Nat) (b : SiteBuffer) (m : Memory) : Option Failure :=
  (r.slotRefusal? site m).or (m.buffer.map (.allocation b.capacity ·))

/-- The buffer of a site, created under the present ceiling if there is none. A
buffer that exists is returned whatever its kind. A degraded registry has no
buffers, and one that is refused the memory for a buffer degrades. Where the slot
of the buffer is lacking, the call breaks off, and nothing has changed. -/
def getOrCreate (r : Registry) (site : Nat) (kind : SiteKind) (m : Memory := .ample) :
    Registry × Option SiteBuffer :=
  if r.degraded then (r, none)
  else match r.arena.find? site with
    | some b => (r, some b)
    | none =>
      let b := SiteBuffer.new kind r.ceiling r.retention
      match r.bufferRefusal? site b m with
      | some f => (r.degrade f, none)
      | none =>
        if r.lacksSlot site then (r, none)
        else ({ r with arena := r.arena.put site b }, some b)

/-- **Whether a call that needs the buffer of a site breaks off.** It then returns
to whoever catches what it throws, and to nobody else. -/
def breaksOff (r : Registry) (site : Nat) (m : Memory := .ample) : Bool :=
  !r.degraded && r.lacksSlot site && m.buffer.isNone

/-- The buffers and numbers that the budget is enforced on. -/
def ledger (r : Registry) : Ledger :=
  { buffers := r.arena.buffers, retained := r.arena.retained
    ceiling := r.ceiling, stats := r.stats }

/-- Enforce the budget, and emit what it trimmed. -/
def enforceBudget (r : Registry) : Registry :=
  let l := r.ledger.enforce r.policy r.globalCapacity
  let evicted := l.stats.evicted - r.stats.evicted
  let metrics := r.diagnostics.metrics
  { r with
    arena := { buffers := l.buffers, retained := l.retained }
    ceiling := l.ceiling
    stats := l.stats
    diagnostics := { r.diagnostics with
      metrics := if evicted = 0 then metrics else metrics.evicted evicted l.retained l.ceiling } }

/-- Store an event in a buffer that exists: bring the buffer under the ceiling,
take a sequence number, and add the event. The number is taken even if the event
is then refused. An event that is refused for its kind is only reported; if it is
refused for memory, the registry degrades. -/
def store (r : Registry) (site : Nat) (b : SiteBuffer) (value : Value) (thread : UInt32)
    (m : Memory := .ample) : Registry :=
  let trimmed := b.ensureAtMost r.ceiling
  let retained := Ledger.retainedLess r.arena.retained (b.size - trimmed.size)
  let ticked := { r with clock := r.clock.tick }
  match trimmed.add? value r.clock.next thread m.growth with
  | .ok added =>
    { ticked with arena :=
        { buffers := Arena.place site added r.arena.buffers
          retained := retained + (added.size - trimmed.size) } }.enforceBudget
  | .error f =>
    let kept := { ticked with
      arena := { buffers := Arena.place site trimmed r.arena.buffers, retained } }
    if f.isAllocation then kept.degrade f
    else { kept with diagnostics := r.diagnostics.report f }

/-- **Recording** one event. -/
def record (r : Registry) (site : Nat) (value : Value) (thread : UInt32) (m : Memory := .ample) :
    Registry :=
  if r.closed || r.degraded then r
  else match r.getOrCreate site (.of value.kind) m with
    | (r, none) => r
    | (r, some b) => r.store site b value thread m

/-! ### Taking buffers out and putting them back -/

/-- Take all buffers out. The ceiling stays, so sites that are recorded again
start at the size the budget had settled on. -/
def detach (r : Registry) : Arena × Registry :=
  (r.arena, { r with arena := {} })

/-- Append events to a buffer until one of them is refused. -/
def append (b : SiteBuffer) : List Reading → SiteBuffer × Option Failure
  | [] => (b, none)
  | e :: rest =>
    match b.add? e.value e.seq e.thread with
    | .ok b => append b rest
    | .error f => (b, some f)

/-- Append the events of a buffer to the buffer of the same site, as they read
back now. -/
def merge (c : Heap.Census) (r : Registry) (interim : Nat × SiteBuffer) : Registry :=
  match r.getOrCreate interim.1 (.of interim.2.kind) with
  | (r, none) => r
  | (r, some target) =>
    let (merged, refused) := append target (interim.2.records c)
    { r with
      arena :=
        { buffers := Arena.place interim.1 merged r.arena.buffers
          retained := r.arena.retained + (merged.size - target.size) }
      diagnostics := match refused with
        | some f => r.diagnostics.report f
        | none => r.diagnostics }

/-- **Putting detached buffers back**: they replace the present ones, whose
events are appended to them in site order, and the budget is enforced again. A
degraded registry takes nothing back. Refusals of memory are told for recording
only, and here there are none. -/
def restore (c : Heap.Census) (r : Registry) (detached : Arena) : Registry :=
  if r.degraded then r
  else
    let interim := r.arena.buffers
    (interim.foldl (merge c) { r with arena := detached }).enforceBudget

/-- The description of a registry in diagnostics. -/
def describe (r : Registry) : String :=
  s!"BufferRegistry \x7b retained: {r.totalRetained}, global_capacity: {r.globalCapacity}, " ++
    s!"ceiling: {r.ceiling}, closed: {r.closed}, degraded: {r.degraded}" ++ " \x7d"

end Registry

end FlightRecorder
