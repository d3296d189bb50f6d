import FlightRecorder.Interner
import FlightRecorder.Recorder.ArrayWalk
import FlightRecorder.Recorder.Statistics
import FlightRecorder.Settings

/-!
# The recorder

What instrumented code calls: one operation to record a value, conventions for
objects and arrays built on it, and the saving of traces until the recorder is
closed.

```text
 record site v ──→ registry ──→ buffer of the site
 save, close   ──→ rows of the catalogue and the buffers ──→ text ──→ artifact
```

* `FlightRecorder.Recorder.recordValue`, `FlightRecorder.Recorder.recordObject` –
  one event; an object is recorded by reference, or interned under the `id`
  policy;
* `FlightRecorder.Recorder.recordArrayLoad`,
  `FlightRecorder.Recorder.recordArrayStore`,
  `FlightRecorder.Recorder.recordNewArray` – the events of arrays, at consecutive
  sites;
* `FlightRecorder.Recorder.save`, `FlightRecorder.Recorder.close` – the next
  numbered artifact, and the final one.

Recording never fails. Saving does when the artifact cannot be written; it then
reports the failure and leaves the buffers as they were.

What memory refuses is told with the events, by the number of the event, and
whether the compressor fails with the traces; unless it is told otherwise, neither
lacks anything. One call of recording there is that does not return,
`FlightRecorder.Recorder.breaksOff`. An operation that records several events goes
on behind such a call here as it does behind any other.
-/

namespace FlightRecorder

/-- A recorder. -/
structure Recorder where
  settings : Settings
  registry : Registry
  catalog : Catalog
  archive : Archive
  /-- There is one under the `id` policy only. -/
  interner : Option Interner
  eventsRecorded : Nat := 0
  saves : Nat := 0
  saveFailures : Nat := 0
  /-- In milliseconds. -/
  totalSaveTime : Nat := 0

namespace Recorder

/-- A recorder with the given settings, if they are acceptable. -/
def new? (settings : Settings) (clock : Clock) : Except Failure Recorder := do
  settings.check
  return {
    settings
    registry := .new settings.limits clock
    catalog := {}
    archive := .new settings.traceFilePath settings.compression
    interner := if settings.retention = .id then some {} else none }

/-- The sites `site`, `site + 1`, … are words of 64 bits. -/
def siteAfter (site n : Nat) : Nat :=
  (site + n) % wordSize

/-- Make sites known. -/
def register (r : Recorder) (sites : List SiteInfo) : Recorder :=
  { r with catalog := r.catalog.registerAll sites }

/-- Whether the recorder takes events no more. -/
def isStopped (r : Recorder) : Bool :=
  r.registry.closed || r.registry.degraded

/-- The references that slots keep alive. -/
def held (r : Recorder) : List Ref :=
  r.registry.arena.held

/-- Who is alive. -/
def census (r : Recorder) (h : Heap) : Heap.Census :=
  h.census r.held

/-! ### Recording -/

/-- **Record a value.** -/
def recordValue (r : Recorder) (site : Nat) (value : Value) (thread : UInt32)
    (m : Nat → Memory := fun _ => .ample) : Recorder :=
  if r.isStopped then r
  else
    { r with
      eventsRecorded := r.eventsRecorded + 1
      registry := r.registry.record site value thread (m r.eventsRecorded) }

/-- Whether recording a value at a site breaks off. The event is counted before
that happens; nothing else is. -/
def breaksOff (r : Recorder) (site : Nat) (m : Nat → Memory := fun _ => .ample) : Bool :=
  !r.isStopped && r.registry.breaksOff site (m r.eventsRecorded)

/-- **Record an object**, or null. -/
def recordObject (h : Heap) (r : Recorder) (site : Nat) (o : Option Ref) (thread : UInt32)
    (m : Nat → Memory := fun _ => .ample) : Recorder :=
  match r.interner with
  | none => r.recordValue site (.object o) thread m
  | some i =>
    let (i, id) := i.intern h r.held o
    { r with interner := some i }.recordValue site (.objectId id) thread m

/-- Record a value that may be an object. -/
def recordAny (h : Heap) (r : Recorder) (site : Nat) (value : Value) (thread : UInt32)
    (m : Nat → Memory := fun _ => .ample) : Recorder :=
  match value with
  | .object o => recordObject h r site o thread m
  | value => r.recordValue site value thread m

/-- Record an event without a value. -/
def recordVoid (r : Recorder) (site : Nat) (thread : UInt32)
    (m : Nat → Memory := fun _ => .ample) : Recorder :=
  r.recordValue site (.int 0) thread m

/-- Record that an element of an array was read: the array, then the index. -/
def recordArrayLoad (h : Heap) (r : Recorder) (site : Nat) (array : Option Ref) (index : Int32)
    (thread : UInt32) (m : Nat → Memory := fun _ => .ample) : Recorder :=
  (recordObject h r site array thread m).recordValue (siteAfter site 1) (.int index) thread m

/-- Record that an element of an array was written: the array, the index, then
the value. -/
def recordArrayStore (h : Heap) (r : Recorder) (site : Nat) (array : Option Ref) (index : Int32)
    (value : Value) (thread : UInt32) (m : Nat → Memory := fun _ => .ample) : Recorder :=
  recordAny h (recordArrayLoad h r site array index thread m) (siteAfter site 2) value thread m

/-- The site at which a visit of the walk over nested arrays is recorded, and the
object. -/
def visitEvent (site : Nat) : ArrayVisit → Nat × Ref
  | .scanned a => (siteAfter site 1, a)
  | .found a => (siteAfter site 2, a)

/-- Record the creation of an array of arrays: the array, then every visit of the
walk over the arrays in it. -/
def recordNewArray (h : Heap) (r : Recorder) (site : Nat) (array : Ref) (thread : UInt32)
    (m : Nat → Memory := fun _ => .ample) : Recorder :=
  ((site, array) :: (h.walk array).map (visitEvent site)).foldl
    (fun r (site, a) => recordObject h r site (some a) thread m) r

/-! ### Saving -/

/-- The numbers of the recorder. -/
def statistics (r : Recorder) : Statistics :=
  { eventsRecorded := r.eventsRecorded
    eventsRetained := r.registry.totalRetained
    maxBufferSize := r.registry.ceiling
    saves := r.saves
    saveFailures := r.saveFailures
    totalSaveTime := r.totalSaveTime
    degraded := r.registry.degraded
    budget := r.registry.stats
    artifactsWritten := r.archive.artifactsWritten
    bytesWritten := r.archive.bytesWritten }

/-- Change the diagnostics. -/
def mapDiagnostics (r : Recorder) (f : Diagnostics → Diagnostics) : Recorder :=
  { r with registry := { r.registry with diagnostics := f r.registry.diagnostics } }

/-- The text of a trace with the given buffers. -/
def traceText (r : Recorder) (h : Heap) (c : Heap.Census) (buffers : List (Nat × SiteBuffer)) :
    String :=
  r.settings.format.render h c r.settings.bufferSize (rowsOf r.catalog.sites buffers)

/-- Take note of a trace that was saved in so many milliseconds. -/
def noteSaved (r : Recorder) (elapsed : Nat) : Recorder :=
  { r with saves := r.saves + 1, totalSaveTime := r.totalSaveTime + elapsed }.mapDiagnostics
    fun d => { d with metrics := d.metrics.saved elapsed r.eventsRecorded }.note (.saved elapsed)

/-- Take note of a trace that could not be saved. -/
def noteFailed (r : Recorder) (f : Failure) : Recorder :=
  { r with saveFailures := r.saveFailures + 1 }.mapDiagnostics (·.report f)

/-- Write a trace with the given buffers to a path, and forget interned objects
that are dead, whether the trace could be written or not. -/
def writeTrace (h : Heap) (c : Heap.Census) (r : Recorder) (files : FileTree) (path : String)
    (buffers : List (Nat × SiteBuffer)) (elapsed : Nat) (packed : Option Nat := some 0) :
    Recorder × FileTree × Except Failure Unit :=
  let (archive, files, written) := r.archive.write files path (r.traceText h c buffers) packed
  let r := { r with archive, interner := r.interner.map (Interner.sweep · c) }
  match written with
  | .ok _ => (r.noteSaved elapsed, files, .ok ())
  | .error f => (r.noteFailed f, files, .error f)

/-- **Save** the present buffers to the next numbered artifact, which takes so
many milliseconds. With `reset` the buffers are taken out first, and put back if
the artifact cannot be written. -/
def save (h : Heap) (r : Recorder) (files : FileTree) (reset : Bool) (elapsed : Nat)
    (packed : Option Nat := some 0) : Recorder × FileTree × Except Failure String :=
  if r.registry.closed then (r, files, .error .closed)
  else
    let c := r.census h
    let (path, archive) := r.archive.nextPath
    let r := { r with archive }
    if reset then
      let (detached, registry) := r.registry.detach
      match writeTrace h c { r with registry } files path detached.buffers elapsed packed with
      | (r, files, .ok ()) => (r, files, .ok path)
      | (r, files, .error f) =>
        ({ r with registry := r.registry.restore c detached }, files, .error f)
    else
      match writeTrace h c r files path r.registry.arena.buffers elapsed packed with
      | (r, files, .ok ()) => (r, files, .ok path)
      | (r, files, .error f) => (r, files, .error f)

/-- **Close** the recorder: stop recording, and write the final trace. Once it is
closed, closing it again does nothing. -/
def close (h : Heap) (r : Recorder) (files : FileTree) (elapsed : Nat)
    (packed : Option Nat := some 0) : Recorder × FileTree × Except Failure String :=
  let path := r.archive.finalPath
  if r.registry.closed then (r, files, .ok path)
  else
    let c := r.census h
    let r := { r with registry := r.registry.close }
    let (r, files, written) :=
      writeTrace h c r files path r.registry.arena.buffers elapsed packed
    let r := if r.settings.showBufferSize
      then r.mapDiagnostics (·.note (.summary r.statistics.summary)) else r
    (r, files, written.map fun _ => path)

/-! ### Partial saves -/

/-- The strategy of the periodic saver that is started for a recorder: the one
chosen, or else that of its settings. None is started for a strategy that saves
nothing. -/
def startedSaver? (r : Recorder) (chosen : Option PartialSave := none) : Option PartialSave :=
  match chosen.getD r.settings.partialSave with
  | .no => none
  | strategy => some strategy

/-- One turn of the periodic saver: nothing once the recorder is closed, and
otherwise a save, whose failure is only reported. The last part of the result
tells whether a save was attempted. -/
def saverTurn (h : Heap) (r : Recorder) (files : FileTree) (strategy : PartialSave)
    (elapsed : Nat) (packed : Option Nat := some 0) : Recorder × FileTree × Bool :=
  if r.registry.closed then (r, files, false)
  else
    let (r, files, _) := r.save h files strategy.resets elapsed packed
    (r, files, true)

/-- The description of a recorder in diagnostics. -/
def describe (r : Recorder) : String :=
  "EventRecorder \x7b config: " ++ r.settings.describe ++ ", registry: " ++
    r.registry.describe ++ " \x7d"

end Recorder

/-! ### The recorder of the process -/

/-- Make a recorder the one of the whole process, unless there is one. -/
def install (present : Option Recorder) (r : Recorder) : Except Failure Recorder :=
  match present with
  | some _ => .error (.settings .alreadyInstalled)
  | none => .ok r

/-- The version of the recorder. -/
def version : String := "0.1.0"

end FlightRecorder
