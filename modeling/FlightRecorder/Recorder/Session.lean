import FlightRecorder.Recorder

/-!
# Sessions of a recorder

A recorder together with the objects it observes and the files it writes. A run
is a list of actions on such a session; what each action answers is part of what
the run shows.

* `FlightRecorder.Recorder.Session` – heap, files and recorder;
* `FlightRecorder.Recorder.Session.Action`,
  `FlightRecorder.Recorder.Session.step` – what can happen;
* `FlightRecorder.Recorder.Session.run` – several actions, one after the other;
* `FlightRecorder.Recorder.Session.Supplies` – what memory and the compressor
  refuse meanwhile.
-/

namespace FlightRecorder.Recorder

/-- A recorder with its surroundings. -/
structure Session where
  heap : Heap
  files : FileTree := {}
  recorder : Recorder

namespace Session

/-- What can happen in a session. -/
inductive Action where
  | register (sites : List SiteInfo)
  | recordValue (site : Nat) (value : Value) (thread : UInt32)
  | recordObject (site : Nat) (o : Option Ref) (thread : UInt32)
  | recordArrayLoad (site : Nat) (array : Option Ref) (index : Int32) (thread : UInt32)
  | recordArrayStore (site : Nat) (array : Option Ref) (index : Int32) (value : Value)
    (thread : UInt32)
  | recordNewArray (site : Nat) (array : Ref) (thread : UInt32)
  | save (reset : Bool) (elapsed : Nat)
  | close (elapsed : Nat)
  | create (spec : ObjectSpec)
  | release (name : String)
  /-- Someone else writes a file. -/
  | writeFile (path text : String)
  /-- Someone else makes a directory. -/
  | makeDirectory (path : String)
  /-- Someone else removes a file or directory. -/
  | remove (path : String)
  deriving Repr

/-- What an action answers. -/
inductive Answer where
  | none
  /-- A trace was written to this path. -/
  | path (path : String)
  | failed (f : Failure)
  deriving DecidableEq, Repr

/-- The answer of an action that saves. -/
def Answer.of : Except Failure String → Answer
  | .ok p => .path p
  | .error f => .failed f

/-- Who is alive. -/
def census (s : Session) : Heap.Census :=
  s.recorder.census s.heap

/-- What a session is supplied with from outside: what memory refuses each event,
by the number of the event, and how many bytes the compressor makes of each trace,
by the number of the attempt to write one, unless it fails. -/
structure Supplies where
  memory : Nat → Memory := fun _ => .ample
  packed : Nat → Option Nat := fun _ => some 0

/-- The size of what the compressor makes of the trace that is written next. -/
def nextPacked (s : Session) (w : Supplies) : Option Nat :=
  w.packed (s.recorder.saves + s.recorder.saveFailures)

/-- Let one action happen. -/
def step (s : Session) (a : Action) (w : Supplies := {}) : Session × Answer :=
  match a with
  | .register sites => ({ s with recorder := s.recorder.register sites }, .none)
  | .recordValue site value thread =>
    ({ s with recorder := s.recorder.recordValue site value thread w.memory }, .none)
  | .recordObject site o thread =>
    ({ s with recorder := s.recorder.recordObject s.heap site o thread w.memory }, .none)
  | .recordArrayLoad site array index thread =>
    ({ s with recorder := s.recorder.recordArrayLoad s.heap site array index thread w.memory },
      .none)
  | .recordArrayStore site array index value thread =>
    ({ s with recorder :=
        s.recorder.recordArrayStore s.heap site array index value thread w.memory },
      .none)
  | .recordNewArray site array thread =>
    ({ s with recorder := s.recorder.recordNewArray s.heap site array thread w.memory }, .none)
  | .save reset elapsed =>
    let (recorder, files, written) :=
      s.recorder.save s.heap s.files reset elapsed (s.nextPacked w)
    ({ s with recorder, files }, .of written)
  | .close elapsed =>
    let (recorder, files, written) := s.recorder.close s.heap s.files elapsed (s.nextPacked w)
    ({ s with recorder, files }, .of written)
  | .create spec => ({ s with heap := s.heap.create spec }, .none)
  | .release name => ({ s with heap := s.heap.release name }, .none)
  | .writeFile path text =>
    match s.files.write? path (.plain text) with
    | .ok files => ({ s with files }, .none)
    | .error _ => (s, .none)
  | .makeDirectory path => ({ s with files := (s.files.makeDirectories path).1 }, .none)
  | .remove path => ({ s with files := s.files.remove path }, .none)

/-- Let several actions happen, one after the other. -/
def run (s : Session) (actions : List Action) (w : Supplies := {}) : Session :=
  actions.foldl (fun s a => (s.step a w).1) s

/-- The site of the first event that an action records. -/
def Action.site? : Action → Option Nat
  | .recordValue site .. | .recordObject site .. | .recordArrayLoad site .. |
    .recordArrayStore site .. | .recordNewArray site .. => some site
  | _ => none

/-- Whether an action breaks off. Only its first event can: no later one finds an
arena without slots. -/
def breaksOff (s : Session) (a : Action) (w : Supplies := {}) : Bool :=
  a.site?.any (s.recorder.breaksOff · w.memory)

end Session

end FlightRecorder.Recorder
