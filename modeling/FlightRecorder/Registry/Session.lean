import FlightRecorder.Registry

/-!
# Sessions of a registry

A registry does not live alone: the program allocates and releases objects while
it records, and buffers that were taken out wait somewhere to be put back. A
session is all of that together, and a run of the registry is a list of actions
on a session.

* `FlightRecorder.Registry.Session` – the heap, the registry, and the arenas taken out,
  each under a name;
* `FlightRecorder.Registry.Session.Action`, `FlightRecorder.Registry.Session.step`,
  `FlightRecorder.Registry.Session.run` – what can happen, one after the other.
-/

namespace FlightRecorder.Registry

/-- A registry with the objects it observes and the arenas taken out of it. -/
structure Session where
  heap : Heap
  registry : Registry
  /-- Arenas taken out and not put back, the latest first. -/
  parked : List (String × Arena) := []

namespace Session

/-- What can happen in a session. -/
inductive Action where
  | record (site : Nat) (value : Value) (thread : UInt32)
  | getOrCreate (site : Nat) (kind : SiteKind)
  /-- Take the buffers out and keep them under a name. -/
  | detach (name : String)
  /-- Put the buffers kept under a name back. -/
  | restore (name : String)
  | close
  | create (spec : ObjectSpec)
  | release (name : String)
  deriving Repr

/-- The references that slots keep alive, in the registry and outside it. -/
def held (s : Session) : List Ref :=
  s.registry.arena.held ++ s.parked.flatMap fun (_, a) => a.held

/-- Who is alive. -/
def census (s : Session) : Heap.Census :=
  s.heap.census s.held

/-- Let one action happen. -/
def step (s : Session) : Action → Session
  | .record site value thread => { s with registry := s.registry.record site value thread }
  | .getOrCreate site kind => { s with registry := (s.registry.getOrCreate site kind).1 }
  | .detach name =>
    let (arena, registry) := s.registry.detach
    { s with registry, parked := (name, arena) :: s.parked.filter (·.1 != name) }
  | .restore name =>
    match s.parked.lookup name with
    | none => s
    | some arena =>
      { s with
        registry := s.registry.restore s.census arena
        parked := s.parked.filter (·.1 != name) }
  | .close => { s with registry := s.registry.close }
  | .create spec => { s with heap := s.heap.create spec }
  | .release name => { s with heap := s.heap.release name }

/-- Let several actions happen, one after the other. -/
def run (s : Session) (actions : List Action) : Session :=
  actions.foldl step s

end Session

end FlightRecorder.Registry
