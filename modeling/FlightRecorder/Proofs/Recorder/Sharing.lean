import FlightRecorder.Proofs.Recorder.Keeping

/-!
# Recorders whose parts are shared

A recorder gives out its registry and its interner, so that others may use them
beside it: record into the registry, take its buffers out and put them back, close
it, ask the interner for identities or purge it. The arenas taken out keep objects
alive as much as the buffers of the recorder do. This file is the account of all of
that together; a session of a recorder alone is the special case in which nobody
else does anything, and a session of a registry alone the one in which nobody uses
the recorder.

* `FlightRecorder.Recorder.Shared` – a recorder with its surroundings and the arenas
  taken out of its registry;
* `FlightRecorder.Recorder.Shared.observed`, `FlightRecorder.Recorder.Shared.census` –
  the objects as the recorder sees them, with what is held outside, and who is alive;
* `FlightRecorder.Recorder.Shared.step`, `FlightRecorder.Recorder.Shared.run`;
* `FlightRecorder.Recorder.Shared.run_map_act`,
  `FlightRecorder.Recorder.Shared.run_map_ofRegistry` – **sessions of a recorder and
  of a registry are such runs**;
* `FlightRecorder.Recorder.Shared.heap_run` – what becomes of the objects;
* `FlightRecorder.Recorder.Shared.owned` – runs in which only those objects are handed
  over that the program has.
-/

namespace FlightRecorder.Recorder

/-- **A recorder whose parts are shared**, with its surroundings. -/
structure Shared where
  heap : Heap
  files : FileTree := {}
  recorder : Recorder
  /-- Arenas taken out of the registry and not put back, the latest first. -/
  parked : List (String × Arena) := []

namespace Shared

/-- What can happen. -/
inductive Action where
  /-- The program or the recorder does something. -/
  | act (a : Session.Action)
  /-- Someone records into the registry. -/
  | record (site : Nat) (value : Value) (thread : UInt32)
  /-- Someone asks the registry for a buffer. -/
  | getOrCreate (site : Nat) (kind : SiteKind)
  /-- Someone takes the buffers out and keeps them under a name, letting go of what
  was kept under it. -/
  | detach (name : String)
  /-- Someone puts the buffers kept under a name back. -/
  | restore (name : String)
  /-- Someone lets go of the buffers kept under a name. -/
  | discard (name : String)
  /-- Someone closes the registry. -/
  | closeRegistry
  /-- Someone asks the interner for an identity. -/
  | intern (o : Option Ref)
  /-- Someone purges the interner. -/
  | purge

/-! ### Who is alive -/

/-- The references that the arenas outside keep alive. -/
def parkedHeld (s : Shared) : List Ref :=
  (s.parked.map (·.2)).flatMap Arena.held

/-- **The objects as the recorder sees them**: what is held outside is held like the
program's handles. -/
def observed (s : Shared) : Heap :=
  s.heap.holding s.parkedHeld

/-- The arenas there are: those outside, and that of the registry. -/
def arenas (s : Shared) : List Arena :=
  s.parked.map (·.2) ++ [s.recorder.registry.arena]

/-- The references that slots keep alive, in the registry and outside it. -/
def held (s : Shared) : List Ref :=
  s.arenas.flatMap Arena.held

/-- Who is alive. -/
def census (s : Shared) : Heap.Census :=
  s.heap.census s.held

theorem held_eq (s : Shared) : s.held = s.parkedHeld ++ s.recorder.held := by
  rw [held, arenas, List.flatMap_append, List.flatMap_singleton]
  rfl

/-- The recorder counts those alive who are. -/
theorem census_observed (s : Shared) : s.recorder.census s.observed = s.census := by
  rw [Recorder.census, observed, Heap.census_holding, ← held_eq, census]

/-! ### Runs -/

/-- Let one action happen. -/
def step (s : Shared) : Action → Shared
  | .act a =>
    let next := (Session.step ⟨s.observed, s.files, s.recorder⟩ a).1
    { s with heap := a.onHeap s.heap, files := next.files, recorder := next.recorder }
  | .record site value thread =>
    let registry := s.recorder.registry.record site value thread
    { s with recorder := { s.recorder with registry } }
  | .getOrCreate site kind =>
    let registry := (s.recorder.registry.getOrCreate site kind).1
    { s with recorder := { s.recorder with registry } }
  | .detach name =>
    let (arena, registry) := s.recorder.registry.detach
    { s with
      recorder := { s.recorder with registry }
      parked := (name, arena) :: s.parked.filter (·.1 != name) }
  | .restore name =>
    match s.parked.lookup name with
    | none => s
    | some arena =>
      let registry := s.recorder.registry.restore s.census arena
      { s with
        recorder := { s.recorder with registry }
        parked := s.parked.filter (·.1 != name) }
  | .discard name => { s with parked := s.parked.filter (·.1 != name) }
  | .closeRegistry =>
    { s with recorder := { s.recorder with registry := s.recorder.registry.close } }
  | .intern o =>
    let interner := s.recorder.interner.map fun i => (i.intern s.observed s.recorder.held o).1
    { s with recorder := { s.recorder with interner } }
  | .purge =>
    let interner := s.recorder.interner.map (Interner.sweep · s.census)
    { s with recorder := { s.recorder with interner } }

/-- Let several actions happen, one after the other. -/
def run (s : Shared) (actions : List Action) : Shared :=
  actions.foldl step s

/-- **The beginning**: no objects yet, a recorder that was set up in whatever way with
a new registry, and an interner if the registry wants identities. -/
def start (settings : Settings) (limits : RegistryLimits) (clock : Clock) (archive : Archive)
    (files : FileTree) : Shared :=
  { heap := {}
    files
    recorder :=
      { settings, registry := .new limits clock, catalog := {}, archive
        interner := if limits.retention = .id then some {} else none } }

/-- Objects are numbered under the `id` policy. -/
theorem isSome_interner_start (settings : Settings) {limits : RegistryLimits}
    (hid : limits.retention = .id) (clock : Clock) (archive : Archive) (files : FileTree) :
    (start settings limits clock archive files).recorder.interner.isSome = true := by
  rw [start, if_pos hid]
  rfl

/-- A new recorder, as its settings say. -/
theorem start_of_new? {settings : Settings} {clock : Clock} {r : Recorder}
    (hr : new? settings clock = .ok r) (files : FileTree) :
    start settings settings.limits clock (.new settings.traceFilePath settings.compression) files =
      ⟨{}, files, r, []⟩ := by
  rw [eq_of_new? hr]
  rfl

/-! ### Sessions as runs of this kind -/

/-- A session of a recorder alone. -/
def ofSession (s : Session) : Shared :=
  ⟨s.heap, s.files, s.recorder, []⟩

theorem observed_ofSession (s : Session) : (ofSession s).observed = s.heap := by
  rw [observed, Heap.holding, parkedHeld, ofSession]
  exact congrArg (fun handles => { s.heap with handles }) (List.append_nil _)

/-- **Sessions of a recorder are runs** in which nobody else does anything. -/
theorem run_map_act (s : Session) (actions : List Session.Action) :
    (ofSession s).run (actions.map .act) = ofSession (s.run actions) := by
  induction actions generalizing s with
  | nil => rfl
  | cons a rest ih =>
    have hstep : (ofSession s).step (.act a) = ofSession (s.step a).1 := by
      rw [step, observed_ofSession, ofSession, ofSession, Session.heap_step]
    rw [List.map_cons, run, List.foldl_cons, hstep]
    exact ih (s.step a).1

/-- A session of a registry alone, whatever recorder there is to it. -/
def ofRegistry (r : Recorder) (files : FileTree) (s : Registry.Session) : Shared :=
  ⟨s.heap, files, { r with registry := s.registry }, s.parked⟩

/-- The actions on a registry. -/
def Action.ofRegistry : Registry.Session.Action → Action
  | .record site value thread => .record site value thread
  | .getOrCreate site kind => .getOrCreate site kind
  | .detach name => .detach name
  | .restore name => .restore name
  | .close => .closeRegistry
  | .create spec => .act (.create spec)
  | .release name => .act (.release name)

theorem census_ofRegistry (r : Recorder) (files : FileTree) (s : Registry.Session) :
    (ofRegistry r files s).census = s.census := by
  refine Heap.census_congr fun ref => ?_
  rw [held_eq, parkedHeld, List.flatMap_map, Registry.Session.held, List.mem_append,
    List.mem_append]
  exact or_comm

/-- **Sessions of a registry are runs** in which nobody uses the recorder. -/
theorem run_map_ofRegistry (r : Recorder) (files : FileTree) (s : Registry.Session)
    (actions : List Registry.Session.Action) :
    (ofRegistry r files s).run (actions.map .ofRegistry) = ofRegistry r files (s.run actions) := by
  induction actions generalizing s with
  | nil => rfl
  | cons a rest ih =>
    have hstep : (ofRegistry r files s).step (.ofRegistry a) = ofRegistry r files (s.step a) := by
      cases a with
      | restore name =>
        rw [Action.ofRegistry, step, census_ofRegistry, Registry.Session.step]
        cases hlookup : s.parked.lookup name <;> simp only [ofRegistry, hlookup]
      | _ => rfl
    rw [List.map_cons, run, List.foldl_cons, hstep]
    exact ih (s.step a)

/-! ### What becomes of the objects -/

/-- What an action does to the objects. -/
def Action.onHeap : Action → Heap → Heap
  | .act a, h => a.onHeap h
  | _, h => h

theorem heap_step (s : Shared) (a : Action) : (s.step a).heap = a.onHeap s.heap := by
  cases a with
  | restore name =>
    rw [step]
    split <;> rfl
  | _ => rfl

/-- **The objects are the program's**: what becomes of them depends on what the
program creates and lets go of, and on nothing else. -/
theorem heap_run (s : Shared) (actions : List Action) :
    (s.run actions).heap = actions.foldl (fun h a => a.onHeap h) s.heap := by
  induction actions generalizing s with
  | nil => rfl
  | cons a rest ih =>
    rw [run, List.foldl_cons, List.foldl_cons, ← heap_step]
    exact ih (s.step a)

theorem wellFormed_step {s : Shared} (hs : s.heap.WellFormed) (a : Action) :
    (s.step a).heap.WellFormed := by
  rw [heap_step]
  cases a with
  | act a => exact Session.wellFormed_onHeap hs a
  | _ => exact hs

theorem wellFormed_run {s : Shared} (hs : s.heap.WellFormed) (actions : List Action) :
    (s.run actions).heap.WellFormed := by
  induction actions generalizing s with
  | nil => exact hs
  | cons a rest ih => exact ih (wellFormed_step hs a)

/-- Objects are never taken back. -/
theorem size_le_onHeap (h : Heap) (a : Action) : h.objects.size ≤ (a.onHeap h).objects.size := by
  cases a with
  | act a => exact Session.size_le_onHeap h a
  | _ => exact Nat.le_refl _

/-- Nobody comes back to life. -/
theorem alive_of_onHeap {h : Heap} {held : List Ref} {r : Ref} (a : Action)
    (hr : r.index < h.objects.size) (halive : (a.onHeap h).Alive held r) : h.Alive held r := by
  cases a with
  | act a => exact Session.alive_of_onHeap a hr halive
  | _ => exact halive

/-! ### What is handed over -/

/-- What the program, or whoever shares the registry or the interner, hands over with
an action. -/
def Action.given : Action → List Ref
  | .act a => a.given
  | .record _ v _ => refsOf v
  | .intern o => o.toList
  | _ => []

/-- **Runs in which only those objects are handed over that the program has** at that
time, from a heap on. -/
def owned : Heap → List Action → Bool
  | _, [] => true
  | h, a :: rest => h.owns a.given && owned (a.onHeap h) rest

variable {s : Shared}

/-- Those that the program has are counted among the living, whatever slots hold. -/
theorem isAlive_observed (hs : s.heap.WellFormed) (held : List Ref) {r : Ref}
    (hr : s.heap.Alive [] r) : (s.observed.census held).isAlive r = true := by
  have hsize : r.index < s.heap.objects.size :=
    hr.lt_size hs fun _ hx => absurd hx List.not_mem_nil
  rw [observed, Heap.census_holding, Heap.isAlive_census_iff hs hsize]
  exact hr.mono (List.nil_subset _)

theorem isAlive_census (hs : s.heap.WellFormed) {r : Ref} (hr : s.heap.Alive [] r) :
    s.census.isAlive r = true := by
  rw [← census_observed]
  exact isAlive_observed hs s.recorder.held hr

/-! ### What becomes of the interner -/

/-- An action that makes no call leaves the interner alone, or purges it. -/
theorem interner_of_no_call {b : Session.Action} (hcall : b.call? = none) (s : Shared) :
    (s.step (.act b)).recorder.interner = s.recorder.interner ∨
      (s.step (.act b)).recorder.interner =
        s.recorder.interner.map (Interner.sweep · s.census) := by
  rw [← census_observed]
  exact Session.interner_of_no_call (s := ⟨s.observed, s.files, s.recorder⟩) hcall

/-- Whether objects are numbered does not change. -/
theorem isSome_interner_step (s : Shared) (a : Action) :
    (s.step a).recorder.interner.isSome = s.recorder.interner.isSome := by
  cases a with
  | act a => exact Session.isSome_interner_step _ a
  | restore name =>
    rw [step]
    split <;> rfl
  | intern | purge => exact Option.isSome_map
  | record | getOrCreate | detach | discard | closeRegistry => rfl

theorem isSome_interner_run (s : Shared) (actions : List Action) :
    (s.run actions).recorder.interner.isSome = s.recorder.interner.isSome := by
  induction actions generalizing s with
  | nil => rfl
  | cons a rest ih => exact (ih (s.step a)).trans (isSome_interner_step s a)

end Shared

end FlightRecorder.Recorder
