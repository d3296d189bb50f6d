import FlightRecorder.Proofs.Recorder.Stopped

/-!
# Closing a recorder

The first close freezes the recorder and writes the final trace, and its answer
tells whether the trace could be written. The closes after it ask no more than
whether the recorder is closed: they all answer with the path of the final trace.
So the answer to the first close is the one that counts. If it is the path, the
final trace is there, with the events of the moment of closing; if it is a
failure, the answers to later closes are no sign of a final trace.

* `FlightRecorder.Recorder.Session.frozen_run` – what is frozen in a closed
  recorder;
* `FlightRecorder.Recorder.Session.step_close_of_closed` – later closes;
* `FlightRecorder.Recorder.Session.close_of_run` – **the answers to closes**, for
  any run before the first and after it.
-/

namespace FlightRecorder.Recorder

variable {r : Recorder}

/-- **Closing an open recorder**: it answers with the path if the final trace is
written, which then reads back from there, and otherwise with the failure. The
buffers stay either way. -/
theorem close_of_open (h : Heap) (files : FileTree) (hopen : r.registry.closed = false)
    (elapsed : Nat) (packed : Option Nat) :
    let x := r.close h files elapsed packed
    x.1.registry.closed = true ∧ x.1.registry.arena = r.registry.arena ∧
    match (r.attempt h files r.archive.finalPath packed).2.2 with
    | .ok _ =>
      x.2.2 = .ok r.archive.finalPath ∧
      x.1.archive.read? x.2.1 r.archive.finalPath = .ok (r.presentText h)
    | .error f => x.2.2 = .error f ∧ files.Grown x.2.1 := by
  have hout := outcome_close h r files elapsed packed
  intro x
  change CloseOutcome h r files elapsed packed x at hout
  generalize x = x at hout ⊢
  cases hout with
  | again hclosed =>
    rw [hopen] at hclosed
    cases hclosed
  | written _ hwrite =>
    rw [hwrite]
    exact ⟨rfl, rfl, rfl, Archive.read?_of_write hwrite⟩
  | failed _ hwrite =>
    rw [hwrite]
    exact ⟨rfl, rfl, rfl, (Archive.grown_of_write_error hwrite).2⟩

namespace Session

variable {s : Session} {w : Supplies} {a : Action} {x : Session × Answer}

/-- **A closed recorder is frozen**: no action changes its registry or its archive. -/
theorem Outcome.frozen (hx : Outcome s w a x) (hclosed : s.recorder.registry.closed = true) :
    x.1.recorder.registry = s.recorder.registry ∧ x.1.recorder.archive = s.recorder.archive := by
  cases hx with
  | aside _ hsame =>
    rw [hsame]
    exact ⟨rfl, rfl⟩
  | registered => exact ⟨rfl, rfl⟩
  | called call =>
    rw [perform_of_stopped (isStopped_of_closed hclosed) call w.memory]
    exact ⟨rfl, rfl⟩
  | saved reset elapsed hsave =>
    cases hsave.eq_of_closed hclosed
    exact ⟨rfl, rfl⟩
  | closed elapsed hclose =>
    cases hclose.eq_of_closed hclosed
    exact ⟨rfl, rfl⟩

theorem frozen_run (hs : s.recorder.Sound) (hclosed : s.recorder.registry.closed = true)
    (actions : List Action) (w : Supplies) :
    (s.run actions w).recorder.registry = s.recorder.registry ∧
      (s.run actions w).recorder.archive = s.recorder.archive := by
  induction actions generalizing s with
  | nil => exact ⟨rfl, rfl⟩
  | cons a rest ih =>
    obtain ⟨hregistry, harchive⟩ := (outcome_step hs a w).frozen hclosed
    have hrest := ih (sound_step hs a w) (hregistry ▸ hclosed)
    rw [hregistry, harchive] at hrest
    exact hrest

/-- **Later closes** change nothing and answer with the path of the final trace. -/
theorem step_close_of_closed (hclosed : s.recorder.registry.closed = true) (elapsed : Nat)
    (w : Supplies) : s.step (.close elapsed) w = (s, .path s.recorder.archive.finalPath) := by
  rw [step, close, if_pos hclosed]
  rfl

/-- **The answers to closes.** Whatever happened before the first close: if the
final trace can be compressed and written, the close answers with its path, and the file reads
back as the trace of the buffers of that moment; if not, it answers with the
failure, and no file came, went or changed. Whatever happens afterwards, the
buffers stay as they are, and every later close does nothing and answers with the
path of the final trace – in the second case too, when there is none. -/
theorem close_of_run {settings : Settings} {clock : Clock} {start : Recorder}
    (hstart : new? settings clock = .ok start) (heap : Heap) (files : FileTree)
    (before after : List Action) (w : Supplies) (hfirst : before.any Action.closes = false)
    {s : Session} (hs : run ⟨heap, files, start⟩ before w = s) {path : String}
    (hpath : start.archive.finalPath = path) (elapsed later : Nat) :
    let first := s.step (.close elapsed) w
    let t := first.1.run after w
    (match (s.recorder.attempt s.heap s.files path (s.nextPacked w)).2.2 with
      | .ok _ =>
        first.2 = .path path ∧
        first.1.recorder.archive.read? first.1.files path = .ok (s.recorder.presentText s.heap)
      | .error f => first.2 = .failed f ∧ s.files.Grown first.1.files) ∧
    t.recorder.registry.arena = s.recorder.registry.arena ∧
    t.step (.close later) w = (t, .path path) := by
  have hstart' : start.Sound := sound_of_new? hstart
  have hsound : s.recorder.Sound := by
    rw [← hs]
    exact sound_run (s := ⟨heap, files, start⟩) hstart' before w
  have hkept := sound_step hsound (.close elapsed) w
  have hrules := (outcome_step hsound (.close elapsed) w).rules_eq
  rw [step_close s elapsed w] at hkept hrules ⊢
  intro first t
  have hopen : s.recorder.registry.closed = false := by
    rw [← hs, closed_run (s := ⟨heap, files, start⟩) hstart' before w, hfirst, Bool.or_false]
    show start.registry.closed = false
    rw [eq_of_new? hstart]
    rfl
  have hpath' : s.recorder.archive.finalPath = path := by
    rw [← hs, ← hpath]
    exact finalPath_of_rules (rules_run (s := ⟨heap, files, start⟩) hstart' before w)
  obtain ⟨hclosed, harena, hanswer⟩ :=
    close_of_open s.heap s.files hopen elapsed (s.nextPacked w)
  rw [hpath'] at hanswer
  -- from the first close on, everything is as it left it
  obtain ⟨hregistry, harchive⟩ := frozen_run hkept hclosed after w
  refine ⟨?_, (congrArg Registry.arena hregistry).trans harena, ?_⟩
  · cases hwritten : (s.recorder.attempt s.heap s.files path (s.nextPacked w)).2.2 with
    | ok n =>
      rw [hwritten] at hanswer
      exact ⟨congrArg Answer.of hanswer.1, hanswer.2⟩
    | error f =>
      rw [hwritten] at hanswer
      exact ⟨congrArg Answer.of hanswer.1, hanswer.2⟩
  · have hclosed' : t.recorder.registry.closed = true :=
      (congrArg Registry.closed hregistry).trans hclosed
    rw [step_close_of_closed hclosed' later w, harchive, finalPath_of_rules hrules, hpath']

/-- A final trace that can be written, and an event that comes too late for it. -/
theorem close_of_run_written :
    ∃ start, new? {} (.startingAt 1) = .ok start ∧
      let before : List Action := [.recordValue 3 (.int 7) 1, .save false 0]
      let s := run ⟨{}, {}, start⟩ before
      let first := s.step (.close 0)
      let t := first.1.run [.recordValue 3 (.int 8) 1, .save true 0]
      before.any Action.closes = false ∧
      first.2 = .path "trace.json" ∧
      first.1.recorder.archive.read? first.1.files "trace.json" =
        .ok (s.recorder.presentText s.heap) ∧
      t.recorder.registry.arena = s.recorder.registry.arena ∧
      t.step (.close 0) = (t, .path "trace.json") := by
  have hstart : new? {} (.startingAt 1) = .ok _ := rfl
  refine ⟨_, hstart, ?_⟩
  intro before s first t
  have hpath : (Archive.new ({} : Settings).traceFilePath ({} : Settings).compression).finalPath =
      "trace.json" := by decide +kernel
  have hok : (s.recorder.attempt s.heap s.files "trace.json" (s.nextPacked {})).2.2.isOk =
      true := by decide +kernel
  obtain ⟨hanswer, harena, hlater⟩ := close_of_run hstart {} {} before
    [.recordValue 3 (.int 8) 1, .save true 0] {} rfl (s := s) rfl hpath 0 0
  cases hwritten : (s.recorder.attempt s.heap s.files "trace.json" (s.nextPacked {})).2.2 with
  | error f =>
    rw [hwritten] at hok
    cases hok
  | ok n =>
    rw [hwritten] at hanswer
    subst t first
    exact ⟨rfl, hanswer.1, hanswer.2, harena, hlater⟩

/-- **The answer to the second close is no sign of a final trace**: a file is in the
way of the directory that the trace was to be written to. -/
theorem close_twice_of_unwritable :
    ∃ start, new? { traceFile := some "a/trace.json" } (.startingAt 1) = .ok start ∧
      let s := run ⟨{}, {}, start⟩ [.writeFile "a" "", .recordValue 0 (.int 1) 1]
      let first := s.step (.close 0)
      let second := first.1.step (.close 0)
      first.2 = .failed (.storage .createDirectory "a" .alreadyExists) ∧
      second.2 = .path "a/trace.json" ∧
      second.1.recorder.archive.artifactsWritten = 0 ∧
      second.1.recorder.archive.read? second.1.files "a/trace.json" =
        .error (.storage .readTrace "a/trace.json" .notDirectory) :=
  ⟨_, rfl, by decide +kernel⟩

end Session

end FlightRecorder.Recorder
