import FlightRecorder.Proofs.Recorder.Operations

/-!
# Saves that fail

Saving takes a number for the artifact, and with a reset the buffers as well,
before it knows whether the artifact can be written. When it cannot, the buffers
are put back, and what is left of the attempt is its account: one failure
counted and reported, one number of an artifact used up, the identities of dead
objects forgotten. This holds of every recorder that a run can reach, because the
budget is kept there, and putting buffers back gives it nothing to enforce.

* `FlightRecorder.Interner.mem_sweep` – what is forgotten;
* `FlightRecorder.Recorder.failedSave` – the recorder after a failed save;
* `FlightRecorder.Recorder.save_of_write_error` – one failed save;
* `FlightRecorder.Recorder.Session.failed_save_of_run` – **failed saves are
  atomic**, at any point of any run.
-/

namespace FlightRecorder

/-- Sweeping forgets the objects that are not alive, and no others. -/
theorem Interner.mem_sweep {i : Interner} {c : Heap.Census} {entry : Ref × UInt64} :
    entry ∈ (i.sweep c).entries ↔ entry ∈ i.entries ∧ c.isAlive entry.1 = true :=
  List.mem_filter

namespace Recorder

/-- The recorder after a save that failed: a number of an artifact is used up, the
failure is counted and reported, and the identities of dead objects are
forgotten. -/
def failedSave (h : Heap) (r : Recorder) (f : Failure) : Recorder :=
  { r with
    archive := { r.archive with names := { r.archive.names with last := r.archive.names.last + 1 } }
    saveFailures := r.saveFailures + 1
    interner := r.interner.map (Interner.sweep · (r.census h))
    registry := { r.registry with diagnostics := r.registry.diagnostics.report f } }

section FailedSave

variable {h : Heap} {r : Recorder} {files made : FileTree} {archive : Archive} {f : Failure}
  {packed : Option Nat}

/-- **A failed save**, with a reset or without. -/
theorem save_of_write_error (hr : r.Sound) (hopen : r.registry.closed = false)
    (hwrite : r.numbered.attempt h files r.archive.nextPath.1 packed = (archive, made, .error f))
    (reset : Bool) (elapsed : Nat) :
    r.save h files reset elapsed packed = (r.failedSave h f, made, .error f) := by
  obtain ⟨harchive, -⟩ := Archive.grown_of_write_error hwrite
  have hout := outcome_save h hr files reset elapsed packed
  generalize r.save h files reset elapsed packed = x at hout ⊢
  cases hout with
  | turnedAway hclosed =>
    rw [hopen] at hclosed
    cases hclosed
  | saved _ hwritten =>
    rw [hwrite] at hwritten
    cases hwritten
  | failed _ hfailed =>
    rw [hwrite] at hfailed
    cases hfailed
    rw [harchive]
    rfl

end FailedSave

namespace Session

/-- **Failed saves are atomic.** Whatever the run of a recorder was, and whatever memory
refused it, a save whose artifact cannot be written, or not be compressed before that,
answers with the failure, and the recorder is the one before except for the accounts of
the failure, those of `FlightRecorder.Recorder.failedSave`. No file came, went or changed:
of the artifact there may be directories it was to be written to. The interner has lost
the entries of dead objects, and no others. -/
theorem failed_save_of_run {settings : Settings} {clock : Clock} {start : Recorder}
    (hstart : new? settings clock = .ok start) (heap : Heap) (files : FileTree)
    (actions : List Action) (w : Supplies) {s : Session}
    (hs : run ⟨heap, files, start⟩ actions w = s)
    (hopen : s.recorder.registry.closed = false) {archive : Archive} {made : FileTree}
    {f : Failure}
    (hwrite : s.recorder.numbered.attempt s.heap s.files s.recorder.archive.nextPath.1
      (s.nextPacked w) = (archive, made, .error f))
    (reset : Bool) (elapsed : Nat) :
    s.step (.save reset elapsed) w =
      ({ s with files := made, recorder := s.recorder.failedSave s.heap f }, .failed f) ∧
    s.files.Grown made ∧
    ∀ i ∈ s.recorder.interner, ∃ i' ∈ (s.recorder.failedSave s.heap f).interner,
      i'.next = i.next ∧
      ∀ entry, entry ∈ i'.entries ↔ entry ∈ i.entries ∧ s.census.isAlive entry.1 = true := by
  have hsound : s.recorder.Sound := by
    rw [← hs]
    exact sound_run (sound_of_new? hstart) actions w
  obtain ⟨-, hgrown⟩ := Archive.grown_of_write_error hwrite
  refine ⟨?_, hgrown, fun i hi => ?_⟩
  · rw [step_save s reset elapsed w, save_of_write_error hsound hopen hwrite]
    rfl
  · refine ⟨i.sweep s.census, Option.mem_map_of_mem _ hi, rfl, fun entry => ?_⟩
    exact Interner.mem_sweep

/-- A directory is in the way of the artifact, and a recorded object is dead. -/
theorem failed_save_of_run_occupied :
    ∃ start, new? { retention := .id } (.startingAt 1) = .ok start ∧
      let s := run ⟨{}, {}, start⟩
        [.create ⟨"o", "Object", none, none, false⟩, .recordObject 3 (some ⟨0⟩) 1, .release "o",
          .makeDirectory "trace00001.json"]
      let f : Failure := .storage .writeTrace "trace00001.json" .isDirectory
      s.recorder.registry.closed = false ∧
      s.recorder.numbered.attempt s.heap s.files s.recorder.archive.nextPath.1 =
        (s.recorder.numbered.archive, s.files, .error f) ∧
      s.recorder.registry.totalRetained = 1 ∧
      s.step (.save true 0) =
        ({ s with recorder := s.recorder.failedSave s.heap f }, .failed f) := by
  have hstart : new? { retention := .id } (.startingAt 1) = .ok _ := rfl
  refine ⟨_, hstart, ?_⟩
  intro s f
  have hopen : s.recorder.registry.closed = false := by decide +kernel
  have hwrite : s.recorder.numbered.attempt s.heap s.files s.recorder.archive.nextPath.1 =
      (s.recorder.numbered.archive, s.files, .error f) := by decide +kernel
  exact ⟨hopen, hwrite, by decide +kernel,
    (failed_save_of_run hstart {} {} _ {} rfl hopen hwrite true 0).1⟩

end Session

end Recorder

end FlightRecorder
