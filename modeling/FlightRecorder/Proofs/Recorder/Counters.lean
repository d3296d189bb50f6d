import Mathlib.Algebra.Ring.Nat
import FlightRecorder.Proofs.Recorder.Partition

/-!
# The numbers of a recorder

A recorder counts the traces that it saved and those that it could not; its archive
counts artifacts and their bytes; notices, failures and metrics tell the same once more,
each where it comes up. Of events there are two counts, that of the recorder, which goes
up before an event is offered to the registry, and the clock, which the registry moves.
This file proves that all of them agree, with each other and with what happened,
whichever writes failed and in whatever order, and whatever memory refused.

* `FlightRecorder.Recorder.Attempt`, `FlightRecorder.Recorder.Session.attempts` – the
  traces that a run tries to write, with what came of each;
* `FlightRecorder.Recorder.Tallied` – the numbers about traces, told by the attempts
  (`FlightRecorder.Recorder.Session.tallied_run`);
* `FlightRecorder.Recorder.Attempt.Plain` – what is different without compression;
* `FlightRecorder.Recorder.Session.counters_of_run` – **the counters of a run**;
* `FlightRecorder.Recorder.Session.counters_apart` – where the two counts of events part,
  and where a trace is not saved although nothing was refused to be stored.
-/

namespace FlightRecorder

/-- Whether a failure is one of storing a trace. -/
def Failure.isStorage : Failure → Bool
  | .storage .. => true
  | _ => false

/-- Whether a failure is one of writing a trace: of storing it, or of compressing it
before. -/
def Failure.isWriting : Failure → Bool
  | .storage .. | .decompression => true
  | _ => false

/-- Whether a notice is about a trace that was saved. -/
def Notice.isSaved : Notice → Bool
  | .saved _ => true
  | .summary _ => false

/-- What is reported about saved traces. -/
structure Savings where
  notices : List Notice
  failures : List Failure
  /-- The counter of saves; it is zero until it is emitted. -/
  counter : Nat
  durations : List Nat
  /-- The counter of recorded events, if it was emitted. -/
  recorded : Option Nat

/-- One more trace was saved, after so many recorded events. -/
def Savings.saved (s : Savings) (elapsed recorded : Nat) : Savings :=
  { s with
    notices := s.notices ++ [.saved elapsed]
    counter := s.counter + 1
    durations := s.durations ++ [elapsed]
    recorded := some recorded }

/-- One more could not be saved. -/
def Savings.failed (s : Savings) (f : Failure) : Savings :=
  { s with failures := s.failures ++ [f] }

/-- **What the diagnostics say about saved traces.** -/
def Diagnostics.savings (d : Diagnostics) : Savings where
  notices := d.notices.filter Notice.isSaved
  failures := d.failures.filter Failure.isWriting
  counter := d.metrics.saves.getD 0
  durations := d.metrics.saveDurations
  recorded := d.metrics.eventsRecorded

/-! ### Recording says nothing about saved traces -/

section Recording

variable {r r' : Registry} {site : Nat} {kind : SiteKind} {b : SiteBuffer} {f : Failure}

theorem Diagnostics.savings_report_of_not (hf : f.isWriting = false) (d : Diagnostics) :
    (d.report f).savings = d.savings := by
  simp only [savings, report, List.filter_append, List.filter_cons, hf, List.filter_nil]
  simp

namespace Registry

theorem savings_degrade (r : Registry) (hf : f.isWriting = false) :
    (r.degrade f).diagnostics.savings = r.diagnostics.savings := by
  rw [degrade]
  split_ifs
  · rfl
  · exact Diagnostics.savings_report_of_not hf r.diagnostics

theorem savings_enforceBudget (r : Registry) :
    r.enforceBudget.diagnostics.savings = r.diagnostics.savings := by
  simp only [enforceBudget, Diagnostics.savings]
  split_ifs <;> rfl

theorem Ready.savings (h : Ready r site kind r' b) :
    r'.diagnostics.savings = r.diagnostics.savings := by
  cases h <;> rfl

theorem savings_record (r : Registry) (site : Nat) (value : Value) (thread : UInt32)
    (m : Memory) :
    (r.record site value thread m).diagnostics.savings = r.diagnostics.savings := by
  have hgranted := granted_record r site value thread m
  generalize r.record site value thread m = r'' at hgranted ⊢
  have hwriting {f : Failure} (hf : f.isAllocation = true) : f.isWriting = false := by
    cases f <;> first | rfl | cases hf
  cases hgranted with
  | stopped => rfl
  | uncreated _ _ _ hf | ungrown _ _ _ hf => exact savings_degrade r (hwriting hf)
  | amply =>
    have hout := outcome_record r site value thread
    generalize r.record site value thread = r'' at hout ⊢
    cases hout with
    | unchanged => rfl
    | beyond => exact savings_degrade r rfl
    | stored _ _ hready => exact (savings_enforceBudget _).trans hready.savings
    | refused _ _ hready => exact (Diagnostics.savings_report_of_not rfl _).trans hready.savings

end Registry

end Recording

namespace Recorder

/-! ### Attempts to write a trace -/

/-- **A trace that a recorder tries to write**: how many events were recorded by then, the
text, how long it takes, and what comes of it. -/
structure Attempt where
  recorded : Nat
  text : String
  elapsed : Nat
  written : Except Failure Nat

/-- Whether the trace is written. -/
def Attempt.succeeded (t : Attempt) : Bool :=
  match t.written with
  | .ok _ => true
  | .error _ => false

/-- Why it is not. -/
def Attempt.failure? (t : Attempt) : Option Failure :=
  match t.written with
  | .ok _ => none
  | .error f => some f

/-- The size of its stored form, if it is written. -/
def Attempt.bytes (t : Attempt) : Nat :=
  match t.written with
  | .ok n => n
  | .error _ => 0

/-- **An attempt without compression**: what is stored has the size of the text, and the
file system alone can fail. -/
structure Attempt.Plain (t : Attempt) : Prop where
  bytes : ∀ n, t.written = .ok n → n = t.text.utf8ByteSize
  failure : ∀ f, t.written = .error f → f.isStorage = true

/-- The traces that are written. -/
def successes (attempts : List Attempt) : List Attempt :=
  attempts.filter Attempt.succeeded

/-- The failures of those that are not. -/
def setbacks (attempts : List Attempt) : List Failure :=
  attempts.filterMap Attempt.failure?

/-- There is a failure for each of these. -/
theorem length_setbacks (attempts : List Attempt) :
    (setbacks attempts).length = (attempts.filter fun t => !t.succeeded).length := by
  have hsome (t : Attempt) : t.failure?.isSome = !t.succeeded := by
    rw [Attempt.failure?, Attempt.succeeded]
    cases t.written <;> rfl
  rw [setbacks, List.length_filterMap_eq_countP, ← List.countP_eq_length_filter]
  simp only [hsome]

/-- **What there is to report about attempts.** -/
def savingsOf (attempts : List Attempt) : Savings where
  notices := (successes attempts).map (.saved ·.elapsed)
  failures := setbacks attempts
  counter := (successes attempts).length
  durations := (successes attempts).map (·.elapsed)
  recorded := (successes attempts).getLast?.map (·.recorded)

/-- **The numbers about traces**, told by the attempts so far. -/
structure Tallied (r : Recorder) (attempts : List Attempt) : Prop where
  saves : r.saves = (successes attempts).length
  artifacts : r.archive.artifactsWritten = (successes attempts).length
  bytes : r.archive.bytesWritten = ((successes attempts).map Attempt.bytes).sum
  failures : r.saveFailures = (setbacks attempts).length
  savings : r.registry.diagnostics.savings = savingsOf attempts

/-- All that the numbers about traces depend on. -/
def tally (r : Recorder) : Nat × Nat × Nat × Nat × Savings :=
  (r.saves, r.saveFailures, r.archive.artifactsWritten, r.archive.bytesWritten,
    r.registry.diagnostics.savings)

section Tallied

variable {r r' : Recorder} {attempts : List Attempt} {t : Attempt} {n : Nat} {f : Failure}
  {h : Heap} {files : FileTree} {packed : Option Nat}

theorem successes_concat_ok (ht : t.written = .ok n) (attempts : List Attempt) :
    successes (attempts ++ [t]) = successes attempts ++ [t] ∧
      setbacks (attempts ++ [t]) = setbacks attempts := by
  simp [successes, setbacks, Attempt.succeeded, Attempt.failure?, ht]

theorem successes_concat_error (ht : t.written = .error f) (attempts : List Attempt) :
    successes (attempts ++ [t]) = successes attempts ∧
      setbacks (attempts ++ [t]) = setbacks attempts ++ [f] := by
  simp [successes, setbacks, Attempt.succeeded, Attempt.failure?, ht]

theorem savings_noteSaved (r : Recorder) (elapsed : Nat) :
    (r.noteSaved elapsed).registry.diagnostics.savings =
      r.registry.diagnostics.savings.saved elapsed r.eventsRecorded := by
  simp only [Diagnostics.savings, Savings.saved, noteSaved, mapDiagnostics, Diagnostics.note,
    Metrics.saved, Metrics.raise, List.filter_append]
  rfl

theorem savings_noteFailed (r : Recorder) (hf : f.isWriting = true) :
    (r.noteFailed f).registry.diagnostics.savings = r.registry.diagnostics.savings.failed f := by
  simp only [Diagnostics.savings, Savings.failed, noteFailed, mapDiagnostics, Diagnostics.report,
    List.filter_append, List.filter_cons, hf, List.filter_nil]
  rfl

theorem savingsOf_concat_ok (ht : t.written = .ok n) (attempts : List Attempt) :
    savingsOf (attempts ++ [t]) = (savingsOf attempts).saved t.elapsed t.recorded := by
  obtain ⟨hsuccesses, hsetbacks⟩ := successes_concat_ok ht attempts
  simp [savingsOf, Savings.saved, hsuccesses, hsetbacks]

theorem savingsOf_concat_error (ht : t.written = .error f) (attempts : List Attempt) :
    savingsOf (attempts ++ [t]) = (savingsOf attempts).failed f := by
  obtain ⟨hsuccesses, hsetbacks⟩ := successes_concat_error ht attempts
  simp [savingsOf, Savings.failed, hsuccesses, hsetbacks]

theorem Tallied.of_tally (hr : Tallied r attempts) (htally : r'.tally = r.tally) :
    Tallied r' attempts := by
  simp only [tally, Prod.mk.injEq] at htally
  obtain ⟨hsaves, hfailures, hartifacts, hbytes, hsavings⟩ := htally
  exact ⟨hsaves.trans hr.saves, hartifacts.trans hr.artifacts, hbytes.trans hr.bytes,
    hfailures.trans hr.failures, hsavings.trans hr.savings⟩

/-- **A trace is written**, and noted. -/
theorem Tallied.noteSaved (hr : Tallied r attempts) (ht : t.written = .ok n)
    (htally : r'.tally = tally { r with archive := r.archive.credited n })
    (hrecorded : r'.eventsRecorded = t.recorded) :
    Tallied (r'.noteSaved t.elapsed) (attempts ++ [t]) := by
  obtain ⟨hsuccesses, hsetbacks⟩ := successes_concat_ok ht attempts
  simp only [tally, Prod.mk.injEq] at htally
  obtain ⟨hsaves, hfailures, hartifacts, hbytes, hsavings⟩ := htally
  have hsize : t.bytes = n := by rw [Attempt.bytes, ht]
  refine ⟨?_, ?_, ?_, ?_, ?_⟩
  · rw [hsuccesses, List.length_append, ← hr.saves]
    exact congrArg (· + 1) hsaves
  · rw [hsuccesses, List.length_append, ← hr.artifacts]
    exact hartifacts
  · rw [hsuccesses, List.map_append, List.sum_append, ← hr.bytes, List.map_singleton, hsize,
      List.sum_singleton]
    exact hbytes
  · rw [hsetbacks, ← hr.failures]
    exact hfailures
  · rw [savings_noteSaved, savingsOf_concat_ok ht, hrecorded, hsavings, hr.savings]

/-- **A trace is not written**, and that is noted. -/
theorem Tallied.noteFailed (hr : Tallied r attempts) (ht : t.written = .error f)
    (hf : f.isWriting = true) (htally : r'.tally = r.tally) :
    Tallied (r'.noteFailed f) (attempts ++ [t]) := by
  obtain ⟨hsuccesses, hsetbacks⟩ := successes_concat_error ht attempts
  have hr' := hr.of_tally htally
  refine ⟨?_, ?_, ?_, ?_, ?_⟩
  · rw [hsuccesses]
    exact hr'.saves
  · rw [hsuccesses]
    exact hr'.artifacts
  · rw [hsuccesses]
    exact hr'.bytes
  · rw [hsetbacks, List.length_append, ← hr'.failures]
    rfl
  · rw [savings_noteFailed r' hf, savingsOf_concat_error ht, hr'.savings]

/-! ### The operations -/

/-- A summary is no notice of a saved trace. -/
theorem tally_noteSummary (r : Recorder) : r.noteSummary.tally = r.tally := by
  have hsavings : r.noteSummary.registry.diagnostics.savings =
      r.registry.diagnostics.savings := by
    simp only [noteSummary, mapDiagnostics]
    split_ifs
    · simp only [Diagnostics.savings, Diagnostics.note, List.filter_append]
      simp [Notice.isSaved]
    · rfl
  simp only [tally, hsavings]
  rfl

/-- Recording leaves the numbers about traces alone. -/
theorem tally_perform (h : Heap) (r : Recorder) (call : Call) (m : Nat → Memory) :
    (r.perform h call m).tally = r.tally := by
  refine perform_ind (P := fun r' => r'.tally = r.tally) ?_ (fun _ _ _ _ hr' => hr') rfl call
  intro r' site value thread hr'
  rw [← hr', recordValue]
  split_ifs
  · rfl
  · simp only [tally, r'.registry.savings_record]

/-- What a write is refused for is a failure of writing. -/
theorem isWriting_of_write {a a' : Archive} {files' : FileTree} {path text : String}
    (hwrite : a.write files path text packed = (a', files', .error f)) : f.isWriting = true := by
  rcases Archive.failure_of_write hwrite with ⟨_, _, _, rfl⟩ | ⟨rfl, -⟩ <;> rfl

/-- A trace that is written now, to whatever path. -/
def attempted (h : Heap) (r : Recorder) (files : FileTree) (path : String) (elapsed : Nat)
    (packed : Option Nat) : Attempt where
  recorded := r.eventsRecorded
  text := r.presentText h
  elapsed := elapsed
  written := (r.attempt h files path packed).2.2

theorem written_attempted {path : String} {archive : Archive} {files' : FileTree}
    {written : Except Failure Nat}
    (hwrite : r.attempt h files path packed = (archive, files', written)) (elapsed : Nat) :
    (r.attempted h files path elapsed packed).written = written := by
  rw [attempted, hwrite]

/-- Without compression, that is plain. -/
theorem plain_attempted (hnone : r.archive.compression = none) (h : Heap) (files : FileTree)
    (path : String) (elapsed : Nat) (packed : Option Nat) :
    (r.attempted h files path elapsed packed).Plain := by
  obtain ⟨⟨archive, files', written⟩, hwrite⟩ : ∃ x, r.attempt h files path packed = x := ⟨_, rfl⟩
  refine ⟨fun n hn => ?_, fun f hf => ?_⟩
  · rw [written_attempted hwrite] at hn
    rw [hn] at hwrite
    have hsize := (Archive.credited_of_write hwrite).2
    rw [Archive.storedSize?, hnone] at hsize
    exact (Option.some.inj hsize).symm
  · rw [written_attempted hwrite] at hf
    rw [hf] at hwrite
    rcases Archive.failure_of_write hwrite with ⟨_, _, _, rfl⟩ | ⟨-, hsome, -⟩
    · rfl
    · rw [hnone] at hsome
      cases hsome

/-- **Saving**: an open recorder makes an attempt, and notes what comes of it. -/
theorem Tallied.saveOutcome (hr : Tallied r attempts) {reset : Bool} {elapsed : Nat}
    {x : Recorder × FileTree × Except Failure String}
    (hx : SaveOutcome h r files reset elapsed packed x) :
    Tallied x.1 (attempts ++ if r.registry.closed then []
      else [r.numbered.attempted h files r.archive.nextPath.1 elapsed packed]) := by
  cases hx with
  | turnedAway hclosed =>
    rw [if_pos hclosed, List.append_nil]
    exact hr
  | saved hopen hwrite =>
    rw [if_neg (Bool.eq_false_iff.mp hopen)]
    obtain ⟨rfl, -⟩ := Archive.credited_of_write hwrite
    refine hr.noteSaved (written_attempted hwrite elapsed) ?_ ?_
    · cases reset <;> rfl
    · cases reset <;> rfl
  | failed hopen hwrite =>
    rw [if_neg (Bool.eq_false_iff.mp hopen)]
    obtain ⟨rfl, -⟩ := Archive.grown_of_write_error hwrite
    exact hr.noteFailed (written_attempted hwrite elapsed) (isWriting_of_write hwrite) rfl

/-- **Closing**: so does a recorder that is closed for the first time. -/
theorem Tallied.closeOutcome (hr : Tallied r attempts) {elapsed : Nat}
    {x : Recorder × FileTree × Except Failure String}
    (hx : CloseOutcome h r files elapsed packed x) :
    Tallied x.1 (attempts ++ if r.registry.closed then []
      else [r.attempted h files r.archive.finalPath elapsed packed]) := by
  cases hx with
  | again hclosed =>
    rw [if_pos hclosed, List.append_nil]
    exact hr
  | written hopen hwrite =>
    rw [if_neg (Bool.eq_false_iff.mp hopen)]
    obtain ⟨rfl, -⟩ := Archive.credited_of_write hwrite
    refine Tallied.of_tally ?_ (tally_noteSummary _)
    exact hr.noteSaved (written_attempted hwrite elapsed) rfl rfl
  | failed hopen hwrite =>
    rw [if_neg (Bool.eq_false_iff.mp hopen)]
    obtain ⟨rfl, -⟩ := Archive.grown_of_write_error hwrite
    refine Tallied.of_tally ?_ (tally_noteSummary _)
    exact hr.noteFailed (written_attempted hwrite elapsed) (isWriting_of_write hwrite) rfl

theorem tallied_of_new? {settings : Settings} {clock : Clock} (hr : new? settings clock = .ok r) :
    Tallied r [] := by
  rw [eq_of_new? hr]
  exact ⟨rfl, rfl, rfl, rfl, rfl⟩

end Tallied

/-! ### Runs -/

namespace Session

/-- **The trace that an action tries to write**: a save or a close of a recorder that is
not closed yet. -/
def attempts? (s : Session) (a : Action) (w : Supplies) : List Attempt :=
  match a with
  | .save _ elapsed =>
    if s.recorder.registry.closed then []
    else [s.recorder.numbered.attempted s.heap s.files s.recorder.archive.nextPath.1 elapsed
      (s.nextPacked w)]
  | .close elapsed =>
    if s.recorder.registry.closed then []
    else [s.recorder.attempted s.heap s.files s.recorder.archive.finalPath elapsed
      (s.nextPacked w)]
  | _ => []

/-- **The traces that a run tries to write.** -/
def attempts (s : Session) (actions : List Action) (w : Supplies := {}) : List Attempt :=
  match actions with
  | [] => []
  | a :: rest => s.attempts? a w ++ (s.step a w).1.attempts rest w

variable {s : Session} {w : Supplies} {a : Action} {x : Session × Answer} {done : List Attempt}

theorem attempts?_of_not (ha : a.writesTrace = false) : s.attempts? a w = [] := by
  cases a with
  | save | close => cases ha
  | _ => rfl

/-- **Every step keeps the numbers about traces.** -/
theorem Outcome.tallied (hr : Tallied s.recorder done) (hx : Outcome s w a x) :
    Tallied x.1.recorder (done ++ s.attempts? a w) := by
  cases hx with
  | aside ha hsame =>
    rw [attempts?_of_not ha, List.append_nil, hsame]
    exact hr
  | registered sites ha =>
    rw [attempts?_of_not ha, List.append_nil]
    exact hr.of_tally rfl
  | called call ha =>
    rw [attempts?_of_not ha, List.append_nil]
    exact hr.of_tally (tally_perform s.heap s.recorder call w.memory)
  | saved reset elapsed hsave => exact hr.saveOutcome hsave
  | closed elapsed hclose => exact hr.closeOutcome hclose

theorem tallied_run (hr : Tallied s.recorder done) (hs : s.recorder.Sound)
    (actions : List Action) (w : Supplies) :
    Tallied (s.run actions w).recorder (done ++ s.attempts actions w) := by
  induction actions generalizing s done with
  | nil =>
    rw [attempts, List.append_nil]
    exact hr
  | cons a rest ih =>
    rw [attempts, ← List.append_assoc]
    exact ih ((outcome_step hs a w).tallied hr) (sound_step hs a w)

/-- **Without compression** an action makes plain attempts. -/
theorem plain_attempts? (hnone : s.recorder.archive.compression = none) (a : Action)
    (w : Supplies) : ∀ t ∈ s.attempts? a w, t.Plain := by
  have hnumbered : s.recorder.numbered.archive.compression = none := hnone
  intro t ht
  cases a with
  | save reset elapsed =>
    simp only [attempts?, List.mem_ite_nil_left, List.mem_singleton] at ht
    rw [ht.2]
    exact plain_attempted hnumbered _ _ _ _ _
  | close elapsed =>
    simp only [attempts?, List.mem_ite_nil_left, List.mem_singleton] at ht
    rw [ht.2]
    exact plain_attempted hnone _ _ _ _ _
  | _ => exact absurd ht List.not_mem_nil

/-- **Without compression** a run does. -/
theorem plain_attempts (hs : s.recorder.Sound) (hnone : s.recorder.archive.compression = none)
    (actions : List Action) (w : Supplies) : ∀ t ∈ s.attempts actions w, t.Plain := by
  induction actions generalizing s with
  | nil => exact fun t ht => absurd ht List.not_mem_nil
  | cons a rest ih =>
    have hstep : (s.step a w).1.recorder.archive.compression = none :=
      (compression_of_rules (outcome_step hs a w).rules_eq).trans hnone
    rw [attempts]
    exact List.forall_mem_append.mpr ⟨plain_attempts? hnone a w, ih (sound_step hs a w) hstep⟩

end Session

/-- Plain attempts have the sizes of their texts. -/
theorem bytes_of_plain {attempts : List Attempt} (hplain : ∀ t ∈ attempts, t.Plain) :
    ((successes attempts).map Attempt.bytes).sum =
      ((successes attempts).map (·.text.utf8ByteSize)).sum := by
  refine congrArg List.sum (List.map_congr_left fun t ht => ?_)
  obtain ⟨ht, hsucceeded⟩ := List.mem_filter.mp ht
  rw [Attempt.succeeded] at hsucceeded
  rw [Attempt.bytes]
  cases hwritten : t.written with
  | ok n => exact (hplain t ht).bytes n hwritten
  | error f =>
    rw [hwritten] at hsucceeded
    cases hsucceeded

/-- Of plain attempts, all failures are failures of storing. -/
theorem filter_isStorage_of_plain {attempts : List Attempt} (hplain : ∀ t ∈ attempts, t.Plain)
    {failures : List Failure} (h : failures.filter Failure.isWriting = setbacks attempts) :
    failures.filter Failure.isStorage = setbacks attempts := by
  have hstorage : ∀ f ∈ setbacks attempts, f.isStorage = true := by
    intro f hf
    obtain ⟨t, ht, hfailure⟩ := List.mem_filterMap.mp hf
    rw [Attempt.failure?] at hfailure
    cases hwritten : t.written with
    | ok n =>
      rw [hwritten] at hfailure
      cases hfailure
    | error f' =>
      rw [hwritten] at hfailure
      obtain rfl := Option.some.inj hfailure
      exact (hplain t ht).failure f' hwritten
  have hboth : failures.filter Failure.isStorage =
      (failures.filter Failure.isWriting).filter Failure.isStorage := by
    rw [List.filter_filter]
    refine List.filter_congr fun f _ => ?_
    cases f <;> rfl
  rw [hboth, h, List.filter_eq_self.mpr hstorage]

namespace Session

/-- **The counters of a run.** Whatever is recorded, saved and closed, and whichever
writes fail, as many traces are counted as saved, by the recorder, by its archive, in the
notices and in the metrics, as were written, and as many as not saved as were not; the
failures say why, one by one, and without compression all of them are failures of storing,
and the bytes are those of the texts. As many events are counted as were offered, stroke by
stroke, while the recorder took them. If no call broke off, the clock has moved once for
each of them, but for the one over which the registry degraded if its site had no buffer;
and the metrics show how many there were at the last trace that was written. -/
theorem counters_of_run {settings : Settings} {clock : Clock} {start : Recorder}
    (hstart : new? settings clock = .ok start) (heap : Heap) (files : FileTree)
    (actions : List Action) (w : Supplies)
    (hreturns : ∀ before a, before ++ [a] <+: actions →
      (run ⟨heap, files, start⟩ before w).breaksOff a w = false) :
    let s : Session := { heap, files, recorder := start }
    let r := (s.run actions w).recorder
    let d := r.registry.diagnostics
    let written := (s.attempts actions w).filter Attempt.succeeded
    let failed := (s.attempts actions w).filter fun t => !t.succeeded
    r.saves = written.length ∧ r.archive.artifactsWritten = written.length ∧
    (d.notices.filter Notice.isSaved).length = written.length ∧
    d.metrics.saves.getD 0 = written.length ∧ d.metrics.saveDurations.length = written.length ∧
    r.saveFailures = failed.length ∧
    (d.failures.filter Failure.isWriting).length = failed.length ∧
    d.failures.filter Failure.isWriting = (s.attempts actions w).filterMap Attempt.failure? ∧
    (settings.compression = none →
      (d.failures.filter Failure.isStorage).length = failed.length ∧
      r.archive.bytesWritten = (written.map (·.text.utf8ByteSize)).sum) ∧
    r.eventsRecorded = s.taken actions w ∧
    r.registry.degraded = (s.fall? actions w).isSome ∧
    (s.fall? actions w = some false → 0 < r.eventsRecorded ∧
      r.registry.clock.next = clock.next + UInt64.ofNat (r.eventsRecorded - 1)) ∧
    (s.fall? actions w ≠ some false →
      r.registry.clock.next = clock.next + UInt64.ofNat r.eventsRecorded) ∧
    d.metrics.eventsRecorded = written.getLast?.map (·.recorded) := by
  intro s r d written failed
  have hsound : s.recorder.Sound := sound_of_new? hstart
  have hstarted := eq_of_new? hstart
  have htallied : Tallied r ([] ++ s.attempts actions w) :=
    tallied_run (tallied_of_new? hstart) hsound actions w
  rw [List.nil_append] at htallied
  have hsavings := htallied.savings
  have hfailures : d.failures.filter Failure.isWriting = setbacks (s.attempts actions w) :=
    congrArg Savings.failures hsavings
  have hplain (hnone : settings.compression = none) : ∀ t ∈ s.attempts actions w, t.Plain := by
    refine plain_attempts hsound ?_ actions w
    show start.archive.compression = none
    rw [hstarted]
    exact hnone
  have hevents : r.eventsRecorded = s.taken actions w := by
    have hzero : start.eventsRecorded = 0 := by rw [hstarted]
    exact (eventsRecorded_run hsound actions w).trans (by rw [hzero, Nat.zero_add])
  have hdegraded : r.registry.degraded = (s.fall? actions w).isSome := by
    have hfresh : start.registry.degraded = false := by
      rw [hstarted]
      rfl
    exact (degraded_run hsound actions w).trans (by rw [hfresh, Bool.false_or])
  have hclock : r.registry.clock.next = clock.next + UInt64.ofNat (s.ticks actions w) := by
    have hchronicle : r.Chronicle clock.next.toNat (clock.next.toNat + s.ticks actions w) :=
      chronicle_run (s := s) (chronicle_of_new? hstart) actions w
    rw [hchronicle.clock, UInt64.ofNat_add, UInt64.ofNat_toNat]
  have htaken := taken_eq hsound (forall_offers_of_breaksOff (s := s) hreturns)
  refine ⟨htallied.saves, htallied.artifacts, ?_, ?_, ?_, ?_, ?_, hfailures, fun hnone => ⟨?_, ?_⟩,
    hevents, hdegraded, fun hfall => ⟨?_, ?_⟩, fun hfall => ?_, ?_⟩
  · exact (congrArg (·.notices.length) hsavings).trans (List.length_map _)
  · exact congrArg (·.counter) hsavings
  · exact (congrArg (·.durations.length) hsavings).trans (List.length_map _)
  · exact htallied.failures.trans (length_setbacks _)
  · rw [hfailures, length_setbacks]
  · rw [filter_isStorage_of_plain (hplain hnone) hfailures, length_setbacks]
  · exact htallied.bytes.trans (bytes_of_plain (hplain hnone))
  · rw [hevents, htaken, if_pos hfall]
    exact Nat.succ_pos _
  · rw [hclock, hevents, htaken, if_pos hfall, Nat.add_sub_cancel]
  · rw [hclock, hevents, htaken, if_neg hfall, Nat.add_zero]
  · exact congrArg (·.recorded) hsavings

/-- Two events of an array, a save that a directory is in the way of, one that is written,
an event that is refused, one that the registry degrades over, one that comes too late, and
the end, twice. -/
def mishaps : List Action :=
  [.recordArrayLoad 3 none 7 1, .makeDirectory "trace00001.json", .save true 5, .save false 3,
    .recordValue 3 (.byte 1) 1, .recordValue (Nat.pow 2 63) (.int 2) 1, .recordValue 4 (.int 3) 1,
    .close 9, .close 1]

/-- A session whose recorder is new, and whose clock is at seven. -/
def begun (settings : Settings := {}) : Session where
  heap := {}
  recorder :=
    { settings
      registry := .new settings.limits (.startingAt 7)
      catalog := {}
      archive := .new settings.traceFilePath settings.compression
      interner := if settings.retention = .id then some {} else none }

theorem counters_of_run_mishaps :
    new? {} (.startingAt 7) = .ok begun.recorder ∧
    (∀ before a, before ++ [a] <+: mishaps → (begun.run before).breaksOff a = false) ∧
    (begun.attempts mishaps).map Attempt.succeeded = [false, true, true] ∧
    (begun.run mishaps).recorder.saves = 2 ∧ (begun.run mishaps).recorder.saveFailures = 1 ∧
    begun.taken mishaps = 4 ∧ (begun.run mishaps).recorder.eventsRecorded = 4 ∧
    begun.fall? mishaps = some false ∧
    (begun.run mishaps).recorder.registry.degraded = true ∧
    (begun.run mishaps).recorder.registry.clock.next = 7 + UInt64.ofNat (4 - 1) := by
  have hstart : new? {} (.startingAt 7) = .ok begun.recorder := rfl
  have hreturns : ∀ before a, before ++ [a] <+: mishaps →
      (begun.run before).breaksOff a = false := by
    intro before a hbefore
    have hsite : ∀ a ∈ mishaps, ∀ site ∈ a.site?, site + 1 < wordSize := by decide
    exact breaksOff_of_site (hsite a (hbefore.subset (by simp)))
  obtain ⟨hsaves, -, -, -, -, hfailures, -, -, -, hevents, hdegraded, hclock, -, -⟩ :=
    counters_of_run hstart {} {} mishaps {} hreturns
  have htaken : begun.taken mishaps = 4 := by decide +kernel
  have hfall : begun.fall? mishaps = some false := by decide +kernel
  have hfour : (begun.run mishaps).recorder.eventsRecorded = 4 := hevents.trans htaken
  exact ⟨hstart, hreturns, by decide +kernel, hsaves.trans (by decide +kernel),
    hfailures.trans (by decide +kernel), htaken, hfour, hfall,
    hdegraded.trans (congrArg Option.isSome hfall),
    (hclock hfall).2.trans (congrArg (fun n => 7 + UInt64.ofNat (n - 1)) hfour)⟩

/-- **Where the counts part.** A call that breaks off counts its event and moves no clock;
a buffer that is refused the memory to grow degrades the registry after the clock has moved;
and a trace that the compressor fails on is not saved although no storing failed. -/
theorem counters_apart :
    (new? {} (.startingAt 7) = .ok begun.recorder ∧
      let r := (begun.run [.recordValue (wordSize - 1) (.int 1) 1]).recorder
      r.eventsRecorded = 1 ∧ r.registry.degraded = false ∧ r.registry.clock.next = 7) ∧
    (let settings : Settings := { bufferSize := 33 }
      let w : Supplies :=
        { memory := fun n => { growth := if n = 32 then some .exhausted else none } }
      new? settings (.startingAt 7) = .ok (begun settings).recorder ∧
      let r := ((begun settings).run (List.replicate 33 (.recordValue 0 (.int 1) 1)) w).recorder
      r.eventsRecorded = 33 ∧ r.registry.degraded = true ∧
      r.registry.clock.next = 7 + UInt64.ofNat 33) ∧
    (let settings : Settings := { compress := true }
      let w : Supplies := { packed := fun _ => none }
      new? settings (.startingAt 7) = .ok (begun settings).recorder ∧
      let r := ((begun settings).run [.recordValue 0 (.int 1) 1, .save false 3] w).recorder
      r.saveFailures = 1 ∧ r.registry.diagnostics.failures.filter Failure.isStorage = []) := by
  refine ⟨⟨rfl, ?_⟩, ⟨rfl, ?_⟩, ⟨rfl, ?_⟩⟩
  · decide +kernel
  · decide +kernel
  · decide +kernel

end Session

end Recorder

end FlightRecorder
