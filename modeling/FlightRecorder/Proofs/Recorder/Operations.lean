import FlightRecorder.Proofs.Archive
import FlightRecorder.Proofs.Registry.Memory
import FlightRecorder.Proofs.Trace
import FlightRecorder.Recorder.Session

/-!
# What the operations of a recorder do

Every call that records comes down to two strokes, offering a value to the
registry and asking the interner for an identity. Saving has three outcomes –
turned away, saved, failed – and so has closing. This file tells them apart once,
so that what a run preserves is proved by one short case for each of them.

* `FlightRecorder.Recorder.Call`, `FlightRecorder.Recorder.perform` – the calls of
  instrumented code; `FlightRecorder.Recorder.perform_ind` – what the two strokes
  keep, every call keeps;
* `FlightRecorder.Recorder.attempt` – the artifact that is written now, to
  whatever path;
* `FlightRecorder.Recorder.Sound` – the invariant of recorders;
* `FlightRecorder.Recorder.SaveOutcome`, `FlightRecorder.Recorder.CloseOutcome` –
  **the outcomes** (`FlightRecorder.Recorder.outcome_save`,
  `FlightRecorder.Recorder.outcome_close`); a failed save of a sound recorder puts
  everything back;
* `FlightRecorder.Recorder.Session.Outcome` – the outcomes of an action
  (`FlightRecorder.Recorder.Session.outcome_step`), and
  `FlightRecorder.Recorder.Session.sound_run`;
* `FlightRecorder.Recorder.rules` – what no run changes
  (`FlightRecorder.Recorder.Session.rules_run`);
* `FlightRecorder.Recorder.Session.saverTurn_eq` – a turn of the periodic saver is a save
  like any other, so what is proved of runs holds with a saver at work.
-/

namespace FlightRecorder.Recorder

/-! ### Calls that record -/

/-- The calls of instrumented code that record events. -/
inductive Call where
  | value (site : Nat) (value : Value) (thread : UInt32)
  | void (site : Nat) (thread : UInt32)
  | object (site : Nat) (o : Option Ref) (thread : UInt32)
  | arrayLoad (site : Nat) (array : Option Ref) (index : Int32) (thread : UInt32)
  | arrayStore (site : Nat) (array : Option Ref) (index : Int32) (value : Value) (thread : UInt32)
  | newArray (site : Nat) (array : Ref) (thread : UInt32)

/-- Make a call. -/
def perform (h : Heap) (r : Recorder) (call : Call) (m : Nat → Memory := fun _ => .ample) :
    Recorder :=
  match call with
  | .value site value thread => r.recordValue site value thread m
  | .void site thread => r.recordVoid site thread m
  | .object site o thread => recordObject h r site o thread m
  | .arrayLoad site array index thread => recordArrayLoad h r site array index thread m
  | .arrayStore site array index value thread =>
    recordArrayStore h r site array index value thread m
  | .newArray site array thread => recordNewArray h r site array thread m

section Calls

variable {h : Heap} {r : Recorder} {m : Nat → Memory} {P : Recorder → Prop}
  (hvalue : ∀ r site value thread, P r → P (recordValue r site value thread m))
  (hinterner : ∀ (r : Recorder) (i i' : Interner), r.interner = some i → P r →
    P { r with interner := some i' })

include hvalue hinterner

theorem recordObject_ind (hr : P r) (site : Nat) (o : Option Ref) (thread : UInt32) :
    P (recordObject h r site o thread m) := by
  rw [recordObject]
  cases hi : r.interner with
  | none => exact hvalue r _ _ _ hr
  | some i => exact hvalue _ _ _ _ (hinterner r i _ hi hr)

theorem recordAny_ind (hr : P r) (site : Nat) (value : Value) (thread : UInt32) :
    P (recordAny h r site value thread m) := by
  cases value with
  | object o => exact recordObject_ind hvalue hinterner hr _ _ _
  | _ => exact hvalue _ _ _ _ hr

/-- **Induction on the strokes of a call**: what survives a recorded value and a
change of the interner survives every call. -/
theorem perform_ind (hr : P r) (call : Call) : P (r.perform h call m) := by
  have hobject : ∀ {r : Recorder}, P r → ∀ site o thread, P (recordObject h r site o thread m) :=
    recordObject_ind hvalue hinterner
  cases call with
  | value site value thread => exact hvalue _ _ _ _ hr
  | void site thread => exact hvalue _ _ _ _ hr
  | object site o thread => exact hobject hr _ _ _
  | arrayLoad site array index thread => exact hvalue _ _ _ _ (hobject hr _ _ _)
  | arrayStore site array index value thread =>
    exact recordAny_ind hvalue hinterner (hvalue _ _ _ _ (hobject hr _ _ _)) _ _ _
  | newArray site array thread =>
    simp only [perform, recordNewArray]
    generalize (site, array) :: (h.walk array).map (visitEvent site) = events
    induction events generalizing r with
    | nil => exact hr
    | cons e rest ih => exact ih (hobject hr _ _ _)

end Calls

/-! ### Writing the present buffers -/

-- what a closed run writes can be computed and compared
deriving instance DecidableEq for Except

/-- The trace of the present buffers. -/
def presentText (h : Heap) (r : Recorder) : String :=
  r.traceText h (r.census h) r.registry.arena.buffers

/-- Write the trace of the present buffers to a path. -/
def attempt (h : Heap) (r : Recorder) (files : FileTree) (path : String)
    (packed : Option Nat := some 0) : Archive × FileTree × Except Failure Nat :=
  r.archive.write files path (r.presentText h) packed

/-- The recorder after it took the next number for an artifact. -/
def numbered (r : Recorder) : Recorder :=
  { r with archive := r.archive.nextPath.2 }

/-- The recorder with the archive after a write, and without the identities of
objects that are dead. -/
def tidied (h : Heap) (r : Recorder) (archive : Archive) : Recorder :=
  { r with archive, interner := r.interner.map (Interner.sweep · (r.census h)) }

/-- The recorder without its buffers. -/
def emptied (r : Recorder) : Recorder :=
  { r with registry := r.registry.detach.2 }

/-- Report the final numbers, if that is wanted. -/
def noteSummary (r : Recorder) : Recorder :=
  r.mapDiagnostics fun d =>
    if r.settings.showBufferSize then d.note (.summary r.statistics.summary) else d

theorem noteSummary_eq (r : Recorder) :
    (if r.settings.showBufferSize then r.mapDiagnostics (·.note (.summary r.statistics.summary))
      else r) = r.noteSummary := by
  unfold noteSummary
  split_ifs <;> rfl

section WriteTrace

variable {h : Heap} {c : Heap.Census} {r : Recorder} {files files' : FileTree} {path : String}
  {buffers : List (Nat × SiteBuffer)} {packed : Option Nat} {archive : Archive} {n : Nat}
  {f : Failure}

theorem writeTrace_of_ok
    (hwrite : r.archive.write files path (r.traceText h c buffers) packed =
      (archive, files', .ok n))
    (elapsed : Nat) :
    writeTrace h c r files path buffers elapsed packed =
      (noteSaved { r with archive, interner := r.interner.map (Interner.sweep · c) } elapsed,
        files', .ok ()) := by
  unfold writeTrace
  rw [hwrite]

theorem writeTrace_of_error
    (hwrite : r.archive.write files path (r.traceText h c buffers) packed =
      (archive, files', .error f))
    (elapsed : Nat) :
    writeTrace h c r files path buffers elapsed packed =
      (noteFailed { r with archive, interner := r.interner.map (Interner.sweep · c) } f,
        files', .error f) := by
  unfold writeTrace
  rw [hwrite]

end WriteTrace

/-! ### The invariant -/

/-- **Sound recorders**: a sound registry that keeps the budget and loses its
buffers if it degrades, and a catalogue in order. -/
structure Sound (r : Recorder) : Prop where
  registry : r.registry.Sound
  within : r.registry.Within
  drained : r.registry.Drained
  catalog : r.catalog.Ordered

section Sound

variable {r : Recorder}

theorem eq_of_new? {settings : Settings} {clock : Clock} (hr : new? settings clock = .ok r) :
    r = { settings
          registry := .new settings.limits clock
          catalog := {}
          archive := .new settings.traceFilePath settings.compression
          interner := if settings.retention = .id then some {} else none } := by
  rw [new?] at hr
  cases hcheck : settings.check with
  | error f =>
    rw [hcheck] at hr
    cases hr
  | ok =>
    rw [hcheck] at hr
    exact (Except.ok.inj hr).symm

theorem sound_of_new? {settings : Settings} {clock : Clock} (hr : new? settings clock = .ok r) :
    r.Sound := by
  rw [eq_of_new? hr]
  exact ⟨Registry.sound_new _ _, Registry.within_of_empty rfl, Registry.drained_of_empty rfl,
    List.Pairwise.nil⟩

/-- What is reported, counted or interned does not matter. -/
theorem Sound.mapDiagnostics (hr : r.Sound) (f : Diagnostics → Diagnostics) :
    (r.mapDiagnostics f).Sound :=
  ⟨⟨hr.registry.arena, hr.registry.ceiling_pos⟩, hr.within, hr.drained, hr.catalog⟩

theorem Sound.noteSaved (hr : r.Sound) (elapsed : Nat) : (r.noteSaved elapsed).Sound :=
  ⟨⟨hr.registry.arena, hr.registry.ceiling_pos⟩, hr.within, hr.drained, hr.catalog⟩

theorem Sound.noteFailed (hr : r.Sound) (f : Failure) : (r.noteFailed f).Sound :=
  ⟨⟨hr.registry.arena, hr.registry.ceiling_pos⟩, hr.within, hr.drained, hr.catalog⟩

theorem Sound.tidied (hr : r.Sound) (h : Heap) (archive : Archive) : (r.tidied h archive).Sound :=
  ⟨hr.registry, hr.within, hr.drained, hr.catalog⟩

theorem Sound.emptied (hr : r.Sound) : r.emptied.Sound :=
  ⟨⟨Arena.sound_empty, hr.registry.ceiling_pos⟩, Registry.within_of_empty rfl,
    Registry.drained_of_empty rfl, hr.catalog⟩

theorem Sound.closed (hr : r.Sound) : Sound { r with registry := r.registry.close } :=
  ⟨⟨hr.registry.arena, hr.registry.ceiling_pos⟩, hr.within, hr.drained, hr.catalog⟩

theorem Sound.register (hr : r.Sound) (sites : List SiteInfo) : (r.register sites).Sound :=
  ⟨hr.registry, hr.within, hr.drained, Catalog.ordered_registerAll hr.catalog sites⟩

theorem Sound.recordValue (hr : r.Sound) (site : Nat) (value : Value) (thread : UInt32)
    (m : Nat → Memory := fun _ => .ample) : (r.recordValue site value thread m).Sound := by
  rw [Recorder.recordValue]
  split_ifs
  · exact hr
  · exact ⟨hr.registry.record_of_memory _ _ _ _, hr.within.record_of_memory hr.registry _ _ _ _,
      hr.drained.record_of_memory _ _ _ _, hr.catalog⟩

theorem Sound.perform (hr : r.Sound) (h : Heap) (call : Call)
    (m : Nat → Memory := fun _ => .ample) : (r.perform h call m).Sound :=
  perform_ind (fun _ site value thread hr => hr.recordValue site value thread m)
    (fun _ _ _ _ hr => ⟨hr.registry, hr.within, hr.drained, hr.catalog⟩) hr call

end Sound

/-! ### Saving and closing -/

/-- **The outcomes of saving.** -/
inductive SaveOutcome (h : Heap) (r : Recorder) (files : FileTree) (reset : Bool) (elapsed : Nat)
    (packed : Option Nat) : Recorder × FileTree × Except Failure String → Prop
  /-- The recorder is closed. -/
  | turnedAway : r.registry.closed = true →
      SaveOutcome h r files reset elapsed packed (r, files, .error .closed)
  /-- The artifact is written; with `reset` the buffers are gone then. -/
  | saved {archive : Archive} {files' : FileTree} {n : Nat} : r.registry.closed = false →
      r.numbered.attempt h files r.archive.nextPath.1 packed = (archive, files', .ok n) →
      SaveOutcome h r files reset elapsed packed
        ((if reset then (r.tidied h archive).emptied else r.tidied h archive).noteSaved elapsed,
          files', .ok r.archive.nextPath.1)
  /-- The artifact is not written; the buffers are as before, whether they were
  taken out or not. -/
  | failed {archive : Archive} {files' : FileTree} {f : Failure} : r.registry.closed = false →
      r.numbered.attempt h files r.archive.nextPath.1 packed = (archive, files', .error f) →
      SaveOutcome h r files reset elapsed packed
        ((r.tidied h archive).noteFailed f, files', .error f)

/-- **The outcomes of closing.** -/
inductive CloseOutcome (h : Heap) (r : Recorder) (files : FileTree) (elapsed : Nat)
    (packed : Option Nat) : Recorder × FileTree × Except Failure String → Prop
  /-- The recorder is closed already. -/
  | again : r.registry.closed = true →
      CloseOutcome h r files elapsed packed (r, files, .ok r.archive.finalPath)
  /-- The final trace is written. -/
  | written {archive : Archive} {files' : FileTree} {n : Nat} : r.registry.closed = false →
      r.attempt h files r.archive.finalPath packed = (archive, files', .ok n) →
      CloseOutcome h r files elapsed packed
        (((tidied h { r with registry := r.registry.close } archive).noteSaved elapsed).noteSummary,
          files', .ok r.archive.finalPath)
  /-- The final trace is not written; the recorder is closed all the same. -/
  | failed {archive : Archive} {files' : FileTree} {f : Failure} : r.registry.closed = false →
      r.attempt h files r.archive.finalPath packed = (archive, files', .error f) →
      CloseOutcome h r files elapsed packed
        (((tidied h { r with registry := r.registry.close } archive).noteFailed f).noteSummary,
          files', .error f)

section Outcomes

variable {h : Heap} {r : Recorder} {files : FileTree} {packed : Option Nat}
  {x : Recorder × FileTree × Except Failure String}

/-- A recorder that has just taken its buffers out gets them back as they were. -/
theorem restore_noteFailed_emptied (hr : r.Sound) (c : Heap.Census) (f : Failure) :
    { r.emptied.noteFailed f with
      registry := (r.emptied.noteFailed f).registry.restore c r.registry.detach.1 } =
      r.noteFailed f :=
  congrArg (fun registry => { r.emptied.noteFailed f with registry })
    (Registry.restore_detach hr.within hr.drained c (r.registry.diagnostics.report f))

/-- A save that keeps the buffers. -/
theorem outcome_save_keeping (h : Heap) (r : Recorder) (files : FileTree) (elapsed : Nat)
    (packed : Option Nat) (hclosed : r.registry.closed = false) :
    SaveOutcome h r files false elapsed packed (r.save h files false elapsed packed) := by
  obtain ⟨⟨archive, files', written⟩, hwrite⟩ :
      ∃ x, r.numbered.attempt h files r.archive.nextPath.1 packed = x := ⟨_, rfl⟩
  rw [save, if_neg (Bool.eq_false_iff.mp hclosed)]
  dsimp only [Archive.nextPath, NameSequence.next]
  rw [if_neg Bool.false_ne_true]
  cases written with
  | error f =>
    have hfailed : writeTrace h (r.census h) r.numbered files r.archive.nextPath.1
        r.registry.arena.buffers elapsed packed = _ :=
      writeTrace_of_error (r := r.numbered) hwrite elapsed
    dsimp only [numbered, Archive.nextPath, NameSequence.next] at hfailed
    rw [hfailed]
    exact .failed hclosed hwrite
  | ok n =>
    have hsaved : writeTrace h (r.census h) r.numbered files r.archive.nextPath.1
        r.registry.arena.buffers elapsed packed = _ :=
      writeTrace_of_ok (r := r.numbered) hwrite elapsed
    dsimp only [numbered, Archive.nextPath, NameSequence.next] at hsaved
    rw [hsaved]
    exact .saved hclosed hwrite

/-- **A save that takes the buffers out**, in whatever state the recorder is: they are
gone if the artifact is written, and put back if it is not. -/
theorem save_resetting (h : Heap) (r : Recorder) (files : FileTree) (elapsed : Nat)
    (packed : Option Nat) (hclosed : r.registry.closed = false) :
    (∃ archive files' n,
      r.numbered.attempt h files r.archive.nextPath.1 packed = (archive, files', .ok n) ∧
      r.save h files true elapsed packed =
        ((r.tidied h archive).emptied.noteSaved elapsed, files', .ok r.archive.nextPath.1)) ∨
    ∃ archive files' f,
      r.numbered.attempt h files r.archive.nextPath.1 packed = (archive, files', .error f) ∧
      r.save h files true elapsed packed =
        ({ (r.tidied h archive).emptied.noteFailed f with
            registry := ((r.tidied h archive).emptied.noteFailed f).registry.restore (r.census h)
              r.registry.detach.1 }, files', .error f) := by
  obtain ⟨⟨archive, files', written⟩, hwrite⟩ :
      ∃ x, r.numbered.attempt h files r.archive.nextPath.1 packed = x := ⟨_, rfl⟩
  rw [save, if_neg (Bool.eq_false_iff.mp hclosed)]
  dsimp only [Archive.nextPath, NameSequence.next, Registry.detach]
  rw [if_pos rfl]
  cases written with
  | error f =>
    have hfailed : writeTrace h (r.census h) r.numbered.emptied files r.archive.nextPath.1
        r.registry.arena.buffers elapsed packed = _ :=
      writeTrace_of_error (r := r.numbered.emptied) hwrite elapsed
    dsimp only [numbered, emptied, Archive.nextPath, NameSequence.next, Registry.detach] at hfailed
    rw [hfailed]
    exact Or.inr ⟨archive, files', f, hwrite, rfl⟩
  | ok n =>
    have hsaved : writeTrace h (r.census h) r.numbered.emptied files r.archive.nextPath.1
        r.registry.arena.buffers elapsed packed = _ :=
      writeTrace_of_ok (r := r.numbered.emptied) hwrite elapsed
    dsimp only [numbered, emptied, Archive.nextPath, NameSequence.next, Registry.detach] at hsaved
    rw [hsaved]
    exact Or.inl ⟨archive, files', n, hwrite, rfl⟩

/-- What a sound recorder takes out it puts back as it was. -/
theorem outcome_save_resetting (h : Heap) (hr : r.Sound) (files : FileTree) (elapsed : Nat)
    (packed : Option Nat) (hclosed : r.registry.closed = false) :
    SaveOutcome h r files true elapsed packed (r.save h files true elapsed packed) := by
  rcases save_resetting h r files elapsed packed hclosed with
    ⟨archive, files', n, hwrite, hsave⟩ | ⟨archive, files', f, hwrite, hsave⟩
  · rw [hsave]
    exact .saved hclosed hwrite
  · have hout : SaveOutcome h r files true elapsed packed
        ((r.tidied h archive).noteFailed f, files', .error f) := .failed hclosed hwrite
    rw [← restore_noteFailed_emptied (hr.tidied h archive) (r.census h) f] at hout
    rw [hsave]
    exact hout

theorem outcome_save (h : Heap) (hr : r.Sound) (files : FileTree) (reset : Bool) (elapsed : Nat)
    (packed : Option Nat := some 0) :
    SaveOutcome h r files reset elapsed packed (r.save h files reset elapsed packed) := by
  cases hclosed : r.registry.closed with
  | true =>
    rw [save, if_pos hclosed]
    exact .turnedAway hclosed
  | false =>
    cases reset with
    | false => exact outcome_save_keeping h r files elapsed packed hclosed
    | true => exact outcome_save_resetting h hr files elapsed packed hclosed

theorem outcome_close (h : Heap) (r : Recorder) (files : FileTree) (elapsed : Nat)
    (packed : Option Nat := some 0) :
    CloseOutcome h r files elapsed packed (r.close h files elapsed packed) := by
  cases hclosed : r.registry.closed with
  | true =>
    rw [close, if_pos hclosed]
    exact .again hclosed
  | false =>
    obtain ⟨⟨archive, files', written⟩, hwrite⟩ :
        ∃ x, r.attempt h files r.archive.finalPath packed = x := ⟨_, rfl⟩
    rw [close, if_neg (Bool.eq_false_iff.mp hclosed)]
    dsimp only
    cases written with
    | error f =>
      have hfailed : writeTrace h (r.census h) { r with registry := r.registry.close } files
          r.archive.finalPath r.registry.close.arena.buffers elapsed packed = _ :=
        writeTrace_of_error (r := { r with registry := r.registry.close }) hwrite elapsed
      rw [hfailed]
      dsimp only
      rw [noteSummary_eq]
      exact .failed hclosed hwrite
    | ok n =>
      have hsaved : writeTrace h (r.census h) { r with registry := r.registry.close } files
          r.archive.finalPath r.registry.close.arena.buffers elapsed packed = _ :=
        writeTrace_of_ok (r := { r with registry := r.registry.close }) hwrite elapsed
      rw [hsaved]
      dsimp only
      rw [noteSummary_eq]
      exact .written hclosed hwrite

/-- A closed recorder does not save. -/
theorem SaveOutcome.eq_of_closed {reset : Bool} {elapsed : Nat}
    (hx : SaveOutcome h r files reset elapsed packed x) (hclosed : r.registry.closed = true) :
    x = (r, files, .error .closed) := by
  cases hx with
  | turnedAway => rfl
  | saved hopen | failed hopen =>
    rw [hclosed] at hopen
    cases hopen

/-- A closed recorder does not write the final trace again. -/
theorem CloseOutcome.eq_of_closed {elapsed : Nat} (hx : CloseOutcome h r files elapsed packed x)
    (hclosed : r.registry.closed = true) : x = (r, files, .ok r.archive.finalPath) := by
  cases hx with
  | again => rfl
  | written hopen | failed hopen =>
    rw [hclosed] at hopen
    cases hopen

theorem Sound.saveOutcome (hr : r.Sound) {reset : Bool} {elapsed : Nat}
    (hx : SaveOutcome h r files reset elapsed packed x) : x.1.Sound := by
  cases hx with
  | turnedAway => exact hr
  | saved =>
    refine Sound.noteSaved ?_ elapsed
    split_ifs
    · exact (hr.tidied h _).emptied
    · exact hr.tidied h _
  | failed => exact (hr.tidied h _).noteFailed _

theorem Sound.closeOutcome (hr : r.Sound) {elapsed : Nat}
    (hx : CloseOutcome h r files elapsed packed x) :
    x.1.Sound := by
  cases hx with
  | again => exact hr
  | written => exact ((hr.closed.tidied h _).noteSaved elapsed).mapDiagnostics _
  | failed => exact ((hr.closed.tidied h _).noteFailed _).mapDiagnostics _

end Outcomes

/-! ### What no operation changes -/

/-- What governs a recorder from its creation on: the settings, whether objects are
identified by numbers, and where and in which form the final trace is stored. -/
def rules (r : Recorder) : Settings × Bool × String × Option Compression :=
  (r.settings, r.interner.isSome, r.archive.finalPath, r.archive.compression)

section Rules

variable {h : Heap} {r r' : Recorder} {files files' : FileTree} {archive : Archive}
  {path text : String} {packed : Option Nat} {written : Except Failure Nat}
  {x : Recorder × FileTree × Except Failure String}

theorem settings_of_rules (hr : r.rules = r'.rules) : r.settings = r'.settings :=
  congrArg (fun rules => rules.1) hr

theorem isSome_interner_of_rules (hr : r.rules = r'.rules) :
    r.interner.isSome = r'.interner.isSome :=
  congrArg (fun rules => rules.2.1) hr

theorem finalPath_of_rules (hr : r.rules = r'.rules) : r.archive.finalPath = r'.archive.finalPath :=
  congrArg (fun rules => rules.2.2.1) hr

theorem compression_of_rules (hr : r.rules = r'.rules) :
    r.archive.compression = r'.archive.compression :=
  congrArg (fun rules => rules.2.2.2) hr

/-- There is an interner under the `id` policy only. -/
theorem isSome_interner_of_new? {settings : Settings} {clock : Clock}
    (hr : new? settings clock = .ok r) : r.interner.isSome = decide (settings.retention = .id) := by
  rw [eq_of_new? hr]
  by_cases hid : settings.retention = .id
  · simp [hid]
  · simp [hid]

/-- A write keeps the place of the final trace, and the form in which it is stored. -/
theorem rules_tidied (h : Heap) (r : Recorder)
    (hwrite : r.archive.write files path text packed = (archive, files', written)) :
    (r.tidied h archive).rules = r.rules := by
  have harchive : archive.finalPath = r.archive.finalPath ∧
      archive.compression = r.archive.compression := by
    cases written with
    | error f =>
      obtain ⟨rfl, -⟩ := Archive.grown_of_write_error hwrite
      exact ⟨rfl, rfl⟩
    | ok n =>
      obtain ⟨rfl, -⟩ := Archive.credited_of_write hwrite
      exact ⟨rfl, rfl⟩
  simp only [rules, tidied, Option.isSome_map, harchive]

theorem rules_perform (h : Heap) (r : Recorder) (call : Call)
    (m : Nat → Memory := fun _ => .ample) : (r.perform h call m).rules = r.rules := by
  refine perform_ind (P := fun r' => r'.rules = r.rules) ?_ ?_ rfl call
  · intro r' site value thread hr'
    rw [← hr', recordValue]
    split_ifs <;> rfl
  · intro r' i i' hi hr'
    rw [← hr', rules, rules, hi]
    rfl

theorem rules_saveOutcome {reset : Bool} {elapsed : Nat}
    (hx : SaveOutcome h r files reset elapsed packed x) : x.1.rules = r.rules := by
  cases hx with
  | turnedAway => rfl
  | saved _ hwrite =>
    refine Eq.trans ?_ (rules_tidied h r.numbered hwrite)
    cases reset <;> rfl
  | failed _ hwrite => exact rules_tidied h r.numbered hwrite

theorem rules_closeOutcome {elapsed : Nat} (hx : CloseOutcome h r files elapsed packed x) :
    x.1.rules = r.rules := by
  cases hx with
  | again => rfl
  | written _ hwrite => exact rules_tidied h r hwrite
  | failed _ hwrite => exact rules_tidied h r hwrite

end Rules

/-! ### Actions -/

namespace Session

/-- Whether an action writes a trace, if nothing is in its way. -/
def Action.writesTrace : Action → Bool
  | .save _ _ | .close _ => true
  | _ => false

/-- **The outcomes of an action.** -/
inductive Outcome (s : Session) (w : Supplies) : Action → Session × Answer → Prop
  /-- The action is none of the recorder's. -/
  | aside {a : Action} {s' : Session} : a.writesTrace = false → s'.recorder = s.recorder →
      Outcome s w a (s', .none)
  | registered {a : Action} (sites : List SiteInfo) : a.writesTrace = false →
      Outcome s w a ({ s with recorder := s.recorder.register sites }, .none)
  | called {a : Action} (call : Call) : a.writesTrace = false →
      Outcome s w a ({ s with recorder := s.recorder.perform s.heap call w.memory }, .none)
  | saved (reset : Bool) (elapsed : Nat) {r : Recorder} {files : FileTree}
      {written : Except Failure String} :
      SaveOutcome s.heap s.recorder s.files reset elapsed (s.nextPacked w) (r, files, written) →
      Outcome s w (.save reset elapsed) ({ s with recorder := r, files }, .of written)
  | closed (elapsed : Nat) {r : Recorder} {files : FileTree} {written : Except Failure String} :
      CloseOutcome s.heap s.recorder s.files elapsed (s.nextPacked w) (r, files, written) →
      Outcome s w (.close elapsed) ({ s with recorder := r, files }, .of written)

variable {s : Session} {w : Supplies} {x : Session × Answer}

/-- A compressor that is not said to fail does not. -/
theorem nextPacked_default (s : Session) : s.nextPacked {} = some 0 := rfl

theorem step_save (s : Session) (reset : Bool) (elapsed : Nat) (w : Supplies := {}) :
    s.step (.save reset elapsed) w =
      let x := s.recorder.save s.heap s.files reset elapsed (s.nextPacked w)
      ({ s with recorder := x.1, files := x.2.1 }, .of x.2.2) := by
  simp only [step]

theorem step_close (s : Session) (elapsed : Nat) (w : Supplies := {}) :
    s.step (.close elapsed) w =
      let x := s.recorder.close s.heap s.files elapsed (s.nextPacked w)
      ({ s with recorder := x.1, files := x.2.1 }, .of x.2.2) := by
  simp only [step]

theorem outcome_step (hs : s.recorder.Sound) (a : Action) (w : Supplies := {}) :
    Outcome s w a (s.step a w) := by
  cases a with
  | register sites => exact .registered sites rfl
  | recordValue site value thread => exact .called (.value site value thread) rfl
  | recordObject site o thread => exact .called (.object site o thread) rfl
  | recordArrayLoad site array index thread =>
    exact .called (.arrayLoad site array index thread) rfl
  | recordArrayStore site array index value thread =>
    exact .called (.arrayStore site array index value thread) rfl
  | recordNewArray site array thread => exact .called (.newArray site array thread) rfl
  | save reset elapsed =>
    exact .saved reset elapsed (outcome_save s.heap hs s.files reset elapsed (s.nextPacked w))
  | close elapsed =>
    exact .closed elapsed (outcome_close s.heap s.recorder s.files elapsed (s.nextPacked w))
  | create | release | makeDirectory | remove => exact .aside rfl rfl
  | writeFile path text =>
    rw [step]
    split <;> exact .aside rfl rfl

theorem Outcome.sound {a : Action} (hs : s.recorder.Sound) (hx : Outcome s w a x) :
    x.1.recorder.Sound := by
  cases hx with
  | aside _ hsame =>
    rw [hsame]
    exact hs
  | registered sites => exact hs.register sites
  | called call => exact hs.perform s.heap call w.memory
  | saved reset elapsed hsave => exact hs.saveOutcome hsave
  | closed elapsed hclose => exact hs.closeOutcome hclose

/-- **Every step keeps the recorder sound.** -/
theorem sound_step (hs : s.recorder.Sound) (a : Action) (w : Supplies := {}) :
    (s.step a w).1.recorder.Sound :=
  (outcome_step hs a w).sound hs

/-- **Every run keeps the recorder sound.** -/
theorem sound_run (hs : s.recorder.Sound) (actions : List Action) (w : Supplies := {}) :
    (s.run actions w).recorder.Sound := by
  induction actions generalizing s with
  | nil => exact hs
  | cons a rest ih => exact ih (sound_step hs a w)

theorem Outcome.rules_eq {a : Action} (hx : Outcome s w a x) :
    x.1.recorder.rules = s.recorder.rules := by
  cases hx with
  | aside _ hsame => rw [hsame]
  | registered => rfl
  | called call => exact rules_perform s.heap s.recorder call w.memory
  | saved reset elapsed hsave => exact rules_saveOutcome hsave
  | closed elapsed hclose => exact rules_closeOutcome hclose

/-- **A trace that is written now**: the action of a recorder that is not closed yet
answers with a path, and from there the trace of the buffers before it reads
back. -/
theorem Outcome.read?_of_path {a : Action} {path : String} (hx : Outcome s w a x)
    (hopen : s.recorder.registry.closed = false) (hpath : x.2 = .path path) :
    x.1.recorder.archive.read? x.1.files path = .ok (s.recorder.presentText s.heap) := by
  cases hx with
  | aside | registered | called => cases hpath
  | saved reset elapsed hsave =>
    cases hsave with
    | turnedAway | failed => cases hpath
    | saved _ hwrite =>
      cases hpath
      cases reset <;> exact Archive.read?_of_write hwrite
  | closed elapsed hclose =>
    cases hclose with
    | again hclosed =>
      rw [hopen] at hclosed
      cases hclosed
    | failed => cases hpath
    | written _ hwrite =>
      cases hpath
      exact Archive.read?_of_write hwrite

/-- **No run changes the rules.** -/
theorem rules_run (hs : s.recorder.Sound) (actions : List Action) (w : Supplies := {}) :
    (s.run actions w).recorder.rules = s.recorder.rules := by
  induction actions generalizing s with
  | nil => rfl
  | cons a rest ih => exact (ih (sound_step hs a w)).trans (outcome_step hs a w).rules_eq

/-! ### The periodic saver -/

section Saver

variable {r : Recorder} {chosen : Option PartialSave} {strategy : PartialSave}

/-- **A saver is started** for the strategy chosen, or else for that of the settings, if
there is anything to save for it. -/
theorem startedSaver?_eq_some_iff :
    r.startedSaver? chosen = some strategy ↔
      chosen.getD r.settings.partialSave = strategy ∧ strategy ≠ .no := by
  rw [startedSaver?]
  constructor
  · intro h
    split at h
    · cases h
    · next hsaves =>
      obtain rfl := Option.some.inj h
      exact ⟨rfl, hsaves⟩
  · rintro ⟨rfl, hsaves⟩
    split
    · next hno => exact absurd hno hsaves
    · rfl

/-- **A turn of the saver** is a save, as the program itself could ask for it; if the
recorder is closed there is no such attempt, and the save would change nothing. -/
theorem saverTurn_eq (s : Session) (strategy : PartialSave) (elapsed : Nat) (w : Supplies := {}) :
    s.recorder.saverTurn s.heap s.files strategy elapsed (s.nextPacked w) =
      let x := (s.step (.save strategy.resets elapsed) w).1
      (x.recorder, x.files, !s.recorder.registry.closed) := by
  rw [step_save s strategy.resets elapsed w, saverTurn]
  cases hclosed : s.recorder.registry.closed with
  | true =>
    have hsave : s.recorder.save s.heap s.files strategy.resets elapsed (s.nextPacked w) =
        (s.recorder, s.files, .error .closed) := by
      rw [save, if_pos hclosed]
    rw [if_pos rfl, hsave]
    rfl
  | false => rfl

end Saver

end Session

end FlightRecorder.Recorder
