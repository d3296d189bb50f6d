import FlightRecorder.Proofs.Recorder.Identities
import FlightRecorder.Proofs.Registry.Reports

/-!
# What a recorder keeps account of

Of its saves a recorder keeps account: it counts them, reports them, and numbers the
artifacts. Nothing that it records depends on these accounts, so they can be struck
out, and the interner with them, whose only part in recording is to say by which
number an object goes. Striking out can be moved past every operation.

* `FlightRecorder.Recorder.bare` – a recorder without its accounts and its interner;
* `FlightRecorder.Recorder.bare_stroke` – **recording**;
* `FlightRecorder.Recorder.bare_save_keeping`,
  `FlightRecorder.Recorder.bare_save_resetting`, `FlightRecorder.Recorder.bare_close` –
  saving and closing, in whatever state the recorder is;
* `FlightRecorder.Recorder.read?_of_save`, `FlightRecorder.Recorder.read?_of_close` –
  the trace that is written.
-/

namespace FlightRecorder.Recorder

/-- **A recorder without its accounts and its interner**: what is left are the
settings, the catalogue, the number of recorded events, and the registry without its
reports. -/
def bare (r : Recorder) : Recorder :=
  { r with
    registry := r.registry.silent
    archive := .new "" none
    interner := none
    saves := 0
    saveFailures := 0
    totalSaveTime := 0 }

variable {h : Heap} {r : Recorder} {files : FileTree} {elapsed : Nat} {path : String}

/-- The trace depends on nothing that is struck out. -/
theorem presentText_bare (h : Heap) (r : Recorder) : r.bare.presentText h = r.presentText h := rfl

/-- What is done to the registry, reports aside. -/
theorem bare_withRegistry (r : Recorder) {f : Registry → Registry}
    (hf : ∀ registry, (f registry).silent = (f registry.silent).silent) :
    bare { r with registry := f r.registry } =
      { r.bare with registry := (f r.bare.registry).silent } := by
  rw [bare, hf]
  rfl

/-! ### Recording -/

theorem bare_recordValue (r : Recorder) (site : Nat) (value : Value) (thread : UInt32) :
    (r.recordValue site value thread).bare = (r.bare.recordValue site value thread).bare := by
  have hstopped : r.bare.isStopped = r.isStopped := rfl
  rw [recordValue, recordValue, hstopped]
  split_ifs
  · rfl
  · rw [bare, r.registry.silent_record]
    rfl

/-- The thread that makes a stroke. -/
def Stroke.thread : Stroke → UInt32
  | .value _ _ thread | .object _ _ thread => thread

/-- The value that a stroke records: for an object, the object or the identity it
has. -/
def Stroke.recorded (h : Heap) (r : Recorder) : Stroke → Value
  | .value _ v _ => v
  | .object _ o _ => (r.identify h o).elim (.object o) .objectId

/-- **A stroke** is the value that it records, as far as anything but the accounts and
the interner goes. -/
theorem bare_stroke (h : Heap) (r : Recorder) (st : Stroke) :
    (r.stroke h st).bare =
      (r.bare.recordValue st.site (st.recorded h r) st.thread).bare := by
  cases st with
  | value site v thread => exact bare_recordValue r site v thread
  | object site o thread =>
    rw [stroke, Stroke.recorded]
    cases hid : r.identify h o with
    | none =>
      have hnone : r.interner = none := Option.map_eq_none_iff.mp hid
      rw [recordObject, hnone]
      exact bare_recordValue r site (.object o) thread
    | some id =>
      rw [recordObject_eq hid]
      exact bare_recordValue (r.identified h [o]) site (.objectId id) thread

/-! ### Saving and closing -/

/-- **A save that keeps the buffers** leaves nothing but accounts. -/
theorem bare_save_keeping (h : Heap) (r : Recorder) (files : FileTree) (elapsed : Nat) :
    (r.save h files false elapsed).1.bare = r.bare := by
  cases hclosed : r.registry.closed with
  | true => rw [save, if_pos hclosed]
  | false =>
    have hout := outcome_save_keeping h r files elapsed (some 0) hclosed
    generalize r.save h files false elapsed = x at hout ⊢
    cases hout with
    | turnedAway | saved | failed => rfl

/-- **A save that takes the buffers out**: they are gone, or put back. -/
theorem bare_save_resetting (h : Heap) (r : Recorder) (files : FileTree) (elapsed : Nat) :
    (r.save h files true elapsed).1.bare =
      if r.bare.registry.closed then r.bare
      else if (r.save h files true elapsed).2.2.toBool then r.bare.emptied
      else { r.bare with
        registry :=
          (r.bare.emptied.registry.restore (r.bare.census h) r.bare.registry.arena).silent } := by
  cases hclosed : r.registry.closed with
  | true =>
    have hbare : r.bare.registry.closed = true := hclosed
    rw [save, if_pos hclosed, if_pos hbare]
  | false =>
    have hbare : r.bare.registry.closed = false := hclosed
    rw [if_neg (Bool.eq_false_iff.mp hbare)]
    rcases save_resetting h r files elapsed (some 0) hclosed with
      ⟨archive, files', n, -, hsave⟩ | ⟨archive, files', f, -, hsave⟩
    · rw [hsave]
      rfl
    · rw [hsave, if_neg (by exact Bool.false_ne_true), bare]
      dsimp only
      rw [Registry.silent_restore]
      rfl

/-- **Closing**, whether the final trace is written or not. -/
theorem bare_close (h : Heap) (r : Recorder) (files : FileTree) (elapsed : Nat) :
    (r.close h files elapsed).1.bare = { r.bare with registry := r.bare.registry.close } := by
  have hout := outcome_close h r files elapsed
  generalize r.close h files elapsed = x at hout ⊢
  cases hout with
  | again hclosed =>
    have hbare : r.bare.registry.closed = true := hclosed
    rw [Registry.close, ← hbare]
  | written | failed => rfl

/-- **The trace that a save writes**, in whatever state the recorder is. -/
theorem read?_of_save {reset : Bool} (hpath : (r.save h files reset elapsed).2.2 = .ok path) :
    (r.save h files reset elapsed).1.archive.read? (r.save h files reset elapsed).2.1 path =
      .ok (r.presentText h) := by
  cases hclosed : r.registry.closed with
  | true =>
    rw [save, if_pos hclosed] at hpath
    cases hpath
  | false =>
    cases reset with
    | false =>
      have hout := outcome_save_keeping h r files elapsed (some 0) hclosed
      generalize r.save h files false elapsed = x at hout hpath ⊢
      cases hout with
      | turnedAway | failed => cases hpath
      | saved _ hwrite =>
        cases hpath
        exact Archive.read?_of_write hwrite
    | true =>
      rcases save_resetting h r files elapsed (some 0) hclosed with
        ⟨archive, files', n, hwrite, hsave⟩ | ⟨archive, files', f, -, hsave⟩
      · rw [hsave] at hpath ⊢
        cases hpath
        exact Archive.read?_of_write hwrite
      · rw [hsave] at hpath
        cases hpath

/-- **The trace that closing writes.** -/
theorem read?_of_close (hopen : r.registry.closed = false)
    (hpath : (r.close h files elapsed).2.2 = .ok path) :
    (r.close h files elapsed).1.archive.read? (r.close h files elapsed).2.1 path =
      .ok (r.presentText h) := by
  have hout := outcome_close h r files elapsed
  generalize r.close h files elapsed = x at hout hpath ⊢
  cases hout with
  | again hclosed =>
    rw [hopen] at hclosed
    cases hclosed
  | failed => cases hpath
  | written _ hwrite =>
    cases hpath
    exact Archive.read?_of_write hwrite

end FlightRecorder.Recorder
