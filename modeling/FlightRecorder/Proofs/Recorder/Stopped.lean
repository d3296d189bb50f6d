import FlightRecorder.Proofs.Recorder.Operations

/-!
# Recorders that have stopped

A recorder stops for good when it is closed or when its registry degrades. From
then on recording changes nothing, with one exception. Under the `id` policy an
object gets its identity before the recorder asks whether it records at all, so an
object that is new to a stopped recorder still uses up a number.

* `FlightRecorder.Recorder.Call.objects` – the objects that a call identifies;
* `FlightRecorder.Recorder.perform_of_stopped` – all that a call does to a
  recorder that has stopped;
* `FlightRecorder.Recorder.Session.closed_run`,
  `FlightRecorder.Recorder.Session.isStopped_run` – a recorder is closed by
  closing it, and stays stopped;
* `FlightRecorder.Recorder.Session.perform_of_stopped_run` – **recording after the
  stop**, at any point of any run.
-/

namespace FlightRecorder

/-! ### Identifying objects -/

namespace Interner

variable {h : Heap} {held : List Ref} {i : Interner}

/-- The interner after several objects were identified, one after the other. -/
def internAll (h : Heap) (held : List Ref) (objects : List (Option Ref)) (i : Interner) :
    Interner :=
  objects.foldl (fun i o => (i.intern h held o).1) i

/-- An object that has a number changes nothing. -/
theorem intern_of_lookup {r : Ref} {id : UInt64} (hid : i.entries.lookup r = some id) :
    (i.intern h held (some r)).1 = i := by
  simp only [intern, hid]

/-- **Objects that have numbers change nothing**, and neither does null. -/
theorem internAll_of_known {objects : List (Option Ref)}
    (hknown : ∀ r, some r ∈ objects → (i.entries.lookup r).isSome = true) :
    i.internAll h held objects = i := by
  induction objects with
  | nil => rfl
  | cons o rest ih =>
    have hfirst : (i.intern h held o).1 = i := by
      cases o with
      | none => rfl
      | some r =>
        obtain ⟨id, hid⟩ := Option.isSome_iff_exists.mp (hknown r List.mem_cons_self)
        exact intern_of_lookup hid
    rw [internAll, List.foldl_cons, hfirst]
    exact ih fun r hr => hknown r (List.mem_cons_of_mem o hr)

end Interner

namespace Recorder

/-! ### Calls of a recorder that has stopped -/

/-- The objects that a value is identified by. -/
def objectsOf : Value → List (Option Ref)
  | .object o => [o]
  | _ => []

/-- **The objects that a call identifies** under the `id` policy, in order. -/
def Call.objects (h : Heap) : Call → List (Option Ref)
  | .value .. => []
  | .void .. => []
  | .object _ o _ => [o]
  | .arrayLoad _ array _ _ => [array]
  | .arrayStore _ array _ stored _ => array :: objectsOf stored
  | .newArray site array _ =>
    ((site, array) :: (h.walk array).map (visitEvent site)).map fun event => some event.2

/-- The recorder after it identified some objects. -/
def identified (h : Heap) (objects : List (Option Ref)) (r : Recorder) : Recorder :=
  { r with interner := r.interner.map (Interner.internAll h r.held objects) }

section Calls

variable {h : Heap} {r : Recorder} {objects : List (Option Ref)}

theorem isStopped_identified (hr : r.isStopped = true) :
    (r.identified h objects).isStopped = true :=
  hr

/-- Objects change nothing if they have numbers, or if the recorder does not number
objects. -/
theorem identified_of_known (hknown : ∀ i ∈ r.interner, ∀ ref, some ref ∈ objects →
    (i.entries.lookup ref).isSome = true) : r.identified h objects = r := by
  have hinterner : r.interner.map (Interner.internAll h r.held objects) = r.interner := by
    cases hi : r.interner with
    | none => rfl
    | some i => exact congrArg some (Interner.internAll_of_known (hknown i hi))
  rw [identified, hinterner]

theorem identified_nil : r.identified h [] = r :=
  identified_of_known fun _ _ _ hmem => absurd hmem List.not_mem_nil

theorem identified_cons (o : Option Ref) :
    r.identified h (o :: objects) = (r.identified h [o]).identified h objects := by
  simp only [identified, Option.map_map]
  rfl

theorem recordValue_of_stopped (hr : r.isStopped = true) (site : Nat) (value : Value)
    (thread : UInt32) (m : Nat → Memory := fun _ => .ample) :
    r.recordValue site value thread m = r :=
  if_pos hr

theorem recordObject_of_stopped (hr : r.isStopped = true) (site : Nat) (o : Option Ref)
    (thread : UInt32) (m : Nat → Memory := fun _ => .ample) :
    recordObject h r site o thread m = r.identified h [o] := by
  rw [recordObject, identified]
  cases hi : r.interner with
  | none =>
    have hsame : { r with interner := none } = r := by rw [← hi]
    rw [Option.map_none, hsame]
    exact recordValue_of_stopped hr _ _ _ m
  | some i =>
    have hr' : isStopped { r with interner := some (i.intern h r.held o).1 } = true := hr
    exact recordValue_of_stopped hr' site _ thread m

theorem recordAny_of_stopped (hr : r.isStopped = true) (site : Nat) (value : Value)
    (thread : UInt32) (m : Nat → Memory := fun _ => .ample) :
    recordAny h r site value thread m = r.identified h (objectsOf value) := by
  cases value with
  | object o => exact recordObject_of_stopped hr _ _ _ m
  | _ => exact (recordValue_of_stopped hr _ _ _ m).trans identified_nil.symm

/-- **All that a call does to a recorder that has stopped** is to identify objects. -/
theorem perform_of_stopped (hr : r.isStopped = true) (call : Call)
    (m : Nat → Memory := fun _ => .ample) :
    r.perform h call m = r.identified h (call.objects h) := by
  cases call with
  | value site value thread =>
    exact (recordValue_of_stopped hr _ _ _ m).trans identified_nil.symm
  | void site thread => exact (recordValue_of_stopped hr _ _ _ m).trans identified_nil.symm
  | object site o thread => exact recordObject_of_stopped hr _ _ _ m
  | arrayLoad site array index thread =>
    rw [perform, recordArrayLoad, recordObject_of_stopped hr site array thread m]
    exact recordValue_of_stopped (isStopped_identified hr) _ _ _ m
  | arrayStore site array index value thread =>
    rw [perform, recordArrayStore, recordArrayLoad, recordObject_of_stopped hr site array thread m,
      recordValue_of_stopped (isStopped_identified hr) _ _ thread m,
      recordAny_of_stopped (isStopped_identified hr) _ value thread m, Call.objects,
      ← identified_cons]
  | newArray site array thread =>
    rw [perform, recordNewArray, Call.objects]
    generalize (site, array) :: (h.walk array).map (visitEvent site) = events
    -- by induction on the events, of a recorder that stays stopped
    induction events generalizing r with
    | nil => exact identified_nil.symm
    | cons event rest ih =>
      rw [List.foldl_cons, List.map_cons, identified_cons]
      dsimp only
      rw [recordObject_of_stopped hr event.1 (some event.2) thread m]
      exact ih hr

/-- No call closes a recorder. -/
theorem closed_perform (h : Heap) (r : Recorder) (call : Call)
    (m : Nat → Memory := fun _ => .ample) :
    (r.perform h call m).registry.closed = r.registry.closed := by
  refine perform_ind (P := fun r' => r'.registry.closed = r.registry.closed) ?_ ?_ rfl call
  · intro r' site value thread hr'
    rw [← hr', recordValue]
    split_ifs
    · rfl
    · exact Registry.closed_record_of_memory _ _ _ _ _
  · intro r' i i' _ hr'
    exact hr'

theorem isStopped_of_closed (hclosed : r.registry.closed = true) : r.isStopped = true := by
  rw [isStopped, hclosed, Bool.true_or]

/-- **Closing closes**, whether the final trace is written or not. -/
theorem CloseOutcome.closed {files : FileTree} {elapsed : Nat} {packed : Option Nat}
    {x : Recorder × FileTree × Except Failure String}
    (hx : CloseOutcome h r files elapsed packed x) : x.1.registry.closed = true := by
  cases hx with
  | again hclosed => exact hclosed
  | written | failed => rfl

end Calls

namespace Session

/-! ### Stopping for good -/

/-- Whether an action closes the recorder. -/
def Action.closes : Action → Bool
  | .close _ => true
  | _ => false

theorem Action.closes_of_not_writesTrace {a : Action} (ha : a.writesTrace = false) :
    a.closes = false := by
  cases a <;> first | rfl | cases ha

variable {s : Session} {w : Supplies} {a : Action} {x : Session × Answer}

/-- **A recorder is closed by closing it**, and by nothing else. -/
theorem Outcome.closed_eq (hx : Outcome s w a x) :
    x.1.recorder.registry.closed = (s.recorder.registry.closed || a.closes) := by
  cases hx with
  | aside ha hsame => rw [hsame, Action.closes_of_not_writesTrace ha, Bool.or_false]
  | registered sites ha =>
    rw [Action.closes_of_not_writesTrace ha, Bool.or_false]
    rfl
  | called call ha =>
    rw [Action.closes_of_not_writesTrace ha, Bool.or_false]
    exact closed_perform s.heap s.recorder call w.memory
  | saved reset elapsed hsave =>
    have ha : (Action.save reset elapsed).closes = false := rfl
    rw [ha, Bool.or_false]
    cases hsave with
    | turnedAway => rfl
    | saved => cases reset <;> rfl
    | failed => rfl
  | closed elapsed hclose =>
    have ha : (Action.close elapsed).closes = true := rfl
    rw [ha, Bool.or_true]
    exact hclose.closed

theorem closed_run (hs : s.recorder.Sound) (actions : List Action) (w : Supplies := {}) :
    (s.run actions w).recorder.registry.closed =
      (s.recorder.registry.closed || actions.any Action.closes) := by
  induction actions generalizing s with
  | nil => exact (Bool.or_false _).symm
  | cons a rest ih =>
    rw [List.any_cons, ← Bool.or_assoc, ← (outcome_step hs a w).closed_eq]
    exact ih (sound_step hs a w)

/-- A recorder that has stopped stays so. -/
theorem Outcome.isStopped (hx : Outcome s w a x) (hs : s.recorder.isStopped = true) :
    x.1.recorder.isStopped = true := by
  cases hx with
  | aside _ hsame =>
    rw [hsame]
    exact hs
  | registered => exact hs
  | called call =>
    rw [perform_of_stopped hs call w.memory]
    exact hs
  | saved reset elapsed hsave =>
    cases hsave with
    | turnedAway => exact hs
    | saved => cases reset <;> exact hs
    | failed => exact hs
  | closed elapsed hclose => exact isStopped_of_closed hclose.closed

theorem isStopped_run (hs : s.recorder.Sound) (hstopped : s.recorder.isStopped = true)
    (actions : List Action) (w : Supplies) : (s.run actions w).recorder.isStopped = true := by
  induction actions generalizing s with
  | nil => exact hstopped
  | cons a rest ih => exact ih (sound_step hs a w) ((outcome_step hs a w).isStopped hstopped)

/-- **Recording after the stop.** Once a run has closed the recorder, or its
registry has degraded, for whatever reason, a call changes nothing but the interner,
and that only by identifying the objects of the call. So it changes nothing at all
under the other policies, and nothing if every object of the call has a number
already. -/
theorem perform_of_stopped_run {settings : Settings} {clock : Clock} {start : Recorder}
    (hstart : new? settings clock = .ok start) (heap : Heap) (files : FileTree)
    (before after : List Action) (w : Supplies) {s₀ s : Session}
    (hs₀ : run ⟨heap, files, start⟩ before w = s₀) (hs : s₀.run after w = s)
    (hstopped : before.any Action.closes = true ∨ s₀.recorder.registry.degraded = true)
    (call : Call) :
    s.recorder.perform s.heap call w.memory =
      s.recorder.identified s.heap (call.objects s.heap) ∧
    (settings.retention ≠ .id ∨
        (∀ i ∈ s.recorder.interner, ∀ ref, some ref ∈ call.objects s.heap →
          (i.entries.lookup ref).isSome = true) →
      s.recorder.perform s.heap call w.memory = s.recorder) := by
  have hsound : s₀.recorder.Sound := by
    rw [← hs₀]
    exact sound_run (sound_of_new? hstart) before w
  have hstop : s₀.recorder.isStopped = true := by
    rcases hstopped with hclosed | hdeg
    · have hflag := closed_run (s := ⟨heap, files, start⟩) (sound_of_new? hstart) before w
      rw [hs₀, hclosed, Bool.or_true] at hflag
      exact isStopped_of_closed hflag
    · rw [isStopped, hdeg, Bool.or_true]
  have hperform : s.recorder.perform s.heap call w.memory =
      s.recorder.identified s.heap (call.objects s.heap) := by
    rw [← hs]
    exact perform_of_stopped (isStopped_run hsound hstop after w) call w.memory
  refine ⟨hperform, fun hknown => ?_⟩
  rw [hperform]
  refine identified_of_known ?_
  rcases hknown with hretention | hknown
  · -- without the policy there is no interner at the start, and none comes up later
    have hrules : s.recorder.rules = start.rules := by
      rw [← hs, rules_run hsound after w, ← hs₀]
      exact rules_run (s := ⟨heap, files, start⟩) (sound_of_new? hstart) before w
    have hnone : s.recorder.interner = none := by
      rw [← Option.not_isSome_iff_eq_none, isSome_interner_of_rules hrules,
        isSome_interner_of_new? hstart]
      simpa using hretention
    intro i hi
    rw [hnone] at hi
    cases hi
  · exact hknown

/-- An object that was recorded before the recorder was closed. -/
theorem perform_of_stopped_run_known :
    ∃ start, new? { retention := .id } (.startingAt 1) = .ok start ∧
      let s₀ := run ⟨{}, {}, start⟩ [.create ⟨"o", "Object", none, none, false⟩,
        .recordObject 3 (some ⟨0⟩) 1, .close 0]
      let s := s₀.run [.register [], .save true 0]
      s.recorder.registry.closed = true ∧ s.recorder.registry.totalRetained = 1 ∧
      s.recorder.perform s.heap (.object 4 (some ⟨0⟩) 1) = s.recorder := by
  have hstart : new? { retention := .id } (.startingAt 1) = .ok _ := rfl
  refine ⟨_, hstart, ?_⟩
  intro s₀ s
  have hknown : ∀ i ∈ s.recorder.interner, (i.entries.lookup ⟨0⟩).isSome = true := by
    decide +kernel
  refine ⟨by decide +kernel, by decide +kernel, ?_⟩
  refine (perform_of_stopped_run hstart {} {} _ _ {} rfl rfl (Or.inl rfl)
    (.object 4 (some ⟨0⟩) 1)).2 (Or.inr fun i hi ref href => ?_)
  cases List.mem_singleton.mp href
  exact hknown i hi

/-- **An object that is new to a closed recorder** still gets a number. -/
theorem numbered_of_closed :
    ∃ start, new? { retention := .id } (.startingAt 1) = .ok start ∧
      let s := run ⟨{}, {}, start⟩ [.create ⟨"o", "Object", none, none, false⟩, .close 0]
      let r := s.recorder.perform s.heap (.object 0 (some ⟨0⟩) 0)
      s.recorder.registry.closed = true ∧
      s.recorder.interner.map (fun i => (i.size, i.next)) = some (0, 1) ∧
      r.interner.map (fun i => (i.size, i.next)) = some (1, 2) :=
  ⟨_, rfl, by decide +kernel⟩

end Session

end Recorder

end FlightRecorder
