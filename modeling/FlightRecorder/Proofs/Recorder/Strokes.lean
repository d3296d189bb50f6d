import FlightRecorder.Proofs.Heap
import FlightRecorder.Proofs.Recorder.Stopped

/-!
# Calls, stroke by stroke

A call records a value, or asks for the identity of an object and records that, and
then perhaps does so again; the calls for arrays make several such strokes. What the
program hands over with a call are references that it has itself, and the walk over
nested arrays finds no others than those it can reach from there.

* `FlightRecorder.Recorder.Stroke`, `FlightRecorder.Recorder.perform_eq` – **a call
  is a sequence of strokes**;
* `FlightRecorder.Recorder.Call.given`, `FlightRecorder.Recorder.forall_strokes` – what
  is handed over with a call, and that its strokes are about nothing else;
* `FlightRecorder.Recorder.Session.Action.onHeap`,
  `FlightRecorder.Recorder.Session.Action.given` – what an action does to the objects,
  and what is handed over with it.
-/

namespace FlightRecorder

/-- The object that a walk reports. -/
def ArrayVisit.ref : ArrayVisit → Ref
  | .scanned r | .found r => r

namespace Heap

variable {h : Heap} {P : Ref → Prop}

theorem mem_children_of_mem_innerArrays {a r : Ref} (hr : r ∈ h.innerArrays a) :
    r ∈ (h.info a).children :=
  List.mem_of_mem_filter hr

/-- **A walk stays among the elements**: what holds of the queued arrays, and is
handed down to elements, holds of all that is reported. -/
theorem forall_scan (hclosed : ∀ a r, P a → r ∈ (h.info a).children → P r) (fuel : Nat)
    (queue : List Ref) (hqueue : ∀ a ∈ queue, P a) : ∀ v ∈ h.scan fuel queue, P v.ref := by
  induction fuel generalizing queue with
  | zero => exact fun v hv => absurd hv List.not_mem_nil
  | succ fuel ih =>
    cases queue with
    | nil => exact fun v hv => absurd hv List.not_mem_nil
    | cons a queue =>
      obtain ⟨ha, hqueue⟩ := List.forall_mem_cons.mp hqueue
      have hinner : ∀ r ∈ h.innerArrays a, P r := fun r hr =>
        hclosed a r ha (mem_children_of_mem_innerArrays hr)
      have hnext : ∀ r ∈ queue ++ h.innerNested a, P r := by
        intro r hr
        rcases List.mem_append.mp hr with hr | hr
        · exact hqueue r hr
        · exact hinner r (List.mem_of_mem_filter hr)
      intro v hv
      rw [scan, List.mem_append, List.mem_cons] at hv
      rcases hv with (rfl | hv) | hv
      · exact ha
      · obtain ⟨r, hr, rfl⟩ := List.mem_map.mp hv
        exact hinner r hr
      · exact ih _ hnext v hv

theorem forall_walk (hclosed : ∀ a r, P a → r ∈ (h.info a).children → P r) {a : Ref} (ha : P a) :
    ∀ v ∈ h.walk a, P v.ref :=
  forall_scan hclosed _ [a] (List.forall_mem_singleton.mpr ha)

/-- Whether the program can get at each of some objects: by a handle, or from an
array that it can get at. -/
def owns (h : Heap) (refs : List Ref) : Bool :=
  refs.all (h.census []).isAlive

/-- What the program can get at is alive whoever else holds anything. -/
theorem alive_of_owns (hh : h.WellFormed) {refs : List Ref} (howns : h.owns refs = true) :
    ∀ r ∈ refs, h.Alive [] r := by
  intro r hr
  have halive : (h.census []).isAlive r = true := List.all_eq_true.mp howns r hr
  exact (isAlive_census_iff hh (lt_size_of_isAlive halive)).mp halive

/-- Those who are alive to the program can be handed over by it. -/
theorem owns_of_alive (hh : h.WellFormed) {refs : List Ref}
    (halive : ∀ r ∈ refs, h.Alive [] r) : h.owns refs = true := by
  refine List.all_eq_true.mpr fun r hr => ?_
  have hsize : r.index < h.objects.size :=
    (halive r hr).lt_size hh fun _ hx => absurd hx List.not_mem_nil
  exact (isAlive_census_iff hh hsize).mpr (halive r hr)

end Heap

namespace Recorder

/-! ### Strokes -/

/-- **The strokes of calls.** -/
inductive Stroke where
  /-- A value is recorded. -/
  | value (site : Nat) (value : Value) (thread : UInt32)
  /-- An object is identified, if objects are, and recorded. -/
  | object (site : Nat) (o : Option Ref) (thread : UInt32)

/-- The site of a stroke. -/
def Stroke.site : Stroke → Nat
  | .value site _ _ | .object site _ _ => site

/-- The stroke that a value takes that may be an object. -/
def Stroke.any (site : Nat) (v : Value) (thread : UInt32) : Stroke :=
  match v with
  | .object o => .object site o thread
  | v => .value site v thread

/-- Make a stroke. -/
def stroke (h : Heap) (r : Recorder) (st : Stroke) (m : Nat → Memory := fun _ => .ample) :
    Recorder :=
  match st with
  | .value site value thread => r.recordValue site value thread m
  | .object site o thread => recordObject h r site o thread m

/-- The strokes of a call, in order. -/
def Call.strokes (h : Heap) : Call → List Stroke
  | .value site v thread => [.value site v thread]
  | .void site thread => [.value site (.int 0) thread]
  | .object site o thread => [.object site o thread]
  | .arrayLoad site array index thread =>
    [.object site array thread, .value (siteAfter site 1) (.int index) thread]
  | .arrayStore site array index stored thread =>
    [.object site array thread, .value (siteAfter site 1) (.int index) thread,
      .any (siteAfter site 2) stored thread]
  | .newArray site array thread =>
    ((site, array) :: (h.walk array).map (visitEvent site)).map fun event =>
      .object event.1 (some event.2) thread

theorem stroke_any (h : Heap) (r : Recorder) (site : Nat) (v : Value) (thread : UInt32)
    (m : Nat → Memory := fun _ => .ample) :
    r.stroke h (.any site v thread) m = recordAny h r site v thread m := by
  cases v <;> rfl

/-- **A call is a sequence of strokes.** -/
theorem perform_eq (h : Heap) (r : Recorder) (call : Call)
    (m : Nat → Memory := fun _ => .ample) :
    r.perform h call m = (call.strokes h).foldl (fun r st => r.stroke h st m) r := by
  cases call with
  | value | void | object | arrayLoad => rfl
  | arrayStore site array index stored thread => exact (stroke_any h _ _ _ _ m).symm
  | newArray site array thread =>
    rw [Call.strokes, List.foldl_map]
    rfl

/-! ### What is handed over -/

/-- The reference in a value, if it is an object. -/
def refsOf : Value → List Ref
  | .object o => o.toList
  | _ => []

/-- **What is handed over with a call**: the objects among its arguments. -/
def Call.given : Call → List Ref
  | .value _ v _ => refsOf v
  | .void _ _ => []
  | .object _ o _ => o.toList
  | .arrayLoad _ array _ _ => array.toList
  | .arrayStore _ array _ stored _ => array.toList ++ refsOf stored
  | .newArray _ array _ => [array]

/-- The references that a stroke is about. -/
def Stroke.refs : Stroke → List Ref
  | .value _ v _ => refsOf v
  | .object _ o _ => o.toList

@[simp] theorem Stroke.refs_any (site : Nat) (v : Value) (thread : UInt32) :
    (Stroke.any site v thread).refs = refsOf v := by
  cases v <;> rfl

variable {h : Heap} {P : Ref → Prop}

/-- **The strokes of a call are about nothing else** than what is handed over, and
what can be reached from there. -/
theorem forall_strokes (hclosed : ∀ a r, P a → r ∈ (h.info a).children → P r) {call : Call}
    (hgiven : ∀ r ∈ call.given, P r) : ∀ st ∈ call.strokes h, ∀ r ∈ st.refs, P r := by
  cases call with
  | value site value thread => exact List.forall_mem_singleton.mpr hgiven
  | void site thread => exact List.forall_mem_singleton.mpr hgiven
  | object site o thread => exact List.forall_mem_singleton.mpr hgiven
  | arrayLoad site array index thread =>
    exact List.forall_mem_cons.mpr ⟨hgiven,
      List.forall_mem_singleton.mpr fun r hr => absurd hr List.not_mem_nil⟩
  | arrayStore site array index stored thread =>
    obtain ⟨harray, hstored⟩ := List.forall_mem_append.mp hgiven
    refine List.forall_mem_cons.mpr ⟨harray, List.forall_mem_cons.mpr
      ⟨fun r hr => absurd hr List.not_mem_nil, List.forall_mem_singleton.mpr ?_⟩⟩
    rw [Stroke.refs_any]
    exact hstored
  | newArray site array thread =>
    have harray : P array := hgiven array (List.mem_singleton_self array)
    intro st hst r hr
    obtain ⟨event, hevent, rfl⟩ := List.mem_map.mp hst
    obtain rfl : r = event.2 := by simpa [Stroke.refs] using hr
    rcases List.mem_cons.mp hevent with rfl | hevent
    · exact harray
    · obtain ⟨v, hv, rfl⟩ := List.mem_map.mp hevent
      have hvisited := Heap.forall_walk hclosed harray v hv
      cases v <;> exact hvisited

namespace Session

/-! ### What actions do to the heap -/

/-- What an action does to the objects: the program creates them, and lets go of
them. -/
def Action.onHeap : Action → Heap → Heap
  | .create spec, h => h.create spec
  | .release name, h => h.release name
  | _, h => h

/-- The call that an action makes, if it makes one. -/
def Action.call? : Action → Option Call
  | .recordValue site value thread => some (.value site value thread)
  | .recordObject site o thread => some (.object site o thread)
  | .recordArrayLoad site array index thread => some (.arrayLoad site array index thread)
  | .recordArrayStore site array index value thread =>
    some (.arrayStore site array index value thread)
  | .recordNewArray site array thread => some (.newArray site array thread)
  | _ => none

/-- What the program hands over with an action. -/
def Action.given (a : Action) : List Ref :=
  (a.call?.map Call.given).getD []

section OnHeap

variable {h : Heap} {held : List Ref} {r : Ref}

theorem wellFormed_onHeap (hh : h.WellFormed) (a : Action) : (a.onHeap h).WellFormed := by
  cases a with
  | create spec => exact hh.create spec
  | release name => exact hh.release name
  | _ => exact hh

/-- Objects are never taken back. -/
theorem size_le_onHeap (h : Heap) (a : Action) : h.objects.size ≤ (a.onHeap h).objects.size := by
  cases a with
  | create spec =>
    rw [Action.onHeap, Heap.create, Array.size_push]
    exact Nat.le_succ _
  | _ => exact Nat.le_refl _

/-- **The program brings nobody back to life.** -/
theorem alive_of_onHeap (a : Action) (hr : r.index < h.objects.size)
    (halive : (a.onHeap h).Alive held r) : h.Alive held r := by
  cases a with
  | create spec =>
    rcases Heap.alive_of_create halive with rfl | halive
    · exact absurd hr (Nat.lt_irrefl _)
    · exact halive
  | release name => exact Heap.alive_of_release halive
  | _ => exact halive

end OnHeap

variable {s : Session} {a : Action}

/-- **An action changes the heap by itself only**, whatever the recorder does. -/
theorem heap_step (s : Session) (a : Action) (w : Supplies := {}) :
    (s.step a w).1.heap = a.onHeap s.heap := by
  cases a with
  | writeFile path text =>
    rw [step]
    split <;> rfl
  | _ => rfl

/-- Calls leave the objects alone. -/
theorem onHeap_of_call {call : Call} (hcall : a.call? = some call) (h : Heap) :
    a.onHeap h = h := by
  cases a <;> first | rfl | cases hcall

theorem step_of_call {call : Call} (hcall : a.call? = some call) (w : Supplies := {}) :
    (s.step a w).1 = { s with recorder := s.recorder.perform s.heap call w.memory } := by
  cases a <;> first | (cases hcall; rfl) | cases hcall

/-- An action that makes no call and writes no trace leaves the registry and the
interner alone. -/
theorem step_of_no_call (hcall : a.call? = none) (hwrites : a.writesTrace = false) :
    (s.step a).1.recorder.registry = s.recorder.registry ∧
      (s.step a).1.recorder.interner = s.recorder.interner := by
  cases a with
  | register | create | release | makeDirectory | remove => exact ⟨rfl, rfl⟩
  | writeFile path text =>
    rw [step]
    split <;> exact ⟨rfl, rfl⟩
  | save | close => cases hwrites
  | recordValue | recordObject | recordArrayLoad | recordArrayStore | recordNewArray => cases hcall

end Session

end Recorder

end FlightRecorder
