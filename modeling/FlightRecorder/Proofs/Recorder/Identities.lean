import FlightRecorder.Proofs.Interner
import FlightRecorder.Proofs.Recorder.Sharing

/-!
# The identities of a run

A recorder under the `id` policy asks its interner for an identity whenever an object
is recorded, purges it at every save, and shares it with others who do the same. In
between objects come and go. This file follows the identities that are handed out
along such a run and proves that they last: an object has the number of its place
among all objects that were ever identified, no matter how often the interner was
swept since, and no other object has that number.

That takes a program that hands over only objects it has, by a handle or in an array
(`FlightRecorder.Recorder.Shared.owned`): whoever is dead to the program stays dead,
so nobody who may still be handed over is forgotten.

* `FlightRecorder.Recorder.identify`, `FlightRecorder.Recorder.recordObject_eq` – the
  identity that an object is recorded by;
* `FlightRecorder.Recorder.Shared.internings` – **the log of a run**: every object or
  null that was identified, with the identity it got;
* `FlightRecorder.Recorder.Shared.Numbered` – the invariant
  (`FlightRecorder.Recorder.Shared.Numbered.step`,
  `FlightRecorder.Recorder.Shared.Numbered.run`);
* `FlightRecorder.Recorder.Shared.identities_of_run` – **the identities of a run**.
-/

namespace FlightRecorder.Recorder

/-! ### The identities of a call -/

/-- The identity that an object, or null, would get now, if objects are numbered. -/
def identify (h : Heap) (r : Recorder) (o : Option Ref) : Option ObjectId :=
  r.interner.map fun i => (i.intern h r.held o).2

/-- **A numbered object is recorded by its identity.** -/
theorem recordObject_eq {h : Heap} {r : Recorder} {o : Option Ref} {id : ObjectId}
    (hid : r.identify h o = some id) (site : Nat) (thread : UInt32) :
    recordObject h r site o thread =
      (r.identified h [o]).recordValue site (.objectId id) thread := by
  obtain ⟨i, hi, rfl⟩ := Option.map_eq_some_iff.mp hid
  rw [recordObject, identified, hi]
  rfl

/-- What a stroke identifies, with the identity. -/
def Stroke.interning (h : Heap) (r : Recorder) : Stroke → List (Option Ref × ObjectId)
  | .value _ _ _ => []
  | .object _ o _ => (r.identify h o).toList.map (o, ·)

/-- What several strokes identify, one after the other. -/
def internings (h : Heap) (r : Recorder) : List Stroke → List (Option Ref × ObjectId)
  | [] => []
  | st :: rest => st.interning h r ++ internings h (r.stroke h st) rest

/-- Strokes identify what they are about. -/
theorem exists_stroke_of_mem_internings {h : Heap} {r : Recorder} {strokes : List Stroke}
    {x : Option Ref × ObjectId} (hx : x ∈ r.internings h strokes) :
    ∃ st ∈ strokes, ∀ ref ∈ x.1, ref ∈ st.refs := by
  induction strokes generalizing r with
  | nil => exact absurd hx List.not_mem_nil
  | cons st rest ih =>
    rcases List.mem_append.mp hx with hx | hx
    · refine ⟨st, List.mem_cons_self, ?_⟩
      cases st with
      | value => exact absurd hx List.not_mem_nil
      | object site o thread =>
        obtain ⟨id, -, rfl⟩ := List.mem_map.mp hx
        exact fun ref href => Option.mem_toList.mpr href
    · obtain ⟨st', hst', hrefs⟩ := ih hx
      exact ⟨st', List.mem_cons_of_mem st hst', hrefs⟩

/-- The interner of a recorder, if there is one, explains a log. -/
def Explains (r : Recorder) (alive : Ref → Prop) (log : List (Option Ref × ObjectId)) : Prop :=
  ∀ i ∈ r.interner, i.Explains alive log

section Strokes

variable {h : Heap} {r : Recorder} {alive : Ref → Prop} {log : List (Option Ref × ObjectId)}
  (hc : ∀ held ref, alive ref → (h.census held).isAlive ref = true)

include hc

theorem Explains.stroke (hr : r.Explains alive log) {st : Stroke}
    (hst : ∀ ref ∈ st.refs, alive ref) :
    (r.stroke h st).Explains alive (log ++ st.interning h r) := by
  cases st with
  | value site v thread =>
    rw [Stroke.interning, List.append_nil, Explains, Recorder.stroke, interner_recordValue]
    exact hr
  | object site o thread =>
    intro i' hi'
    rw [Recorder.stroke, interner_recordObject] at hi'
    obtain ⟨i, hi, rfl⟩ := Option.map_eq_some_iff.mp hi'
    rw [Stroke.interning, identify, hi]
    exact (hr i hi).intern (fun ref href => hst ref (Option.mem_toList.mpr href)) (hc r.held)

/-- **The strokes of a call**, one after the other. -/
theorem Explains.strokes (hr : r.Explains alive log) {strokes : List Stroke}
    (hst : ∀ st ∈ strokes, ∀ ref ∈ st.refs, alive ref) :
    (strokes.foldl (Recorder.stroke h) r).Explains alive (log ++ r.internings h strokes) := by
  induction strokes generalizing r log with
  | nil =>
    rw [internings, List.append_nil]
    exact hr
  | cons st rest ih =>
    obtain ⟨hfirst, hrest⟩ := List.forall_mem_cons.mp hst
    rw [internings, ← List.append_assoc]
    exact ih (hr.stroke hc hfirst) hrest

end Strokes

namespace Shared

/-! ### The identities of a run -/

/-- What an action identifies, with the identities. -/
def interning (s : Shared) : Action → List (Option Ref × ObjectId)
  | .act a =>
    match a.call? with
    | some call => s.recorder.internings s.observed (call.strokes s.observed)
    | none => []
  | .intern o => (s.recorder.identify s.observed o).toList.map (o, ·)
  | _ => []

/-- **The log of a run**: what was identified, in order, with the identities. -/
def internings (s : Shared) : List Action → List (Option Ref × ObjectId)
  | [] => []
  | a :: rest => s.interning a ++ (s.step a).internings rest

/-- **The invariant**: the interner explains the log, for those that the program can
still hand over. -/
structure Numbered (s : Shared) (log : List (Option Ref × ObjectId)) : Prop where
  wellFormed : s.heap.WellFormed
  /-- What was identified was allocated. -/
  allocated : ∀ x ∈ log, ∀ r ∈ x.1, r.index < s.heap.objects.size
  explains : s.recorder.Explains (s.heap.Alive []) log

variable {s : Shared} {a : Action} {log : List (Option Ref × ObjectId)}

/-- What an action identifies is what the program has. -/
theorem alive_of_mem_interning (hs : s.heap.WellFormed) (howns : s.heap.owns a.given = true)
    {x : Option Ref × ObjectId} (hx : x ∈ s.interning a) : ∀ r ∈ x.1, s.heap.Alive [] r := by
  have hgiven := Heap.alive_of_owns hs howns
  cases a with
  | act a =>
    rw [interning] at hx
    cases hcall : a.call? with
    | none =>
      rw [hcall] at hx
      exact absurd hx List.not_mem_nil
    | some call =>
      rw [hcall] at hx
      obtain ⟨st, hst, hrefs⟩ := exists_stroke_of_mem_internings hx
      rw [Action.given, Session.Action.given, hcall] at hgiven
      exact fun r hr => forall_strokes (h := s.observed) (fun _ _ => .element) hgiven st hst r
        (hrefs r hr)
  | intern o =>
    obtain ⟨id, -, rfl⟩ := List.mem_map.mp hx
    exact fun r hr => hgiven r (Option.mem_toList.mpr hr)
  | record | getOrCreate | detach | restore | discard | closeRegistry | purge =>
    exact absurd hx List.not_mem_nil

/-- An action of the program or the recorder, on the objects as they are before
it. -/
theorem Numbered.explains_act (hs : s.Numbered log) {a : Session.Action}
    (hgiven : ∀ r ∈ a.given, s.heap.Alive [] r) :
    (s.step (.act a)).recorder.Explains (s.heap.Alive []) (log ++ s.interning (.act a)) := by
  rw [interning]
  cases hcall : a.call? with
  | some call =>
    rw [Session.Action.given, hcall] at hgiven
    have hstep : (s.step (.act a)).recorder = s.recorder.perform s.observed call :=
      congrArg Session.recorder (Session.step_of_call (s := ⟨s.observed, s.files, s.recorder⟩) hcall)
    rw [hstep, perform_eq]
    exact hs.explains.strokes (fun held r hr => isAlive_observed hs.wellFormed held hr)
      (forall_strokes (fun _ _ => .element) hgiven)
  | none =>
    rw [List.append_nil]
    intro i' hi'
    rcases interner_of_no_call hcall s with hsame | hswept
    · exact hs.explains i' (hsame ▸ hi')
    · -- those who are counted are the living
      rw [hswept] at hi'
      obtain ⟨i, hi, rfl⟩ := Option.map_eq_some_iff.mp hi'
      exact (hs.explains i hi).sweep fun r hr => isAlive_census hs.wellFormed hr

/-- Any action, on the objects as they are before it. -/
theorem Numbered.explains_step (hs : s.Numbered log) (howns : s.heap.owns a.given = true) :
    (s.step a).recorder.Explains (s.heap.Alive []) (log ++ s.interning a) := by
  have hgiven := Heap.alive_of_owns hs.wellFormed howns
  cases a with
  | act a => exact hs.explains_act hgiven
  | intern o =>
    intro i' hi'
    obtain ⟨i, hi, rfl⟩ := Option.map_eq_some_iff.mp hi'
    rw [interning, identify, Option.mem_def.mp hi]
    exact (hs.explains i hi).intern (fun r hr => hgiven r (Option.mem_toList.mpr hr))
      fun r hr => isAlive_observed hs.wellFormed s.recorder.held hr
  | purge =>
    intro i' hi'
    obtain ⟨i, hi, rfl⟩ := Option.map_eq_some_iff.mp hi'
    have hswept := (hs.explains i hi).sweep fun r hr => isAlive_census hs.wellFormed hr
    rw [← List.append_nil log] at hswept
    exact hswept
  | restore name =>
    have hsame := hs.explains
    rw [← List.append_nil log] at hsame
    rw [Shared.step]
    split <;> exact hsame
  | record | getOrCreate | detach | discard | closeRegistry =>
    have hsame := hs.explains
    rw [← List.append_nil log] at hsame
    exact hsame

/-- **Every step** keeps the invariant: nobody comes back who is dead to the
program. -/
theorem Numbered.step (hs : s.Numbered log) (howns : s.heap.owns a.given = true) :
    (s.step a).Numbered (log ++ s.interning a) := by
  have hbefore : ∀ x ∈ log ++ s.interning a, ∀ r ∈ x.1, r.index < s.heap.objects.size := by
    intro x hx r hr
    rcases List.mem_append.mp hx with hx | hx
    · exact hs.allocated x hx r hr
    · exact (alive_of_mem_interning hs.wellFormed howns hx r hr).lt_size hs.wellFormed
        fun _ hnone => absurd hnone List.not_mem_nil
  have hexplains := hs.explains_step howns
  refine ⟨wellFormed_step hs.wellFormed a, fun x hx r hr => ?_, fun i hi => ?_⟩
  · rw [heap_step]
    exact (hbefore x hx r hr).trans_le (size_le_onHeap s.heap a)
  · refine (hexplains i hi).mono fun r hr halive => ?_
    obtain ⟨id, hmem⟩ := Interner.mem_distinct_iff.mp hr
    rw [heap_step] at halive
    exact alive_of_onHeap a (hbefore _ hmem r rfl) halive

/-- **Every run** keeps the invariant. -/
theorem Numbered.run (hs : s.Numbered log) {actions : List Action}
    (howned : owned s.heap actions = true) :
    (s.run actions).Numbered (log ++ s.internings actions) := by
  induction actions generalizing s log with
  | nil =>
    rw [internings, List.append_nil]
    exact hs
  | cons a rest ih =>
    rw [owned, Bool.and_eq_true] at howned
    rw [internings, ← List.append_assoc]
    exact ih (hs.step howned.1) (by rw [heap_step]; exact howned.2)

theorem numbered_start (settings : Settings) (limits : RegistryLimits) (clock : Clock)
    (archive : Archive) (files : FileTree) :
    (start settings limits clock archive files).Numbered [] where
  wellFormed := Heap.wellFormed_empty
  allocated _ hx := absurd hx List.not_mem_nil
  explains i hi := by
    have hempty : i = {} := by
      rw [start] at hi
      dsimp only at hi
      split_ifs at hi
      · exact (Option.mem_some.mp hi).symm
      · cases hi
    rw [hempty]
    exact Interner.explains_empty _

/-- **The identities of a run.** Objects come and go, and are recorded or identified
otherwise, while the interner is swept at whatever time, as long as only such objects
are handed over that the program has. Then

* null is always zero;
* the object that came up first among those that were identified is one, the next new
  one two, and so on, each of them every time it comes up;
* no two objects share a number,

while there are fewer than `2 ^ 64` of them. -/
theorem identities_of_run (settings : Settings) {limits : RegistryLimits}
    (hid : limits.retention = .id) (clock : Clock) (archive : Archive) (files : FileTree)
    {actions : List Action} (howned : owned {} actions = true)
    {log : List (Option Ref × ObjectId)}
    (hlog : (start settings limits clock archive files).internings actions = log)
    (hfew : (Interner.distinct log).length < UInt64.size) :
    (∀ id, (none, id) ∈ log → id.id = 0) ∧
    (∀ n r id, (Interner.distinct log)[n]? = some r → (some r, id) ∈ log → id.id.toNat = n + 1) ∧
    ∀ r r' id id', (some r, id) ∈ log → (some r', id') ∈ log → (id.id = id'.id ↔ r = r') := by
  have hrun := (numbered_start settings limits clock archive files).run howned
  rw [List.nil_append, hlog] at hrun
  have hsome : ((start settings limits clock archive files).run actions).recorder.interner.isSome =
      true := by
    rw [isSome_interner_run]
    exact isSome_interner_start settings hid clock archive files
  obtain ⟨i, hi⟩ := Option.isSome_iff_exists.mp hsome
  have hgiven := (hrun.explains i hi).log
  refine ⟨fun id hmem => hgiven _ hmem, fun n r id hn hmem => ?_, fun r r' id id' hmem hmem' => ?_⟩
  · rw [hgiven _ hmem, Interner.toNat_number hfew (List.mem_of_getElem? hn),
      Interner.idxOf_of_getElem? hn]
  · rw [hgiven _ hmem, hgiven _ hmem']
    exact Interner.number_inj hfew (Interner.mem_distinct_iff.mpr ⟨id, hmem⟩)
      (Interner.mem_distinct_iff.mpr ⟨id', hmem'⟩)

/-- The first object is dead and swept when the second comes up, which is identified
before a save and after it. -/
theorem identities_of_run_swept :
    let actions : List Action :=
      [.act (.create ⟨"x", "Object", none, none, false⟩), .act (.recordObject 3 (some ⟨0⟩) 1),
        .act (.release "x"), .purge, .act (.create ⟨"y", "Object", none, none, false⟩),
        .intern (some ⟨1⟩), .act (.save false 0), .intern none,
        .act (.recordArrayLoad 5 (some ⟨1⟩) 7 1)]
    let log := (start {} { retention := .id } (.startingAt 1) (.new "trace.json" none) {}).internings
      actions
    owned {} actions = true ∧
    log.map (fun x => (x.1, x.2.id)) =
      [(some ⟨0⟩, 1), (some ⟨1⟩, 2), (none, 0), (some ⟨1⟩, 2)] ∧
    ∀ r r' id id', (some r, id) ∈ log → (some r', id') ∈ log → (id.id = id'.id ↔ r = r') := by
  intro actions log
  have howned : owned {} actions = true := by decide +kernel
  have hfew : (Interner.distinct log).length < UInt64.size := by decide +kernel
  refine ⟨howned, by decide +kernel, ?_⟩
  exact (identities_of_run {} rfl (.startingAt 1) (.new "trace.json" none) {} howned rfl hfew).2.2

end Shared

end FlightRecorder.Recorder
