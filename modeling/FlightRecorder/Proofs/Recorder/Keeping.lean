import FlightRecorder.Proofs.Recorder.Strokes
import FlightRecorder.Proofs.Registry.Keeping

/-!
# What recorders keep of their buffers

A property of buffers that lasts (`FlightRecorder.Lasting`) is kept by every call, by
every save and by closing, whatever becomes of the artifact; only what a call puts
into slots matters. This is told here for recorders in any state, also for those
whose registry someone else uses too, so that a save may find the budget exceeded
when it puts the buffers back.

* `FlightRecorder.Recorder.Stroke.stored` – what a stroke puts into a slot;
* `FlightRecorder.Registry.All.perform`, `FlightRecorder.Registry.All.save`,
  `FlightRecorder.Registry.All.close` – **calls, saves and closing**;
* `FlightRecorder.Recorder.save_cases` – what a save makes of registry and interner.
-/

namespace FlightRecorder

variable {p : Retention} {P : Ref → Prop} {Q : SiteBuffer → Prop}

/-- Slots keep objects alive that are recorded as such, unless they hold them
weakly. -/
theorem eq_of_held_store {v : Value} {ref : Ref} (hheld : (p.store v).held = some ref) :
    v = .object (some ref) ∧ p ≠ .weak := by
  cases v with
  | object o =>
    cases o with
    | none => cases p <;> cases hheld
    | some r =>
      cases p with
      | strong | id =>
        cases hheld
        exact ⟨rfl, nofun⟩
      | weak => cases hheld
  | _ => cases hheld

namespace Recorder

/-! ### Calls -/

/-- **What a stroke puts into a slot**: the objects that it records as such, and none
that is numbered instead. -/
def Stroke.stored (numbers : Bool) : Stroke → List Ref
  | .value _ v _ => refsOf v
  | .object _ o _ => if numbers then [] else o.toList

theorem Stroke.stored_subset (numbers : Bool) (st : Stroke) : st.stored numbers ⊆ st.refs := by
  cases st with
  | value => exact List.Subset.refl _
  | object =>
    rw [Stroke.stored]
    split_ifs
    · exact List.nil_subset _
    · exact List.Subset.refl _

variable {h : Heap} {r : Recorder}

@[simp] theorem interner_recordValue (r : Recorder) (site : Nat) (value : Value)
    (thread : UInt32) : (r.recordValue site value thread).interner = r.interner := by
  rw [recordValue]
  split_ifs <;> rfl

/-- Recording an object asks for its identity, if objects are numbered. -/
theorem interner_recordObject (h : Heap) (r : Recorder) (site : Nat) (o : Option Ref)
    (thread : UInt32) : (recordObject h r site o thread).interner =
      r.interner.map fun i => (i.intern h r.held o).1 := by
  rw [recordObject]
  cases hi : r.interner with
  | none =>
    rw [interner_recordValue, hi]
    rfl
  | some i =>
    rw [interner_recordValue]
    rfl

/-- No stroke begins to number objects, or ends it. -/
theorem isSome_interner_stroke (h : Heap) (r : Recorder) (st : Stroke) :
    (r.stroke h st).interner.isSome = r.interner.isSome := by
  cases st with
  | value => exact congrArg Option.isSome (interner_recordValue r _ _ _)
  | object site o thread =>
    rw [stroke, interner_recordObject]
    exact Option.isSome_map

end Recorder

namespace Registry

open Recorder

variable {h : Heap} {r : Recorder}

theorem All.recordValue (hr : r.registry.All p Q) (hQ : Lasting p P Q) (site : Nat) (value : Value)
    (hP : p ≠ .weak → ∀ ref ∈ refsOf value, P ref) (thread : UInt32) :
    (r.recordValue site value thread).registry.All p Q := by
  rw [Recorder.recordValue]
  split_ifs
  · exact hr
  · refine hr.record hQ site (fun ref hheld => ?_) thread
    obtain ⟨rfl, hp⟩ := eq_of_held_store hheld
    exact hP hp ref (List.mem_singleton_self ref)

theorem All.stroke (hr : r.registry.All p Q) (hQ : Lasting p P Q) (h : Heap) {st : Stroke}
    (hP : p ≠ .weak → ∀ ref ∈ st.stored r.interner.isSome, P ref) :
    (r.stroke h st).registry.All p Q := by
  cases st with
  | value site v thread => exact hr.recordValue hQ site v hP thread
  | object site o thread =>
    rw [Recorder.stroke, recordObject]
    cases hi : r.interner with
    | none =>
      rw [hi] at hP
      exact hr.recordValue hQ site (.object o) hP thread
    | some i =>
      -- what is recorded is a number
      exact All.recordValue (r := { r with interner := some (i.intern h r.held o).1 }) hr hQ site
        (.objectId _) (fun _ ref href => absurd href List.not_mem_nil) thread

/-- **What strokes keep**, one after the other. -/
theorem All.strokes (hr : r.registry.All p Q) (hQ : Lasting p P Q) (h : Heap)
    {strokes : List Stroke}
    (hP : p ≠ .weak → ∀ st ∈ strokes, ∀ ref ∈ st.stored r.interner.isSome, P ref) :
    (strokes.foldl (Recorder.stroke h) r).registry.All p Q := by
  induction strokes generalizing r with
  | nil => exact hr
  | cons st rest ih =>
    refine ih (hr.stroke hQ h fun hp => hP hp st List.mem_cons_self) fun hp st' hst' => ?_
    rw [isSome_interner_stroke]
    exact hP hp st' (List.mem_cons_of_mem st hst')

theorem All.perform (hr : r.registry.All p Q) (hQ : Lasting p P Q) (h : Heap) {call : Call}
    (hP : p ≠ .weak → ∀ st ∈ call.strokes h, ∀ ref ∈ st.stored r.interner.isSome, P ref) :
    (r.perform h call).registry.All p Q := by
  rw [perform_eq]
  exact hr.strokes hQ h hP

end Registry

namespace Recorder

/-! ### Saves, in whatever state -/

/-- **What a save makes of the registry and the interner**, whatever the registry was
used for besides. -/
theorem save_cases (h : Heap) (r : Recorder) (files : FileTree) (reset : Bool) (elapsed : Nat) :
    (r.save h files reset elapsed).1 = r ∨
    ((r.save h files reset elapsed).1.interner = r.interner.map (Interner.sweep · (r.census h)) ∧
      ∃ d, (r.save h files reset elapsed).1.registry = { r.registry with diagnostics := d } ∨
        (r.save h files reset elapsed).1.registry = { r.registry.detach.2 with diagnostics := d } ∨
        (r.save h files reset elapsed).1.registry =
          Registry.restore (r.census h) { r.registry.detach.2 with diagnostics := d }
            r.registry.detach.1) := by
  cases hclosed : r.registry.closed with
  | true =>
    rw [save, if_pos hclosed]
    exact Or.inl rfl
  | false =>
    refine Or.inr ?_
    cases reset with
    | false =>
      have hout := outcome_save_keeping h r files elapsed (some 0) hclosed
      generalize r.save h files false elapsed = x at hout ⊢
      cases hout with
      | turnedAway hturned =>
        rw [hclosed] at hturned
        cases hturned
      | saved | failed => exact ⟨rfl, _, Or.inl rfl⟩
    | true =>
      rcases save_resetting h r files elapsed (some 0) hclosed with
        ⟨_, _, _, -, hsave⟩ | ⟨_, _, _, -, hsave⟩
      · rw [hsave]
        exact ⟨rfl, _, Or.inr (Or.inl rfl)⟩
      · rw [hsave]
        exact ⟨rfl, _, Or.inr (Or.inr rfl)⟩

end Recorder

namespace Recorder.Session

variable {s : Session} {a : Action}

/-- **An action that makes no call** leaves the interner alone, or forgets the
dead. -/
theorem interner_of_no_call (hcall : a.call? = none) :
    (s.step a).1.recorder.interner = s.recorder.interner ∨
      (s.step a).1.recorder.interner = s.recorder.interner.map (Interner.sweep · s.census) := by
  by_cases hwrites : a.writesTrace = false
  · exact Or.inl (step_of_no_call hcall hwrites).2
  · cases a with
    | save reset elapsed =>
      rw [step_save, nextPacked_default]
      rcases save_cases s.heap s.recorder s.files reset elapsed with hsame | ⟨hswept, -⟩
      · exact Or.inl (congrArg Recorder.interner hsame)
      · exact Or.inr hswept
    | close elapsed =>
      have hout := outcome_close s.heap s.recorder s.files elapsed
      rw [step_close, nextPacked_default]
      generalize s.recorder.close s.heap s.files elapsed = x at hout ⊢
      cases hout with
      | again => exact Or.inl rfl
      | written | failed => exact Or.inr rfl
    | _ => exact absurd rfl hwrites

/-- Whether objects are numbered does not change. -/
theorem isSome_interner_step (s : Session) (a : Action) :
    (s.step a).1.recorder.interner.isSome = s.recorder.interner.isSome := by
  cases hcall : a.call? with
  | some call =>
    rw [step_of_call hcall]
    exact isSome_interner_of_rules (rules_perform s.heap s.recorder call)
  | none =>
    rcases interner_of_no_call (s := s) hcall with hsame | hswept
    · rw [hsame]
    · rw [hswept, Option.isSome_map]

end Recorder.Session

namespace Registry

open Recorder

variable {h : Heap} {r : Recorder} {files : FileTree}

/-- **A save keeps what lasts**, also if it has to put the buffers back. -/
theorem All.save (hr : r.registry.All p Q) (hQ : Lasting p P Q) (h : Heap) (files : FileTree)
    (reset : Bool) (elapsed : Nat) : (r.save h files reset elapsed).1.registry.All p Q := by
  rcases save_cases h r files reset elapsed with hsame | ⟨-, d, hkept | hemptied | hrestored⟩
  · rw [hsame]
    exact hr
  · rw [hkept]
    exact hr.reported d
  · rw [hemptied]
    exact hr.detach.reported d
  · rw [hrestored]
    exact (hr.detach.reported d).restore hQ hr.arena (r.census h)

theorem All.closeOutcome (hr : r.registry.All p Q) {elapsed : Nat}
    {x : Recorder × FileTree × Except Failure String}
    (hx : CloseOutcome h r files elapsed (some 0) x) :
    x.1.registry.All p Q := by
  cases hx with
  | again => exact hr
  | written => exact hr.close.reported _
  | failed => exact hr.close.reported _

/-- **An action keeps what lasts**, if what it stores is such. -/
theorem All.step {s : Recorder.Session} (hs : s.recorder.registry.All p Q) (hQ : Lasting p P Q)
    (a : Recorder.Session.Action)
    (hP : p ≠ .weak → ∀ call ∈ a.call?, ∀ st ∈ call.strokes s.heap,
      ∀ ref ∈ st.stored s.recorder.interner.isSome, P ref) :
    (s.step a).1.recorder.registry.All p Q := by
  cases hcall : a.call? with
  | some call =>
    rw [Recorder.Session.step_of_call hcall]
    exact hs.perform hQ s.heap fun hp => hP hp call hcall
  | none =>
    by_cases hwrites : a.writesTrace = false
    · rw [(Recorder.Session.step_of_no_call hcall hwrites).1]
      exact hs
    · cases a with
      | save reset elapsed =>
        rw [Recorder.Session.step_save, Recorder.Session.nextPacked_default]
        exact hs.save hQ s.heap s.files reset elapsed
      | close elapsed =>
        rw [Recorder.Session.step_close, Recorder.Session.nextPacked_default]
        exact hs.closeOutcome (outcome_close s.heap s.recorder s.files elapsed)
      | _ => exact absurd rfl hwrites

end Registry

end FlightRecorder
