import FlightRecorder.Proofs.Recorder.Accounts
import FlightRecorder.Proofs.Recorder.Forgetting

/-!
# Saves that keep the buffers do not show

A save without a reset renders the buffers as they are, and purges the interner. It
may be left out of a run, or put into it, any number of times: what is recorded
afterwards, under which identities, and what later saves write is the same. The
two runs have to agree, though, on which of the saves that take the buffers out can
write their artifacts.

What the two runs may differ in is more than the accounts of the saves. The interner
was purged at other times, so it may know other objects that are dead, and it will
sweep by itself at other times than before. But it knows the same of the living, and
since nobody comes back to life, that is all that ever matters.

* `FlightRecorder.Recorder.Shared.Agree` – **what two runs have in common**, which is
  kept by the same action in both of them
  (`FlightRecorder.Recorder.Shared.Agree.step`), and by a save that keeps the buffers
  in one of them (`FlightRecorder.Recorder.Shared.Agree.snapshot`);
* `FlightRecorder.Recorder.Shared.alike` – whether the saves of the two runs that take
  the buffers out have the same outcomes;
* `FlightRecorder.Recorder.Shared.snapshots_of_run` – **the two runs**.
-/

namespace FlightRecorder

namespace Recorder

/-- The action that makes a stroke. -/
def Stroke.action : Stroke → Session.Action
  | .value site v thread => .recordValue site v thread
  | .object site o thread => .recordObject site o thread

/-- Whether the answer is a path to which a trace was written, now or before. -/
def Session.Answer.isPath : Session.Answer → Bool
  | .path _ => true
  | _ => false

theorem Session.Answer.isPath_of (x : Except Failure String) :
    (Session.Answer.of x).isPath = x.toBool := by
  cases x <;> rfl

namespace Shared

variable {p : Retention} {s t : Shared} {a : Action}

/-! ### What two runs have in common -/

/-- **What two runs have in common**: the objects, the arenas outside, the settings, the
catalogue, the number of recorded events, the registry but for its reports, and what
the interner knows of the living. -/
structure Agree (s t : Shared) : Prop where
  heap : s.heap = t.heap
  parked : s.parked = t.parked
  bare : s.recorder.bare = t.recorder.bare
  swept : s.swept = t.swept

theorem Agree.refl (s : Shared) : s.Agree s :=
  ⟨rfl, rfl, rfl, rfl⟩

/-- Who is alive does not depend on the accounts. -/
theorem census_congr (hheap : s.heap = t.heap) (hparked : s.parked = t.parked)
    (hbare : s.recorder.bare = t.recorder.bare) : s.census = t.census := by
  have harena : s.recorder.registry.arena = t.recorder.registry.arena :=
    (congrArg (fun r : Recorder => r.registry.arena) hbare :)
  rw [census, census, Shared.held, Shared.held, arenas, arenas, hheap, hparked, harena]

section Agree

variable (hst : s.Agree t)

include hst

theorem Agree.observed : s.observed = t.observed := by
  rw [Shared.observed, Shared.observed, parkedHeld, parkedHeld, hst.heap, hst.parked]

theorem Agree.held : s.recorder.held = t.recorder.held :=
  (congrArg Recorder.held hst.bare :)

theorem Agree.census : s.census = t.census :=
  census_congr hst.heap hst.parked hst.bare

theorem Agree.presentText :
    s.recorder.presentText s.observed = t.recorder.presentText t.observed := by
  rw [← presentText_bare, hst.bare, hst.observed, presentText_bare]

/-- **The identity of an object is the same**, of whichever object the program has. -/
theorem Agree.identify (hs : s.heap.WellFormed) {o : Option Ref}
    (ho : ∀ r ∈ o, s.heap.Alive [] r) :
    s.recorder.identify s.observed o = t.recorder.identify t.observed o := by
  rw [identify_eq hs ho, identify_eq (hst.heap ▸ hs) (hst.heap ▸ ho), hst.swept, hst.observed,
    hst.held]

end Agree

section Step

variable (hst : s.Agree t) (hs : s.Regular p) (ht : t.Regular p)
  (howns : s.heap.owns a.given = true)

include hst hs ht howns

/-- An action that asks for no identity. -/
theorem Agree.of_kept (hparked : (s.step a).parked = (t.step a).parked)
    (hbare : (s.step a).recorder.bare = (t.step a).recorder.bare)
    (hkept : ∀ u : Shared, (u.step a).recorder.interner = u.recorder.interner ∨
      (u.step a).recorder.interner = u.recorder.interner.map (Interner.sweep · u.census)) :
    (s.step a).Agree (t.step a) := by
  have hheap : (s.step a).heap = (t.step a).heap := by rw [heap_step, heap_step, hst.heap]
  refine ⟨hheap, hparked, hbare, ?_⟩
  rw [hs.swept_kept howns (hkept s), ht.swept_kept (hst.heap ▸ howns) (hkept t), hst.swept,
    census_congr hheap hparked hbare]

/-- An action that asks for one. -/
theorem Agree.of_interned (hparked : (s.step a).parked = (t.step a).parked)
    (hbare : (s.step a).recorder.bare = (t.step a).recorder.bare)
    {o : Option Ref} (ho : ∀ r ∈ o, s.heap.Alive [] r)
    (hinterned : ∀ u : Shared, (u.step a).recorder.interner =
      u.recorder.interner.map fun i => (i.intern u.observed u.recorder.held o).1) :
    (s.step a).Agree (t.step a) := by
  have hheap : (s.step a).heap = (t.step a).heap := by rw [heap_step, heap_step, hst.heap]
  refine ⟨hheap, hparked, hbare, ?_⟩
  rw [hs.swept_interned howns ho (hinterned s),
    ht.swept_interned (hst.heap ▸ howns) (hst.heap ▸ ho) (hinterned t), hst.swept, hst.observed,
    hst.held, census_congr hheap hparked hbare]

end Step

/-! ### Calls -/

theorem step_stroke (s : Shared) (st : Stroke) :
    s.step (.act st.action) = { s with recorder := s.recorder.stroke s.observed st } := by
  cases st <;> rfl

/-- **A call is a run of strokes.** -/
theorem run_strokes (s : Shared) (strokes : List Stroke) :
    s.run (strokes.map fun st => .act st.action) =
      { s with recorder := strokes.foldl (Recorder.stroke s.observed) s.recorder } := by
  induction strokes generalizing s with
  | nil => rfl
  | cons st rest ih =>
    rw [List.map_cons, run, List.foldl_cons, step_stroke]
    exact ih _

theorem step_of_call {b : Session.Action} {call : Call} (hcall : b.call? = some call) :
    s.step (.act b) = s.run ((call.strokes s.observed).map fun st => .act st.action) := by
  rw [run_strokes, ← perform_eq]
  simp only [Shared.step, Session.step_of_call hcall, Session.onHeap_of_call hcall]

theorem given_stroke (st : Stroke) : Action.given (.act st.action) = st.refs := by
  cases st <;> rfl

theorem Regular.owns_stroke (hs : s.Regular p) {st : Stroke}
    (hrefs : ∀ r ∈ st.refs, s.heap.Alive [] r) :
    s.heap.owns (Action.given (.act st.action)) = true := by
  rw [given_stroke]
  exact Heap.owns_of_alive hs.wellFormed hrefs

/-- What a call is about, the program has. -/
theorem Regular.alive_of_strokes {b : Session.Action} {call : Call} (hs : s.Regular p)
    (hcall : b.call? = some call) (howns : s.heap.owns (Action.given (.act b)) = true) :
    ∀ st ∈ call.strokes s.observed, ∀ r ∈ st.refs, s.heap.Alive [] r := by
  have hgiven := Heap.alive_of_owns hs.wellFormed howns
  rw [Action.given, Session.Action.given, hcall] at hgiven
  exact forall_strokes (h := s.observed) (fun _ _ => .element) hgiven

section Strokes

variable (hst : s.Agree t) (hs : s.Regular p) (ht : t.Regular p)

include hst hs

/-- What a stroke records, and the identity that it asks for, are the same in both
runs. -/
theorem Agree.recorded {st : Stroke} (hrefs : ∀ r ∈ st.refs, s.heap.Alive [] r) :
    st.recorded s.observed s.recorder = st.recorded t.observed t.recorder ∧
      st.interning s.observed s.recorder = st.interning t.observed t.recorder := by
  cases st with
  | value => exact ⟨rfl, rfl⟩
  | object site o thread =>
    have hid := hst.identify hs.wellFormed fun r hr => hrefs r (Option.mem_toList.mpr hr)
    rw [Stroke.recorded, Stroke.recorded, Stroke.interning, Stroke.interning, hid]
    exact ⟨rfl, rfl⟩

include ht

/-- **The same stroke in both runs.** -/
theorem Agree.stroke {st : Stroke} (hrefs : ∀ r ∈ st.refs, s.heap.Alive [] r) :
    (s.step (.act st.action)).Agree (t.step (.act st.action)) := by
  have howns := hs.owns_stroke hrefs
  have hbare : (s.step (.act st.action)).recorder.bare =
      (t.step (.act st.action)).recorder.bare := by
    rw [step_stroke, step_stroke]
    dsimp only
    rw [bare_stroke, bare_stroke, hst.bare, (hst.recorded hs hrefs).1]
  cases st with
  | value site v thread =>
    exact hst.of_kept hs ht howns hst.parked hbare fun u =>
      Or.inl (interner_recordValue u.recorder site v thread)
  | object site o thread =>
    exact hst.of_interned hs ht howns hst.parked hbare
      (fun r hr => hrefs r (Option.mem_toList.mpr hr)) fun u =>
        interner_recordObject u.observed u.recorder site o thread

/-- **The same strokes in both runs**, and the identities that they ask for. -/
theorem Agree.strokes {strokes : List Stroke}
    (hrefs : ∀ st ∈ strokes, ∀ r ∈ st.refs, s.heap.Alive [] r) :
    (s.run (strokes.map fun st => .act st.action)).Agree
        (t.run (strokes.map fun st => .act st.action)) ∧
      s.recorder.internings s.observed strokes = t.recorder.internings t.observed strokes := by
  induction strokes generalizing s t with
  | nil => exact ⟨hst, rfl⟩
  | cons st rest ih =>
    obtain ⟨hfirst, hrest⟩ := List.forall_mem_cons.mp hrefs
    have howns := hs.owns_stroke hfirst
    obtain ⟨hagree, hids⟩ := ih (hst.stroke hs ht hfirst) (hs.step howns)
      (ht.step (hst.heap ▸ howns)) (by rw [step_stroke]; exact hrest)
    refine ⟨hagree, ?_⟩
    rw [step_stroke, step_stroke] at hids
    rw [Recorder.internings, Recorder.internings, (hst.recorded hs hfirst).2]
    exact congrArg (st.interning t.observed t.recorder ++ ·) hids

/-- **The same call in both runs.** -/
theorem Agree.call {b : Session.Action} {call : Call} (hcall : b.call? = some call)
    (howns : s.heap.owns (Action.given (.act b)) = true) :
    (s.step (.act b)).Agree (t.step (.act b)) := by
  rw [step_of_call hcall, step_of_call hcall, ← hst.observed]
  exact (hst.strokes hs ht (hs.alive_of_strokes hcall howns)).1

/-- **The identities that an action asks for** are the same in both runs. -/
theorem Agree.interning (howns : s.heap.owns a.given = true) : s.interning a = t.interning a := by
  cases a with
  | act b =>
    rw [Shared.interning, Shared.interning]
    cases hcall : b.call? with
    | none => rfl
    | some call =>
      dsimp only
      rw [(hst.strokes hs ht (hs.alive_of_strokes hcall howns)).2, hst.observed]
  | intern o =>
    have hgiven := Heap.alive_of_owns hs.wellFormed howns
    rw [Shared.interning, Shared.interning,
      hst.identify hs.wellFormed fun r hr => hgiven r (Option.mem_toList.mpr hr)]
  | _ => rfl

end Strokes

/-! ### Other actions -/

/-- **What is neither recorded nor saved**: sites that are made known, objects that come
and go, files of others. -/
theorem Agree.aside {b : Session.Action} (hst : s.Agree t) (hs : s.Regular p) (ht : t.Regular p)
    (hcall : b.call? = none) (hwrites : b.writesTrace = false) :
    (s.step (.act b)).Agree (t.step (.act b)) := by
  have howns : s.heap.owns (Action.given (.act b)) = true := by
    rw [Action.given, Session.Action.given, hcall]
    rfl
  refine hst.of_kept hs ht howns hst.parked ?_ (interner_of_no_call hcall)
  cases b with
  | register sites => exact congrArg (Recorder.register · sites) hst.bare
  | create | release | makeDirectory | remove => exact hst.bare
  | writeFile path text =>
    have hsame : ∀ u : Shared, (u.step (.act (.writeFile path text))).recorder = u.recorder := by
      intro u
      rw [Shared.step, Session.step]
      split <;> rfl
    rw [hsame, hsame]
    exact hst.bare
  | save | close => cases hwrites
  | recordValue | recordObject | recordArrayLoad | recordArrayStore | recordNewArray => cases hcall

/-- **What others do** with the registry and the interner. -/
theorem Agree.others (hst : s.Agree t) (hs : s.Regular p) (ht : t.Regular p)
    (howns : s.heap.owns a.given = true) (ha : ∀ b, a ≠ .act b) : (s.step a).Agree (t.step a) := by
  have hregistry : ∀ {f : Registry → Registry},
      (∀ registry, (f registry).silent = (f registry.silent).silent) →
      Recorder.bare { s.recorder with registry := f s.recorder.registry } =
        Recorder.bare { t.recorder with registry := f t.recorder.registry } := by
    intro f hf
    rw [bare_withRegistry _ hf, bare_withRegistry _ hf, hst.bare]
  cases a with
  | act b => exact absurd rfl (ha b)
  | record site value thread =>
    exact hst.of_kept hs ht howns hst.parked
      (hregistry fun registry => registry.silent_record site value thread) fun u => Or.inl rfl
  | getOrCreate site kind =>
    exact hst.of_kept hs ht howns hst.parked
      (hregistry fun registry => (registry.silent_getOrCreate site kind).1) fun u => Or.inl rfl
  | closeRegistry =>
    exact hst.of_kept hs ht howns hst.parked
      (hregistry fun registry => registry.silent_close) fun u => Or.inl rfl
  | detach name =>
    have harena : s.recorder.registry.arena = t.recorder.registry.arena :=
      (congrArg (fun r : Recorder => r.registry.arena) hst.bare :)
    refine hst.of_kept hs ht howns ?_ (hregistry fun registry => registry.silent_detach)
      fun u => Or.inl rfl
    simp only [Shared.step, Registry.detach, harena, hst.parked]
  | restore name =>
    have hkept : ∀ u : Shared, (u.step (.restore name)).recorder.interner = u.recorder.interner := by
      intro u
      rw [Shared.step]
      split <;> rfl
    have hlookup : t.parked.lookup name = s.parked.lookup name := by rw [hst.parked]
    refine hst.of_kept hs ht howns ?_ ?_ fun u => Or.inl (hkept u)
    · rw [Shared.step, Shared.step, hlookup]
      cases s.parked.lookup name with
      | none => exact hst.parked
      | some arena => exact congrArg (List.filter (·.1 != name)) hst.parked
    · rw [Shared.step, Shared.step, hlookup, hst.census]
      cases s.parked.lookup name with
      | none => exact hst.bare
      | some arena => exact hregistry fun registry => registry.silent_restore t.census arena
  | discard name =>
    refine hst.of_kept hs ht howns ?_ hst.bare fun u => Or.inl rfl
    rw [Shared.step, Shared.step, hst.parked]
  | intern o =>
    have hgiven := Heap.alive_of_owns hs.wellFormed howns
    exact hst.of_interned hs ht howns hst.parked hst.bare
      (fun r hr => hgiven r (Option.mem_toList.mpr hr)) fun u => rfl
  | purge => exact hst.of_kept hs ht howns hst.parked hst.bare fun u => Or.inr rfl

/-! ### Saves -/

/-- What an action answers. Only saving and closing answer anything. -/
def answer (s : Shared) : Action → Session.Answer
  | .act b => (Session.step ⟨s.observed, s.files, s.recorder⟩ b).2
  | _ => .none

/-- Whether an action is a save that keeps the buffers. -/
def Action.isSnapshot : Action → Bool
  | .act (.save reset _) => !reset
  | _ => false

/-- Whether an action is a save that takes the buffers out. -/
def Action.resets : Action → Bool
  | .act (.save reset _) => reset
  | _ => false

section Saves

variable {reset : Bool} {elapsed : Nat}

theorem step_save (s : Shared) (reset : Bool) (elapsed : Nat) :
    s.step (.act (.save reset elapsed)) =
      { s with
        files := (s.recorder.save s.observed s.files reset elapsed).2.1
        recorder := (s.recorder.save s.observed s.files reset elapsed).1 } := by
  rw [Shared.step, Session.step_save, Session.nextPacked_default]
  rfl

theorem answer_save (s : Shared) (reset : Bool) (elapsed : Nat) :
    s.answer (.act (.save reset elapsed)) =
      .of (s.recorder.save s.observed s.files reset elapsed).2.2 := by
  rw [Shared.answer, Session.step_save, Session.nextPacked_default]

theorem step_close (s : Shared) (elapsed : Nat) :
    s.step (.act (.close elapsed)) =
      { s with
        files := (s.recorder.close s.observed s.files elapsed).2.1
        recorder := (s.recorder.close s.observed s.files elapsed).1 } := by
  rw [Shared.step, Session.step_close, Session.nextPacked_default]
  rfl

theorem answer_close (s : Shared) (elapsed : Nat) :
    s.answer (.act (.close elapsed)) =
      .of (s.recorder.close s.observed s.files elapsed).2.2 := by
  rw [Shared.answer, Session.step_close, Session.nextPacked_default]

theorem bare_snapshot (s : Shared) (elapsed : Nat) :
    (s.step (.act (.save false elapsed))).recorder.bare = s.recorder.bare := by
  rw [step_save]
  exact bare_save_keeping s.observed s.recorder s.files elapsed

/-- **A save that keeps the buffers**, in one of the runs. -/
theorem Agree.snapshot (hst : s.Agree t) (hs : s.Regular p) (ha : a.isSnapshot = true) :
    (s.step a).Agree t := by
  obtain ⟨elapsed, rfl⟩ : ∃ elapsed, a = .act (.save false elapsed) := by
    cases a with
    | act b =>
      cases b with
      | save reset elapsed =>
        cases reset with
        | false => exact ⟨elapsed, rfl⟩
        | true => cases ha
      | _ => cases ha
    | _ => cases ha
  have hbare := bare_snapshot s elapsed
  have hheap : (s.step (.act (.save false elapsed))).heap = s.heap := by rw [step_save]
  have hparked : (s.step (.act (.save false elapsed))).parked = s.parked := by rw [step_save]
  refine ⟨hheap.trans hst.heap, hparked.trans hst.parked, hbare.trans hst.bare, ?_⟩
  rw [hs.swept_kept rfl (interner_of_no_call rfl s), census_congr hheap hparked hbare, ← hst.swept,
    Shared.swept, Option.map_map]
  exact Option.map_congr fun i _ => Interner.sweep_sweep fun _ _ halive => halive

variable (hst : s.Agree t) (hs : s.Regular p) (ht : t.Regular p)

include hst hs ht

/-- **A save in both of the runs**, with the same outcome if it takes the buffers
out. -/
theorem Agree.saving (halike : reset = true →
      (s.recorder.save s.observed s.files reset elapsed).2.2.toBool =
        (t.recorder.save t.observed t.files reset elapsed).2.2.toBool) :
    (s.step (.act (.save reset elapsed))).Agree (t.step (.act (.save reset elapsed))) := by
  have hparked : (s.step (.act (.save reset elapsed))).parked =
      (t.step (.act (.save reset elapsed))).parked := by
    rw [step_save, step_save]
    exact hst.parked
  refine hst.of_kept hs ht rfl hparked ?_ (interner_of_no_call rfl)
  cases reset with
  | false => rw [bare_snapshot, bare_snapshot, hst.bare]
  | true =>
    rw [step_save, step_save]
    dsimp only
    rw [bare_save_resetting, bare_save_resetting, halike rfl, hst.bare, hst.observed]

/-- **Closing**, in both of the runs. -/
theorem Agree.closing :
    (s.step (.act (.close elapsed))).Agree (t.step (.act (.close elapsed))) := by
  have hparked : (s.step (.act (.close elapsed))).parked =
      (t.step (.act (.close elapsed))).parked := by
    rw [step_close, step_close]
    exact hst.parked
  refine hst.of_kept hs ht rfl hparked ?_ (interner_of_no_call rfl)
  rw [step_close, step_close]
  dsimp only
  rw [bare_close, bare_close, hst.bare]

end Saves

/-- **The same action in both runs.** -/
theorem Agree.step (hst : s.Agree t) (hs : s.Regular p) (ht : t.Regular p)
    (howns : s.heap.owns a.given = true)
    (halike : a.resets = true → (s.answer a).isPath = (t.answer a).isPath) :
    (s.step a).Agree (t.step a) := by
  by_cases hact : ∃ b, a = .act b
  · obtain ⟨b, rfl⟩ := hact
    cases hcall : b.call? with
    | some call => exact hst.call hs ht hcall howns
    | none =>
      cases b with
      | save reset elapsed =>
        refine hst.saving hs ht fun hreset => ?_
        have hpath := halike hreset
        rw [answer_save, answer_save, Session.Answer.isPath_of, Session.Answer.isPath_of] at hpath
        exact hpath
      | close elapsed => exact hst.closing hs ht
      | _ => exact hst.aside hs ht hcall rfl
  · exact hst.others hs ht howns fun b hb => hact ⟨b, hb⟩

/-! ### The two runs -/

/-- **Whether the saves of two runs that take the buffers out have the same outcomes.**
The runs are those of a list in which some actions are marked: they happen in the
first run only. -/
def alike : Shared → Shared → List (Action × Bool) → Bool
  | _, _, [] => true
  | s, t, (a, true) :: rest => alike (s.step a) t rest
  | s, t, (a, false) :: rest =>
    (!a.resets || (s.answer a).isPath == (t.answer a).isPath) && alike (s.step a) (t.step a) rest

/-- **Both runs keep in common** what they have in common. -/
theorem Agree.run (hst : s.Agree t) (hs : s.Regular p) (ht : t.Regular p)
    {marked : List (Action × Bool)} (hleft : ∀ x ∈ marked, x.2 = true → x.1.isSnapshot = true)
    (howned : owned s.heap (marked.map (·.1)) = true) (halike : s.alike t marked = true) :
    (s.run (marked.map (·.1))).Agree (t.run ((marked.filter (!·.2)).map (·.1))) ∧
      (s.run (marked.map (·.1))).Regular p ∧
      (t.run ((marked.filter (!·.2)).map (·.1))).Regular p := by
  induction marked generalizing s t with
  | nil => exact ⟨hst, hs, ht⟩
  | cons x rest ih =>
    obtain ⟨a, out⟩ := x
    obtain ⟨hfirst, hrest⟩ := List.forall_mem_cons.mp hleft
    rw [List.map_cons, owned, Bool.and_eq_true, ← heap_step] at howned
    obtain ⟨howns, howned⟩ := howned
    cases out with
    | true =>
      rw [alike] at halike
      rw [List.filter_cons_of_neg (by simp)]
      exact ih (hst.snapshot hs (hfirst rfl)) (hs.step howns) ht hrest howned halike
    | false =>
      rw [alike, Bool.and_eq_true, Bool.or_eq_true, Bool.not_eq_true', beq_iff_eq] at halike
      obtain ⟨hsame, halike⟩ := halike
      rw [List.filter_cons_of_pos (by simp)]
      refine ih (hst.step hs ht howns fun hresets => ?_) (hs.step howns)
        (ht.step (hst.heap ▸ howns)) hrest howned halike
      exact hsame.resolve_left (by rw [hresets]; exact Bool.noConfusion)

/-- The trace that an action writes. -/
theorem read?_of_answer (hopen : s.recorder.registry.closed = false) {path : String}
    (hpath : s.answer a = .path path) :
    (s.step a).recorder.archive.read? (s.step a).files path =
      .ok (s.recorder.presentText s.observed) := by
  have hok : ∀ {x : Except Failure String}, Session.Answer.of x = .path path → x = .ok path := by
    intro x hx
    cases x with
    | ok => exact congrArg Except.ok (Session.Answer.path.inj hx)
    | error => cases hx
  cases a with
  | act b =>
    cases b with
    | save reset elapsed =>
      rw [answer_save] at hpath
      rw [step_save]
      exact read?_of_save (hok hpath)
    | close elapsed =>
      rw [answer_close] at hpath
      rw [step_close]
      exact read?_of_close hopen (hok hpath)
    | writeFile path text =>
      rw [answer, Session.step] at hpath
      split at hpath <;> cases hpath
    | _ => cases hpath
  | _ => cases hpath

/-- **Saves that keep the buffers do not show.** In a run of a program, its recorder and
whoever shares the registry and the interner, some of the saves that keep the buffers
are left out, be they successful or not, and those that take the buffers out have the
same outcomes in the two runs. Then, under every policy and after any such run, so at
every point of it,

* the two have the same objects, buffers and settings, the same numbers of retained and
  recorded events, ceiling and account of the budget, and their interners know the
  same of the living;
* whatever is asked for next, the identities are the same;
* the next artifact has the same text, if both write it, though perhaps not the same
  number. -/
theorem snapshots_of_run (settings : Settings) (limits : RegistryLimits) (clock : Clock)
    (archive : Archive) (files : FileTree) {marked : List (Action × Bool)}
    (hleft : ∀ x ∈ marked, x.2 = true → x.1.isSnapshot = true)
    (howned : owned {} (marked.map (·.1)) = true)
    (halike : (start settings limits clock archive files).alike
      (start settings limits clock archive files) marked = true) :
    let s := (start settings limits clock archive files).run (marked.map (·.1))
    let t := (start settings limits clock archive files).run
      ((marked.filter (!·.2)).map (·.1))
    s.Agree t ∧
    (∀ a, s.heap.owns a.given = true → s.interning a = t.interning a) ∧
    ∀ a path path', s.recorder.registry.closed = false →
      s.answer a = .path path → t.answer a = .path path' →
      ∃ text, (s.step a).recorder.archive.read? (s.step a).files path = .ok text ∧
        (t.step a).recorder.archive.read? (t.step a).files path' = .ok text := by
  intro s t
  have hstart := regular_start settings limits clock archive files
  obtain ⟨hst, hs, ht⟩ : s.Agree t ∧ s.Regular limits.retention ∧ t.Regular limits.retention :=
    (Agree.refl _).run hstart hstart hleft howned halike
  refine ⟨hst, fun a howns => hst.interning hs ht howns, ?_⟩
  intro a path path' hopen hpath hpath'
  have hopen' : t.recorder.registry.closed = false := by
    rw [← hopen]
    exact (congrArg (fun r : Recorder => r.registry.closed) hst.bare.symm :)
  refine ⟨_, read?_of_answer hopen hpath, ?_⟩
  rw [hst.presentText]
  exact read?_of_answer hopen' hpath'

/-- A save that is left out had made the interner forget an object. -/
theorem snapshots_of_run_purged :
    let marked : List (Action × Bool) :=
      [(.act (.create ⟨"x", "Object", none, none, false⟩), false),
        (.act (.recordObject 3 (some ⟨0⟩) 1), false), (.act (.save true 0), false),
        (.act (.release "x"), false), (.act (.save false 0), true),
        (.act (.create ⟨"y", "Object", none, none, false⟩), false),
        (.act (.recordObject 3 (some ⟨1⟩) 1), false)]
    let begin := start { retention := .id } { retention := .id } (.startingAt 1)
      (.new "trace.json" none) {}
    let s := begin.run (marked.map (·.1))
    let t := begin.run ((marked.filter (!·.2)).map (·.1))
    begin.alike begin marked = true ∧
    s.recorder.interner.map Interner.size = some 1 ∧
    t.recorder.interner.map Interner.size = some 2 ∧
    s.answer (.act (.save true 0)) = .path "trace00003.json" ∧
    t.answer (.act (.save true 0)) = .path "trace00002.json" ∧
    ∃ text,
      (s.step (.act (.save true 0))).recorder.archive.read? (s.step (.act (.save true 0))).files
        "trace00003.json" = .ok text ∧
      (t.step (.act (.save true 0))).recorder.archive.read? (t.step (.act (.save true 0))).files
        "trace00002.json" = .ok text := by
  intro marked begin s t
  have hleft : ∀ x ∈ marked, x.2 = true → x.1.isSnapshot = true := by decide +kernel
  have howned : owned {} (marked.map (·.1)) = true := by decide +kernel
  have halike : begin.alike begin marked = true := by decide +kernel
  have hopen : s.recorder.registry.closed = false := by decide +kernel
  have hpath : s.answer (.act (.save true 0)) = .path "trace00003.json" := by decide +kernel
  have hpath' : t.answer (.act (.save true 0)) = .path "trace00002.json" := by decide +kernel
  have hforgotten : s.recorder.interner.map Interner.size = some 1 := by decide +kernel
  have hremembered : t.recorder.interner.map Interner.size = some 2 := by decide +kernel
  obtain ⟨-, -, htexts⟩ := snapshots_of_run { retention := .id } { retention := .id } (.startingAt 1)
    (.new "trace.json" none) {} hleft howned halike
  subst s t begin
  exact ⟨halike, hforgotten, hremembered, hpath, hpath', htexts _ _ _ hopen hpath hpath'⟩

end Shared

end Recorder

end FlightRecorder
