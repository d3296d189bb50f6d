import FlightRecorder.Proofs.Recorder.Identities
import FlightRecorder.Proofs.Recorder.Liveness

/-!
# What is forgotten for good

Whoever is dead stays dead. The program hands over only what it has; what gets into
slots was handed over, or can be reached from there; and what is in slots was kept
alive by them all along. So it does not matter when the interner forgets the dead, or
how often: once they are struck out, it is the same interner.

* `FlightRecorder.Recorder.Shared.Regular` – the invariant;
* `FlightRecorder.Recorder.Shared.Regular.isAlive_of_step` – **nobody comes back to
  life**;
* `FlightRecorder.Recorder.Shared.swept` – the interner without the dead, and what
  becomes of it (`FlightRecorder.Recorder.Shared.Regular.swept_kept`,
  `FlightRecorder.Recorder.Shared.Regular.swept_interned`);
* `FlightRecorder.Recorder.Shared.identify_eq` – identities do not depend on the dead.
-/

namespace FlightRecorder.Recorder.Shared

variable {p : Retention} {s : Shared} {a : Action}

/-! ### Nobody comes back to life -/

/-- **The invariant**: spare slots are blank, and the interner knows those to whom it
handed out numbers. -/
structure Regular (p : Retention) (s : Shared) : Prop where
  all : s.All p SiteBuffer.Tidy
  numbered : ∃ log, s.Numbered log

theorem Regular.wellFormed (hs : s.Regular p) : s.heap.WellFormed :=
  hs.numbered.elim fun _ hnumbered => hnumbered.wellFormed

theorem regular_start (settings : Settings) (limits : RegistryLimits) (clock : Clock)
    (archive : Archive) (files : FileTree) :
    (start settings limits clock archive files).Regular limits.retention :=
  ⟨all_start settings limits clock archive files _, _,
    numbered_start settings limits clock archive files⟩

theorem Regular.step (hs : s.Regular p) (howns : s.heap.owns a.given = true) :
    (s.step a).Regular p :=
  ⟨hs.all.step (lasting_tidy p) a fun _ _ _ => trivial,
    hs.numbered.elim fun _ hnumbered => ⟨_, hnumbered.step howns⟩⟩

/-- The interner knows only objects that there are. -/
theorem Regular.allocated (hs : s.Regular p) {i : Interner} (hi : i ∈ s.recorder.interner)
    {entry : Ref × UInt64} (hentry : entry ∈ i.entries) :
    entry.1.index < s.heap.objects.size := by
  obtain ⟨log, hnumbered⟩ := hs.numbered
  obtain ⟨hmem, -⟩ := (hnumbered.explains i hi).entries entry hentry
  obtain ⟨id, hlog⟩ := Interner.mem_distinct_iff.mp hmem
  exact hnumbered.allocated _ hlog entry.1 rfl

/-- What is put into slots is what is handed over, or can be reached from there. -/
theorem Action.alive_of_mem_stored {numbers : Bool} (howns : ∀ r ∈ a.given, s.heap.Alive [] r) :
    ∀ r ∈ a.stored numbers s.observed, s.heap.Alive [] r := by
  intro r hr
  cases a with
  | act a =>
    rw [Action.stored] at hr
    cases hcall : a.call? with
    | none =>
      rw [hcall] at hr
      exact absurd hr List.not_mem_nil
    | some call =>
      rw [hcall] at hr
      rw [Action.given, Session.Action.given, hcall] at howns
      obtain ⟨st, hst, hr⟩ := List.mem_flatMap.mp hr
      exact forall_strokes (h := s.observed) (fun _ _ => .element) howns st hst r
        (st.stored_subset numbers hr)
  | record => exact howns r hr
  | _ => exact absurd hr List.not_mem_nil

/-- **Nobody comes back to life**, whether a handle, an array or a slot kept it alive: what
is put into slots is alive, and what is in slots was there. -/
theorem Regular.isAlive_of_step (hs : s.Regular p) (howns : s.heap.owns a.given = true) {r : Ref}
    (hr : r.index < s.heap.objects.size) (halive : (s.step a).census.isAlive r = true) :
    s.census.isAlive r = true := by
  have hgiven := Heap.alive_of_owns hs.wellFormed howns
  have hholds : (s.step a).All p (SiteBuffer.HoldsOnly (s.heap.Alive s.held)) :=
    (hs.all.holdsOnly fun _ => .held).step (lasting_holdsOnly p _) a fun _ ref href =>
      (Action.alive_of_mem_stored hgiven ref href).mono (List.nil_subset _)
  have hsize : r.index < (s.step a).heap.objects.size := by
    rw [heap_step]
    exact hr.trans_le (size_le_onHeap s.heap a)
  have hafter := (Heap.isAlive_census_iff (wellFormed_step hs.wellFormed a) hsize).mp halive
  rw [heap_step] at hafter
  exact (Heap.isAlive_census_iff hs.wellFormed hr).mpr
    ((alive_of_onHeap a hr hafter).trans hholds.forall_held)

/-! ### The interner without the dead -/

/-- **The interner without the dead.** -/
def swept (s : Shared) : Option Interner :=
  s.recorder.interner.map (Interner.sweep · s.census)

/-- An action that asks for no identity leaves of the interner what the dead of that
time leave. -/
theorem Regular.swept_kept (hs : s.Regular p) (howns : s.heap.owns a.given = true)
    (hkept : (s.step a).recorder.interner = s.recorder.interner ∨
      (s.step a).recorder.interner = s.recorder.interner.map (Interner.sweep · s.census)) :
    (s.step a).swept = s.swept.map (Interner.sweep · (s.step a).census) := by
  have hswept : s.swept.map (Interner.sweep · (s.step a).census) =
      s.recorder.interner.map (Interner.sweep · (s.step a).census) := by
    rw [swept, Option.map_map]
    exact Option.map_congr fun i hi => Interner.sweep_sweep fun entry hentry =>
      hs.isAlive_of_step howns (hs.allocated hi hentry)
  rcases hkept with hsame | hpurged
  · rw [hswept, swept, hsame]
  · rw [swept, hpurged]
    rfl

/-- An action that asks for the identity of an object that the program has. -/
theorem Regular.swept_interned (hs : s.Regular p) (howns : s.heap.owns a.given = true)
    {o : Option Ref} (ho : ∀ r ∈ o, s.heap.Alive [] r)
    (hinterned : (s.step a).recorder.interner =
      s.recorder.interner.map fun i => (i.intern s.observed s.recorder.held o).1) :
    (s.step a).swept = s.swept.map fun i =>
      (i.intern s.observed s.recorder.held o).1.sweep (s.step a).census := by
  rw [swept, swept, hinterned, Option.map_map, Option.map_map]
  refine Option.map_congr fun i hi => (Eq.symm ?_)
  have hcensus : s.observed.census s.recorder.held = s.census := census_observed s
  have hshown : ((i.sweep (s.observed.census s.recorder.held)).intern s.observed s.recorder.held
      o).1.sweep (s.step a).census =
        (i.intern s.observed s.recorder.held o).1.sweep (s.step a).census := by
    refine Interner.sweep_intern_sweep (fun r hr => isAlive_observed hs.wellFormed _ (ho r hr))
      fun entry hentry halive => ?_
    rw [hcensus]
    exact hs.isAlive_of_step howns (hs.allocated hi hentry) halive
  rw [hcensus] at hshown
  exact hshown

/-- The identity of an object that the program has does not depend on the dead. -/
theorem identify_eq (hs : s.heap.WellFormed) {o : Option Ref} (ho : ∀ r ∈ o, s.heap.Alive [] r) :
    s.recorder.identify s.observed o =
      s.swept.map fun i => (i.intern s.observed s.recorder.held o).2 := by
  rw [identify, swept, Option.map_map]
  exact Option.map_congr fun i _ =>
    (Interner.intern_sweep_snd fun r hr => isAlive_census hs (ho r hr)).symm

end FlightRecorder.Recorder.Shared
