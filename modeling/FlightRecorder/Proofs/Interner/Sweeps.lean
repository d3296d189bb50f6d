import FlightRecorder.Proofs.Heap
import FlightRecorder.Proofs.Interner

/-!
# How many entries there are

An interner forgets the dead when it is purged, and of its own accord once enough objects
came up since it last did. Between two sweeps it only grows. This file follows an interner
along a run in which objects are created and let go of, are held by others or in arrays,
and are identified at any time, and keeps account of two numbers beside it: how many
entries the last sweep has left, and how many objects were inserted since. There are as
many entries as both together, which is never more than twice the larger one of the first
number and the floor; and a sweep leaves those objects that were ever identified and are
alive, no more and no fewer.

* `FlightRecorder.Interner.Session` – an interner among objects, and what can happen;
* `FlightRecorder.Interner.Tally` – **the account**, kept from what is inserted and what is
  swept (`FlightRecorder.Interner.Session.tally`), and not from the counters of the
  interner, which agree with it (`FlightRecorder.Interner.Counted`);
* `FlightRecorder.Interner.Session.Tracks` – the invariant of a run, besides: entries are
  those of objects that were identified, and the living among these have one;
* `FlightRecorder.Interner.Session.entries_of_run` – **the entries after any run**.
-/

namespace FlightRecorder.Interner

variable {i : Interner} {h : Heap} {held : List Ref} {c : Heap.Census} {r : Ref}

/-! ### Entries, each object once -/

/-- The objects that have an entry. -/
def known (i : Interner) : List Ref :=
  i.entries.map (·.1)

theorem mem_known_of_lookup {id : UInt64} (hid : i.entries.lookup r = some id) : r ∈ i.known :=
  List.mem_map_of_mem (mem_of_lookup hid)

/-- An object that is not found has no entry. -/
theorem not_mem_known (hnew : i.entries.lookup r = none) : r ∉ i.known := by
  intro hmem
  obtain ⟨entry, hentry, rfl⟩ := List.mem_map.mp hmem
  have hne := List.lookup_eq_none_iff.mp hnew entry hentry
  simp at hne

theorem known_sweep (i : Interner) (c : Heap.Census) :
    (i.sweep c).known = i.known.filter c.isAlive := by
  rw [known, known, List.filter_map]
  rfl

theorem nodup_known_add (hi : i.known.Nodup) (hnew : i.entries.lookup r = none) :
    (i.add r).known.Nodup :=
  List.nodup_cons.mpr ⟨not_mem_known hnew, hi⟩

theorem nodup_known_sweep (hi : i.known.Nodup) (c : Heap.Census) : (i.sweep c).known.Nodup := by
  rw [known_sweep]
  exact hi.filter _

/-- **Identifying an object**: it has an entry, or it gets one and that is all, or it gets
one and the dead are swept out. -/
theorem intern_cases (h : Heap) (held : List Ref) (i : Interner) (r : Ref) :
    ((i.entries.lookup r).isSome = true ∧ (i.intern h held (some r)).1 = i) ∨
    (i.entries.lookup r = none ∧ (i.add r).sweepDue = false ∧
      (i.intern h held (some r)).1 = i.add r) ∨
    (i.entries.lookup r = none ∧ (i.add r).sweepDue = true ∧
      (i.intern h held (some r)).1 = (i.add r).sweep (h.census held)) := by
  rw [intern]
  cases hlookup : i.entries.lookup r with
  | some id => exact .inl ⟨rfl, rfl⟩
  | none =>
    cases hdue : (i.add r).sweepDue with
    | false => exact .inr (.inl ⟨rfl, rfl, by simp only [hdue, Bool.false_eq_true, if_false]⟩)
    | true => exact .inr (.inr ⟨rfl, rfl, by simp only [hdue, if_true]⟩)

/-- No object gets a second entry. -/
theorem nodup_known_intern (hi : i.known.Nodup) (h : Heap) (held : List Ref) (r : Ref) :
    (i.intern h held (some r)).1.known.Nodup := by
  rcases intern_cases h held i r with ⟨-, hsame⟩ | ⟨hnew, -, hgrown⟩ | ⟨hnew, -, hswept⟩
  · rw [hsame]
    exact hi
  · rw [hgrown]
    exact nodup_known_add hi hnew
  · rw [hswept]
    exact nodup_known_sweep (nodup_known_add hi hnew) _

/-! ### The account -/

/-- **An account of the entries.** -/
structure Tally where
  /-- How many entries the last sweep has left. -/
  left : Nat := 0
  /-- How many objects were inserted since. -/
  inserted : Nat := 0

/-- **The counters agree with the account.** -/
structure Counted (i : Interner) (t : Tally) : Prop where
  size : i.size = t.left + t.inserted
  added : i.added = t.inserted
  threshold : i.threshold = max t.left sweepFloor
  /-- No sweep is due. -/
  inserted_le : t.inserted ≤ max t.left sweepFloor

theorem counted_empty : Counted {} {} :=
  ⟨rfl, rfl, rfl, Nat.zero_le _⟩

/-- After a sweep the account begins anew. -/
theorem counted_sweep (i : Interner) (c : Heap.Census) :
    (i.sweep c).Counted ⟨(i.sweep c).size, 0⟩ :=
  ⟨rfl, rfl, rfl, Nat.zero_le _⟩

/-- An object is inserted, and no sweep is due. -/
theorem Counted.add {t : Tally} (hi : i.Counted t) (hdue : (i.add r).sweepDue = false) :
    (i.add r).Counted { t with inserted := t.inserted + 1 } where
  size := by
    have := hi.size
    rw [Interner.size] at this ⊢
    rw [Interner.add, List.length_cons, this, Nat.add_assoc]
  added := congrArg (· + 1) hi.added
  threshold := hi.threshold
  inserted_le := by
    rw [sweepDue, decide_eq_false_iff_not, Nat.not_lt] at hdue
    rw [← hi.threshold, ← hi.added]
    exact hdue

/-- **A sweep is due** with the object that makes more of them than the last sweep has left,
and than the floor. -/
theorem Counted.sweepDue_add {t : Tally} (hi : i.Counted t) (r : Ref) :
    (i.add r).sweepDue = true ↔ max 1024 t.left ≤ t.inserted := by
  have hfloor : sweepFloor = 1024 := rfl
  rw [sweepDue, decide_eq_true_iff, Interner.add, hi.threshold, hi.added, Nat.lt_succ_iff,
    Nat.max_comm, hfloor]

/-- **There are at most twice as many entries** as a sweep has left, or as the floor. -/
theorem Counted.size_le {t : Tally} (hi : i.Counted t) : i.size ≤ 2 * max 1024 t.left := by
  have hle := hi.inserted_le
  have hfloor : sweepFloor = 1024 := rfl
  rw [hi.size]
  omega

/-! ### Runs -/

/-- **An interner among objects**, which the program has handles on and others hold. -/
structure Session where
  heap : Heap := {}
  /-- Strong references besides the handles, each as often as it is held. -/
  held : List Ref := []
  interner : Interner := {}

namespace Session

/-- What can happen. -/
inductive Action where
  | create (spec : ObjectSpec)
  | release (name : String)
  /-- Someone takes a strong reference to an object. -/
  | hold (r : Ref)
  /-- Someone gives a strong reference back. -/
  | letGo (r : Ref)
  | intern (o : Option Ref)
  | purge

/-- Who is alive. -/
def census (s : Session) : Heap.Census :=
  s.heap.census s.held

/-- Let one action happen. An object that is dead can be neither held nor handed over. -/
def step (s : Session) : Action → Session
  | .create spec => { s with heap := s.heap.create spec }
  | .release name => { s with heap := s.heap.release name }
  | .hold r => if s.census.isAlive r then { s with held := r :: s.held } else s
  | .letGo r => { s with held := s.held.erase r }
  | .intern o =>
    if o.all s.census.isAlive then
      { s with interner := (s.interner.intern s.heap s.held o).1 }
    else s
  | .purge => { s with interner := s.interner.sweep s.census }

/-- Let several actions happen, one after the other. -/
def run (s : Session) (actions : List Action) : Session :=
  actions.foldl step s

/-- Whether an action inserts an object: one that is handed over and has no entry. -/
def inserts (s : Session) : Action → Bool
  | .intern (some r) => s.census.isAlive r && (s.interner.entries.lookup r).isNone
  | _ => false

/-- Whether an action sweeps: a purge, or the insertion of an object that makes a sweep
due. -/
def sweeps (s : Session) : Action → Bool
  | .purge => true
  | .intern (some r) => s.inserts (.intern (some r)) && (s.interner.add r).sweepDue
  | _ => false

/-- The account after an action. -/
def account (s : Session) (t : Tally) (a : Action) : Tally :=
  if s.sweeps a then ⟨(s.step a).interner.size, 0⟩
  else if s.inserts a then { t with inserted := t.inserted + 1 }
  else t

/-- **The account of a run.** -/
def tally (s : Session) (t : Tally) : List Action → Tally
  | [] => t
  | a :: rest => (s.step a).tally (s.account t a) rest

/-- What an action identifies, with the identity. -/
def interning (s : Session) : Action → List (Option Ref × ObjectId)
  | .intern o =>
    if o.all s.census.isAlive then [(o, (s.interner.intern s.heap s.held o).2)] else []
  | _ => []

/-- **The log of a run**: what was identified, in order, with the identities. -/
def internings (s : Session) : List Action → List (Option Ref × ObjectId)
  | [] => []
  | a :: rest => s.interning a ++ (s.step a).internings rest

variable {s : Session} {a : Action} {t : Tally} {log : List (Option Ref × ObjectId)}

/-- An object that is dead is not identified. -/
theorem step_intern_of_dead (hdead : s.census.isAlive r = false) :
    s.step (.intern (some r)) = s := by
  simp [step, hdead]

theorem step_intern_of_alive (halive : s.census.isAlive r = true) :
    s.step (.intern (some r)) =
      { s with interner := (s.interner.intern s.heap s.held (some r)).1 } := by
  simp [step, halive]

/-- The account goes on when a living object is identified: it has an entry, or one is
inserted, or that makes a sweep due. -/
theorem counted_step_intern (hs : s.interner.Counted t) (halive : s.census.isAlive r = true) :
    (s.step (.intern (some r))).interner.Counted (s.account t (.intern (some r))) := by
  have hstep := congrArg Session.interner (step_intern_of_alive halive)
  rcases intern_cases s.heap s.held s.interner r with ⟨hknown, hsame⟩ | ⟨hnew, hdue, hadd⟩ |
    ⟨hnew, hdue, hswept⟩
  · have haccount : s.account t (.intern (some r)) = t := by
      simp [account, sweeps, inserts, Option.isNone_eq_false_iff.mpr hknown]
    rw [haccount, hstep, hsame]
    exact hs
  · have haccount : s.account t (.intern (some r)) = { t with inserted := t.inserted + 1 } := by
      simp [account, sweeps, inserts, halive, hnew, hdue]
    rw [haccount, hstep, hadd]
    exact hs.add hdue
  · have haccount : s.account t (.intern (some r)) =
        ⟨(s.step (.intern (some r))).interner.size, 0⟩ := by
      simp [account, sweeps, inserts, halive, hnew, hdue]
    rw [haccount, hstep, hswept]
    exact counted_sweep _ _

/-- **The account goes on with every action.** -/
theorem counted_step (hs : s.interner.Counted t) (a : Action) :
    (s.step a).interner.Counted (s.account t a) := by
  cases a with
  | create | release | letGo => exact hs
  | hold r =>
    rw [step]
    split_ifs <;> exact hs
  | purge => exact counted_sweep _ _
  | intern o =>
    cases o with
    | none => exact hs
    | some r =>
      cases halive : s.census.isAlive r with
      | false =>
        have haccount : s.account t (.intern (some r)) = t := by
          simp [account, sweeps, inserts, halive]
        rw [haccount, step_intern_of_dead halive]
        exact hs
      | true => exact counted_step_intern hs halive

/-- **The account of a run**, by induction on its actions. -/
theorem counted_run (hs : s.interner.Counted t) (actions : List Action) :
    (s.run actions).interner.Counted (s.tally t actions) := by
  induction actions generalizing s t with
  | nil => exact hs
  | cons a rest ih => exact ih (counted_step hs a)

/-! ### Who has an entry -/

/-- **The invariant**: every object that has an entry has one only, and was identified;
those that were identified and are alive have one. -/
structure Tracks (s : Session) (log : List (Option Ref × ObjectId)) : Prop where
  wellFormed : s.heap.WellFormed
  held : ∀ r ∈ s.held, r.index < s.heap.objects.size
  /-- What was identified was allocated. -/
  allocated : ∀ r ∈ distinct log, r.index < s.heap.objects.size
  nodup : s.interner.known.Nodup
  explains : s.interner.Explains (s.heap.Alive s.held) log

theorem tracks_empty : Tracks {} [] where
  wellFormed := Heap.wellFormed_empty
  held _ hr := absurd hr List.not_mem_nil
  allocated _ hr := absurd hr List.not_mem_nil
  nodup := List.nodup_nil
  explains := explains_empty _

/-- The living are counted. -/
theorem Tracks.isAlive_iff (hs : s.Tracks log) :
    s.census.isAlive r = true ↔ s.heap.Alive s.held r :=
  ⟨fun halive => (Heap.isAlive_census_iff hs.wellFormed (Heap.lt_size_of_isAlive halive)).mp halive,
    fun halive =>
      (Heap.isAlive_census_iff hs.wellFormed (halive.lt_size hs.wellFormed hs.held)).mpr halive⟩

/-- Objects are never taken back. -/
theorem size_le_step (s : Session) (a : Action) :
    s.heap.objects.size ≤ (s.step a).heap.objects.size := by
  cases a with
  | create spec => exact (Array.size_push _).ge.trans' (Nat.le_succ _)
  | release | letGo | purge => exact Nat.le_refl _
  | hold r | intern o =>
    rw [step]
    split_ifs <;> exact Nat.le_refl _

/-- **Nobody comes back to life.** -/
theorem Tracks.alive_of_step (hs : s.Tracks log) (a : Action) (hr : r.index < s.heap.objects.size)
    (halive : (s.step a).heap.Alive (s.step a).held r) : s.heap.Alive s.held r := by
  cases a with
  | create spec =>
    rcases Heap.alive_of_create halive with rfl | halive
    · exact absurd hr (Nat.lt_irrefl _)
    · exact halive
  | release name => exact Heap.alive_of_release halive
  | hold x =>
    rw [step] at halive
    split_ifs at halive with hx
    · refine halive.trans fun y hy => ?_
      rcases List.mem_cons.mp hy with rfl | hy
      · exact hs.isAlive_iff.mp hx
      · exact .held hy
    · exact halive
  | letGo x => exact halive.mono List.erase_subset
  | purge => exact halive
  | intern o =>
    rw [step] at halive
    split_ifs at halive <;> exact halive

theorem Tracks.wellFormed_step (hs : s.Tracks log) (a : Action) :
    (s.step a).heap.WellFormed ∧ ∀ r ∈ (s.step a).held, r.index < (s.step a).heap.objects.size := by
  cases a with
  | create spec =>
    exact ⟨hs.wellFormed.create spec,
      fun r hr => (hs.held r hr).trans_le (size_le_step s (.create spec))⟩
  | release name => exact ⟨hs.wellFormed.release name, hs.held⟩
  | hold x =>
    rw [step]
    split_ifs with hx
    · refine ⟨hs.wellFormed, fun y hy => ?_⟩
      rcases List.mem_cons.mp hy with rfl | hy
      · exact Heap.lt_size_of_isAlive hx
      · exact hs.held y hy
    · exact ⟨hs.wellFormed, hs.held⟩
  | letGo x => exact ⟨hs.wellFormed, fun r hr => hs.held r (List.mem_of_mem_erase hr)⟩
  | purge => exact ⟨hs.wellFormed, hs.held⟩
  | intern o =>
    rw [step]
    split_ifs <;> exact ⟨hs.wellFormed, hs.held⟩

/-- Nor does an action give an object a second entry. -/
theorem nodup_step (hs : s.interner.known.Nodup) (a : Action) :
    (s.step a).interner.known.Nodup := by
  cases a with
  | create | release | letGo => exact hs
  | hold r =>
    rw [step]
    split_ifs <;> exact hs
  | purge => exact nodup_known_sweep hs _
  | intern o =>
    rw [step]
    split_ifs
    · cases o with
      | none => exact hs
      | some r => exact nodup_known_intern hs _ _ r
    · exact hs

/-- Any action, among the objects that were alive before it. -/
theorem Tracks.explains_step (hs : s.Tracks log) (a : Action) :
    (s.step a).interner.Explains (s.heap.Alive s.held) (log ++ s.interning a) := by
  have hsame : s.interner.Explains (s.heap.Alive s.held) (log ++ []) := by
    rw [List.append_nil]
    exact hs.explains
  have hliving : ∀ r, s.heap.Alive s.held r → s.census.isAlive r = true :=
    fun r => hs.isAlive_iff.mpr
  cases a with
  | create | release | letGo => exact hsame
  | hold r =>
    rw [step]
    split_ifs <;> exact hsame
  | purge => exact hsame.sweep hliving
  | intern o =>
    rw [step, interning]
    split_ifs with hall
    · refine hs.explains.intern (fun r hr => hs.isAlive_iff.mp ?_) hliving
      rw [Option.mem_def.mp hr, Option.all_some] at hall
      exact hall
    · exact hsame

/-- What an action identifies is allocated. -/
theorem lt_size_of_mem_interning (hr : r ∈ distinct (s.interning a)) :
    r.index < s.heap.objects.size := by
  obtain ⟨id, hmem⟩ := mem_distinct_iff.mp hr
  cases a with
  | create | release | hold | letGo | purge => exact absurd hmem List.not_mem_nil
  | intern o =>
    rw [interning] at hmem
    split_ifs at hmem with hall
    · obtain ⟨rfl, -⟩ := Prod.mk.inj (List.mem_singleton.mp hmem)
      exact Heap.lt_size_of_isAlive hall
    · exact absurd hmem List.not_mem_nil

/-- **Every step** keeps the invariant. -/
theorem Tracks.step (hs : s.Tracks log) (a : Action) :
    (s.step a).Tracks (log ++ s.interning a) := by
  obtain ⟨hheap, hheld⟩ := hs.wellFormed_step a
  have hallocated : ∀ r ∈ distinct (log ++ s.interning a), r.index < s.heap.objects.size := by
    intro r hr
    obtain ⟨id, hmem⟩ := mem_distinct_iff.mp hr
    rcases List.mem_append.mp hmem with hmem | hmem
    · exact hs.allocated r (mem_distinct_iff.mpr ⟨id, hmem⟩)
    · exact lt_size_of_mem_interning (mem_distinct_iff.mpr ⟨id, hmem⟩)
  exact ⟨hheap, hheld, fun r hr => (hallocated r hr).trans_le (size_le_step s a),
    nodup_step hs.nodup a,
    (hs.explains_step a).mono fun r hr => hs.alive_of_step a (hallocated r hr)⟩

/-- **Every run** keeps the invariant. -/
theorem Tracks.run (hs : s.Tracks log) (actions : List Action) :
    (s.run actions).Tracks (log ++ s.internings actions) := by
  induction actions generalizing s log with
  | nil =>
    rw [internings, List.append_nil]
    exact hs
  | cons a rest ih =>
    rw [internings, ← List.append_assoc]
    exact ih (hs.step a)

/-! ### Sweeps -/

/-- A sweep leaves the living only. -/
theorem isAlive_of_sweeps (hsweeps : s.sweeps a = true) (hr : r ∈ (s.step a).interner.known) :
    (s.step a).census.isAlive r = true := by
  cases a with
  | create | release | hold | letGo => cases hsweeps
  | purge =>
    rw [step, known_sweep] at hr
    exact (List.mem_filter.mp hr).2
  | intern o =>
    cases o with
    | none => cases hsweeps
    | some x =>
      simp only [sweeps, inserts, Bool.and_eq_true, Option.isNone_iff_eq_none] at hsweeps
      obtain ⟨⟨halive, hnew⟩, hdue⟩ := hsweeps
      have hswept : (s.interner.intern s.heap s.held (some x)).1 =
          (s.interner.add x).sweep (s.heap.census s.held) := by
        simp only [intern, hnew, hdue, if_true]
      rw [step_intern_of_alive halive, hswept] at hr ⊢
      rw [known_sweep] at hr
      exact (List.mem_filter.mp hr).2

/-- **A sweep leaves those who were identified and are alive**, no more and no fewer. -/
theorem Tracks.mem_known_iff (hs : s.Tracks log) (hsweeps : s.sweeps a = true) :
    r ∈ (s.step a).interner.known ↔
      r ∈ distinct (log ++ s.interning a) ∧ (s.step a).heap.Alive (s.step a).held r := by
  have hnext := hs.step a
  constructor
  · intro hr
    obtain ⟨entry, hentry, rfl⟩ := List.mem_map.mp hr
    exact ⟨(hnext.explains.entries entry hentry).1,
      hnext.isAlive_iff.mp (isAlive_of_sweeps hsweeps hr)⟩
  · rintro ⟨hlogged, halive⟩
    obtain ⟨id, hid⟩ := Option.isSome_iff_exists.mp (hnext.explains.living r hlogged halive)
    exact mem_known_of_lookup hid

/-- **The entries after any run** of creations, releases, identifications and purges, with
others holding objects at any time.

* No object has two entries, and there are as many entries as the last sweep has left and
  as objects were inserted since. That is at most twice what the sweep has left, or twice
  1024 if that is more; before the first sweep nothing counts as left.
* The next object that is inserted makes a sweep due if as many objects were inserted as the
  last sweep has left, and no fewer than 1024.
* Whatever sweeps next, that or a purge, leaves exactly those objects that were ever
  identified and are alive. -/
theorem entries_of_run (actions : List Action) :
    let s := run {} actions
    let t := tally {} {} actions
    let log := internings {} actions
    s.interner.known.Nodup ∧
      s.interner.size = t.left + t.inserted ∧
      s.interner.size ≤ 2 * max 1024 t.left ∧
      (∀ r, s.sweeps (.intern (some r)) = true ↔
        s.inserts (.intern (some r)) = true ∧ max 1024 t.left ≤ t.inserted) ∧
      ∀ a, s.sweeps a = true → ∀ r, r ∈ (s.step a).interner.known ↔
        r ∈ distinct (log ++ s.interning a) ∧ (s.step a).heap.Alive (s.step a).held r := by
  intro s t log
  have hcounted : s.interner.Counted t := counted_run counted_empty actions
  have htracks : s.Tracks log := tracks_empty.run actions
  refine ⟨htracks.nodup, hcounted.size, hcounted.size_le, fun r => ?_,
    fun a ha r => htracks.mem_known_iff ha⟩
  rw [sweeps, Bool.and_eq_true, hcounted.sweepDue_add]

/-- Three objects are identified, two of which are dead before the purge. The third one has
no handle either, but someone holds it. -/
theorem entries_of_run_held :
    let named (name : String) : ObjectSpec := ⟨name, "Object", none, none, false⟩
    let actions : List Action :=
      [.create (named "x"), .intern (some ⟨0⟩), .create (named "y"), .intern (some ⟨1⟩),
        .release "x", .intern none, .create (named "z"), .intern (some ⟨2⟩), .intern (some ⟨1⟩),
        .hold ⟨1⟩, .release "y", .release "z"]
    let s := run {} actions
    let purged := s.step .purge
    s.interner.size = 3 ∧ s.interner.size ≤ 2 * max 1024 (tally {} {} actions).left ∧
    s.sweeps .purge = true ∧ purged.interner.known = [⟨1⟩] ∧
    ∀ r, r ∈ purged.interner.known ↔
      r ∈ distinct (internings {} actions ++ s.interning .purge) ∧
        purged.heap.Alive purged.held r := by
  intro named actions s purged
  obtain ⟨-, -, hle, -, hswept⟩ := entries_of_run actions
  exact ⟨by decide +kernel, hle, rfl, by decide +kernel, hswept .purge rfl⟩

end Session

end FlightRecorder.Interner
