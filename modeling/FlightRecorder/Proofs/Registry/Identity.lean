import Mathlib.Data.List.Flatten
import Mathlib.Data.List.Perm.Subperm
import FlightRecorder.Proofs.Registry.Numbering
import FlightRecorder.Proofs.Registry.Restoring

/-!
# Sequence numbers identify events

Every event gets a number of its own, and numbers are only moved afterwards: with
whole arenas when buffers are taken out, event by event when they are put back. This
file proves that no operation makes a second copy of a number, however many arenas
wait to be put back and in whatever order they are, so long as the clock does not run
past its last number. What the order of putting back decides is the order within the
buffers: they stay in the order of time if the arena put back is always the one that
was taken out last.

* `FlightRecorder.Arena.seqs`, `FlightRecorder.Registry.Session.seqs` – all numbers
  of an arena, and of a session;
* `FlightRecorder.Registry.Session.step_numbers` – **what one action does to them**:
  it takes at most the number of the moment, and keeps at most what there was;
* `FlightRecorder.Registry.Session.ticks`,
  `FlightRecorder.Registry.Session.Numbered` – how often a run moves the clock, and
  what follows for all numbers at any time;
* `FlightRecorder.Registry.Layered` – arenas one after the other in time, as they are
  so long as `FlightRecorder.Registry.Session.LatestFirst` holds;
* `FlightRecorder.Registry.Session.numbers_of_run` – **the numbers of a run**.
-/

namespace FlightRecorder

open scoped List

/-! ### The numbers of a buffer -/

namespace SiteBuffer

variable {b : SiteBuffer}

theorem seqs_dropOldest (h : b.WellFormed) (n : Nat) : (b.dropOldest n).seqs <:+ b.seqs := by
  rw [seqs, events_dropOldest h]
  exact (List.drop_suffix n _).map _

theorem seqs_ensureAtMost (h : b.WellFormed) (bound : Nat) :
    (b.ensureAtMost bound).seqs <:+ b.seqs := by
  rw [seqs, events_ensureAtMost h]
  exact (List.drop_suffix _ _).map _

/-- Storing an event adds its number, and may drop the oldest. -/
theorem seqs_push (h : b.WellFormed) (e : Reading) : (b.push e).seqs <:+ b.seqs ++ [e.seq] := by
  rw [seqs, events_push_eq_rtake h]
  have hmap : (b.events ++ [e.store b.retention]).map (·.seq) = b.seqs ++ [e.seq] := by
    rw [List.map_append]
    rfl
  rw [← hmap]
  exact (rtake_suffix _ _).map _

/-- Taking the events of another buffer adds their numbers, and may drop the
oldest. -/
theorem seqs_absorb (h : b.WellFormed) (c : Heap.Census) (source : SiteBuffer) :
    (b.absorb c source).seqs <+ b.seqs ++ source.seqs := by
  have hsuffix : (b.absorb c source).events <:+ b.events ++
      (if source.kind = b.kind then source.events.map (·.restored b.retention c) else []) :=
    events_absorb_suffix h rfl
  refine (hsuffix.map (·.seq)).sublist.trans ?_
  rw [List.map_append]
  refine List.Sublist.append (List.Sublist.refl _) ?_
  split_ifs
  · rw [List.map_map]
    exact List.Sublist.refl _
  · exact List.nil_sublist _

end SiteBuffer

/-! ### The numbers of an arena -/

namespace Arena

variable {l : List (Nat × SiteBuffer)} {site : Nat} {b old : SiteBuffer} {a : Arena}
  {more : List UInt64}

/-- All sequence numbers in a list of buffers. -/
def allSeqs (l : List (Nat × SiteBuffer)) : List UInt64 :=
  l.flatMap fun (_, b) => b.seqs

/-- All sequence numbers of an arena. -/
def seqs (a : Arena) : List UInt64 :=
  allSeqs a.buffers

theorem count_allSeqs (m : UInt64) (l : List (Nat × SiteBuffer)) :
    (allSeqs l).count m = tally (fun b => b.seqs.count m) l := by
  induction l with
  | nil => rfl
  | cons q rest ih =>
    rw [tally_cons, ← ih, allSeqs, List.flatMap_cons, List.count_append]
    rfl

/-- A site adds no more numbers than its new buffer has beyond those of the old. -/
theorem allSeqs_place (h : Ordered l) (hold : l.lookup site = some old)
    (hb : b.seqs <+~ old.seqs ++ more) : allSeqs (place site b l) <+~ allSeqs l ++ more := by
  rw [List.subperm_iff_count]
  intro m
  have hplace := tally_place (b := b) (fun b => b.seqs.count m) h hold
  have hcount := hb.count_le m
  rw [List.count_append] at hcount ⊢
  rw [count_allSeqs, count_allSeqs]
  omega

theorem allSeqs_place_new (hnew : l.lookup site = none) (hb : b.seqs = []) :
    allSeqs (place site b l) <+~ allSeqs l := by
  rw [List.subperm_iff_count]
  intro m
  rw [count_allSeqs, count_allSeqs, tally_place_new _ hnew, hb, List.count_nil, Nat.add_zero]

end Arena

namespace Ledger

variable {p : BudgetPolicy} {capacity : Nat} {l l' : Ledger}

/-- **Moves make no numbers.** -/
theorem Moves.allSeqs_subperm (h : Moves p capacity l l') (hl : l.arena.Sound) :
    Arena.allSeqs l'.buffers <+~ Arena.allSeqs l.buffers := by
  induction h with
  | refl => exact List.Subperm.refl _
  | @tail m _ hmoves hmove ih =>
    have hm : m.arena.Sound := Moves.sound hmoves hl
    refine List.Subperm.trans ?_ ih
    cases hmove with
    | lower =>
      have hsame : (m.lowerCeiling p).buffers = m.buffers :=
        congrArg Arena.buffers (arena_lowerCeiling p m)
      rw [hsame]
    | @cut site n b _ hb =>
      rw [List.subperm_iff_count]
      intro k
      have hcut := Arena.tally_adjust (l := m.buffers) (f := (·.dropOldest n))
        (fun b => b.seqs.count k) hm.ordered hb
      have hle := (SiteBuffer.seqs_dropOldest (hm.wellFormed_of_find? hb) n).sublist.count_le k
      rw [Arena.count_allSeqs, Arena.count_allSeqs]
      exact Nat.le_of_add_le_add_right (hcut.trans_le (Nat.add_le_add_left hle _))

end Ledger

namespace Registry

/-! ### What the operations do to the numbers -/

section Operations

variable {r r' : Registry} {site : Nat} {kind : SiteKind} {b : SiteBuffer} {c : Heap.Census}
  {p : Retention} {interim : List (Nat × SiteBuffer)} {detached : Arena}

theorem seqs_ready (h : Ready r site kind r' b) : r'.arena.seqs <+~ r.arena.seqs := by
  cases h with
  | found => exact List.Subperm.refl _
  | created hfind => exact Arena.allSeqs_place_new hfind rfl

theorem seqs_getOrCreate (r : Registry) (site : Nat) (kind : SiteKind) :
    (r.getOrCreate site kind).1.arena.seqs <+~ r.arena.seqs := by
  refine getOrCreate_ind (P := fun r' => r'.arena.seqs <+~ r.arena.seqs) (List.Subperm.refl _)
    (fun cause => ?_) fun _ _ _ hready => seqs_ready hready
  rw [degrade]
  split_ifs
  · exact List.Subperm.refl _
  · exact List.nil_subperm

theorem seqs_enforceBudget (hr : r.Sound) : r.enforceBudget.arena.seqs <+~ r.arena.seqs := by
  have hledger : r.ledger.arena.Sound := hr.arena
  rcases enforceBudget_cases r with heq | ⟨-, hmoves⟩
  · rw [heq]
  · exact hmoves.allSeqs_subperm hledger

/-- **Recording** leaves the clock and the buffers alone, or drops all buffers, or
takes the number of the moment. -/
theorem record_numbers (hr : r.Sound) (site : Nat) (value : Value) (thread : UInt32) :
    ((r.record site value thread).clock = r.clock ∧
      (r.record site value thread = r ∨ (r.record site value thread).arena = {})) ∨
    ((r.record site value thread).clock = r.clock.tick ∧
      (r.record site value thread).arena.seqs <+~ r.arena.seqs ++ [r.clock.next]) := by
  have hout := outcome_record r site value thread
  generalize r.record site value thread = r'' at hout ⊢
  cases hout with
  | unchanged => exact Or.inl ⟨rfl, Or.inl rfl⟩
  | beyond _ hdeg =>
    rw [degrade, if_neg (Bool.eq_false_iff.mp hdeg)]
    exact Or.inl ⟨rfl, Or.inr rfl⟩
  | @stored r' b _ _ hready =>
    have hr' := hr.ready hready
    have hb := hr'.arena.wellFormed_of_find? hready.find?
    have hpush : ((b.ensureAtMost r'.ceiling).push ⟨value, r.clock.next, thread⟩).seqs <+~
        b.seqs ++ [r.clock.next] := by
      refine (SiteBuffer.seqs_push (hb.ensureAtMost _) _).sublist.subperm.trans ?_
      exact ((SiteBuffer.seqs_ensureAtMost hb _).sublist.append (List.Sublist.refl _)).subperm
    have hplace := Arena.allSeqs_place hr'.arena.ordered hready.find? hpush
    refine Or.inr ⟨congrArg Clock.tick hready.clock_eq, ?_⟩
    refine (seqs_enforceBudget (hr'.stored hready.find? _)).trans (hplace.trans ?_)
    exact (List.subperm_append_right _).mpr (seqs_ready hready)
  | @refused r' b _ _ hready =>
    have hr' := hr.ready hready
    have hb := hr'.arena.wellFormed_of_find? hready.find?
    have htrim : (b.ensureAtMost r'.ceiling).seqs <+~ b.seqs ++ [r.clock.next] :=
      (SiteBuffer.seqs_ensureAtMost hb _).sublist.subperm.trans
        (List.sublist_append_left _ _).subperm
    have hplace := Arena.allSeqs_place hr'.arena.ordered hready.find? htrim
    refine Or.inr ⟨congrArg Clock.tick hready.clock_eq, hplace.trans ?_⟩
    exact (List.subperm_append_right _).mpr (seqs_ready hready)

theorem seqs_merge (hr : r.Sound) (hdeg : r.degraded = false) {q : Nat × SiteBuffer}
    (hsite : q.1 < Arena.maxSites) (hq : q.2.Faithful p) :
    (r.merge c q).arena.seqs <+~ r.arena.seqs ++ q.2.seqs := by
  obtain ⟨r', target, d, hready, hmerge⟩ := merge_eq (c := c) hdeg hsite hq
  have hr' := hr.ready hready
  have hb := hr'.arena.wellFormed_of_find? hready.find?
  rw [hmerge]
  refine (Arena.allSeqs_place hr'.arena.ordered hready.find?
    (SiteBuffer.seqs_absorb hb c q.2).subperm).trans ?_
  exact (List.subperm_append_right _).mpr (seqs_ready hready)

theorem seqs_foldl_merge (hr : r.Sound) (hdeg : r.degraded = false)
    (hall : ∀ q ∈ interim, q.1 < Arena.maxSites ∧ q.2.Faithful p) :
    (interim.foldl (merge c) r).arena.seqs <+~ r.arena.seqs ++ Arena.allSeqs interim := by
  induction interim generalizing r with
  | nil => exact (List.append_nil _).symm ▸ List.Subperm.refl _
  | cons q rest ih =>
    obtain ⟨⟨hsite, hq⟩, hrest⟩ := List.forall_mem_cons.mp hall
    have hdeg' : (r.merge c q).degraded = false := by
      rw [alike_merge (c := c) hdeg hsite hq]
      exact hdeg
    have hmerge : (r.merge c q).arena.seqs <+~ r.arena.seqs ++ q.2.seqs :=
      seqs_merge hr hdeg hsite hq
    refine (ih (hr.merge c q) hdeg' hrest).trans ?_
    refine ((List.subperm_append_right _).mpr hmerge).trans ?_
    rw [Arena.allSeqs, Arena.allSeqs, List.flatMap_cons, List.append_assoc]

/-- **Putting back makes no numbers**: those of the arena put back and those recorded
meanwhile are all there can be. -/
theorem seqs_restore (hr : r.Sound) (hdeg : r.degraded = false) (hd : detached.Sound)
    (horderly : r.arena.Orderly p) :
    (r.restore c detached).arena.seqs <+~ detached.seqs ++ r.arena.seqs := by
  rw [restore_eq c hdeg]
  exact (seqs_enforceBudget (sound_rejoin hr hd)).trans
    (seqs_foldl_merge (r := { r with arena := detached }) ⟨hd, hr.ceiling_pos⟩ hdeg horderly)

end Operations

/-! ### The numbers of a session -/

namespace Session

/-- The arena of the registry, and those taken out of it, the latest first. -/
def arenas (s : Session) : List Arena :=
  s.registry.arena :: s.parked.map (·.2)

/-- All sequence numbers of a session, in the registry and outside it. -/
def seqs (s : Session) : List UInt64 :=
  s.arenas.flatMap Arena.seqs

/-- Whether an action records an event. -/
def Action.records : Action → Bool
  | .record .. => true
  | _ => false

/-- How often an action moves the clock: once or not at all. -/
def ticksAt (s : Session) (a : Action) : Nat :=
  if (s.step a).registry.clock = s.registry.clock then 0 else 1

/-- How often a run moves the clock. -/
def ticks (s : Session) : List Action → Nat
  | [] => 0
  | a :: rest => s.ticksAt a + (s.step a).ticks rest

section Numbers

variable {s : Session} {parked : List (String × Arena)} {name : String} {arena : Arena}
  {first n : Nat}

theorem seqs_eq (s : Session) :
    s.seqs = s.registry.arena.seqs ++ s.parked.flatMap fun p => p.2.seqs := by
  rw [seqs, arenas, List.flatMap_cons, List.flatMap_map]

/-- Arenas under other names lose nothing to the one that is put back. -/
theorem seqs_parked_of_lookup (h : parked.lookup name = some arena) :
    arena.seqs ++ (parked.filter (·.1 != name)).flatMap (fun p => p.2.seqs) <+~
      parked.flatMap fun p => p.2.seqs := by
  obtain ⟨before, after, rfl, -⟩ := List.lookup_eq_some_iff.mp h
  have hbefore := (List.filter_sublist (p := (·.1 != name)) (l := before)).flatMap
    fun p : String × Arena => p.2.seqs
  have hafter := (List.filter_sublist (p := (·.1 != name)) (l := after)).flatMap
    fun p : String × Arena => p.2.seqs
  rw [List.filter_append, List.filter_cons_of_neg (by simp), List.flatMap_append,
    List.flatMap_append, List.flatMap_cons, List.subperm_iff_count]
  intro m
  have := hbefore.count_le m
  have := hafter.count_le m
  simp only [List.count_append]
  omega

theorem clock_getOrCreate (r : Registry) (site : Nat) (kind : SiteKind) :
    (r.getOrCreate site kind).1.clock = r.clock := by
  refine getOrCreate_ind (P := fun r' => r'.clock = r.clock) rfl (fun cause => ?_)
    fun _ _ _ hready => hready.clock_eq
  rw [degrade]
  split_ifs <;> rfl

/-- **What one action does to the numbers.** It leaves the clock alone and makes no
number, or it records an event and takes the number of the moment. -/
theorem step_numbers (hs : s.Balanced) (ho : s.Orderly) (a : Action) :
    ((s.step a).registry.clock = s.registry.clock ∧ (s.step a).seqs <+~ s.seqs) ∨
    (a.records = true ∧ (s.step a).registry.clock = s.registry.clock.tick ∧
      (s.step a).seqs <+~ s.seqs ++ [s.registry.clock.next]) := by
  simp only [seqs_eq]
  cases a with
  | record site value thread =>
    rcases record_numbers hs.registry site value thread with ⟨hclock, hsame⟩ | ⟨hclock, hnext⟩
    · refine Or.inl ⟨hclock, (List.subperm_append_right _).mpr ?_⟩
      rcases hsame with hsame | hempty
      · simp only [step, hsame]
        exact List.Subperm.refl _
      · simp only [step, hempty]
        exact List.nil_subperm
    · refine Or.inr ⟨rfl, hclock, ?_⟩
      rw [List.subperm_iff_count]
      intro m
      have := hnext.count_le m
      simp only [step, List.count_append] at this ⊢
      omega
  | getOrCreate site kind =>
    exact Or.inl ⟨clock_getOrCreate _ _ _,
      (List.subperm_append_right _).mpr (seqs_getOrCreate _ _ _)⟩
  | detach name =>
    have hparked := (List.filter_sublist (p := (·.1 != name)) (l := s.parked)).flatMap
      fun p : String × Arena => p.2.seqs
    exact Or.inl ⟨rfl, (List.subperm_append_left s.registry.arena.seqs).mpr hparked.subperm⟩
  | restore name =>
    rw [step]
    split
    · exact Or.inl ⟨rfl, List.Subperm.refl _⟩
    · rename_i arena hlookup
      have hmem := mem_of_lookup_parked hlookup
      refine Or.inl ⟨(restore_frame ho.registry _ _).1, ?_⟩
      rw [List.subperm_iff_count]
      intro m
      have hparked := (seqs_parked_of_lookup hlookup).count_le m
      rcases Bool.eq_false_or_eq_true s.registry.degraded with hdeg | hdeg
      · simp only [restore_of_degraded _ hdeg, List.count_append] at hparked ⊢
        omega
      · have hrestore := (seqs_restore (c := s.census) hs.registry hdeg (hs.parked _ hmem)
          ho.registry).count_le m
        simp only [List.count_append] at hparked hrestore ⊢
        omega
  | close | create | release => exact Or.inl ⟨rfl, List.Subperm.refl _⟩

/-- A tick is seen, also the one after the last number. -/
theorem tick_ne (c : Clock) : c.tick ≠ c := by
  intro h
  have hnext : (c.next + 1).toNat = c.next.toNat := congrArg (·.next.toNat) h
  have hlt := c.next.toNat_lt
  rw [UInt64.toNat_add, UInt64.toNat_one] at hnext
  omega

theorem ticksAt_eq_zero {a : Action} (h : (s.step a).registry.clock = s.registry.clock) :
    s.ticksAt a = 0 :=
  if_pos h

theorem ticksAt_eq_one {a : Action} (h : (s.step a).registry.clock = s.registry.clock.tick) :
    s.ticksAt a = 1 :=
  if_neg fun hsame => tick_ne _ (h.symm.trans hsame)

/-- **The numbers at a time** `first + n`, when the clock was moved `n` times: they
are distinct, and of the time up to then, so long as the clock has not run past its
last number. -/
structure Numbered (s : Session) (first n : Nat) : Prop where
  clock : s.registry.clock.next = UInt64.ofNat (first + n)
  nodup : first + n ≤ wordSize → s.seqs.Nodup
  bounds : first + n ≤ wordSize → ∀ m ∈ s.seqs, first ≤ m.toNat ∧ m.toNat < first + n

theorem numbered_start (heap : Heap) (limits : RegistryLimits) (clock : Clock) :
    (start heap limits clock).Numbered clock.next.toNat 0 :=
  ⟨UInt64.ofNat_toNat.symm, fun _ => List.nodup_nil, fun _ _ hm => absurd hm List.not_mem_nil⟩

/-- The number of the moment, so long as there is one. -/
theorem Numbered.toNat_next (h : s.Numbered first n) (hlt : first + n < wordSize) :
    s.registry.clock.next.toNat = first + n := by
  rw [h.clock, UInt64.toNat_ofNat']
  exact Nat.mod_eq_of_lt hlt

theorem nodup_of_subperm {l l' : List UInt64} (h : l <+~ l') (hl' : l'.Nodup) : l.Nodup := by
  obtain ⟨k, hperm, hsub⟩ := h
  exact hperm.nodup_iff.mp (hl'.sublist hsub)

theorem Numbered.step (h : s.Numbered first n) (hs : s.Balanced) (ho : s.Orderly) (a : Action) :
    (s.step a).Numbered first (n + s.ticksAt a) := by
  rcases step_numbers hs ho a with ⟨hclock, hsub⟩ | ⟨-, hclock, hsub⟩
  · rw [ticksAt_eq_zero hclock, Nat.add_zero]
    exact ⟨hclock ▸ h.clock, fun hbound => nodup_of_subperm hsub (h.nodup hbound),
      fun hbound m hm => h.bounds hbound m (hsub.subset hm)⟩
  · rw [ticksAt_eq_one hclock]
    refine ⟨?_, fun hbound => nodup_of_subperm hsub ?_, fun hbound m hm => ?_⟩
    · rw [hclock, Clock.tick, h.clock, ← Nat.add_assoc, UInt64.ofNat_add (first + n)]
      rfl
    · -- the number of the moment is beyond all that there are
      have hnext := h.toNat_next (by omega)
      refine List.nodup_append.mpr ⟨h.nodup (by omega), List.nodup_singleton _, ?_⟩
      intro m hm k hk heq
      have hbounds := h.bounds (by omega) m hm
      rw [heq, List.mem_singleton.mp hk] at hbounds
      omega
    · have hnext := h.toNat_next (by omega)
      rcases List.mem_append.mp (hsub.subset hm) with hm | hm
      · have := h.bounds (by omega) m hm
        omega
      · rw [List.mem_singleton.mp hm]
        omega

theorem Numbered.run (h : s.Numbered first n) (hs : s.Balanced) (ho : s.Orderly)
    (actions : List Action) : (s.run actions).Numbered first (n + s.ticks actions) := by
  induction actions generalizing s n with
  | nil => exact h
  | cons a rest ih =>
    rw [ticks, ← Nat.add_assoc]
    exact ih (h.step hs ho a) (hs.step a) (ho.step hs a)

/-- Only an action that records moves the clock. -/
theorem ticksAt_le (hs : s.Balanced) (ho : s.Orderly) (a : Action) :
    s.ticksAt a ≤ if a.records then 1 else 0 := by
  rcases step_numbers hs ho a with ⟨hclock, -⟩ | ⟨hrecords, hclock, -⟩
  · rw [ticksAt_eq_zero hclock]
    exact Nat.zero_le _
  · rw [ticksAt_eq_one hclock, if_pos hrecords]

theorem ticks_le (hs : s.Balanced) (ho : s.Orderly) (actions : List Action) :
    s.ticks actions ≤ actions.countP Action.records := by
  induction actions generalizing s with
  | nil => exact Nat.le_refl 0
  | cons a rest ih =>
    have hfirst := ticksAt_le hs ho a
    have hrest := ih (hs.step a) (ho.step hs a)
    rw [ticks, List.countP_cons]
    omega

end Numbers

end Session

/-! ### The order in which arenas are put back -/

/-- Numbers that increase, from `lo` on and below `hi`. -/
structure Ascending (numbers : List UInt64) (lo hi : Nat) : Prop where
  increasing : numbers.Pairwise (· < ·)
  bounds : ∀ m ∈ numbers, lo ≤ m.toNat ∧ m.toNat < hi

/-- The numbers of every buffer of an arena increase, from `lo` on and below `hi`. -/
def Spans (lo hi : Nat) (a : Arena) : Prop :=
  a.Every fun _ b => Ascending b.seqs lo hi

/-- **Arenas in layers**: each of them is of the time before the one that precedes it
in the list, and the first is of the time before `hi`. -/
def Layered : List Arena → Nat → Prop
  | [], _ => True
  | a :: rest, hi => ∃ lo ≤ hi, Spans lo hi a ∧ Layered rest lo

section Layered

variable {l l' : List UInt64} {lo lo' mid hi hi' : Nat} {m : UInt64} {a : Arena}
  {arenas arenas' : List Arena}

theorem ascending_nil (lo hi : Nat) : Ascending [] lo hi :=
  ⟨List.Pairwise.nil, fun _ hm => absurd hm List.not_mem_nil⟩

theorem Ascending.sublist (h : Ascending l lo hi) (hsub : l' <+ l) : Ascending l' lo hi :=
  ⟨h.increasing.sublist hsub, fun m hm => h.bounds m (hsub.subset hm)⟩

theorem Ascending.mono (h : Ascending l lo hi) (hlo : lo' ≤ lo) (hhi : hi ≤ hi') :
    Ascending l lo' hi' :=
  ⟨h.increasing, fun m hm =>
    ⟨hlo.trans (h.bounds m hm).1, (h.bounds m hm).2.trans_le hhi⟩⟩

/-- Numbers of one time after numbers of the time before. -/
theorem Ascending.append (h : Ascending l lo mid) (h' : Ascending l' mid hi) (hlo : lo ≤ mid)
    (hhi : mid ≤ hi) : Ascending (l ++ l') lo hi := by
  refine ⟨List.pairwise_append.mpr ⟨h.increasing, h'.increasing, fun m hm k hk => ?_⟩,
    fun m hm => ?_⟩
  · have hbefore := h.bounds m hm
    have hafter := h'.bounds k hk
    rw [UInt64.lt_iff_toNat_lt]
    omega
  · rcases List.mem_append.mp hm with hm | hm
    · exact (h.mono le_rfl hhi).bounds m hm
    · exact (h'.mono hlo le_rfl).bounds m hm

theorem ascending_singleton (hm : m.toNat = mid) : Ascending [m] mid (mid + 1) := by
  refine ⟨List.pairwise_singleton _ _, fun k hk => ?_⟩
  rw [List.mem_singleton.mp hk]
  omega

theorem trimmable_ascending (lo hi : Nat) :
    Trimmable fun _ b => Ascending b.seqs lo hi := by
  refine trimmable_of_suffix (P := fun _ l => Ascending (l.map (·.seq)) lo hi) ?_
  intro _ l l' hsuffix h
  exact h.sublist (hsuffix.map _).sublist

theorem Spans.mono (h : Spans lo hi a) (hlo : lo' ≤ lo) (hhi : hi ≤ hi') : Spans lo' hi' a :=
  fun q hq => (h q hq).mono hlo hhi

theorem Layered.mono (h : Layered arenas hi) (hhi : hi ≤ hi') : Layered arenas hi' := by
  cases arenas with
  | nil => trivial
  | cons a rest =>
    obtain ⟨lo, hlo, hspans, hrest⟩ := h
    exact ⟨lo, hlo.trans hhi, hspans.mono le_rfl hhi, hrest⟩

/-- Arenas that are gone leave the others in layers. -/
theorem Layered.sublist (h : Layered arenas hi) (hsub : arenas' <+ arenas) :
    Layered arenas' hi := by
  induction hsub generalizing hi with
  | slnil => trivial
  | cons a _ ih =>
    obtain ⟨lo, hlo, -, hrest⟩ := h
    exact ih (hrest.mono hlo)
  | cons_cons a _ ih =>
    obtain ⟨lo, hlo, hspans, hrest⟩ := h
    exact ⟨lo, hlo, hspans, ih hrest⟩

theorem Layered.exists_spans (h : Layered arenas hi) (ha : a ∈ arenas) :
    ∃ lo hi, Spans lo hi a := by
  induction arenas generalizing hi with
  | nil => exact absurd ha List.not_mem_nil
  | cons x rest ih =>
    obtain ⟨lo, -, hspans, hrest⟩ := h
    rcases List.mem_cons.mp ha with rfl | ha
    · exact ⟨lo, hi, hspans⟩
    · exact ih hrest ha

end Layered

section Spans

variable {r : Registry} {lo mid hi : Nat} {c : Heap.Census} {p : Retention} {detached : Arena}

/-- An event that is stored has the number of the moment. -/
theorem spans_record (h : Spans lo hi r.arena) (hr : r.Sound) (hlo : lo ≤ hi)
    (hnext : r.clock.next.toNat = hi) (site : Nat) (value : Value) (thread : UInt32) :
    Spans lo (hi + 1) (r.record site value thread).arena := by
  have hmono {l : List UInt64} (hasc : Ascending l lo hi) : Ascending l lo (hi + 1) :=
    hasc.mono le_rfl (Nat.le_succ hi)
  refine every_record h hr (trimmable_ascending lo hi) (trimmable_ascending lo (hi + 1))
    (fun _ _ _ => hmono) (fun _ _ => hmono) (fun _ => ascending_nil _ _) ?_
  intro _ b hb hasc _
  exact (hasc.append (ascending_singleton hnext) hlo (Nat.le_succ hi)).sublist
    (SiteBuffer.seqs_push hb _).sublist

/-- **Putting back the arena of the time just before** gives an arena of both
times. -/
theorem spans_restore (h : Spans mid hi r.arena) (hdetached : Spans lo mid detached)
    (hlo : lo ≤ mid) (hhi : mid ≤ hi) (hdeg : r.degraded = false) (hr : r.Sound)
    (hd : detached.Sound) (horderly : r.arena.Orderly p) :
    Spans lo hi (r.restore c detached).arena := by
  refine every_restore hdeg hr hd horderly (trimmable_ascending lo hi) fun site x hx => ?_
  rcases rejoined_cases hx with ⟨-, hfind⟩ | ⟨b, hfind, rfl⟩
  · exact (hdetached.find? hd hfind).mono le_rfl hhi
  · have htarget : Ascending (r.target detached site b).seqs lo mid :=
      every_target hdetached hd (ascending_nil lo mid)
    exact (htarget.append (h.find? hr.arena hfind) hlo hhi).sublist
      (SiteBuffer.seqs_absorb (wellFormed_target hd site b) c b)

end Spans

namespace Session

/-- Whether an action puts back no arena but the one that was taken out last. -/
def putsLatest (s : Session) : Action → Bool
  | .restore name =>
    match s.parked with
    | [] => true
    | (latest, _) :: others => name == latest || (others.lookup name).isNone
  | _ => true

/-- **The latest first**: whatever a run puts back was taken out after all that still
waits. -/
def latestFirst (s : Session) : List Action → Bool
  | [] => true
  | a :: rest => s.putsLatest a && (s.step a).latestFirst rest

section LatestFirst

variable {s : Session} {name : String} {arena : Arena} {first n : Nat}

theorem parked_eq_cons (h : s.putsLatest (.restore name) = true)
    (hlookup : s.parked.lookup name = some arena) : ∃ rest, s.parked = (name, arena) :: rest := by
  rw [putsLatest] at h
  cases hparked : s.parked with
  | nil =>
    rw [hparked] at hlookup
    cases hlookup
  | cons q rest =>
    obtain ⟨latest, a⟩ := q
    rw [hparked] at h hlookup
    rw [List.lookup_cons] at hlookup
    split at hlookup
    · rename_i heq
      rw [beq_iff_eq.mp heq, Option.some.inj hlookup]
      exact ⟨rest, rfl⟩
    · simp_all

/-- **Putting back the latest** makes one layer of two, or loses one of them. -/
theorem layered_restore {hi : Nat} (h : Layered s.arenas hi) (hs : s.Balanced) (ho : s.Orderly)
    (ha : s.putsLatest (.restore name) = true) :
    Layered (s.step (.restore name)).arenas hi := by
  cases hlookup : s.parked.lookup name with
  | none =>
    rw [step, hlookup]
    exact h
  | some arena =>
    obtain ⟨rest, hrest⟩ := parked_eq_cons ha hlookup
    obtain ⟨lo, hlo, hspans, hparked⟩ := h
    rw [hrest] at hparked
    obtain ⟨mid, hmid, hdetached, hbelow⟩ := hparked
    have hothers : (rest.filter (·.1 != name)).map (·.2) <+ rest.map (·.2) :=
      List.filter_sublist.map _
    rw [step_restore hlookup, arenas, hrest, List.filter_cons_of_neg (by simp)]
    rcases Bool.eq_false_or_eq_true s.registry.degraded with hdeg | hdeg
    · -- a degraded registry takes nothing back, and the arena is lost
      rw [restore_of_degraded _ hdeg]
      exact ⟨lo, hlo, hspans, (hbelow.mono hmid).sublist hothers⟩
    · have hd : arena.Sound := hs.parked _ (mem_of_lookup_parked hlookup)
      exact ⟨mid, hmid.trans hlo,
        spans_restore hspans hdetached hmid hlo hdeg hs.registry hd ho.registry,
        hbelow.sublist hothers⟩

/-- **The arenas stay in layers** so long as the latest is put back first. -/
theorem layered_step (h : Layered s.arenas (first + n)) (hnum : s.Numbered first n)
    (hs : s.Balanced) (ho : s.Orderly) {a : Action} (ha : s.putsLatest a = true)
    (hbound : first + (n + s.ticksAt a) ≤ wordSize) :
    Layered (s.step a).arenas (first + (n + s.ticksAt a)) := by
  cases a with
  | record site value thread =>
    obtain ⟨lo, hlo, hspans, hparked⟩ := h
    rcases record_numbers hs.registry site value thread with ⟨hclock, hsame⟩ | ⟨hclock, -⟩
    · rw [ticksAt_eq_zero (a := .record site value thread) hclock, Nat.add_zero]
      refine ⟨lo, hlo, ?_, hparked⟩
      rcases hsame with hsame | hempty
      · rw [step, hsame]
        exact hspans
      · rw [step, hempty]
        exact Arena.every_empty _
    · rw [ticksAt_eq_one (a := .record site value thread) hclock] at hbound ⊢
      exact ⟨lo, by omega,
        spans_record hspans hs.registry hlo (hnum.toNat_next (by omega)) site value thread, hparked⟩
  | getOrCreate site kind =>
    obtain ⟨lo, hlo, hspans, hparked⟩ := h
    rw [ticksAt_eq_zero (a := .getOrCreate site kind) (clock_getOrCreate _ _ _), Nat.add_zero]
    exact ⟨lo, hlo, every_getOrCreate hspans fun _ => ascending_nil _ _, hparked⟩
  | detach name =>
    obtain ⟨lo, hlo, hspans, hparked⟩ := h
    have hothers : (s.parked.filter (·.1 != name)).map (·.2) <+ s.parked.map (·.2) :=
      List.filter_sublist.map _
    -- what is recorded from now on is a layer of its own, empty so far
    rw [ticksAt_eq_zero (a := .detach name) rfl, Nat.add_zero]
    exact ⟨first + n, le_rfl, Arena.every_empty _, lo, hlo, hspans, hparked.sublist hothers⟩
  | restore name =>
    have hclock : (s.step (.restore name)).registry.clock = s.registry.clock := by
      rw [step]
      split
      · rfl
      · exact (restore_frame ho.registry _ _).1
    rw [ticksAt_eq_zero hclock, Nat.add_zero]
    exact layered_restore h hs ho ha
  | close | create | release =>
    rw [ticksAt_eq_zero rfl, Nat.add_zero]
    exact h

theorem layered_run (h : Layered s.arenas (first + n)) (hnum : s.Numbered first n)
    (hs : s.Balanced) (ho : s.Orderly) {actions : List Action}
    (ha : s.latestFirst actions = true) (hbound : first + (n + s.ticks actions) ≤ wordSize) :
    Layered (s.run actions).arenas (first + (n + s.ticks actions)) := by
  induction actions generalizing s n with
  | nil => exact h
  | cons a rest ih =>
    obtain ⟨hfirst, hrest⟩ := Bool.and_eq_true_iff.mp ha
    rw [ticks, ← Nat.add_assoc n] at hbound ⊢
    exact ih (layered_step h hnum hs ho hfirst (by omega)) (hnum.step hs ho a) (hs.step a)
      (ho.step hs a) hrest hbound

end LatestFirst

/-- **Sequence numbers identify events.** At every point of a run whose clock does not
run past its last number, no number occurs twice among the buffers of the registry
and those of all arenas taken out of it, and all are of the ticks of the run. If no
arena was put back but the one that was taken out last, the numbers in every buffer
increase. -/
theorem numbers_of_run (heap : Heap) (limits : RegistryLimits) (clock : Clock)
    (actions : List Action)
    (h : clock.next.toNat + actions.countP Action.records ≤ wordSize) :
    let start := start heap limits clock
    let s := start.run actions
    s.seqs.Nodup ∧
    (∀ m ∈ s.seqs, clock.next.toNat ≤ m.toNat ∧
      m.toNat < clock.next.toNat + start.ticks actions) ∧
    (start.latestFirst actions = true →
      ∀ a ∈ s.arenas, ∀ p ∈ a.buffers, p.2.seqs.Pairwise (· < ·)) := by
  intro start s
  have hbalanced : start.Balanced := balanced_start heap limits clock
  have horderly : start.Orderly := orderly_start heap limits clock
  have hstart : start.Numbered clock.next.toNat 0 := numbered_start heap limits clock
  have hnum := hstart.run hbalanced horderly actions
  have hticks := ticks_le hbalanced horderly actions
  rw [Nat.zero_add] at hnum
  have hbound : clock.next.toNat + start.ticks actions ≤ wordSize := by omega
  refine ⟨hnum.nodup hbound, hnum.bounds hbound, fun hfirst a ha p hp => ?_⟩
  have hlayers : Layered start.arenas (clock.next.toNat + 0) :=
    ⟨clock.next.toNat, le_rfl, Arena.every_empty _, trivial⟩
  have hrun := layered_run hlayers hstart hbalanced horderly hfirst (by omega)
  obtain ⟨lo, hi, hspans⟩ := hrun.exists_spans ha
  exact (hspans p hp).increasing

/-- Two arenas are taken out, one after the other, and the later is put back. -/
def nested : List Action :=
  [.record 0 (.int 1) 0, .detach "a", .record 0 (.int 2) 0, .record 1 (.int 3) 0, .detach "b",
    .record 0 (.int 4) 0, .restore "b", .record 0 (.int 5) 0]

/-- The clock of this run has five numbers left. -/
theorem numbers_of_run_nested :
    let s := (start {} { bufferSize := 2 } ⟨18446744073709551611⟩).run nested
    s.seqs = [18446744073709551614, 18446744073709551615, 18446744073709551613,
      18446744073709551611] ∧
    s.seqs.Nodup ∧ ∀ a ∈ s.arenas, ∀ p ∈ a.buffers, p.2.seqs.Pairwise (· < ·) := by
  obtain ⟨hnodup, -, hincreasing⟩ :=
    numbers_of_run {} { bufferSize := 2 } ⟨18446744073709551611⟩ nested (by decide)
  exact ⟨by decide +kernel, hnodup, hincreasing (by decide +kernel)⟩

end Session

end Registry

end FlightRecorder
