import FlightRecorder.Proofs.Budget.Settling

/-!
# Ties do not matter on the whole

The buffers of the largest size are trimmed one after the other, and the tie-break says
which of them comes first. That decides who loses events if a pass comes to rest among
them, and nothing else. Each of them pays the same, so however they are ordered it takes
the same number of trims to come to rest; and where the pass does not come to rest, all
of them have paid, and from there on the two runs are one. This file follows two runs
from the same state that differ in their tie-break.

* `FlightRecorder.Ledger.Alike` – ledgers that differ only in who holds how much, kept by
  a trim of buffers of equal size (`FlightRecorder.Ledger.Alike.cut`);
* `FlightRecorder.Ledger.Level` – sites whose buffers are of one size, and two sweeps
  over as many of them (`FlightRecorder.Ledger.Alike.foldl_shave`,
  `FlightRecorder.Ledger.Level.buffers_foldl_shave`);
* `FlightRecorder.Ledger.alike_pass`, `FlightRecorder.Ledger.alike_passes` – a pass and
  any number of them, from the same state;
* `FlightRecorder.Ledger.aggregates_of_tieBreak` – **two enforcements**.

The number of retained events need not be right for that: it may be any word, and the
trims may take it below zero and around.
-/

namespace FlightRecorder.Ledger

variable {p p' : BudgetPolicy} {capacity unit m : Nat} {l l' : Ledger} {sites sites' : List Nat}

/-! ### Ledgers that are alike -/

/-- **Ledgers that are alike on the whole**: they have the same numbers, and the sizes of
their buffers are the same, though at other sites. Of the sizes it is said that they have
the same sum under any weights. -/
structure Alike (l l' : Ledger) : Prop where
  retained : l'.retained = l.retained
  ceiling : l'.ceiling = l.ceiling
  stats : l'.stats = l.stats
  sizes : ∀ weight : Nat → Nat,
    Arena.tally (fun b => weight b.size) l'.buffers = Arena.tally (fun b => weight b.size) l.buffers

theorem Alike.refl (l : Ledger) : l.Alike l :=
  ⟨rfl, rfl, rfl, fun _ => rfl⟩

/-- Buffers that are the same leave no difference. -/
theorem Alike.eq (h : l.Alike l') (hbuffers : l'.buffers = l.buffers) : l' = l := by
  obtain ⟨buffers, retained, ceiling, stats⟩ := l
  obtain ⟨buffers', retained', ceiling', stats'⟩ := l'
  obtain ⟨rfl, rfl, rfl, -⟩ := h
  obtain rfl := hbuffers
  rfl

/-- How often a size occurs is a sum with weights. -/
theorem count_map_size (n : Nat) (buffers : List (Nat × SiteBuffer)) :
    (buffers.map fun x => x.2.size).count n =
      Arena.tally (fun b => if b.size = n then 1 else 0) buffers := by
  induction buffers with
  | nil => rfl
  | cons x rest ih =>
    rw [List.map_cons, List.count_cons, ih, Arena.tally_cons, Nat.add_comm]
    simp only [beq_iff_eq]

/-- **The sizes are the same**, in another order. -/
theorem Alike.perm (h : l.Alike l') :
    (l'.buffers.map fun x => x.2.size).Perm (l.buffers.map fun x => x.2.size) := by
  refine List.perm_iff_count.mpr fun n => ?_
  rw [count_map_size, count_map_size]
  exact h.sizes fun size => if size = n then 1 else 0

theorem ordered_cut (hl : Arena.Ordered l.buffers) (site n : Nat) :
    Arena.Ordered (l.cut site n).buffers := by
  rw [Arena.ordered_iff, map_fst_cut, ← Arena.ordered_iff]
  exact hl

/-- Moves keep the order of the sites. -/
theorem Moves.ordered (h : Moves p capacity l l') (hl : Arena.Ordered l.buffers) :
    Arena.Ordered l'.buffers := by
  rw [Arena.ordered_iff, h.sites, ← Arena.ordered_iff]
  exact hl

/-- **Cutting as much off** two buffers of the same size. -/
theorem Alike.cut (h : l.Alike l') (hl : Arena.Ordered l.buffers) (hl' : Arena.Ordered l'.buffers)
    {site site' : Nat} {b b' : SiteBuffer} (hb : l.buffers.lookup site = some b)
    (hb' : l'.buffers.lookup site' = some b') (hsize : b'.size = b.size) (n : Nat) :
    (l.cut site n).Alike (l'.cut site' n) where
  retained := congrArg (retainedLess · n) h.retained
  ceiling := h.ceiling
  stats := by simp only [Ledger.cut, h.stats]
  sizes weight := by
    have hcut := Arena.tally_adjust (f := (·.dropOldest n)) (fun b => weight b.size) hl hb
    have hcut' := Arena.tally_adjust (f := (·.dropOldest n)) (fun b => weight b.size) hl' hb'
    have hbefore := h.sizes weight
    simp only [SiteBuffer.size_dropOldest, hsize] at hcut hcut'
    simp only [Ledger.cut]
    omega

/-! ### Sweeps over buffers of one size -/

/-- **Sites whose buffers have `m` events each**, every one of them listed once. -/
structure Level (m : Nat) (sites : List Nat) (l : Ledger) : Prop where
  nodup : sites.Nodup
  size : ∀ site ∈ sites, ∃ b, l.buffers.lookup site = some b ∧ b.size = m
  pos : ∀ site ∈ sites, 0 < m

/-- A trim at the first of them does not touch the others. -/
theorem Level.cut {site : Nat} (h : l.Level m (site :: sites)) (n : Nat) :
    (l.cut site n).Level m sites := by
  obtain ⟨hnot, hnodup⟩ := List.nodup_cons.mp h.nodup
  refine ⟨hnodup, fun s hs => ?_, fun s hs => h.pos s (List.mem_cons_of_mem site hs)⟩
  have hne : s ≠ site := fun heq => hnot (heq ▸ hs)
  obtain ⟨b, hb, hsize⟩ := h.size s (List.mem_cons_of_mem site hs)
  refine ⟨b, ?_, hsize⟩
  rw [Ledger.cut, Arena.lookup_adjust, if_neg hne]
  exact hb

/-- Shaving the first of them, if there are too many events, is a trim. -/
theorem Level.shave_eq_cut (hunit : 0 < unit) {site : Nat} (h : l.Level m (site :: sites))
    (hover : capacity < l.retained) :
    shave capacity (fun b => min unit b.size) l site = l.cut site (min unit m) := by
  obtain ⟨b, hb, rfl⟩ := h.size site List.mem_cons_self
  have hpos := h.pos site List.mem_cons_self
  have hmin : min (min unit b.size) b.size = min unit b.size :=
    Nat.min_eq_left (Nat.min_le_right _ _)
  rw [shave_of_lt hover, trim_of_pos hb (by omega), hmin]

/-- **Two sweeps over as many buffers of the same size** leave ledgers alike, by induction
on the sites that are left: as long as one run goes on, so does the other. -/
theorem Alike.foldl_shave (hunit : 0 < unit) (h : l.Alike l') (hl : Arena.Ordered l.buffers)
    (hl' : Arena.Ordered l'.buffers) (hsites : l.Level m sites) (hsites' : l'.Level m sites')
    (hlength : sites'.length = sites.length) :
    (sites.foldl (shave capacity fun b => min unit b.size) l).Alike
      (sites'.foldl (shave capacity fun b => min unit b.size) l') := by
  induction sites generalizing l l' sites' with
  | nil =>
    rw [List.eq_nil_of_length_eq_zero hlength]
    exact h
  | cons site rest ih =>
    obtain ⟨site', rest', rfl⟩ := List.exists_cons_of_length_eq_add_one hlength
    rcases Nat.lt_or_ge capacity l.retained with hover | hle
    · obtain ⟨b, hb, hsize⟩ := hsites.size site List.mem_cons_self
      obtain ⟨b', hb', hsize'⟩ := hsites'.size site' List.mem_cons_self
      rw [List.foldl_cons, List.foldl_cons, hsites.shave_eq_cut hunit hover,
        hsites'.shave_eq_cut hunit (h.retained ▸ hover)]
      exact ih (h.cut hl hl' hb hb' (hsize'.trans hsize.symm) _) (ordered_cut hl site _)
        (ordered_cut hl' site' _) (hsites.cut _) (hsites'.cut _) (Nat.succ.inj hlength)
    · rw [foldl_shave_of_le hle, foldl_shave_of_le (h.retained ▸ hle)]
      exact h

/-- **A sweep that does not come to rest** has trimmed all of the buffers. -/
theorem Level.buffers_foldl_shave (hunit : 0 < unit) (h : l.Level m sites)
    (hover : capacity < (sites.foldl (shave capacity fun b => min unit b.size) l).retained) :
    (sites.foldl (shave capacity fun b => min unit b.size) l).buffers =
      l.buffers.map fun x => if x.1 ∈ sites then (x.1, x.2.dropOldest (min unit m)) else x := by
  induction sites generalizing l with
  | nil => simp
  | cons site rest ih =>
    have hbefore : capacity < l.retained := by
      by_contra hle
      rw [foldl_shave_of_le (Nat.le_of_not_lt hle)] at hover
      exact hle hover
    rw [List.foldl_cons, h.shave_eq_cut hunit hbefore] at hover ⊢
    rw [ih (h.cut _) hover, Ledger.cut, Arena.adjust, List.map_map]
    have hnot : site ∉ rest := (List.nodup_cons.mp h.nodup).1
    refine List.map_congr_left fun x _ => ?_
    by_cases hsite : x.1 = site
    · simp [hsite, hnot]
    · simp [hsite]

/-! ### Two passes -/

/-- The tie-break is a matter of order. -/
theorem perm_heaviest (l : Ledger) (t t' : TieBreak) : (l.heaviest t).Perm (l.heaviest t') := by
  cases t <;> cases t'
  · exact .refl _
  · exact (List.reverse_perm _).symm
  · exact List.reverse_perm _
  · exact .refl _

/-- The largest buffers are of one size. -/
theorem level_heaviest (hl : Arena.Ordered l.buffers) (t : TieBreak) :
    l.Level l.largestSize (l.heaviest t) where
  nodup := by
    have hsites : (l.buffers.map (·.1)).Nodup := (Arena.ordered_iff.mp hl).imp Nat.ne_of_lt
    exact (perm_heaviest l t .siteOrder).nodup_iff.mpr
      (hsites.sublist (List.filter_sublist.map _))
  size site hsite := by
    obtain ⟨b, hb, hsize, -⟩ := mem_heaviest_iff.mp hsite
    exact ⟨b, (Arena.lookup_eq_some_iff hl).mpr hb, hsize⟩
  pos site hsite := by
    obtain ⟨-, -, -, hpos⟩ := mem_heaviest_iff.mp hsite
    exact hpos

/-- The ceiling of the next pass depends on the unit alone. -/
theorem nextCeiling_eq (hunit : p'.evictionUnit = p.evictionUnit) (l : Ledger) :
    l.nextCeiling p' = l.nextCeiling p := by
  rw [nextCeiling, nextCeiling, hunit]

theorem lowerCeiling_eq (hunit : p'.evictionUnit = p.evictionUnit) (l : Ledger) :
    l.lowerCeiling p' = l.lowerCeiling p := by
  rw [lowerCeiling, lowerCeiling, nextCeiling_eq hunit]

section Pass

variable (capacity : Nat) (hl : Arena.Ordered l.buffers)
  (hunit : p'.evictionUnit = p.evictionUnit)

include hl hunit

/-- **The first sweep of a pass** leaves ledgers alike, and the same ledger unless it
comes to rest. -/
theorem alike_evened :
    (l.evened p capacity).Alike (l.evened p' capacity) ∧
      (capacity < (l.evened p capacity).retained → l.evened p' capacity = l.evened p capacity) := by
  have hlowered : Arena.Ordered (l.lowerCeiling p).buffers := by
    rw [buffers_lowerCeiling]
    exact hl
  have hperm := perm_heaviest (l.lowerCeiling p) p'.tieBreak p.tieBreak
  have hlevel := level_heaviest hlowered p.tieBreak
  have hlevel' := level_heaviest hlowered p'.tieBreak
  have halike : (l.evened p capacity).Alike (l.evened p' capacity) := by
    rw [evened, evened, lowerCeiling_eq hunit, hunit]
    exact (Alike.refl _).foldl_shave p.evictionUnit_pos hlowered hlowered hlevel hlevel'
      hperm.length_eq
  refine ⟨halike, fun hover => halike.eq ?_⟩
  have hover' : capacity < (l.evened p' capacity).retained := halike.retained ▸ hover
  rw [evened, lowerCeiling_eq hunit, hunit] at hover' ⊢
  rw [evened] at hover ⊢
  rw [hlevel'.buffers_foldl_shave p.evictionUnit_pos hover',
    hlevel.buffers_foldl_shave p.evictionUnit_pos hover]
  simp only [hperm.mem_iff]

/-- **A pass** leaves ledgers alike, and the same ledger unless it comes to rest. -/
theorem alike_pass :
    (l.pass p capacity).Alike (l.pass p' capacity) ∧
      (capacity < (l.pass p capacity).retained → l.pass p' capacity = l.pass p capacity) := by
  obtain ⟨halike, hsame⟩ := alike_evened capacity hl hunit
  rw [pass_eq, pass_eq, nextCeiling_eq hunit]
  rcases Nat.lt_or_ge capacity (l.evened p capacity).retained with hover | hle
  · -- all of the largest buffers have paid, and the other sweep knows no ties
    rw [hsame hover]
    exact ⟨.refl _, fun _ => rfl⟩
  · rw [foldl_shave_of_le hle, foldl_shave_of_le (halike.retained ▸ hle)]
    exact ⟨halike, fun hover => absurd hover (Nat.not_lt_of_le hle)⟩

/-- **Any number of passes**, by induction on what the ceiling can still fall by: unless
one of them comes to rest, the runs go on from the same ledger. -/
theorem alike_passes (bound : Nat) :
    (l.passes p capacity bound).Alike (l.passes p' capacity bound) := by
  induction bound generalizing l with
  | zero => exact (alike_pass capacity hl hunit).1
  | succ bound ih =>
    obtain ⟨halike, hsame⟩ := alike_pass capacity hl hunit
    rcases Nat.lt_or_ge capacity (l.pass p capacity).retained with hover | hle
    · rw [passes, passes, nextCeiling_eq hunit, hsame hover]
      split_ifs
      · exact ih ((moves_pass p capacity l).ordered hl)
      · exact .refl _
    · rw [passes_of_le hle, passes_of_le (halike.retained ▸ hle)]
      exact halike

/-- Two enforcements that differ in their tie-break. -/
theorem alike_enforce : (l.enforce p capacity).Alike (l.enforce p' capacity) := by
  rw [enforce, enforce]
  split_ifs
  · exact alike_passes capacity (l := l.counted) hl hunit l.ceiling
  · exact .refl l

end Pass

/-- **The tie-break does not affect the whole.** Given any buffers, listed by increasing
sites, any number of retained events, right or wrong, any ceiling, capacity and eviction
unit, and whatever enforcement has done before: whether the lowest or the highest of the
largest buffers is trimmed first, the same number of events is evicted, and the retained
events, the ceiling and the statistics are the same in the end. So are the sizes of the
buffers, but for their sites. -/
theorem aggregates_of_tieBreak (hl : Arena.Ordered l.buffers) (unit capacity : Nat) :
    let forwards := l.enforce (.of unit .siteOrder) capacity
    let backwards := l.enforce (.of unit .reverse) capacity
    l.evictions (.of unit .reverse) capacity = l.evictions (.of unit .siteOrder) capacity ∧
      backwards.retained = forwards.retained ∧
      backwards.ceiling = forwards.ceiling ∧
      backwards.stats = forwards.stats ∧
      (backwards.buffers.map fun x => x.2.size).Perm (forwards.buffers.map fun x => x.2.size) := by
  intro forwards backwards
  have halike : forwards.Alike backwards := alike_enforce capacity hl rfl
  -- the answers are what the statistics have grown by
  have hanswer := evicted_enforce (.of unit .reverse) capacity l
  rw [halike.stats, evicted_enforce] at hanswer
  exact ⟨(Nat.add_left_cancel hanswer).symm, halike.retained, halike.ceiling, halike.stats,
    halike.perm⟩

/-- Three buffers, two of which are the largest, with a number of retained events that is
too small. -/
def paired : Ledger where
  buffers := [(1, crowded.buffer 4), (2, crowded.buffer 2), (9, crowded.buffer 4)]
  retained := 7
  ceiling := 5
  stats := {}

/-- The budget is kept after one trim. Which of the two buffers has paid for it is the only
difference. -/
theorem aggregates_of_tieBreak_paired :
    let forwards := paired.enforce (.of 3 .siteOrder) 6
    let backwards := paired.enforce (.of 3 .reverse) 6
    Arena.Ordered paired.buffers ∧
    paired.evictions (.of 3 .siteOrder) 6 = 3 ∧ paired.evictions (.of 3 .reverse) 6 = 3 ∧
    forwards.buffers.map (fun x => x.2.size) = [1, 2, 4] ∧
    backwards.buffers.map (fun x => x.2.size) = [4, 2, 1] ∧
    backwards.retained = forwards.retained ∧ backwards.stats = forwards.stats := by
  have hordered : Arena.Ordered paired.buffers := by simp [paired, Arena.Ordered]
  obtain ⟨hanswer, hretained, -, hstats, -⟩ := aggregates_of_tieBreak hordered 3 6
  have hthree : paired.evictions (.of 3 .siteOrder) 6 = 3 := by decide +kernel
  exact ⟨hordered, hthree, hanswer.trans hthree, by decide +kernel, by decide +kernel, hretained,
    hstats⟩

end FlightRecorder.Ledger
