import FlightRecorder.Proofs.Budget.Settling

/-!
# Smaller budgets

A budget that is smaller asks for more of the same. Enforcement stops as soon as the
budget is kept, so two runs from the same state that differ in the capacity go together
until the one with the larger capacity comes to rest, within a sweep, between the two
sweeps of a pass, or between two passes; the other one goes on from there. If the first
one gives up instead, so does the second at that very moment. In all of these cases the
ledger of the smaller capacity comes out of that of the larger one by further moves, and
that is what this file proves.

* `FlightRecorder.Ledger.Continues` – a run that has gone on where another came to rest
  (`FlightRecorder.Ledger.continues_foldl_shave`, `FlightRecorder.Ledger.continues_pass`);
* `FlightRecorder.Ledger.moves_passes_of_le` – the passes of two runs;
* `FlightRecorder.Ledger.enforce_of_capacity_le` – **two capacities**: what is left, and
  what it took.
-/

namespace FlightRecorder.Ledger

variable {p : BudgetPolicy} {c c' : Nat} {l l' : Ledger}

/-! ### Runs that go together -/

/-- **A run has gone on where another came to rest**: from the ledger `loose`, which the
capacity `c'` has led to, the run with the capacity `c` has made further moves to `tight`;
and none, if the first one has not come to rest. -/
structure Continues (p : BudgetPolicy) (c c' : Nat) (loose tight : Ledger) : Prop where
  moves : Moves p c loose tight
  eq : c' < loose.retained → tight = loose

section Runs

variable (hle : c ≤ c')

include hle

/-- **A sweep**, by induction on the sites that are left. -/
theorem continues_foldl_shave (p : BudgetPolicy) (amount : SiteBuffer → Nat) (sites : List Nat)
    (l : Ledger) :
    Continues p c c' (sites.foldl (shave c' amount) l) (sites.foldl (shave c amount) l) := by
  induction sites generalizing l with
  | nil => exact ⟨.refl, fun _ => rfl⟩
  | cons site rest ih =>
    rcases Nat.lt_or_ge c' l.retained with hover | hrest
    · have hsame : shave c amount l site = shave c' amount l site := by
        rw [shave_of_lt (hle.trans_lt hover), shave_of_lt hover]
      rw [List.foldl_cons, List.foldl_cons, hsame]
      exact ih _
    · rw [foldl_shave_of_le hrest]
      exact ⟨moves_foldl_shave p amount _, fun hover => absurd hover (Nat.not_lt_of_le hrest)⟩

/-- **A pass**: the run with the larger capacity comes to rest in the first sweep, in the
second one, or not at all. -/
theorem continues_pass (p : BudgetPolicy) (l : Ledger) :
    Continues p c c' (l.pass p c') (l.pass p c) := by
  have hevened : Continues p c c' (l.evened p c') (l.evened p c) :=
    continues_foldl_shave hle p _ _ _
  rw [pass_eq, pass_eq]
  rcases Nat.lt_or_ge c' (l.evened p c').retained with hover | hrest
  · rw [hevened.eq hover]
    exact continues_foldl_shave hle p _ _ _
  · rw [foldl_shave_of_le hrest]
    exact ⟨hevened.moves.trans (moves_foldl_shave p _ _),
      fun hover => absurd hover (Nat.not_lt_of_le hrest)⟩

/-- **Any number of passes**, by induction on what the ceiling can still fall by. -/
theorem moves_passes_of_le (p : BudgetPolicy) (bound : Nat) (l : Ledger) :
    Moves p c (l.passes p c' bound) (l.passes p c bound) := by
  induction bound generalizing l with
  | zero => exact (continues_pass hle p l).moves
  | succ bound ih =>
    have hpass := continues_pass hle p l
    rw [passes]
    split_ifs with hagain
    · -- neither of the two has come to rest, so the next pass begins with one ledger
      have hover : c' < (l.pass p c').retained := isOver_iff.mp hagain.1
      have hover' : c < (l.pass p c).retained := by
        rw [hpass.eq hover]
        exact hle.trans_lt hover
      rw [passes, if_pos ⟨isOver_iff.mpr hover', hagain.2⟩, hpass.eq hover]
      exact ih _
    · exact hpass.moves.trans (moves_pass_passes p c (bound + 1) l)

/-- Two enforcements. One of them is counted even if the larger capacity asks for none. -/
theorem moves_enforce_of_le (p : BudgetPolicy) (l : Ledger) :
    Moves p c (l.enforce p c') (l.enforce p c) ∨
      (l.enforce p c' = l ∧ Moves p c l.counted (l.enforce p c)) := by
  rcases Nat.lt_or_ge c' l.retained with hover | hrest
  · rw [enforce_of_lt p hover, enforce_of_lt p (hle.trans_lt hover)]
    exact .inl (moves_passes_of_le hle p l.ceiling l.counted)
  · rw [enforce_of_le p hrest]
    rcases Nat.lt_or_ge c l.retained with hover | hkept
    · exact .inr ⟨rfl, moves_enforce p hover⟩
    · rw [enforce_of_le p hkept]
      exact .inl .refl

end Runs

/-! ### What further moves do -/

/-- The decrements of the ceiling are never taken back. -/
theorem Moves.ceilingDecrements_le (h : Moves p c l l') :
    l.stats.ceilingDecrements ≤ l'.stats.ceilingDecrements := by
  induction h with
  | refl => exact le_refl _
  | tail _ hmove ih =>
    refine ih.trans ?_
    cases hmove with
    | lower =>
      rw [stats_lowerCeiling]
      exact Nat.le_add_right _ _
    | cut => exact le_refl _

/-- **Ledgers one of which has been trimmed further**: at the same sites there are the
newest events of what the other one has, the ceiling is no higher, and more was counted. -/
structure Further (loose tight : Ledger) : Prop where
  sites : tight.arena.sites = loose.arena.sites
  buffers : ∀ site b', tight.arena.find? site = some b' →
    ∃ b, loose.arena.find? site = some b ∧ b'.events <:+ b.events
  ceiling : tight.ceiling ≤ loose.ceiling
  evicted : loose.stats.evicted ≤ tight.stats.evicted
  trims : loose.stats.trims ≤ tight.stats.trims
  ceilingDecrements : loose.stats.ceilingDecrements ≤ tight.stats.ceilingDecrements

theorem Moves.further (h : Moves p c l l') (hl : l.arena.Sound) : l.Further l' where
  sites := h.sites
  buffers site b' hb' := by
    obtain ⟨b, hb, hcut⟩ := h.cutTo hl (site, b') ((h.sound hl).find?_eq_some_iff.mp hb')
    exact ⟨b, hl.find?_eq_some_iff.mpr hb, hcut.events⟩
  ceiling := h.ceiling_le
  evicted := by
    obtain ⟨htrims, hevicted⟩ := h.trims_add_evicted_le
    omega
  trims := h.trims_add_evicted_le.1
  ceilingDecrements := h.ceilingDecrements_le

/-- **A smaller capacity trims further.** Given any buffers, listed by increasing sites,
whose number of retained events is right, any ceiling, eviction unit and tie-break, and two
capacities: enforcement of the smaller one leaves at each site the newest of the events that
enforcement of the larger one leaves there, and a ceiling that is no higher; it evicts as
many events or more, in as many trims or more, and lowers the ceiling as often or more
often. -/
theorem enforce_of_capacity_le (p : BudgetPolicy) (hl : l.arena.Sound) (hle : c ≤ c') :
    let tight := l.enforce p c
    let loose := l.enforce p c'
    tight.arena.sites = loose.arena.sites ∧
      (∀ site b', tight.arena.find? site = some b' →
        ∃ b, loose.arena.find? site = some b ∧ b'.events <:+ b.events) ∧
      tight.ceiling ≤ loose.ceiling ∧
      l.evictions p c' ≤ l.evictions p c ∧
      loose.stats.evicted ≤ tight.stats.evicted ∧
      loose.stats.trims ≤ tight.stats.trims ∧
      loose.stats.ceilingDecrements ≤ tight.stats.ceilingDecrements := by
  intro tight loose
  have hfurther : loose.Further tight := by
    rcases moves_enforce_of_le hle p l with hmoves | ⟨hnone, hmoves⟩
    · refine hmoves.further ?_
      rcases Nat.lt_or_ge c' l.retained with hover | hkept
      · exact (moves_enforce p hover).sound (l := l.counted) hl
      · rw [enforce_of_le p hkept]
        exact hl
    · -- nothing but the count of enforcements differs from the ledger at the beginning
      have hcounted := hmoves.further (l := l.counted) hl
      rw [show loose = l from hnone]
      exact ⟨hcounted.sites, hcounted.buffers, hcounted.ceiling, hcounted.evicted, hcounted.trims,
        hcounted.ceilingDecrements⟩
  have hevicted := hfurther.evicted
  have hanswer : l.stats.evicted + l.evictions p c' ≤ l.stats.evicted + l.evictions p c := by
    rw [← evicted_enforce, ← evicted_enforce]
    exact hevicted
  exact ⟨hfurther.sites, hfurther.buffers, hfurther.ceiling, Nat.le_of_add_le_add_left hanswer,
    hevicted, hfurther.trims, hfurther.ceilingDecrements⟩

/-- Eight events under a budget of six and of three. The larger budget is kept after a
single trim, the smaller one after two more of them in the second pass. -/
theorem enforce_of_capacity_le_crowded :
    let tight := (crowded 5).enforce (.of 2 .siteOrder) 3
    let loose := (crowded 5).enforce (.of 2 .siteOrder) 6
    (crowded 5).arena.Sound ∧ 3 ≤ 6 ∧
    loose.buffers.map (fun x => x.2.size) = [3, 3, 0] ∧
    tight.buffers.map (fun x => x.2.size) = [1, 1, 0] ∧
    (∀ site b', tight.arena.find? site = some b' →
      ∃ b, loose.arena.find? site = some b ∧ b'.events <:+ b.events) ∧
    tight.ceiling ≤ loose.ceiling ∧ loose.stats.trims ≤ tight.stats.trims := by
  have hsound : (crowded 5).arena.Sound := by
    have hbuffer : ∀ n, (crowded.buffer n).WellFormed := fun n =>
      (SiteBuffer.wellFormed_new _ _ _).pushAll _
    exact ⟨by simp [arena, crowded, Arena.Ordered], by simp [arena, crowded, hbuffer],
      by decide +kernel⟩
  have hle : 3 ≤ 6 := by decide
  obtain ⟨-, hbuffers, hceiling, -, -, htrims, -⟩ :=
    enforce_of_capacity_le (.of 2 .siteOrder) hsound hle
  exact ⟨hsound, hle, by decide +kernel, by decide +kernel, hbuffers, hceiling, htrims⟩

end FlightRecorder.Ledger
