import FlightRecorder.Proofs.Budget.Evictions
import FlightRecorder.Proofs.SiteBuffer.Absorbing

/-!
# Enforcement, from any state

A registry comes to the budget with one event too many at the most, but enforcement
does not rely on that: it may be given buffers that were put back, any number of events
over the budget, with a ceiling far below their sizes or none at all. This file says
what it does then. The loop of passes ends, since the ceiling falls in all of them but
the last; its answer is the number of events by which the buffers got shorter and the
number of retained events got smaller; what a buffer loses are its oldest events; and in
the end the budget is kept or nothing is left to trim.

* `FlightRecorder.Ledger.Loop` – the loop of passes, without a bound
  (`FlightRecorder.Ledger.exists_loop_passes`, `FlightRecorder.Ledger.Loop.unique`);
* `FlightRecorder.Ledger.Moves.retained_add_evicted` – no event goes uncounted;
* `FlightRecorder.SiteBuffer.CutTo` – a buffer that has lost its oldest events, and
  limit and count with them (`FlightRecorder.Ledger.Moves.cutTo`);
* `FlightRecorder.Ledger.enforce_of_sound` – **what enforcement does from any state**.
-/

namespace FlightRecorder

/-! ### Buffers that have been trimmed -/

namespace SiteBuffer

variable {b b' b'' : SiteBuffer}

/-- **A buffer that has lost its oldest events**, any number of them at a time: the
newest are left, and the limit and the count have fallen by as many as are gone. -/
structure CutTo (b b' : SiteBuffer) : Prop where
  kind : b'.kind = b.kind
  retention : b'.retention = b.retention
  events : b'.events <:+ b.events
  count : b'.count = b.count - (b.size - b'.size)
  limit : b'.limit = max (b.limit - (b.size - b'.size)) 1

theorem CutTo.refl (hb : b.WellFormed) : b.CutTo b where
  kind := rfl
  retention := rfl
  events := List.suffix_refl _
  count := by rw [Nat.sub_self, Nat.sub_zero]
  limit := by
    have := hb.limit_pos
    omega

theorem CutTo.dropOldest (h : b.CutTo b') (hb' : b'.WellFormed) (n : Nat) :
    b.CutTo (b'.dropOldest n) := by
  have hsize : b'.size ≤ b.size := by
    simpa using h.events.length_le
  have hlimit := h.limit
  refine ⟨h.kind, h.retention, ?_, ?_, ?_⟩
  · rw [events_dropOldest hb']
    exact (List.drop_suffix n _).trans h.events
  · rw [count_dropOldest, size_dropOldest, h.count]
    omega
  · rw [limit_dropOldest hb', size_dropOldest]
    omega

end SiteBuffer

namespace Ledger

variable {p : BudgetPolicy} {capacity n : Nat} {l l' : Ledger}

/-! ### The loop -/

/-- **The loop of passes**: `Loop p capacity n l l'` says that it ends after `n` of them,
with `l'`, because no more than `capacity` events are retained or the ceiling of the last
pass was one. -/
inductive Loop (p : BudgetPolicy) (capacity : Nat) : Nat → Ledger → Ledger → Prop
  | last {l : Ledger} : (l.pass p capacity).isOver capacity = false ∨ l.nextCeiling p = 1 →
      Loop p capacity 1 l (l.pass p capacity)
  | again {n : Nat} {l l' : Ledger} : (l.pass p capacity).isOver capacity = true →
      l.nextCeiling p ≠ 1 → Loop p capacity n (l.pass p capacity) l' →
      Loop p capacity (n + 1) l l'

/-- **It ends**, by induction on what the ceiling can still fall by: there are no more
passes than that, and the one that is made in any case. -/
theorem exists_loop_passes (p : BudgetPolicy) (capacity : Nat) {bound : Nat}
    (hbound : l.ceiling ≤ bound) :
    ∃ n ≤ max l.ceiling 1, Loop p capacity n l (l.passes p capacity bound) := by
  induction bound generalizing l with
  | zero =>
    have hone : l.nextCeiling p = 1 := by
      rw [nextCeiling]
      omega
    exact ⟨1, Nat.le_max_right _ _, .last (.inr hone)⟩
  | succ bound ih =>
    rw [passes]
    split_ifs with hagain
    · have hlt := ceiling_pass_lt capacity hagain.2
      obtain ⟨n, hn, hloop⟩ := ih (l := l.pass p capacity) (by omega)
      have hpos : 1 < l.ceiling := by
        have := hagain.2
        rw [nextCeiling] at this
        omega
      exact ⟨n + 1, by omega, .again hagain.1 hagain.2 hloop⟩
    · refine ⟨1, Nat.le_max_right _ _, .last ?_⟩
      rw [not_and_or, Bool.not_eq_true, not_ne_iff] at hagain
      exact hagain

/-- The loop has but one outcome. -/
theorem Loop.unique (h : Loop p capacity n l l') {n' : Nat} {l'' : Ledger}
    (h' : Loop p capacity n' l l'') : n = n' ∧ l' = l'' := by
  induction h generalizing n' l'' with
  | last hend =>
    cases h' with
    | last => exact ⟨rfl, rfl⟩
    | again hover hne =>
      rw [hover] at hend
      exact absurd hend (by simpa using hne)
  | again hover hne _ ih =>
    cases h' with
    | last hend =>
      rw [hover] at hend
      exact absurd hend (by simpa using hne)
    | again _ _ hrest =>
      obtain ⟨rfl, rfl⟩ := ih hrest
      exact ⟨rfl, rfl⟩

/-! ### What becomes of events and buffers -/

/-- **No event goes uncounted**: those that are retained no more were evicted. -/
theorem Moves.retained_add_evicted (h : Moves p capacity l l') (hl : l.arena.Sound) :
    l'.retained + l'.stats.evicted = l.retained + l.stats.evicted := by
  induction h with
  | refl => rfl
  | @tail m _ hmoves hmove ih =>
    have hm : m.arena.Sound := Moves.sound hmoves hl
    refine Eq.trans ?_ ih
    cases hmove with
    | lower =>
      have hsame : (m.lowerCeiling p).retained = m.retained :=
        congrArg Arena.retained (arena_lowerCeiling p m)
      rw [hsame, stats_lowerCeiling]
    | @cut site n b _ hb _ hn =>
      have hle : b.size ≤ m.retained := hm.size_le hb
      have hevicted : (m.cut site n).stats.evicted = m.stats.evicted + n := rfl
      rw [retained_cut hm hb hn, hevicted]
      omega

/-- **A buffer loses its oldest events**, and the buffer of no other site comes in its
place. -/
theorem Moves.cutTo (h : Moves p capacity l l') (hl : l.arena.Sound) :
    ∀ x ∈ l'.buffers, ∃ b, (x.1, b) ∈ l.buffers ∧ b.CutTo x.2 :=
  h.forall_mem hl (Q := fun site x => ∃ b, (site, b) ∈ l.buffers ∧ b.CutTo x)
    (fun _ _ n hx _ ⟨b, hb, hcut⟩ => ⟨b, hb, hcut.dropOldest hx n⟩)
    fun x hx => ⟨x.2, hx, .refl (hl.wellFormed x hx)⟩

/-- **What enforcement does from any state.** Given any buffers, listed by increasing
sites, whose number of retained events is right, and any capacity, ceiling, eviction unit
and tie-break: the loop of passes ends, and enforcement is its only outcome. Its answer
is what the retained events, the events in the buffers and the count of evicted events
differ by before and after; the retained events are counted right again. The same sites
have a buffer, each of which has kept its newest events. The ceiling has not risen, and
the budget is kept, unless the ceiling is at most one and so is the size of every buffer.
If the budget was kept before, nothing has changed. -/
theorem enforce_of_sound (p : BudgetPolicy) (capacity : Nat) (hl : l.arena.Sound) :
    let after := l.enforce p capacity
    let answer := l.evictions p capacity
    (capacity < l.retained → ∃ n ≤ max l.ceiling 1, Loop p capacity n l.counted after ∧
      ∀ n' l', Loop p capacity n' l.counted l' → n' = n ∧ l' = after) ∧
    after.retained + answer = l.retained ∧
    after.arena.totalSize + answer = l.arena.totalSize ∧
    after.stats.evicted = l.stats.evicted + answer ∧
    after.retained = after.arena.totalSize ∧
    after.buffers.map (·.1) = l.buffers.map (·.1) ∧
    (∀ x ∈ after.buffers, ∃ b, (x.1, b) ∈ l.buffers ∧ b.CutTo x.2) ∧
    after.ceiling ≤ l.ceiling ∧
    (after.retained ≤ capacity ∨ (after.ceiling ≤ 1 ∧ ∀ x ∈ after.buffers, x.2.size ≤ 1)) ∧
    (l.retained ≤ capacity → after = l ∧ answer = 0) := by
  intro after answer
  have hevicted : after.stats.evicted = l.stats.evicted + answer := evicted_enforce p capacity l
  have hsettled : Settled capacity after := settled_enforce p capacity hl
  rcases Nat.lt_or_ge capacity l.retained with hover | hkept
  · have hcounted : l.counted.arena.Sound := hl
    have hmoves : Moves p capacity l.counted after := moves_enforce p hover
    have hafter : after.arena.Sound := hmoves.sound hcounted
    have hbalance : after.retained + after.stats.evicted = l.retained + l.stats.evicted :=
      hmoves.retained_add_evicted hcounted
    have hretained : after.retained + answer = l.retained := by omega
    have htotal : after.retained = after.arena.totalSize := hafter.retained
    have hbefore : l.retained = l.arena.totalSize := hl.retained
    obtain ⟨n, hn, hloop⟩ := exists_loop_passes p capacity (le_refl l.counted.ceiling)
    have houtcome : Loop p capacity n l.counted after := by
      rw [show after = _ from enforce_of_lt p hover]
      exact hloop
    refine ⟨fun _ => ⟨n, hn, houtcome, fun n' l' h => h.unique houtcome⟩, hretained,
      by rw [← htotal, ← hbefore, hretained], hevicted, htotal, hmoves.sites,
      hmoves.cutTo hcounted, hmoves.ceiling_le, hsettled, fun hle => ?_⟩
    exact absurd hle (Nat.not_le_of_lt hover)
  · have hsame : after = l := enforce_of_le p hkept
    have hnone : answer = 0 := by
      rw [hsame] at hevicted
      omega
    rw [hsame, hnone] at *
    exact ⟨fun hover => absurd hkept (Nat.not_le_of_lt hover), rfl, rfl, rfl, hl.retained, rfl,
      fun x hx => ⟨x.2, hx, .refl (hl.wellFormed x hx)⟩, le_refl _, .inl hkept, fun _ => ⟨rfl, rfl⟩⟩

/-- Five events, three and none, under a ceiling. -/
def crowded (ceiling : Nat) : Ledger where
  buffers := [(1, buffer 5), (2, buffer 3), (9, buffer 0)]
  retained := 8
  ceiling := ceiling
  stats := {}
where
  /-- A buffer of `n` numbers. -/
  buffer (n : Nat) : SiteBuffer :=
    (SiteBuffer.new (.of .int) 6 .weak).pushAll (List.replicate n ⟨.int 7, 0, 0⟩)

/-- Without a ceiling there is one pass, which leaves an event at each of the two
sites: one too many, and there is nothing left to trim. -/
theorem enforce_of_sound_crowded :
    (crowded 0).arena.Sound ∧
    (let after := (crowded 0).enforce (.of 1 .reverse) 1
     after.retained = 2 ∧ after.stats.evicted = 6 ∧
      after.buffers.map (fun x => x.2.size) = [1, 1, 0] ∧
      (∀ x ∈ after.buffers, ∃ b, (x.1, b) ∈ (crowded 0).buffers ∧ b.CutTo x.2) ∧
      after.ceiling ≤ 1 ∧ ∀ x ∈ after.buffers, x.2.size ≤ 1) := by
  have hsound : (crowded 0).arena.Sound := by
    refine ⟨by simp [arena, crowded, Arena.Ordered], ?_, by decide +kernel⟩
    have hbuffer : ∀ n, (crowded.buffer n).WellFormed := fun n =>
      (SiteBuffer.wellFormed_new _ _ _).pushAll _
    simp [arena, crowded, hbuffer]
  obtain ⟨-, -, -, hevicted, -, -, hcut, -, hleft, -⟩ :=
    enforce_of_sound (.of 1 .reverse) 1 hsound
  have hover : ((crowded 0).enforce (.of 1 .reverse) 1).retained = 2 := by decide +kernel
  obtain ⟨hceiling, hsmall⟩ := hleft.resolve_left (by rw [hover]; decide)
  exact ⟨hsound, hover, hevicted.trans (by decide +kernel), by decide +kernel, hcut, hceiling,
    hsmall⟩

end Ledger

end FlightRecorder
