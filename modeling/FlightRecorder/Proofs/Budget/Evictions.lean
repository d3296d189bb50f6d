import FlightRecorder.Proofs.Budget

/-!
# What enforcement answers, and what it counts

Enforcement answers with the number of events it evicted. It has the number from its
trims, each of which says how many events its buffer lost, and adds them up on its way
through sweeps and passes. Apart from that it keeps statistics, and the ceiling. This
file proves that all of these agree, whatever the buffers, the ceiling and the number
of passes.

* `FlightRecorder.Ledger.evictions` – **the answer**, added up along the loops;
* `FlightRecorder.Ledger.evicted_enforce` – the statistics grow by as much;
* `FlightRecorder.Ledger.Lowered` – the ceiling is where its decrements have brought
  it, kept by every move (`FlightRecorder.Ledger.Moves.lowered`);
* `FlightRecorder.Ledger.Moves.trims_add_evicted_le`,
  `FlightRecorder.Ledger.trims_lt_enforce` – a trim removes something, and no
  enforcement goes without one.
-/

namespace FlightRecorder.Ledger

variable {p : BudgetPolicy} {capacity first : Nat} {l l' : Ledger}

/-! ### The answer -/

/-- How many events a trim takes off the buffer of a site: what the buffer loses. -/
def trimmed (l : Ledger) (amount : SiteBuffer → Nat) (site : Nat) : Nat :=
  match l.buffers.lookup site with
  | none => 0
  | some b => b.size - (b.dropOldest (amount b)).size

/-- The same, provided that too many events are retained. -/
def shaved (capacity : Nat) (amount : SiteBuffer → Nat) (l : Ledger) (site : Nat) : Nat :=
  if l.isOver capacity then l.trimmed amount site else 0

/-- How many events a sweep over sites takes off their buffers. -/
def swept (capacity : Nat) (amount : SiteBuffer → Nat) : Ledger → List Nat → Nat
  | _, [] => 0
  | l, site :: rest =>
    shaved capacity amount l site + swept capacity amount (shave capacity amount l site) rest

/-- A ledger after the first sweep of a pass, the one over the largest buffers. -/
def evened (p : BudgetPolicy) (capacity : Nat) (l : Ledger) : Ledger :=
  ((l.lowerCeiling p).heaviest p.tieBreak).foldl
    (shave capacity fun b => min p.evictionUnit b.size) (l.lowerCeiling p)

/-- A pass is a second sweep after that, the one over all sites. -/
theorem pass_eq (p : BudgetPolicy) (capacity : Nat) (l : Ledger) :
    l.pass p capacity =
      ((l.evened p capacity).buffers.map (·.1)).foldl
        (shave capacity fun b => b.size - l.nextCeiling p) (l.evened p capacity) := rfl

/-- How many events a pass evicts, in its two sweeps. -/
def passEvictions (p : BudgetPolicy) (capacity : Nat) (l : Ledger) : Nat :=
  swept capacity (fun b => min p.evictionUnit b.size) (l.lowerCeiling p)
      ((l.lowerCeiling p).heaviest p.tieBreak) +
    swept capacity (fun b => b.size - l.nextCeiling p) (l.evened p capacity)
      ((l.evened p capacity).buffers.map (·.1))

/-- How many events the passes evict. -/
def passesEvictions (p : BudgetPolicy) (capacity : Nat) : Nat → Ledger → Nat
  | 0, l => l.passEvictions p capacity
  | bound + 1, l =>
    let next := l.pass p capacity
    l.passEvictions p capacity +
      if next.isOver capacity ∧ l.nextCeiling p ≠ 1 then next.passesEvictions p capacity bound
      else 0

/-- **The answer of enforcement**: how many events it evicted. -/
def evictions (p : BudgetPolicy) (capacity : Nat) (l : Ledger) : Nat :=
  if l.isOver capacity then l.counted.passesEvictions p capacity l.ceiling else 0

/-! ### The answer is what the statistics grow by -/

/-- Lowering the ceiling counts if it falls, and counts nothing else. -/
theorem stats_lowerCeiling (p : BudgetPolicy) (l : Ledger) :
    (l.lowerCeiling p).stats = { l.stats with
      ceilingDecrements := l.stats.ceilingDecrements +
        if l.nextCeiling p < l.ceiling then 1 else 0 } := by
  rw [lowerCeiling]
  split_ifs <;> rfl

theorem evicted_trim (l : Ledger) (amount : SiteBuffer → Nat) (site : Nat) :
    (l.trim amount site).stats.evicted = l.stats.evicted + l.trimmed amount site := by
  rw [trim, trimmed]
  cases l.buffers.lookup site with
  | none => rfl
  | some b =>
    have hlost : b.size - (b.dropOldest (amount b)).size = min (amount b) b.size := by
      rw [SiteBuffer.size_dropOldest]
      omega
    simp only [hlost]
    split_ifs with hzero
    · rw [hzero, Nat.add_zero]
    · rfl

theorem evicted_shave (capacity : Nat) (amount : SiteBuffer → Nat) (l : Ledger) (site : Nat) :
    (shave capacity amount l site).stats.evicted =
      l.stats.evicted + shaved capacity amount l site := by
  rw [shave, shaved]
  split_ifs
  · exact evicted_trim l amount site
  · rfl

theorem evicted_foldl_shave (capacity : Nat) (amount : SiteBuffer → Nat) (l : Ledger)
    (sites : List Nat) :
    (sites.foldl (shave capacity amount) l).stats.evicted =
      l.stats.evicted + swept capacity amount l sites := by
  induction sites generalizing l with
  | nil => rfl
  | cons site rest ih =>
    rw [List.foldl_cons, ih, evicted_shave, swept, Nat.add_assoc]

theorem evicted_pass (p : BudgetPolicy) (capacity : Nat) (l : Ledger) :
    (l.pass p capacity).stats.evicted = l.stats.evicted + l.passEvictions p capacity := by
  have hevened := evicted_foldl_shave capacity (fun b => min p.evictionUnit b.size)
    (l.lowerCeiling p) ((l.lowerCeiling p).heaviest p.tieBreak)
  have hpass := evicted_foldl_shave capacity (fun b => b.size - l.nextCeiling p)
    (l.evened p capacity) ((l.evened p capacity).buffers.map (·.1))
  rw [stats_lowerCeiling] at hevened
  rw [evened, hevened] at hpass
  rw [passEvictions, ← Nat.add_assoc]
  exact hpass

theorem evicted_passes (p : BudgetPolicy) (capacity bound : Nat) (l : Ledger) :
    (l.passes p capacity bound).stats.evicted =
      l.stats.evicted + l.passesEvictions p capacity bound := by
  induction bound generalizing l with
  | zero => exact evicted_pass p capacity l
  | succ bound ih =>
    rw [passes, passesEvictions]
    split_ifs
    · rw [ih, evicted_pass, Nat.add_assoc]
    · exact evicted_pass p capacity l

/-- **The statistics grow by the answer**: no event is evicted without being
counted, and none is counted twice. -/
theorem evicted_enforce (p : BudgetPolicy) (capacity : Nat) (l : Ledger) :
    (l.enforce p capacity).stats.evicted = l.stats.evicted + l.evictions p capacity := by
  rw [enforce, evictions]
  split_ifs
  · exact evicted_passes p capacity l.ceiling l.counted
  · rfl

/-! ### Decrements of the ceiling -/

/-- **The ceiling is where its decrements have brought it**, from `first` on, each of
them by an eviction unit, though not below one. -/
def Lowered (p : BudgetPolicy) (first : Nat) (l : Ledger) : Prop :=
  l.ceiling = max (first - p.evictionUnit * l.stats.ceilingDecrements) 1

/-- A ceiling at one is not lowered, and its decrements are not counted. -/
theorem Lowered.lowerCeiling (h : l.Lowered p first) : (l.lowerCeiling p).Lowered p first := by
  rw [Ledger.lowerCeiling]
  split_ifs
  · rw [Lowered] at h ⊢
    simp only [nextCeiling, h, Nat.mul_succ]
    omega
  · exact h

theorem Moves.lowered (h : Moves p capacity l l') (hl : l.Lowered p first) :
    l'.Lowered p first := by
  induction h with
  | refl => exact hl
  | tail _ hmove ih =>
    cases hmove with
    | lower => exact ih.lowerCeiling
    | cut => exact ih

/-! ### Trims -/

/-- **Every trim removes something**: over any moves, the evicted events grow by at
least as much as the trims. -/
theorem Moves.trims_add_evicted_le (h : Moves p capacity l l') :
    l.stats.trims ≤ l'.stats.trims ∧
      l'.stats.trims + l.stats.evicted ≤ l.stats.trims + l'.stats.evicted := by
  induction h with
  | refl => exact ⟨le_refl _, le_refl _⟩
  | tail _ hmove ih =>
    cases hmove with
    | lower =>
      rw [stats_lowerCeiling]
      exact ih
    | cut _ _ hpos =>
      simp only [Ledger.cut]
      omega

/-- **A pass over the budget begins with a trim**, of the first of the largest
buffers. -/
theorem exists_moves_pass (p : BudgetPolicy) (hl : l.arena.Sound) (hover : capacity < l.retained) :
    ∃ site n, Moves p capacity ((l.lowerCeiling p).cut site n) (l.pass p capacity) := by
  have harena := arena_lowerCeiling p l
  have hretained : (l.lowerCeiling p).retained = l.retained := congrArg Arena.retained harena
  obtain ⟨site, rest, b, hheaviest, hb, -, hpos⟩ :=
    exists_heaviest (harena.symm ▸ hl) (hretained ▸ Nat.zero_lt_of_lt hover) p.tieBreak
  have hu := p.evictionUnit_pos
  refine ⟨site, min (min p.evictionUnit b.size) b.size, ?_⟩
  have hshave : shave capacity (fun b => min p.evictionUnit b.size) (l.lowerCeiling p) site =
      (l.lowerCeiling p).cut site (min (min p.evictionUnit b.size) b.size) := by
    rw [shave_of_lt (hretained ▸ hover), trim_of_pos hb (by omega)]
  rw [pass, hheaviest, List.foldl_cons, hshave]
  exact (moves_foldl_shave p _ _).trans (moves_foldl_shave p _ _)

/-- The passes begin with one. -/
theorem moves_pass_passes (p : BudgetPolicy) (capacity bound : Nat) (l : Ledger) :
    Moves p capacity (l.pass p capacity) (l.passes p capacity bound) := by
  cases bound with
  | zero => exact .refl
  | succ bound =>
    rw [passes]
    split_ifs
    · exact moves_passes p capacity bound _
    · exact .refl

/-- **No enforcement goes without a trim.** -/
theorem trims_lt_enforce (p : BudgetPolicy) (hl : l.arena.Sound) (hover : capacity < l.retained) :
    l.stats.trims < (l.enforce p capacity).stats.trims := by
  obtain ⟨site, n, hmoves⟩ := exists_moves_pass (l := l.counted) p hl hover
  have hall := hmoves.trans (moves_pass_passes p capacity l.ceiling l.counted)
  obtain ⟨htrims, -⟩ := Moves.trims_add_evicted_le hall
  rw [enforce_of_lt p hover]
  simp only [cut, stats_lowerCeiling] at htrims
  exact htrims

end FlightRecorder.Ledger
