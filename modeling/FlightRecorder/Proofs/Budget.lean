import Mathlib.Logic.Relation
import FlightRecorder.Budget
import FlightRecorder.Proofs.Arena

/-!
# What enforcing the budget does

Enforcement is a loop over passes, a pass two loops over sites, and each of them
may come to rest at any point. All of it consists of two kinds of moves only: the
ceiling is lowered, or the oldest events of one buffer are cut off while too many
are retained. This file says so once, and derives from the moves whatever
enforcement preserves, and from the loops what it achieves.

* `FlightRecorder.Ledger.Move`, `FlightRecorder.Ledger.Moves` – the moves, and
  sequences of them; `FlightRecorder.Ledger.moves_enforce` – enforcement is one;
* `FlightRecorder.Ledger.Moves.sound`, `FlightRecorder.Ledger.Moves.forall_mem` –
  what moves preserve: the number of retained events stays exact, and every
  property of buffers that survives trimming survives;
* `FlightRecorder.Ledger.settled_enforce` – what enforcement achieves: the budget
  is kept, or the ceiling is at one and no buffer is above it;
* `FlightRecorder.Ledger.enforce_of_excess_one` – an excess of a single event, as
  it comes up when events are recorded one by one, is met by a **single trim**.
-/

namespace FlightRecorder.Ledger

/-! ### Cutting events off a buffer -/

/-- The buffers of a ledger, with the number of events they retain. -/
def arena (l : Ledger) : Arena :=
  { buffers := l.buffers, retained := l.retained }

/-- Cut the `n` oldest events off the buffer of a site. -/
def cut (l : Ledger) (site n : Nat) : Ledger :=
  { l with
    buffers := Arena.adjust site (·.dropOldest n) l.buffers
    retained := retainedLess l.retained n
    stats := { l.stats with trims := l.stats.trims + 1, evicted := l.stats.evicted + n } }

section Cut

variable {l : Ledger} {capacity site n : Nat} {b : SiteBuffer} {amount : SiteBuffer → Nat}

/-- A trim cuts off as many events as are asked for and there are. -/
theorem trim_of_pos (hb : l.buffers.lookup site = some b) (hpos : 0 < min (amount b) b.size) :
    l.trim amount site = l.cut site (min (amount b) b.size) := by
  simp only [trim, hb, if_neg hpos.ne']
  rfl

/-- A trim of nothing leaves the ledger alone. -/
theorem trim_of_eq_zero (hb : ∀ b, l.buffers.lookup site = some b → min (amount b) b.size = 0) :
    l.trim amount site = l := by
  rw [trim]
  split
  · rfl
  · rename_i b hlookup
    simp only [hb b hlookup, if_true]

/-- The numbers kept about sound buffers after a cut: exactly the events that were
cut off are gone. -/
theorem retained_cut (h : l.arena.Sound) (hb : l.buffers.lookup site = some b) (hn : n ≤ b.size) :
    (l.cut site n).retained = l.retained - n := by
  have hle : b.size ≤ l.retained := h.size_le hb
  simp only [cut, retainedLess, if_pos (hn.trans hle)]

theorem mem_cut_iff {x : Nat × SiteBuffer} :
    x ∈ (l.cut site n).buffers ↔
      ∃ y, (x.1, y) ∈ l.buffers ∧ x.2 = if x.1 = site then y.dropOldest n else y :=
  Arena.mem_adjust_iff (f := (·.dropOldest n))

theorem map_fst_cut (l : Ledger) (site n : Nat) :
    (l.cut site n).buffers.map (·.1) = l.buffers.map (·.1) :=
  Arena.map_fst_adjust site (·.dropOldest n) l.buffers

theorem sound_cut (h : l.arena.Sound) (hb : l.buffers.lookup site = some b) (hn : n ≤ b.size) :
    (l.cut site n).arena.Sound := by
  have hle : b.size ≤ l.retained := h.size_le hb
  have hsize : (b.dropOldest n).size = b.size - n := by
    rw [SiteBuffer.size_dropOldest, Nat.min_eq_left hn]
  refine h.adjust (f := (·.dropOldest n)) hb (fun x hx => hx.dropOldest n) ?_
  rw [hsize, retained_cut h hb hn]
  have hsame : l.retained - n + b.size = l.retained + (b.size - n) := by omega
  exact hsame

end Cut

/-! ### Moves -/

/-- **What enforcement does at a time**: lower the ceiling, or cut events off a
buffer while there are too many. -/
inductive Move (p : BudgetPolicy) (capacity : Nat) : Ledger → Ledger → Prop
  /-- The ceiling may be lowered. -/
  | lower (l : Ledger) : Move p capacity l (l.lowerCeiling p)
  /-- Events may be cut off a buffer that has them. -/
  | cut {l : Ledger} {site n : Nat} {b : SiteBuffer} : capacity < l.retained →
      l.buffers.lookup site = some b → 0 < n → n ≤ b.size → Move p capacity l (l.cut site n)

/-- Any number of moves. -/
abbrev Moves (p : BudgetPolicy) (capacity : Nat) : Ledger → Ledger → Prop :=
  Relation.ReflTransGen (Move p capacity)

section Moves

variable {p : BudgetPolicy} {capacity : Nat} {l l' : Ledger}

theorem isOver_iff : l.isOver capacity = true ↔ capacity < l.retained :=
  decide_eq_true_iff

/-- A ledger that keeps the budget is not shaved. -/
theorem shave_of_le (h : l.retained ≤ capacity) (amount : SiteBuffer → Nat) (site : Nat) :
    shave capacity amount l site = l :=
  if_neg (isOver_iff.not.mpr (Nat.not_lt_of_le h))

/-- A ledger that is over the budget is trimmed. -/
theorem shave_of_lt (h : capacity < l.retained) (amount : SiteBuffer → Nat) (site : Nat) :
    shave capacity amount l site = l.trim amount site :=
  if_pos (isOver_iff.mpr h)

/-- Shaving does nothing or is a cut. -/
theorem shave_cases (capacity : Nat) (amount : SiteBuffer → Nat) (l : Ledger) (site : Nat) :
    (shave capacity amount l site = l ∧
      (l.retained ≤ capacity ∨
        ∀ b, l.buffers.lookup site = some b → min (amount b) b.size = 0)) ∨
    ∃ b, capacity < l.retained ∧ l.buffers.lookup site = some b ∧ 0 < min (amount b) b.size ∧
      shave capacity amount l site = l.cut site (min (amount b) b.size) := by
  rcases Nat.lt_or_ge capacity l.retained with hover | hle
  · have hshave := shave_of_lt hover amount site
    by_cases hzero : ∀ b, l.buffers.lookup site = some b → min (amount b) b.size = 0
    · exact Or.inl ⟨hshave.trans (trim_of_eq_zero hzero), Or.inr hzero⟩
    · push Not at hzero
      obtain ⟨b, hb, hne⟩ := hzero
      have hpos := Nat.pos_of_ne_zero hne
      exact Or.inr ⟨b, hover, hb, hpos, hshave.trans (trim_of_pos hb hpos)⟩
  · exact Or.inl ⟨shave_of_le hle amount site, Or.inl hle⟩

theorem moves_shave (p : BudgetPolicy) (amount : SiteBuffer → Nat) (site : Nat) :
    Moves p capacity l (shave capacity amount l site) := by
  rcases shave_cases capacity amount l site with ⟨heq, -⟩ | ⟨b, hover, hb, hpos, heq⟩
  · rw [heq]
  · rw [heq]
    exact .single (.cut hover hb hpos (Nat.min_le_right _ _))

theorem moves_foldl_shave (p : BudgetPolicy) (amount : SiteBuffer → Nat) (sites : List Nat) :
    Moves p capacity l (sites.foldl (shave capacity amount) l) := by
  induction sites generalizing l with
  | nil => exact .refl
  | cons site rest ih => exact (moves_shave p amount site).trans ih

/-- A pass is a sequence of moves. -/
theorem moves_pass (p : BudgetPolicy) (capacity : Nat) (l : Ledger) :
    Moves p capacity l (l.pass p capacity) :=
  .head (.lower l) ((moves_foldl_shave p _ _).trans (moves_foldl_shave p _ _))

/-- So are any number of passes. -/
theorem moves_passes (p : BudgetPolicy) (capacity bound : Nat) (l : Ledger) :
    Moves p capacity l (l.passes p capacity bound) := by
  induction bound generalizing l with
  | zero => exact moves_pass p capacity l
  | succ bound ih =>
    rw [passes]
    split_ifs
    · exact (moves_pass p capacity l).trans (ih _)
    · exact moves_pass p capacity l

/-- A pass that comes to rest is the last one. -/
theorem passes_of_le (h : (l.pass p capacity).retained ≤ capacity) (bound : Nat) :
    l.passes p capacity bound = l.pass p capacity := by
  cases bound with
  | zero => rfl
  | succ bound =>
    rw [passes, if_neg fun hagain => Nat.not_lt_of_le h (isOver_iff.mp hagain.1)]

/-- Enforcement begins by counting itself. -/
def counted (l : Ledger) : Ledger :=
  { l with stats := { l.stats with enforcements := l.stats.enforcements + 1 } }

theorem enforce_of_le (p : BudgetPolicy) (h : l.retained ≤ capacity) :
    l.enforce p capacity = l :=
  if_neg (isOver_iff.not.mpr (Nat.not_lt_of_le h))

theorem enforce_of_lt (p : BudgetPolicy) (h : capacity < l.retained) :
    l.enforce p capacity = l.counted.passes p capacity l.ceiling :=
  if_pos (isOver_iff.mpr h)

/-- **Enforcement is a sequence of moves**, if it does anything at all. -/
theorem moves_enforce (p : BudgetPolicy) (h : capacity < l.retained) :
    Moves p capacity l.counted (l.enforce p capacity) := by
  rw [enforce_of_lt p h]
  exact moves_passes p capacity _ _

/-! ### What moves preserve -/

theorem arena_lowerCeiling (p : BudgetPolicy) (l : Ledger) :
    (l.lowerCeiling p).arena = l.arena := by
  rw [lowerCeiling]
  split_ifs <;> rfl

theorem buffers_lowerCeiling (p : BudgetPolicy) (l : Ledger) :
    (l.lowerCeiling p).buffers = l.buffers :=
  congrArg Arena.buffers (arena_lowerCeiling p l)

theorem ceiling_lowerCeiling (p : BudgetPolicy) (l : Ledger) :
    (l.lowerCeiling p).ceiling = min l.ceiling (l.nextCeiling p) := by
  rw [lowerCeiling]
  split_ifs with hlt
  · exact (Nat.min_eq_right hlt.le).symm
  · exact (Nat.min_eq_left (Nat.le_of_not_lt hlt)).symm

theorem one_le_nextCeiling (p : BudgetPolicy) (l : Ledger) : 1 ≤ l.nextCeiling p :=
  Nat.le_max_right _ _

/-- **Moves keep a ledger sound**: the number of retained events stays exact. -/
theorem Moves.sound (h : Moves p capacity l l') (hl : l.arena.Sound) : l'.arena.Sound := by
  induction h with
  | refl => exact hl
  | tail _ hmove ih =>
    cases hmove with
    | lower =>
      rw [arena_lowerCeiling]
      exact ih
    | cut _ hb _ hn => exact sound_cut ih hb hn

/-- **What survives trimming survives moves.** -/
theorem Moves.forall_mem (h : Moves p capacity l l') (hl : l.arena.Sound)
    {Q : Nat → SiteBuffer → Prop}
    (hQ : ∀ site b n, b.WellFormed → n ≤ b.size → Q site b → Q site (b.dropOldest n))
    (hmem : ∀ x ∈ l.buffers, Q x.1 x.2) : ∀ x ∈ l'.buffers, Q x.1 x.2 := by
  induction h with
  | refl => exact hmem
  | @tail m _ hmoves hmove ih =>
    have hm : m.arena.Sound := Moves.sound hmoves hl
    cases hmove with
    | lower =>
      have hsame : (m.lowerCeiling p).buffers = m.buffers :=
        congrArg Arena.buffers (arena_lowerCeiling p m)
      rw [hsame]
      exact ih
    | @cut site n b _ hb _ hn =>
      intro x hx
      obtain ⟨y, hy, hxy⟩ := mem_cut_iff.mp hx
      have hQy : Q x.1 y := ih (x.1, y) hy
      rw [hxy]
      split_ifs with hsite
      · -- the listed buffer of the site is the one that was looked up
        have hyb : m.arena.find? site = some y := hm.find?_eq_some_iff.mpr (hsite ▸ hy)
        have heq : y = b := Option.some.inj (hyb.symm.trans hb)
        exact hQ x.1 y n (hm.wellFormed _ hy) (heq ▸ hn) hQy
      · exact hQy

/-- Moves do not count enforcements. -/
theorem Moves.enforcements (h : Moves p capacity l l') :
    l'.stats.enforcements = l.stats.enforcements := by
  induction h with
  | refl => rfl
  | tail _ hmove ih =>
    refine Eq.trans ?_ ih
    cases hmove with
    | lower =>
      rw [lowerCeiling]
      split_ifs <;> rfl
    | cut => rfl

/-- Moves never raise the ceiling. -/
theorem Moves.ceiling_le (h : Moves p capacity l l') : l'.ceiling ≤ l.ceiling := by
  induction h with
  | refl => exact le_refl _
  | tail _ hmove ih =>
    refine le_trans ?_ ih
    cases hmove with
    | lower =>
      rw [ceiling_lowerCeiling]
      exact Nat.min_le_left _ _
    | cut => exact le_refl _

/-- Moves never lower the ceiling below one. -/
theorem Moves.ceiling_pos (h : Moves p capacity l l') (hl : 0 < l.ceiling) : 0 < l'.ceiling := by
  induction h with
  | refl => exact hl
  | @tail m _ _ hmove ih =>
    cases hmove with
    | lower =>
      have := one_le_nextCeiling p m
      rw [ceiling_lowerCeiling]
      omega
    | cut => exact ih

/-- Moves keep the sites that have a buffer. -/
theorem Moves.sites (h : Moves p capacity l l') :
    l'.buffers.map (·.1) = l.buffers.map (·.1) := by
  induction h with
  | refl => rfl
  | @tail m _ _ hmove ih =>
    refine Eq.trans ?_ ih
    cases hmove with
    | lower =>
      have hsame : (m.lowerCeiling p).buffers = m.buffers :=
        congrArg Arena.buffers (arena_lowerCeiling p m)
      rw [hsame]
    | cut => exact map_fst_cut _ _ _

end Moves

/-! ### What enforcement achieves -/

/-- **Settled**: the budget is kept, or there is nothing left to trim. -/
def Settled (capacity : Nat) (l : Ledger) : Prop :=
  l.retained ≤ capacity ∨ (l.ceiling ≤ 1 ∧ ∀ x ∈ l.buffers, x.2.size ≤ 1)

section Settled

variable {p : BudgetPolicy} {capacity : Nat} {l : Ledger}

theorem ceiling_foldl_shave (amount : SiteBuffer → Nat) (sites : List Nat) (l : Ledger) :
    (sites.foldl (shave capacity amount) l).ceiling = l.ceiling := by
  induction sites generalizing l with
  | nil => rfl
  | cons site rest ih =>
    rw [List.foldl_cons, ih]
    rcases shave_cases capacity amount l site with ⟨heq, -⟩ | ⟨b, -, -, -, heq⟩
    · rw [heq]
    · rw [heq]
      rfl

/-- The sweep that trims buffers to the ceiling, by induction on the sites it has
visited: unless it came to rest before, all of their buffers are below. -/
theorem foldl_shave_rest (capacity : Nat) (hl : l.arena.Sound) (ceiling : Nat)
    (sites : List Nat) :
    (sites.foldl (shave capacity fun b => b.size - ceiling) l).retained ≤ capacity ∨
      ∀ x ∈ (sites.foldl (shave capacity fun b => b.size - ceiling) l).buffers,
        x.1 ∈ sites → x.2.size ≤ ceiling := by
  induction sites using List.reverseRecOn with
  | nil => exact Or.inr fun x _ hx => absurd hx List.not_mem_nil
  | append_singleton sites site ih =>
    rw [List.foldl_concat]
    generalize hm : sites.foldl (shave capacity fun b => b.size - ceiling) l = m at ih ⊢
    have hsound : m.arena.Sound := by
      rw [← hm]
      exact (moves_foldl_shave ⟨1, .siteOrder, Nat.one_pos⟩ _ sites).sound hl
    rcases ih with hle | hbelow
    · -- the sweep has come to rest already
      rw [shave_of_le hle]
      exact Or.inl hle
    · rcases shave_cases capacity (fun b => b.size - ceiling) m site with
        ⟨heq, hle | hzero⟩ | ⟨b, -, hb, -, heq⟩
      · rw [heq]
        exact Or.inl hle
      · rw [heq]
        refine Or.inr fun x hx hsite => ?_
        rcases List.mem_append.mp hsite with hsite | hsite
        · exact hbelow x hx hsite
        · have hlookup := hzero x.2 ((Arena.lookup_eq_some_iff hsound.ordered).mpr
            (List.mem_singleton.mp hsite ▸ hx))
          omega
      · rw [heq]
        refine Or.inr fun x hx hsite => ?_
        obtain ⟨y, hy, hxy⟩ := mem_cut_iff.mp hx
        rw [hxy]
        split_ifs with hx1
        · have hyb : y = b := by
            have hlookup := (Arena.lookup_eq_some_iff hsound.ordered).mpr hy
            exact Option.some.inj (hlookup.symm.trans (hx1 ▸ hb))
          rw [SiteBuffer.size_dropOldest, hyb]
          omega
        · rcases List.mem_append.mp hsite with hsite | hsite
          · exact hbelow (x.1, y) hy hsite
          · exact absurd (List.mem_singleton.mp hsite) hx1

/-- **A pass** comes to rest, or brings every buffer below its ceiling. -/
theorem pass_rest (p : BudgetPolicy) (capacity : Nat) (hl : l.arena.Sound) :
    (l.pass p capacity).retained ≤ capacity ∨
      ∀ x ∈ (l.pass p capacity).buffers, x.2.size ≤ l.nextCeiling p := by
  rw [pass]
  generalize hm : ((l.lowerCeiling p).heaviest p.tieBreak).foldl
    (shave capacity fun b => min p.evictionUnit b.size) (l.lowerCeiling p) = m
  have hsound : m.arena.Sound := by
    rw [← hm]
    refine (moves_foldl_shave p _ _).sound ?_
    rw [arena_lowerCeiling]
    exact hl
  rcases foldl_shave_rest capacity hsound (l.nextCeiling p) (m.buffers.map (·.1)) with hle | hbelow
  · exact Or.inl hle
  · refine Or.inr fun x hx => hbelow x hx ?_
    rw [← (moves_foldl_shave p _ (m.buffers.map (·.1))).sites]
    exact List.mem_map_of_mem hx

theorem ceiling_pass (p : BudgetPolicy) (capacity : Nat) (l : Ledger) :
    (l.pass p capacity).ceiling = min l.ceiling (l.nextCeiling p) := by
  rw [pass]
  simp only [ceiling_foldl_shave, ceiling_lowerCeiling]

/-- The ceiling falls in every pass but the last. -/
theorem ceiling_pass_lt (capacity : Nat) (h : l.nextCeiling p ≠ 1) :
    (l.pass p capacity).ceiling < l.ceiling := by
  have := p.evictionUnit_pos
  rw [ceiling_pass, nextCeiling] at *
  omega

/-- The last pass, whose ceiling is one. -/
theorem settled_pass (hl : l.arena.Sound) (hone : l.nextCeiling p = 1) :
    Settled capacity (l.pass p capacity) := by
  have hceiling := ceiling_pass p capacity l
  rcases pass_rest p capacity hl with hle | hbelow
  · exact Or.inl hle
  · rw [hone] at hbelow hceiling
    exact Or.inr ⟨hceiling.trans_le (Nat.min_le_right _ _), hbelow⟩

/-- **Any number of passes**, by induction on what the ceiling can still fall
by. -/
theorem settled_passes (hl : l.arena.Sound) {bound : Nat} (hbound : l.ceiling ≤ bound) :
    Settled capacity (l.passes p capacity bound) := by
  induction bound generalizing l with
  | zero =>
    refine settled_pass hl ?_
    rw [nextCeiling, Nat.le_zero.mp hbound]
    omega
  | succ bound ih =>
    rw [passes]
    split_ifs with hagain
    · -- the ceiling fell, so one pass fewer is left to make
      have hlt := ceiling_pass_lt capacity hagain.2
      exact ih ((moves_pass p capacity l).sound hl) (by omega)
    · rcases Nat.lt_or_ge capacity (l.pass p capacity).retained with hover | hle
      · -- the loop ended over the budget: this pass was the one whose ceiling is one
        refine settled_pass hl ?_
        by_contra hone
        exact hagain ⟨isOver_iff.mpr hover, hone⟩
      · exact Or.inl hle

/-- **Enforcement ends with the budget kept**, or with nothing left to trim: the
ceiling is at one, and no buffer is above it. -/
theorem settled_enforce (p : BudgetPolicy) (capacity : Nat) (hl : l.arena.Sound) :
    Settled capacity (l.enforce p capacity) := by
  rcases Nat.lt_or_ge capacity l.retained with hover | hle
  · rw [enforce_of_lt p hover]
    exact settled_passes (l := l.counted) hl (le_refl _)
  · rw [enforce_of_le p hle]
    exact Or.inl hle

end Settled

/-! ### The largest buffers -/

section Largest

variable {l : Ledger}

theorem le_foldl_max (sizes : List Nat) (start : Nat) :
    start ≤ sizes.foldl max start ∧ ∀ n ∈ sizes, n ≤ sizes.foldl max start := by
  induction sizes generalizing start with
  | nil => exact ⟨le_refl _, fun n hn => absurd hn List.not_mem_nil⟩
  | cons m rest ih =>
    obtain ⟨hstart, hrest⟩ := ih (max start m)
    refine ⟨(le_max_left _ _).trans hstart, fun n hn => ?_⟩
    rcases List.mem_cons.mp hn with rfl | hn
    · exact (le_max_right _ _).trans hstart
    · exact hrest n hn

theorem foldl_max_mem (sizes : List Nat) (start : Nat) :
    sizes.foldl max start = start ∨ sizes.foldl max start ∈ sizes := by
  induction sizes generalizing start with
  | nil => exact Or.inl rfl
  | cons m rest ih =>
    rw [List.foldl_cons]
    rcases ih (max start m) with heq | hmem
    · rcases Nat.le_total m start with hle | hle
      · exact Or.inl (heq.trans (Nat.max_eq_left hle))
      · exact Or.inr ((heq.trans (Nat.max_eq_right hle)).symm ▸ List.mem_cons_self)
    · exact Or.inr (List.mem_cons_of_mem m hmem)

theorem size_le_largestSize {x : Nat × SiteBuffer} (hx : x ∈ l.buffers) :
    x.2.size ≤ l.largestSize :=
  (le_foldl_max _ 0).2 _ (List.mem_map_of_mem (f := fun x : Nat × SiteBuffer => x.2.size) hx)

theorem exists_size_eq_largestSize (h : 0 < l.largestSize) :
    ∃ x ∈ l.buffers, x.2.size = l.largestSize := by
  rcases foldl_max_mem (l.buffers.map fun x => x.2.size) 0 with hzero | hmem
  · exact absurd hzero h.ne'
  · exact List.mem_map.mp hmem

theorem mem_heaviest_iff {t : TieBreak} {site : Nat} :
    site ∈ l.heaviest t ↔
      ∃ b, (site, b) ∈ l.buffers ∧ b.size = l.largestSize ∧ 0 < l.largestSize := by
  have hsites : site ∈ l.heaviest t ↔
      site ∈ (l.buffers.filter fun x => x.2.size == l.largestSize && l.largestSize != 0).map
        (·.1) := by
    cases t with
    | siteOrder => rfl
    | reverse => exact List.mem_reverse
  rw [hsites, List.mem_map]
  constructor
  · rintro ⟨x, hx, rfl⟩
    obtain ⟨hmem, hsize⟩ := List.mem_filter.mp hx
    simp only [Bool.and_eq_true, beq_iff_eq, bne_iff_ne] at hsize
    exact ⟨x.2, hmem, hsize.1, Nat.pos_of_ne_zero hsize.2⟩
  · rintro ⟨b, hmem, hsize, hpos⟩
    refine ⟨(site, b), List.mem_filter.mpr ⟨hmem, ?_⟩, rfl⟩
    simp only [Bool.and_eq_true, beq_iff_eq, bne_iff_ne]
    exact ⟨hsize, hpos.ne'⟩

end Largest

/-! ### An excess of one event -/

section ExcessOne

variable {p : BudgetPolicy} {capacity : Nat} {l : Ledger}

theorem foldl_shave_of_le (h : l.retained ≤ capacity) (amount : SiteBuffer → Nat)
    (sites : List Nat) : sites.foldl (shave capacity amount) l = l := by
  induction sites with
  | nil => rfl
  | cons site rest ih =>
    rw [List.foldl_cons, shave_of_le h]
    exact ih

/-- A ledger with events has a buffer to begin with. -/
theorem exists_heaviest (hl : l.arena.Sound) (hpos : 0 < l.retained) (t : TieBreak) :
    ∃ site rest b, l.heaviest t = site :: rest ∧ l.buffers.lookup site = some b ∧
      b.size = l.largestSize ∧ 0 < b.size := by
  have hcount : l.retained = Arena.eventCount l.buffers := hl.retained
  have hlargest : 0 < l.largestSize := by
    refine Nat.pos_of_ne_zero fun hzero => ?_
    have hle := Arena.eventCount_le fun x hx => size_le_largestSize (l := l) hx
    rw [hzero, Nat.mul_zero] at hle
    omega
  obtain ⟨x, hx, hsize⟩ := exists_size_eq_largestSize hlargest
  have hmem : x.1 ∈ l.heaviest t := mem_heaviest_iff.mpr ⟨x.2, hx, hsize, hlargest⟩
  obtain ⟨site, rest, hcons⟩ := List.exists_cons_of_ne_nil (List.ne_nil_of_mem hmem)
  obtain ⟨b, hb, hbsize, -⟩ := mem_heaviest_iff.mp (hcons ▸ List.mem_cons_self)
  exact ⟨site, rest, b, hcons, (Arena.lookup_eq_some_iff hl.ordered).mpr hb, hbsize,
    hbsize ▸ hlargest⟩

/-- If the first of the largest buffers pays for the excess, a pass ends there. -/
theorem pass_of_excess_one (hl : l.arena.Sound) (h : l.retained = capacity + 1)
    {site : Nat} {rest : List Nat} {b : SiteBuffer}
    (hheaviest : l.heaviest p.tieBreak = site :: rest) (hb : l.buffers.lookup site = some b)
    (hpos : 0 < b.size) :
    l.pass p capacity = (l.lowerCeiling p).cut site (min p.evictionUnit b.size) ∧
      (l.pass p capacity).retained ≤ capacity := by
  have hu := p.evictionUnit_pos
  have harena := arena_lowerCeiling p l
  have hbuffers : (l.lowerCeiling p).buffers = l.buffers := congrArg Arena.buffers harena
  have hretained : (l.lowerCeiling p).retained = capacity + 1 :=
    (congrArg Arena.retained harena).trans h
  have hfirst : (l.lowerCeiling p).heaviest p.tieBreak = site :: rest := by
    rw [← hheaviest]
    simp only [heaviest, largestSize, hbuffers]
  have hb' : (l.lowerCeiling p).buffers.lookup site = some b := by
    rw [hbuffers]
    exact hb
  have hshave : shave capacity (fun b => min p.evictionUnit b.size) (l.lowerCeiling p) site =
      (l.lowerCeiling p).cut site (min p.evictionUnit b.size) := by
    have hmin : min (min p.evictionUnit b.size) b.size = min p.evictionUnit b.size :=
      Nat.min_eq_left (Nat.min_le_right _ _)
    rw [shave_of_lt (by omega), trim_of_pos hb' (by omega), hmin]
  have hle : ((l.lowerCeiling p).cut site (min p.evictionUnit b.size)).retained ≤ capacity := by
    rw [retained_cut (harena.symm ▸ hl) hb' (Nat.min_le_right _ _)]
    omega
  have hpass : l.pass p capacity = (l.lowerCeiling p).cut site (min p.evictionUnit b.size) := by
    simp only [pass]
    rw [hfirst, List.foldl_cons, hshave, foldl_shave_of_le hle, foldl_shave_of_le hle]
  exact ⟨hpass, hpass ▸ hle⟩

/-- **An excess of a single event is met by a single trim**, off the first of the
largest buffers. -/
theorem enforce_of_excess_one (p : BudgetPolicy) (hl : l.arena.Sound)
    (h : l.retained = capacity + 1) :
    ∃ site rest b, l.heaviest p.tieBreak = site :: rest ∧ l.buffers.lookup site = some b ∧
      b.size = l.largestSize ∧ 0 < b.size ∧
      l.enforce p capacity = (l.counted.lowerCeiling p).cut site (min p.evictionUnit b.size) ∧
      (l.enforce p capacity).retained ≤ capacity := by
  obtain ⟨site, rest, b, hheaviest, hb, hsize, hpos⟩ :=
    exists_heaviest hl (by omega) p.tieBreak
  obtain ⟨hpass, hle⟩ := pass_of_excess_one (l := l.counted) hl h hheaviest hb hpos
  have henforce : l.enforce p capacity = l.counted.pass p capacity := by
    rw [enforce_of_lt p (by omega), passes_of_le (hpass ▸ hle)]
  exact ⟨site, rest, b, hheaviest, hb, hsize, hpos, henforce.trans hpass, henforce ▸ hle⟩

end ExcessOne

end FlightRecorder.Ledger
