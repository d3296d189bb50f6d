import FlightRecorder.Proofs.SiteBuffer.Queue

/-!
# How full a buffer is

A buffer offered more events than it may keep is full, and one offered fewer has them
all: its size is the smaller one of its count and its limit. Trims lower all three of
them alike, save that the limit stays at one where a trim takes everything. A buffer
that had overwritten events before such a trim is left without events, but with a count
and with a limit that would allow for one: it is *hollow*, until it accepts an event.
This file proves that there is no other way to become hollow, and that every buffer that
is not hollow is as full as its count and its limit allow.

* `FlightRecorder.SiteBuffer.Hollow` – hollow buffers;
* `FlightRecorder.SiteBuffer.Drains`, `FlightRecorder.SiteBuffer.Accepts` – the
  operations that make a buffer hollow, and those that end it;
* `FlightRecorder.SiteBuffer.Filled` – the invariant, one operation at a time
  (`FlightRecorder.SiteBuffer.Filled.perform`);
* `FlightRecorder.SiteBuffer.size_eq_min_iff` – **the size of a buffer**, after any
  operations.
-/

namespace FlightRecorder.SiteBuffer

variable {b : SiteBuffer} {op : Op}

/-- **A hollow buffer** has no events, though it counts some. -/
structure Hollow (b : SiteBuffer) : Prop where
  size : b.size = 0
  count : 0 < b.count

/-- A trim drains a buffer if it takes all of its events, and there were more of them
before, which the buffer has overwritten. -/
def Drains (b : SiteBuffer) : Op → Prop
  | .dropOldest n => 0 < b.size ∧ b.size ≤ n ∧ b.size < b.count
  | _ => False

/-- Buffers of a kind accept the events of that kind. -/
def Accepts (kind : Kind) : Op → Prop
  | .add e => e.value.kind = kind
  | _ => False

/-- **The invariant**: a buffer is as full as its count and its limit allow, or it is
hollow with a limit of one. -/
structure Filled (b : SiteBuffer) : Prop where
  wellFormed : b.WellFormed
  size : b.size = min b.count b.limit ∨ (b.Hollow ∧ b.limit = 1)

theorem filled_new (kind : SiteKind) (limit : Nat) (p : Retention) :
    (new kind limit p).Filled :=
  ⟨wellFormed_new kind limit p, .inl (Nat.zero_min _).symm⟩

/-- The two exclude each other, since the limit is never zero. -/
theorem Filled.eq_min_iff_not_hollow (h : b.Filled) : b.size = min b.count b.limit ↔ ¬b.Hollow := by
  have hpos := h.wellFormed.limit_pos
  constructor
  · rintro hmin ⟨hsize, hcount⟩
    omega
  · exact fun hnot => h.size.resolve_right fun hhollow => hnot hhollow.1

/-- Accepting an event fills the buffer, hollow or not. -/
theorem Filled.push (h : b.Filled) (e : Reading) : (b.push e).Filled ∧ ¬(b.push e).Hollow := by
  have hpos := h.wellFormed.limit_pos
  have hsize := size_push h.wellFormed e
  refine ⟨⟨h.wellFormed.push e, .inl ?_⟩, fun hhollow => ?_⟩
  · rw [hsize, count_push, limit_push]
    rcases h.size with hmin | ⟨⟨hnone, -⟩, hone⟩ <;> omega
  · have hnone := hhollow.size
    omega

/-- A trim that takes all events of a buffer lowers its limit to one, and lowers its count
to none unless some were overwritten. -/
theorem Filled.dropOldest (h : b.Filled) (n : Nat) :
    (b.dropOldest n).Filled ∧
      ((b.dropOldest n).Hollow ↔ b.Hollow ∨ b.Drains (.dropOldest n)) := by
  have hpos := h.wellFormed.limit_pos
  have hcount := h.wellFormed.size_le_count
  have hlimit := h.wellFormed.size_le_limit
  have hiff : (b.dropOldest n).Hollow ↔ b.Hollow ∨ b.Drains (.dropOldest n) := by
    constructor
    · rintro ⟨hsize, hleft⟩
      rw [size_dropOldest] at hsize
      rw [count_dropOldest] at hleft
      rcases Nat.eq_zero_or_pos b.size with hzero | hsome
      · exact .inl ⟨hzero, by omega⟩
      · exact .inr ⟨hsome, by omega, by omega⟩
    · rintro (⟨hzero, hleft⟩ | ⟨hsome, hall, hmore⟩) <;>
        exact ⟨by rw [size_dropOldest]; omega, by rw [count_dropOldest]; omega⟩
  refine ⟨⟨h.wellFormed.dropOldest n, ?_⟩, hiff⟩
  rw [hiff, size_dropOldest, count_dropOldest, limit_dropOldest h.wellFormed]
  rcases h.size with hmin | ⟨hhollow, hone⟩
  · by_cases hdrains : b.Drains (.dropOldest n)
    · have ⟨_, hall, hmore⟩ := hdrains
      exact .inr ⟨.inr hdrains, by omega⟩
    · -- either some events are left, or there have never been more than these
      simp only [Drains] at hdrains
      exact .inl (by omega)
  · exact .inr ⟨.inl hhollow, by omega⟩

/-- A bound leaves an event where there was one, so it drains no buffer. -/
theorem Filled.ensureAtMost (h : b.Filled) (bound : Nat) :
    (b.ensureAtMost bound).Filled ∧ ((b.ensureAtMost bound).Hollow ↔ b.Hollow) := by
  have hcount := h.wellFormed.size_le_count
  have hiff : (b.ensureAtMost bound).Hollow ↔ b.Hollow := by
    constructor
    · rintro ⟨hsize, hleft⟩
      rw [size_ensureAtMost] at hsize
      rw [count_ensureAtMost] at hleft
      exact ⟨by omega, by omega⟩
    · rintro ⟨hzero, hleft⟩
      exact ⟨by rw [size_ensureAtMost]; omega, by rw [count_ensureAtMost]; omega⟩
  refine ⟨⟨h.wellFormed.ensureAtMost bound, ?_⟩, hiff⟩
  rw [hiff, size_ensureAtMost, count_ensureAtMost, limit_ensureAtMost h.wellFormed]
  rcases h.size with hmin | ⟨hhollow, hone⟩
  · exact .inl (by omega)
  · exact .inr ⟨hhollow, by omega⟩

/-- **One operation**: the invariant goes on, and a buffer is hollow after it if the
operation drains it, or if it was hollow and the operation is no accepted event. -/
theorem Filled.perform (h : b.Filled) (op : Op) :
    (b.perform op).2.Filled ∧ (b.perform op).2.kind = b.kind ∧
      ((b.perform op).2.Hollow ↔ b.Drains op ∨ (b.Hollow ∧ ¬Accepts b.kind op)) := by
  cases op with
  | add e =>
    rw [perform_add]
    split_ifs with hkind
    · obtain ⟨hfilled, hnot⟩ := h.push e
      refine ⟨hfilled, rfl, fun hhollow => absurd hhollow hnot, ?_⟩
      rintro (hdrains | ⟨-, hrefused⟩)
      · exact hdrains.elim
      · exact absurd hkind hrefused
    · refine ⟨h, rfl, fun hhollow => .inr ⟨hhollow, hkind⟩, ?_⟩
      rintro (hdrains | ⟨hhollow, -⟩)
      · exact hdrains.elim
      · exact hhollow
  | dropOldest n =>
    obtain ⟨hfilled, hiff⟩ := h.dropOldest n
    exact ⟨hfilled, rfl, hiff.trans (by rw [or_comm]; simp [Accepts])⟩
  | ensureAtMost bound =>
    obtain ⟨hfilled, hiff⟩ := h.ensureAtMost bound
    exact ⟨hfilled, rfl, hiff.trans (by simp [Accepts, Drains])⟩

/-! ### Any number of operations -/

/-- A buffer after some operations. -/
def after (b : SiteBuffer) (ops : List Op) : SiteBuffer :=
  (transcript SiteBuffer.perform b ops).2

/-- The operations have drained a buffer if one of them did, and no event has been
accepted since. -/
def Drained (b : SiteBuffer) (ops : List Op) : Prop :=
  ∃ before op rest, ops = before ++ op :: rest ∧ (b.after before).Drains op ∧
    ∀ o ∈ rest, ¬Accepts b.kind o

/-- To drain a buffer with the first operation, or later. -/
theorem drained_cons {rest : List Op} (hkind : (b.perform op).2.kind = b.kind) :
    b.Drained (op :: rest) ↔
      (b.Drains op ∧ ∀ o ∈ rest, ¬Accepts b.kind o) ∨ (b.perform op).2.Drained rest := by
  constructor
  · rintro ⟨before, o, tail, hops, hdrains, hrest⟩
    cases before with
    | nil =>
      obtain ⟨rfl, rfl⟩ := List.cons.inj hops
      exact .inl ⟨hdrains, hrest⟩
    | cons first before =>
      obtain ⟨rfl, rfl⟩ := List.cons.inj hops
      exact .inr ⟨before, o, tail, rfl, hdrains, hkind.symm ▸ hrest⟩
  · rintro (⟨hdrains, hrest⟩ | ⟨before, o, tail, rfl, hdrains, hrest⟩)
    · exact ⟨[], op, rest, rfl, hdrains, hrest⟩
    · exact ⟨op :: before, o, tail, rfl, hdrains, hkind ▸ hrest⟩

/-- **Any operations**, by induction on them: a buffer is hollow after them if they have
drained it, or if it was hollow and has accepted none of them. -/
theorem Filled.after (h : b.Filled) (ops : List Op) :
    (b.after ops).Filled ∧
      ((b.after ops).Hollow ↔ b.Drained ops ∨ (b.Hollow ∧ ∀ o ∈ ops, ¬Accepts b.kind o)) := by
  induction ops generalizing b with
  | nil =>
    refine ⟨h, fun hhollow => .inr ⟨hhollow, fun _ ho => absurd ho List.not_mem_nil⟩, ?_⟩
    rintro (⟨before, op, rest, hops, -⟩ | ⟨hhollow, -⟩)
    · exact absurd hops (by simp)
    · exact hhollow
  | cons op rest ih =>
    obtain ⟨hfilled, hkind, hstep⟩ := h.perform op
    obtain ⟨hafter, hrun⟩ := ih hfilled
    refine ⟨hafter, hrun.trans ?_⟩
    rw [drained_cons hkind, hstep, hkind, List.forall_mem_cons]
    tauto

/-- **The size of a buffer is the smaller one of its count and its limit**, whatever
events it was offered, of whatever kinds, and however it was trimmed and bounded – unless
one of the trims took all the events of a buffer that had overwritten some, and no event
has been accepted since. In that case it has no events, counts some, and its limit is
one. -/
theorem size_eq_min_iff (kind : SiteKind) (limit : Nat) (p : Retention) (ops : List Op) :
    let b := (new kind limit p).after ops
    (b.size = min b.count b.limit ↔ ¬(new kind limit p).Drained ops) ∧
      ((new kind limit p).Drained ops → b.size = 0 ∧ 0 < b.count ∧ b.limit = 1) ∧
      b.size ≤ min b.count b.limit := by
  intro b
  obtain ⟨hfilled, hiff⟩ := (filled_new kind limit p).after ops
  have hdrained : b.Hollow ↔ (new kind limit p).Drained ops := by
    refine hiff.trans (or_iff_left ?_)
    rintro ⟨⟨-, hcount⟩, -⟩
    exact Nat.lt_irrefl 0 hcount
  have hmin := hfilled.eq_min_iff_not_hollow
  refine ⟨hmin.trans (not_congr hdrained), fun h => ?_, ?_⟩
  · have hhollow := hdrained.mpr h
    have hlimit := hfilled.size.resolve_left fun heq => hmin.mp heq hhollow
    exact ⟨hhollow.size, hhollow.count, hlimit.2⟩
  · exact le_min hfilled.wellFormed.size_le_count hfilled.wellFormed.size_le_limit

/-- A buffer for one event that was offered two and then trimmed: nothing is left, though
one event is counted and one may be kept. -/
theorem size_ne_min :
    let b := (new (.of .int) 1 .weak).after
      [.add ⟨.int 1, 0, 0⟩, .add ⟨.int 2, 1, 0⟩, .dropOldest 1]
    b.size = 0 ∧ b.count = 1 ∧ b.limit = 1 ∧ b.size ≠ min b.count b.limit := by
  decide

end FlightRecorder.SiteBuffer
