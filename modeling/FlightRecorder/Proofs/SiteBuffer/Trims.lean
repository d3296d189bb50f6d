import FlightRecorder.Proofs.SiteBuffer.Fullness
import FlightRecorder.Proofs.SiteBuffer.Slots

/-!
# Trims compose

Two trims in a row are one: to drop the `m` oldest events and then the `n` oldest of
those that are left is to drop the `m + n` oldest, and a buffer bounded twice is a buffer
bounded once, by the smaller of the two bounds. That is plain for the queue of its events,
but a buffer gets there on different ways. Slots are laid out anew once or twice, or not
at all, they are given back early or late, and the limit may reach one in between. This
file proves that not even the slots tell the difference.

* `FlightRecorder.Ring.packed` – a ring that has been laid out anew, which any trim that
  removes something leaves behind (`FlightRecorder.Ring.dropOldest_eq_packed`,
  `FlightRecorder.Ring.ensureAtMost_eq_packed`);
* `FlightRecorder.Ring.dropOldest_dropOldest`,
  `FlightRecorder.Ring.ensureAtMost_ensureAtMost` – two trims of a ring, two bounds;
* `FlightRecorder.SiteBuffer.trims_compose` – **two trims of a buffer**, with what each of
  them answers.
-/

namespace FlightRecorder

namespace Ring

variable {α : Type} {r : Ring α} {blank : α} {items : List α} {limit count skip keep : Nat}

/-! ### Rings laid out anew -/

/-- **A ring laid out anew**: its items in order, in as many slots as they take. -/
def packed (blank : α) (items : List α) (limit count : Nat) : Ring α where
  blank := blank
  slots := items.toArray
  head := 0
  size := items.length
  limit := limit
  count := count

@[simp] theorem size_packed : (packed blank items limit count).size = items.length := rfl

@[simp] theorem limit_packed : (packed blank items limit count).limit = limit := rfl

@[simp] theorem capacity_packed : (packed blank items limit count).capacity = items.length := by
  simp [packed, capacity]

theorem wellFormed_packed (hlimit : items.length ≤ limit) (hpos : 0 < limit)
    (hcount : items.length ≤ count) : (packed blank items limit count).WellFormed where
  size_le_capacity := capacity_packed.ge
  capacity_le_limit := capacity_packed.trans_le hlimit
  limit_pos := hpos
  size_le_count := hcount
  head_lt hslots := hslots
  head_eq_zero := .inl rfl

theorem toList_packed (hlimit : items.length ≤ limit) (hpos : 0 < limit)
    (hcount : items.length ≤ count) : (packed blank items limit count).toList = items := by
  rw [toList_eq (wellFormed_packed hlimit hpos hcount)]
  simp [packed]

/-- Laying out anew what is left after some items have been skipped. -/
theorem compact_eq_packed (h : r.WellFormed) (hle : skip + keep ≤ r.size) :
    { r.compact skip keep with size := keep, limit, count } =
      packed r.blank ((r.toList.drop skip).take keep) limit count := by
  have hsize := r.length_toList
  have hslots : (r.compact skip keep).slots = ((r.toList.drop skip).take keep).toArray := by
    refine Array.toList_inj.mp ?_
    rw [toList_eq h, List.drop_take, List.take_take]
    simp only [compact, Array.toList_extract, toList_unrolled h, List.extract_eq_take_drop,
      Nat.add_sub_cancel_left]
    congr 1
    omega
  have hkeep : keep = ((r.toList.drop skip).take keep).length := by
    rw [List.length_take, List.length_drop]
    omega
  rw [packed, ← hslots, ← hkeep]
  rfl

/-! ### Trimming twice -/

/-- **A trim that removes something** lays the ring out anew. -/
theorem dropOldest_eq_packed (h : r.WellFormed) {n : Nat} (hpos : 0 < min n r.size) :
    r.dropOldest n = packed r.blank (r.toList.drop n) (max (r.limit - min n r.size) 1)
      (r.count - min n r.size) := by
  have hsize := r.length_toList
  have hitems : (r.toList.drop (min n r.size)).take (r.size - min n r.size) = r.toList.drop n := by
    rw [List.take_of_length_le (by rw [List.length_drop]; omega), ← hsize, ← List.drop_eq_drop_min]
  rw [dropOldest_of_pos hpos, compact_eq_packed h (by omega), hitems]

/-- A ring that was laid out anew stays so, whatever is trimmed. -/
theorem dropOldest_packed (hlimit : items.length ≤ limit) (hpos : 0 < limit)
    (hcount : items.length ≤ count) (n : Nat) :
    (packed blank items limit count).dropOldest n =
      packed blank (items.drop n) (max (limit - min n items.length) 1)
        (count - min n items.length) := by
  rcases Nat.eq_zero_or_pos (min n items.length) with hzero | hsome
  · have hitems : items.drop n = items := by
      rw [List.drop_eq_drop_min, hzero, List.drop_zero]
    rw [dropOldest_of_eq_zero hzero, hitems, hzero, Nat.sub_zero, Nat.sub_zero,
      Nat.max_eq_left hpos]
  · rw [dropOldest_eq_packed (wellFormed_packed hlimit hpos hcount) hsome,
      toList_packed hlimit hpos hcount]
    rfl

/-- **Two trims are one**, of as many items as both are asked to remove. -/
theorem dropOldest_dropOldest (h : r.WellFormed) (m n : Nat) :
    (r.dropOldest m).dropOldest n = r.dropOldest (m + n) := by
  have hsize := r.length_toList
  have hlimit := h.size_le_limit
  have hcount := h.size_le_count
  rcases Nat.eq_zero_or_pos (min m r.size) with hzero | hpos
  · -- the first trim removes nothing, because it is asked for nothing or there is nothing
    rw [dropOldest_of_eq_zero hzero]
    rcases Nat.eq_zero_or_pos m with rfl | hm
    · rw [Nat.zero_add]
    · rw [dropOldest_of_eq_zero (by omega), dropOldest_of_eq_zero (by omega)]
  · have hlength : (r.toList.drop m).length = r.size - m := by rw [List.length_drop, hsize]
    rw [dropOldest_eq_packed h hpos, dropOldest_packed (by omega) (by omega) (by omega),
      dropOldest_eq_packed h (by omega), List.drop_drop, hlength]
    congr 1 <;> omega

/-! ### Bounding twice -/

/-- A bound of zero is taken for one. -/
theorem ensureAtMost_max_one (r : Ring α) (bound : Nat) :
    r.ensureAtMost (max bound 1) = r.ensureAtMost bound := by
  rw [ensureAtMost_eq, ensureAtMost_eq, Nat.max_eq_left (Nat.le_max_right bound 1)]

/-- **A bound that removes something** lays the ring out anew, and is its limit. -/
theorem ensureAtMost_eq_packed (h : r.WellFormed) {bound : Nat} (hpos : 0 < bound)
    (hlt : bound < r.size) :
    r.ensureAtMost bound =
      packed r.blank (r.toList.drop (r.size - bound)) bound (r.count - (r.size - bound)) := by
  have hlimit := h.size_le_limit
  have hlength : (r.toList.drop (r.size - bound)).length = bound := by
    rw [List.length_drop, length_toList]
    omega
  rw [ensureAtMost_eq, Nat.max_eq_left hpos, dropOldest_eq_packed h (by omega),
    Nat.min_eq_left (Nat.sub_le _ _), lowerLimit, limit_packed, capacity_packed, hlength,
    if_neg (Nat.lt_irrefl bound)]
  split_ifs with hlower
  · rfl
  · -- the trim has lowered the limit to the bound already
    have hsame : max (r.limit - (r.size - bound)) 1 = bound := by omega
    rw [hsame]

/-- A bound that removes nothing only lowers the limit. -/
theorem ensureAtMost_of_size_le {bound : Nat} (hpos : 0 < bound) (hle : r.size ≤ bound) :
    r.ensureAtMost bound = r.lowerLimit bound := by
  rw [ensureAtMost_eq, Nat.max_eq_left hpos, Nat.sub_eq_zero_of_le hle,
    dropOldest_of_eq_zero (Nat.zero_min _)]

/-- Lowering the limit of a ring with more slots than that. -/
theorem lowerLimit_of_lt_capacity {bound : Nat} (hlimit : bound < r.limit)
    (hslots : bound < r.capacity) :
    r.lowerLimit bound = { r.compact 0 r.size with limit := bound } := by
  rw [lowerLimit, if_pos hlimit, if_pos hslots]

/-- Lowering the limit of a ring with no more slots than that. -/
theorem lowerLimit_of_capacity_le {bound : Nat} (hlimit : bound < r.limit)
    (hslots : r.capacity ≤ bound) : r.lowerLimit bound = { r with limit := bound } := by
  rw [lowerLimit, if_pos hlimit, if_neg (Nat.not_lt_of_le hslots)]

/-- Lowering the limit further: the slots are laid out anew once at the most, since after
that there are no more of them than items. -/
theorem lowerLimit_lowerLimit (h : r.WellFormed) {m n : Nat} (hsize : r.size ≤ n) (hlt : n < m) :
    (r.lowerLimit m).lowerLimit n = r.lowerLimit n := by
  rcases Nat.lt_or_ge m r.limit with hm | hm
  · have hn : n < r.limit := hlt.trans hm
    rcases Nat.lt_or_ge m r.capacity with hslots | hslots
    · have hcapacity : (r.compact 0 r.size).capacity = r.size :=
        capacity_compact h (by rw [Nat.zero_add]; exact h.size_le_capacity)
      rw [lowerLimit_of_lt_capacity hm hslots, lowerLimit_of_lt_capacity hn (hlt.trans hslots)]
      exact lowerLimit_of_capacity_le hlt (hcapacity.trans_le hsize)
    · rw [lowerLimit_of_capacity_le hm hslots]
      rcases Nat.lt_or_ge n r.capacity with hfew | hmany
      · rw [lowerLimit_of_lt_capacity hn hfew]
        exact lowerLimit_of_lt_capacity hlt hfew
      · rw [lowerLimit_of_capacity_le hn hmany]
        exact lowerLimit_of_capacity_le hlt hmany
  · have hfirst : r.lowerLimit m = r := if_neg (Nat.not_lt_of_le hm)
    rw [hfirst]

/-- Two bounds, neither of them zero, the second of which is the smaller one. -/
theorem ensureAtMost_ensureAtMost_of_lt (h : r.WellFormed) {m n : Nat} (hpos : 0 < n)
    (hlt : n < m) : (r.ensureAtMost m).ensureAtMost n = r.ensureAtMost n := by
  have hm : 0 < m := hpos.trans hlt
  rcases Nat.lt_or_ge n r.size with hover | hfits
  · -- something is removed in the end, so the ring is laid out anew both times
    have hfirst := h.ensureAtMost m
    have hsize := size_ensureAtMost r m
    have hcount := count_ensureAtMost r m
    rw [Nat.max_eq_left hm] at hsize hcount
    rw [ensureAtMost_eq_packed hfirst hpos (by omega), ensureAtMost_eq_packed h hpos hover,
      toList_ensureAtMost h, List.drop_drop, blank_ensureAtMost, hsize, hcount, Nat.max_eq_left hm]
    congr 1
    · congr 1
      omega
    · omega
  · have hfits' : (r.lowerLimit m).size ≤ n := by
      rw [size_lowerLimit]
      exact hfits
    rw [ensureAtMost_of_size_le hm (hfits.trans hlt.le), ensureAtMost_of_size_le hpos hfits',
      ensureAtMost_of_size_le hpos hfits, lowerLimit_lowerLimit h hfits hlt]

/-- **Two bounds are one**, the smaller one of the two. -/
theorem ensureAtMost_ensureAtMost (h : r.WellFormed) (m n : Nat) :
    (r.ensureAtMost m).ensureAtMost n = r.ensureAtMost (min m n) := by
  rw [← ensureAtMost_max_one (r.ensureAtMost m) n, ← ensureAtMost_max_one r m,
    ← ensureAtMost_max_one r (min m n), Nat.max_min_distrib_right]
  rcases Nat.lt_or_ge (max n 1) (max m 1) with hlt | hle
  · rw [Nat.min_eq_right hlt.le]
    exact ensureAtMost_ensureAtMost_of_lt h (by omega) hlt
  · rw [Nat.min_eq_left hle]
    refine ensureAtMost_of_limit_le (h.ensureAtMost _) _ ?_
    rw [limit_ensureAtMost h]
    omega

end Ring

/-! ### Trims of a buffer -/

namespace SiteBuffer

variable {b : SiteBuffer}

theorem dropOldest_dropOldest (h : b.WellFormed) (m n : Nat) :
    (b.dropOldest m).dropOldest n = b.dropOldest (m + n) := by
  simp only [dropOldest, Ring.dropOldest_dropOldest h]

theorem ensureAtMost_ensureAtMost (h : b.WellFormed) (m n : Nat) :
    (b.ensureAtMost m).ensureAtMost n = b.ensureAtMost (min m n) := by
  simp only [ensureAtMost, Ring.ensureAtMost_ensureAtMost h]

/-- **Two operations that are one**: they leave the same buffer behind, to the last slot,
and remove as many events together. -/
def Composes (b : SiteBuffer) (first second both : Op) : Prop :=
  ∃ r₁ r₂ b', transcript perform b [first, second] = ([.ok r₁, .ok r₂], b') ∧
    b.perform both = (.ok (r₁ + r₂), b')

theorem WellFormed.composes_dropOldest (h : b.WellFormed) (m n : Nat) :
    b.Composes (.dropOldest m) (.dropOldest n) (.dropOldest (m + n)) := by
  have hfirst := size_dropOldest b m
  have hboth := size_dropOldest b (m + n)
  refine ⟨b.size - (b.dropOldest m).size, (b.dropOldest m).size - (b.dropOldest (m + n)).size,
    b.dropOldest (m + n), ?_, ?_⟩
  · simp only [transcript, perform, dropOldest_dropOldest h]
  · rw [perform, Nat.sub_add_sub_cancel (by omega) (by omega)]

theorem WellFormed.composes_ensureAtMost (h : b.WellFormed) (m n : Nat) :
    b.Composes (.ensureAtMost m) (.ensureAtMost n) (.ensureAtMost (min m n)) := by
  have hfirst := size_ensureAtMost b m
  have hboth := size_ensureAtMost b (min m n)
  refine ⟨b.size - (b.ensureAtMost m).size,
    (b.ensureAtMost m).size - (b.ensureAtMost (min m n)).size, b.ensureAtMost (min m n), ?_, ?_⟩
  · simp only [transcript, perform, ensureAtMost_ensureAtMost h]
  · rw [perform, Nat.sub_add_sub_cancel (by omega) (by omega)]

/-- **Trims compose**, whatever has happened to the buffer before. A trim and another one
are a single trim, of as many events as both are asked to remove; a bound and another one
are a single bound, the smaller one of the two. Each time the buffers that are left are
the same, slot by slot, and what the two remove adds up to what the single one does. So a
bound that is repeated changes nothing and removes nothing, and it does not matter which
of two bounds comes first. -/
theorem trims_compose (kind : SiteKind) (limit : Nat) (p : Retention) (ops : List Op)
    (m n : Nat) :
    let b := (new kind limit p).after ops
    b.Composes (.dropOldest m) (.dropOldest n) (.dropOldest (m + n)) ∧
      b.Composes (.ensureAtMost m) (.ensureAtMost n) (.ensureAtMost (min m n)) ∧
      (b.ensureAtMost m).perform (.ensureAtMost m) = (.ok 0, b.ensureAtMost m) ∧
      (b.ensureAtMost m).ensureAtMost n = (b.ensureAtMost n).ensureAtMost m := by
  intro b
  have h : b.WellFormed := ((filled_new kind limit p).after ops).1.wellFormed
  refine ⟨h.composes_dropOldest m n, h.composes_ensureAtMost m n, ?_, ?_⟩
  · rw [perform, ensureAtMost_ensureAtMost h, Nat.min_self, Nat.sub_self]
  · rw [ensureAtMost_ensureAtMost h, ensureAtMost_ensureAtMost h, Nat.min_comm]

end SiteBuffer

end FlightRecorder
