import FlightRecorder.Proofs.SiteBuffer.Contents

/-!
# Slots without an event

What a buffer keeps alive is decided by its slots, and not all of them can be read
back: a ring that grows has slots to spare, and a ring that was trimmed lays out its
slots anew. This file proves that the slots beyond the events are blank at all times.
So a buffer keeps alive what its events refer to and nothing else, and an object is
let go by the operation that removes its event.

* `FlightRecorder.Ring.spare`, `FlightRecorder.Ring.Tidy` – the slots beyond the
  items, and rings where they are blank; every operation keeps them so
  (`FlightRecorder.Ring.Tidy.push`, `FlightRecorder.Ring.Tidy.dropOldest`,
  `FlightRecorder.Ring.Tidy.ensureAtMost`);
* `FlightRecorder.Ring.Snug` – rings without too many of them, kept in the same way;
* `FlightRecorder.SiteBuffer.Tidy`, `FlightRecorder.SiteBuffer.mem_held_iff` – **a
  buffer keeps alive what its events hold**.
-/

namespace FlightRecorder

/-! ### Spare slots -/

namespace Ring

variable {α : Type} {r : Ring α} {a : α}

/-- The slots beyond the items, as they follow one another from the head on. -/
def spare (r : Ring α) : List α :=
  (r.slots.toList.rotate r.head).drop r.size

/-- **Tidy rings**: the spare slots are blank. -/
def Tidy (r : Ring α) : Prop :=
  ∀ a ∈ r.spare, a = r.blank

/-- The slots hold the items, and then there are the spare ones. -/
theorem mem_slots_iff (h : r.WellFormed) : a ∈ r.slots.toList ↔ a ∈ r.toList ∨ a ∈ r.spare := by
  rw [toList_eq h, spare, ← List.mem_append, List.take_append_drop, List.mem_rotate]

/-- A ring with an item in every slot has none to spare. -/
theorem tidy_of_size_eq_capacity (hfull : r.size = r.capacity) : r.Tidy := by
  intro a ha
  rw [spare, List.drop_of_length_le (by rw [List.length_rotate, Array.length_toList]; exact hfull.ge)]
    at ha
  exact absurd ha List.not_mem_nil

theorem tidy_new (blank : α) (limit : Nat) : (new blank limit).Tidy := by
  intro a ha
  have hslot := List.mem_rotate.mp (List.mem_of_mem_drop ha)
  rw [new, Array.toList_replicate] at hslot
  exact List.eq_of_mem_replicate hslot

/-- **Pushing** takes a spare slot, or the one of the oldest item; the slots that
growing adds are blank. -/
theorem Tidy.push (ht : r.Tidy) (h : r.WellFormed) (a : α) : (r.push a).Tidy := by
  rcases h.size_le_limit.lt_or_eq with hlt | hfull
  · have hhead : r.head = 0 := h.head_of_size_lt hlt
    rw [Ring.push]
    split_ifs with hfree hgrow
    · have hslot : r.slotOf r.size = r.size := by
        rw [slotOf, hhead, Nat.zero_add, Nat.mod_eq_of_lt hfree]
      intro x hx
      refine ht x ?_
      rw [hslot, spare, Array.toList_setIfInBounds, hhead, List.rotate_zero,
        List.drop_set_of_lt (Nat.lt_succ_self _)] at hx
      rw [spare, hhead, List.rotate_zero]
      exact List.drop_subset_drop_left _ (Nat.le_succ _) hx
    · intro x hx
      rw [spare, Array.toList_setIfInBounds, grow, List.rotate_zero,
        List.drop_set_of_lt (Nat.lt_succ_self _), Array.toList_append, Array.toList_replicate] at hx
      have hlen : r.unrolled.toList.length ≤ r.size + 1 := by
        rw [Array.length_toList, size_unrolled h]
        omega
      have hadded := List.drop_subset_drop_left _ hlen hx
      rw [List.drop_left] at hadded
      exact List.eq_of_mem_replicate hadded
    · omega
  · refine tidy_of_size_eq_capacity ?_
    rw [push_of_full h hfull]
    exact (h.size_eq_capacity hfull).trans Array.size_setIfInBounds.symm

/-- Trimming leaves no slot to spare. -/
theorem Tidy.dropOldest (ht : r.Tidy) (h : r.WellFormed) (n : Nat) : (r.dropOldest n).Tidy := by
  rcases Nat.eq_zero_or_pos (min n r.size) with hzero | hpos
  · rw [dropOldest_of_eq_zero hzero]
    exact ht
  · have hle : min n r.size + (r.size - min n r.size) ≤ r.capacity := by
      have := h.size_le_capacity
      omega
    rw [dropOldest_of_pos hpos]
    exact tidy_of_size_eq_capacity (capacity_compact h hle).symm

theorem Tidy.lowerLimit (ht : r.Tidy) (h : r.WellFormed) (bound : Nat) :
    (r.lowerLimit bound).Tidy := by
  have hle : 0 + r.size ≤ r.capacity := by
    rw [Nat.zero_add]
    exact h.size_le_capacity
  unfold Ring.lowerLimit
  split_ifs
  · exact tidy_of_size_eq_capacity (capacity_compact h hle).symm
  · exact ht
  · exact ht

theorem Tidy.ensureAtMost (ht : r.Tidy) (h : r.WellFormed) (bound : Nat) :
    (r.ensureAtMost bound).Tidy := by
  rw [ensureAtMost_eq]
  exact (ht.dropOldest h _).lowerLimit (h.dropOldest _) _

@[simp] theorem blank_push (r : Ring α) (a : α) : (r.push a).blank = r.blank := by
  unfold push grow
  split_ifs <;> rfl

@[simp] theorem blank_dropOldest (r : Ring α) (n : Nat) : (r.dropOldest n).blank = r.blank := by
  unfold dropOldest
  dsimp only
  split_ifs <;> rfl

@[simp] theorem blank_ensureAtMost (r : Ring α) (bound : Nat) :
    (r.ensureAtMost bound).blank = r.blank := by
  rw [ensureAtMost_eq, ← blank_dropOldest r (r.size - max bound 1)]
  unfold lowerLimit
  split_ifs <;> rfl

/-- **The slots beyond the items are blank**, one by one. -/
theorem Tidy.getElem_eq_blank (ht : r.Tidy) (h : r.WellFormed) {j : Nat} (hj : j < r.slots.size)
    (hspare : ∀ i < r.size, r.slotOf i ≠ j) : r.slots[j] = r.blank := by
  have hsize := h.size_le_capacity
  rcases h.head_eq_zero with hhead | ⟨hfull, -⟩
  · -- the items are in the first slots
    have hge : r.size ≤ j := by
      by_contra hlt
      refine hspare j (Nat.lt_of_not_le hlt) ?_
      rw [slotOf, hhead, Nat.zero_add]
      exact Nat.mod_eq_of_lt hj
    refine ht _ ?_
    rw [spare, hhead, List.rotate_zero, List.mem_drop_iff_getElem]
    refine ⟨j - r.size, by rw [Array.length_toList]; omega, ?_⟩
    simp only [Array.getElem_toList, Nat.add_sub_cancel' hge]
  · -- every slot is that of an item
    have hlt := h.head_lt (Nat.zero_lt_of_lt hj)
    have hcapacity : r.slots.size = r.capacity := rfl
    refine absurd ?_ (hspare ((j + (r.capacity - r.head)) % r.capacity) ?_)
    · have hround : r.head + (j + (r.capacity - r.head)) = j + r.capacity := by omega
      rw [slotOf, Nat.add_mod_mod, hround, Nat.add_mod_right]
      exact Nat.mod_eq_of_lt hj
    · rw [hfull]
      exact Nat.mod_lt _ (Nat.zero_lt_of_lt hj)

/-! ### How many slots there are -/

/-- **Snug rings** have no more slots than a new one, or than twice their items. -/
def Snug (r : Ring α) : Prop :=
  r.capacity ≤ max initialCapacity (2 * r.size)

theorem snug_new (blank : α) (limit : Nat) : (new blank limit).Snug := by
  rw [Snug, capacity_new]
  omega

theorem snug_of_capacity_eq (h : r.capacity = r.size) : r.Snug := by
  rw [Snug, h]
  omega

theorem capacity_grow (h : r.WellFormed) {n : Nat} (hle : r.capacity ≤ n) :
    (r.grow n).capacity = n := by
  rw [capacity, Ring.grow, Array.size_append, Array.size_replicate, size_unrolled h]
  omega

/-- Growing doubles the slots of a ring that has an item in each of them. -/
theorem Snug.push (hs : r.Snug) (h : r.WellFormed) (a : α) : (r.push a).Snug := by
  have hsize := h.size_le_capacity
  unfold Snug at hs ⊢
  rw [Ring.push]
  split_ifs with hfree hgrow
  · simp only [capacity, Array.size_setIfInBounds] at hs ⊢
    omega
  · have hgrown := capacity_grow h (n := r.grownCapacity)
      (by rw [grownCapacity]; omega)
    simp only [grownCapacity, capacity, Array.size_setIfInBounds] at hgrown hfree hsize ⊢
    omega
  · simp only [capacity, Array.size_setIfInBounds] at hs ⊢
    exact hs

theorem Snug.dropOldest (hs : r.Snug) (h : r.WellFormed) (n : Nat) : (r.dropOldest n).Snug := by
  have hsize := h.size_le_capacity
  rcases Nat.eq_zero_or_pos (min n r.size) with hzero | hpos
  · rw [dropOldest_of_eq_zero hzero]
    exact hs
  · rw [dropOldest_of_pos hpos]
    exact snug_of_capacity_eq (capacity_compact h (by omega))

theorem Snug.lowerLimit (hs : r.Snug) (h : r.WellFormed) (bound : Nat) :
    (r.lowerLimit bound).Snug := by
  have hsize := h.size_le_capacity
  unfold Ring.lowerLimit
  split_ifs
  · exact snug_of_capacity_eq (capacity_compact h (by omega))
  · exact hs
  · exact hs

end Ring

/-! ### What a buffer keeps alive -/

/-- A blank keeps nothing alive. -/
theorem Event.held_blank (kind : Kind) : (Event.blank kind).cell.held = none := by
  cases kind <;> rfl

namespace SiteBuffer

variable {b : SiteBuffer} {r : Ref}

/-- **Tidy buffers**: the spare slots keep nothing alive. -/
structure Tidy (b : SiteBuffer) : Prop where
  ring : b.ring.Tidy
  blank : b.ring.blank = Event.blank b.kind

theorem tidy_new (kind : SiteKind) (limit : Nat) (p : Retention) : (new kind limit p).Tidy :=
  ⟨Ring.tidy_new _ _, rfl⟩

theorem Tidy.push (ht : b.Tidy) (h : b.WellFormed) (e : Reading) : (b.push e).Tidy :=
  ⟨ht.ring.push h _, (Ring.blank_push _ _).trans ht.blank⟩

theorem Tidy.dropOldest (ht : b.Tidy) (h : b.WellFormed) (n : Nat) : (b.dropOldest n).Tidy :=
  ⟨ht.ring.dropOldest h n, (Ring.blank_dropOldest _ _).trans ht.blank⟩

theorem Tidy.ensureAtMost (ht : b.Tidy) (h : b.WellFormed) (bound : Nat) :
    (b.ensureAtMost bound).Tidy :=
  ⟨ht.ring.ensureAtMost h bound, (Ring.blank_ensureAtMost _ _).trans ht.blank⟩

/-- **A buffer keeps alive what its events hold**, and nothing else. -/
theorem mem_held_iff (ht : b.Tidy) (h : b.WellFormed) :
    r ∈ b.held ↔ ∃ e ∈ b.events, e.cell.held = some r := by
  rw [held, List.mem_filterMap]
  constructor
  · rintro ⟨e, he, hheld⟩
    rcases (Ring.mem_slots_iff h).mp he with he | he
    · exact ⟨e, he, hheld⟩
    · rw [ht.ring e he, ht.blank, Event.held_blank] at hheld
      cases hheld
  · rintro ⟨e, he, hheld⟩
    exact ⟨e, (Ring.mem_slots_iff h).mpr (Or.inl he), hheld⟩

end SiteBuffer

end FlightRecorder
