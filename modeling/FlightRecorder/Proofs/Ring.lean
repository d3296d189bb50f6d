import Mathlib.Data.List.DropRight
import Mathlib.Data.List.Rotate
import FlightRecorder.Ring

/-!
# What a ring holds

A ring is a queue with a limit: pushing appends, and drops the oldest item where
the limit is reached; the two trims drop the oldest items. Of the slots, of the
head that wanders through them and of the moments at which they are doubled,
given back or laid out anew, nothing can be seen in the view. This file proves
that, and everything said about buffers elsewhere rests on it.

* `FlightRecorder.Ring.WellFormed` – how the slots, the head, the number of items
  and the limit fit together; every ring made by the operations is well-formed;
* `FlightRecorder.Ring.toList_eq` – the view is an initial segment of the slots,
  rotated to begin at the head;
* `FlightRecorder.Ring.toList_push`, `FlightRecorder.Ring.toList_dropOldest`,
  `FlightRecorder.Ring.toList_ensureAtMost` – the three operations on the view,
  each with the sizes, limits and counts that go with it.
-/

namespace FlightRecorder.Ring

variable {α : Type}

/-- **Well-formed rings.** There are no more items than slots and no more slots
than the limit allows, and the head moves only once all slots there may be are
taken. -/
structure WellFormed (r : Ring α) : Prop where
  size_le_capacity : r.size ≤ r.capacity
  capacity_le_limit : r.capacity ≤ r.limit
  limit_pos : 0 < r.limit
  size_le_count : r.size ≤ r.count
  head_lt : 0 < r.capacity → r.head < r.capacity
  head_eq_zero : r.head = 0 ∨ (r.size = r.capacity ∧ r.capacity = r.limit)

section Numbers

variable {r : Ring α}

theorem WellFormed.size_le_limit (h : r.WellFormed) : r.size ≤ r.limit :=
  h.size_le_capacity.trans h.capacity_le_limit

theorem WellFormed.head_le_capacity (h : r.WellFormed) : r.head ≤ r.capacity := by
  rcases Nat.eq_zero_or_pos r.capacity with h0 | hpos
  · rcases h.head_eq_zero with hz | ⟨-, hl⟩
    · omega
    · have := h.limit_pos
      omega
  · exact (h.head_lt hpos).le

/-- A full ring has an item in every slot. -/
theorem WellFormed.size_eq_capacity (h : r.WellFormed) (hfull : r.size = r.limit) :
    r.size = r.capacity :=
  le_antisymm h.size_le_capacity (h.capacity_le_limit.trans_eq hfull.symm)

/-- The head of a ring that has room for more items is at the first slot. -/
theorem WellFormed.head_of_size_lt (h : r.WellFormed) (hlt : r.size < r.limit) : r.head = 0 := by
  rcases h.head_eq_zero with hz | ⟨hs, hc⟩
  · exact hz
  · omega

/-- The slots laid out from the head on are the slots, rotated. -/
theorem toList_unrolled (h : r.WellFormed) :
    r.unrolled.toList = r.slots.toList.rotate r.head := by
  have hle : r.head ≤ r.slots.toList.length := by simpa [capacity] using h.head_le_capacity
  rw [List.rotate_eq_drop_append_take hle]
  simp [unrolled, List.extract_eq_take_drop]

theorem size_unrolled (h : r.WellFormed) : r.unrolled.size = r.capacity := by
  rw [← Array.length_toList, toList_unrolled h, List.length_rotate, Array.length_toList, capacity]

end Numbers

/-! ### The view, read off the slots -/

/-- Reading the `i`-th item is reading the view. -/
theorem get?_eq (r : Ring α) (i : Nat) : r.get? i = r.toList[i]? := by
  rcases Nat.lt_or_ge i r.size with hi | hi
  · simp [get?, toList, hi]
  · have : r.toList.length ≤ i := by simpa using hi
    rw [List.getElem?_eq_none this, get?, if_neg (by omega)]

/-- **The view is an initial segment of the slots**, once they are rotated to
begin at the head. -/
theorem toList_eq {r : Ring α} (h : r.WellFormed) :
    r.toList = (r.slots.toList.rotate r.head).take r.size := by
  have hcap : r.slots.toList.length = r.capacity := by simp [capacity]
  refine List.ext_getElem ?_ fun i h1 h2 => ?_
  · have := h.size_le_capacity
    simp only [length_toList, List.length_take, List.length_rotate, hcap]
    omega
  · have hi : i < r.size := by simpa using h1
    have hpos : 0 < r.capacity := lt_of_le_of_lt i.zero_le (hi.trans_le h.size_le_capacity)
    have hslot : (r.head + i) % r.capacity < r.slots.size := Nat.mod_lt _ hpos
    simp only [toList, List.getElem_map, List.getElem_range, slotOf, List.getElem_take,
      List.getElem_rotate, Array.length_toList, Array.getElem_toList]
    rw [Array.getD_eq_getD_getElem?, Array.getElem?_eq_getElem hslot, Option.getD_some]
    simp only [Nat.add_comm i, capacity]

/-! ### Empty rings -/

@[simp] theorem toList_new (blank : α) (limit : Nat) : (new blank limit).toList = [] := rfl

theorem capacity_new (blank : α) (limit : Nat) :
    (new blank limit).capacity = min initialCapacity (max limit 1) := by
  simp [new, capacity]

theorem wellFormed_new (blank : α) (limit : Nat) : (new blank limit).WellFormed where
  size_le_capacity := Nat.zero_le _
  capacity_le_limit := by
    rw [capacity_new, limit_new]
    exact Nat.min_le_right _ _
  limit_pos := by
    rw [limit_new]
    omega
  size_le_count := Nat.zero_le _
  head_lt h := h
  head_eq_zero := Or.inl rfl

/-! ### Pushing -/

/-- Writing after the items of a list that are kept is appending to them. -/
theorem take_succ_set {l : List α} {i : Nat} (hi : i < l.length) (a : α) :
    (l.set i a).take (i + 1) = l.take i ++ [a] := by
  have hi' : i < (l.set i a).length := by simpa using hi
  rw [← List.take_append_getElem hi', List.getElem_set_self, List.take_set_of_le (le_refl i)]

/-- Overwriting the first item of a rotated list and rotating once more drops it
and appends what was written. -/
theorem rotate_succ_set {l : List α} {i : Nat} (hi : i < l.length) (a : α) :
    (l.set i a).rotate (i + 1) = (l.rotate i).tail ++ [a] := by
  have hi' : i + 1 ≤ (l.set i a).length := by
    rw [List.length_set]
    exact hi
  rw [List.rotate_eq_drop_append_take hi', take_succ_set hi,
    List.drop_set_of_lt (Nat.lt_succ_self i), List.rotate_eq_drop_append_take hi.le,
    List.drop_eq_getElem_cons hi, List.cons_append, List.tail_cons, List.append_assoc]

section Push

variable {r : Ring α}

/-- **Pushing below the limit**: whether there is a free slot or the ring has to
grow, the items stay at the first slots and the new one comes after them. -/
theorem push_of_lt_limit (h : r.WellFormed) (hlt : r.size < r.limit) (a : α) :
    ∃ slots : Array α, r.size < slots.size ∧ slots.size ≤ r.limit ∧
      slots.toList.take (r.size + 1) = r.toList ++ [a] ∧
      r.push a = { r with slots, head := 0, size := r.size + 1, count := r.count + 1 } := by
  have hhead : r.head = 0 := h.head_of_size_lt hlt
  have hview : r.toList = r.slots.toList.take r.size := by
    rw [toList_eq h, hhead, List.rotate_zero]
  have hlen : r.slots.toList.length = r.capacity := Array.length_toList
  rcases h.size_le_capacity.lt_or_eq with hfree | hfull
  · have hslot : r.slotOf r.size = r.size := by
      rw [slotOf, hhead, Nat.zero_add, Nat.mod_eq_of_lt hfree]
    have hsize : (r.slots.setIfInBounds r.size a).size = r.capacity := Array.size_setIfInBounds
    refine ⟨r.slots.setIfInBounds r.size a, ?_, ?_, ?_, ?_⟩
    · rw [hsize]
      exact hfree
    · rw [hsize]
      exact h.capacity_le_limit
    · rw [Array.toList_setIfInBounds, hview]
      exact take_succ_set (hlen.symm ▸ hfree) a
    · rw [push, if_pos hfree, hslot, hhead]
  · have hunrolled : r.unrolled = r.slots := by
      simp [unrolled, hhead]
    -- the number of slots doubles, but for an empty array and for the limit
    obtain ⟨n, hn, hnl, hdef⟩ : ∃ n, r.size < n ∧ n ≤ r.limit ∧
        n = r.grownCapacity := by
      exact ⟨_, by rw [grownCapacity]; omega, by rw [grownCapacity]; omega, rfl⟩
    have hsize : (r.slots ++ Array.replicate (n - r.capacity) r.blank).size = n := by
      rw [Array.size_append, Array.size_replicate, capacity] at *
      omega
    refine ⟨(r.slots ++ Array.replicate (n - r.capacity) r.blank).setIfInBounds r.size a,
      ?_, ?_, ?_, ?_⟩
    · rw [Array.size_setIfInBounds, hsize]
      exact hn
    · rw [Array.size_setIfInBounds, hsize]
      exact hnl
    · rw [Array.toList_setIfInBounds,
        take_succ_set (by rw [Array.length_toList, hsize]; exact hn), hview,
        Array.toList_append, List.take_append_of_le_length (hlen.symm ▸ hfull.le)]
    · rw [push, if_neg (by omega), if_pos (by omega), ← hdef]
      simp only [grow, hunrolled]

/-- **Pushing at the limit**: the new item overwrites the oldest, and the head
moves on to the next. -/
theorem push_of_full (h : r.WellFormed) (hfull : r.size = r.limit) (a : α) :
    r.push a = { r with
      slots := r.slots.setIfInBounds r.head a
      head := (r.head + 1) % r.capacity, count := r.count + 1 } := by
  have := h.size_le_capacity
  have := h.capacity_le_limit
  rw [push, if_neg (by omega), if_neg (by omega)]

theorem WellFormed.push (h : r.WellFormed) (a : α) : (r.push a).WellFormed := by
  rcases h.size_le_limit.lt_or_eq with hlt | hfull
  · obtain ⟨slots, hsize, hlimit, -, hpush⟩ := push_of_lt_limit h hlt a
    rw [hpush]
    exact ⟨hsize, hlimit, h.limit_pos, Nat.succ_le_succ h.size_le_count, fun hpos => hpos,
      Or.inl rfl⟩
  · have hcap : r.size = r.capacity := h.size_eq_capacity hfull
    have hpos : 0 < r.capacity := hcap ▸ hfull ▸ h.limit_pos
    have hsame : (r.push a).capacity = r.capacity := by
      rw [push_of_full h hfull]
      simp [capacity]
    refine ⟨?_, ?_, ?_, ?_, fun _ => ?_, Or.inr ⟨?_, ?_⟩⟩ <;> rw [push_of_full h hfull] at hsame ⊢
    · rw [hsame]
      exact h.size_le_capacity
    · rw [hsame]
      exact h.capacity_le_limit
    · exact h.limit_pos
    · exact h.size_le_count.trans (Nat.le_succ _)
    · rw [hsame]
      exact Nat.mod_lt _ hpos
    · rw [hsame]
      exact hcap
    · rw [hsame]
      exact hcap.symm.trans hfull

theorem size_push (h : r.WellFormed) (a : α) : (r.push a).size = min (r.size + 1) r.limit := by
  rcases h.size_le_limit.lt_or_eq with hlt | hfull
  · obtain ⟨slots, -, -, -, hpush⟩ := push_of_lt_limit h hlt a
    rw [hpush]
    exact (Nat.min_eq_left hlt).symm
  · rw [push_of_full h hfull, hfull]
    exact (Nat.min_eq_right (Nat.le_succ _)).symm

/-- **Pushing appends**, and drops the oldest item where the limit is reached. -/
theorem toList_push (h : r.WellFormed) (a : α) :
    (r.push a).toList = (if r.size = r.limit then r.toList.tail else r.toList) ++ [a] := by
  rw [toList_eq (h.push a)]
  rcases h.size_le_limit.lt_or_eq with hlt | hfull
  · obtain ⟨slots, -, -, hview, hpush⟩ := push_of_lt_limit h hlt a
    rw [hpush, if_neg hlt.ne, ← hview]
    simp only [List.rotate_zero]
  · have hlen : r.slots.toList.length = r.capacity := Array.length_toList
    have hcap : r.size = r.capacity := h.size_eq_capacity hfull
    have hpos : 0 < r.capacity := by
      have := h.limit_pos
      omega
    have hhead : r.head < r.slots.toList.length := hlen.symm ▸ h.head_lt hpos
    have hmod : (r.slots.toList.set r.head a).rotate ((r.head + 1) % r.capacity) =
        (r.slots.toList.set r.head a).rotate (r.head + 1) := by
      rw [← hlen, ← List.length_set (a := a) (i := r.head), List.rotate_mod]
    rw [if_pos hfull, push_of_full h hfull, toList_eq h]
    -- every slot is taken, so the views are the rotated slots as a whole
    simp only [Array.toList_setIfInBounds, hmod]
    have hall : (r.slots.toList.rotate r.head).length ≤ r.size := by
      rw [List.length_rotate, hlen, hcap]
    have hall' : ((r.slots.toList.rotate r.head).tail ++ [a]).length ≤ r.size := by
      simp only [List.length_append, List.length_tail, List.length_singleton]
      omega
    rw [rotate_succ_set hhead, List.take_of_length_le hall, List.take_of_length_le hall']

end Push

/-! ### Laying out anew

Both trims end with an array that holds the remaining items and nothing else, in
order. What differs is how many items are skipped and what becomes of the limit
and of the count, so these are left open here. -/

section Compact

variable {r : Ring α} {skip keep limit count : Nat}

theorem capacity_compact (h : r.WellFormed) (hle : skip + keep ≤ r.capacity) :
    (r.compact skip keep).capacity = keep := by
  have hsize := size_unrolled h
  rw [capacity, compact, Array.size_extract, hsize]
  omega

theorem wellFormed_compact (h : r.WellFormed) (hle : skip + keep ≤ r.size) (hkeep : keep ≤ limit)
    (hpos : 0 < limit) (hcount : keep ≤ count) :
    { r.compact skip keep with size := keep, limit, count }.WellFormed := by
  have hcap : (r.compact skip keep).capacity = keep :=
    capacity_compact h (hle.trans h.size_le_capacity)
  exact ⟨hcap.ge, hcap.trans_le hkeep, hpos, hcount, fun hslots => hslots, Or.inl rfl⟩

theorem toList_compact (h : r.WellFormed) (hle : skip + keep ≤ r.size) (hkeep : keep ≤ limit)
    (hpos : 0 < limit) (hcount : keep ≤ count) :
    { r.compact skip keep with size := keep, limit, count }.toList =
      (r.toList.drop skip).take keep := by
  rw [toList_eq (wellFormed_compact h hle hkeep hpos hcount), toList_eq h]
  simp only [compact, List.rotate_zero, Array.toList_extract, toList_unrolled h,
    List.extract_eq_take_drop, Nat.add_sub_cancel_left]
  rw [List.drop_take, List.take_take, List.take_take]
  congr 1
  omega

end Compact

/-! ### Trimming -/

section Trim

variable {r : Ring α}

/-- Trimming something lays the ring out anew. -/
theorem dropOldest_of_pos {n : Nat} (hpos : 0 < min n r.size) :
    r.dropOldest n = { r.compact (min n r.size) (r.size - min n r.size) with
      size := r.size - min n r.size, limit := max (r.limit - min n r.size) 1,
      count := r.count - min n r.size } := by
  rw [dropOldest, if_neg hpos.ne']

theorem dropOldest_of_eq_zero {n : Nat} (hzero : min n r.size = 0) : r.dropOldest n = r := by
  rw [dropOldest, if_pos hzero]

theorem limit_dropOldest (h : r.WellFormed) (n : Nat) :
    (r.dropOldest n).limit = max (r.limit - min n r.size) 1 := by
  rcases Nat.eq_zero_or_pos (min n r.size) with hzero | hpos
  · have := h.limit_pos
    rw [dropOldest_of_eq_zero hzero]
    omega
  · rw [dropOldest_of_pos hpos]

@[simp] theorem count_dropOldest (r : Ring α) (n : Nat) :
    (r.dropOldest n).count = r.count - min n r.size := by
  rcases Nat.eq_zero_or_pos (min n r.size) with hzero | hpos
  · rw [dropOldest_of_eq_zero hzero, hzero, Nat.sub_zero]
  · rw [dropOldest_of_pos hpos]

theorem WellFormed.dropOldest (h : r.WellFormed) (n : Nat) : (r.dropOldest n).WellFormed := by
  rcases Nat.eq_zero_or_pos (min n r.size) with hzero | hpos
  · rw [dropOldest_of_eq_zero hzero]
    exact h
  · have := h.size_le_limit
    have := h.size_le_count
    rw [dropOldest_of_pos hpos]
    exact wellFormed_compact h (by omega) (by omega) (by omega) (by omega)

/-- **Trimming drops the oldest items** from the view. -/
theorem toList_dropOldest (h : r.WellFormed) (n : Nat) :
    (r.dropOldest n).toList = r.toList.drop n := by
  have hlen := r.length_toList
  rcases Nat.eq_zero_or_pos (min n r.size) with hzero | hpos
  · rw [dropOldest_of_eq_zero hzero]
    rcases Nat.eq_zero_or_pos n with rfl | hn
    · rfl
    · have hnil : r.toList = [] := List.eq_nil_of_length_eq_zero (by omega)
      rw [hnil, List.drop_nil]
  · have := h.size_le_limit
    have := h.size_le_count
    rw [dropOldest_of_pos hpos, toList_compact h (by omega) (by omega) (by omega) (by omega),
      List.take_of_length_le (by rw [List.length_drop]; omega)]
    rcases Nat.le_total n r.size with hle | hle
    · rw [Nat.min_eq_left hle]
    · rw [Nat.min_eq_right hle, List.drop_of_length_le hlen.le,
        List.drop_of_length_le (hlen.trans_le hle)]

/-- Lowering the limit of a ring that has no more items than that: the slots are
laid out anew where there are too many. -/
def lowerLimit (r : Ring α) (bound : Nat) : Ring α :=
  if bound < r.limit then
    let r := if bound < r.capacity then r.compact 0 r.size else r
    { r with limit := bound }
  else r

/-- Bounding a ring is trimming it and then lowering its limit. -/
theorem ensureAtMost_eq (r : Ring α) (bound : Nat) :
    r.ensureAtMost bound =
      (r.dropOldest (r.size - max bound 1)).lowerLimit (max bound 1) := rfl

section Lower

variable {bound : Nat}

@[simp] theorem size_lowerLimit (r : Ring α) (bound : Nat) :
    (r.lowerLimit bound).size = r.size := by
  unfold lowerLimit
  split_ifs <;> rfl

@[simp] theorem count_lowerLimit (r : Ring α) (bound : Nat) :
    (r.lowerLimit bound).count = r.count := by
  unfold lowerLimit
  split_ifs <;> rfl

@[simp] theorem limit_lowerLimit (r : Ring α) (bound : Nat) :
    (r.lowerLimit bound).limit = min r.limit bound := by
  unfold lowerLimit
  split_ifs with hlt
  · exact (Nat.min_eq_right hlt.le).symm
  · exact (Nat.min_eq_right hlt.le).symm
  · exact (Nat.min_eq_left (Nat.le_of_not_lt hlt)).symm

theorem WellFormed.lowerLimit (h : r.WellFormed) (hpos : 0 < bound) (hsize : r.size ≤ bound) :
    (r.lowerLimit bound).WellFormed := by
  have hcount := h.size_le_count
  unfold Ring.lowerLimit
  split_ifs with hlt hcap
  · exact wellFormed_compact h (by omega) hsize hpos hcount
  · -- there are fewer slots than there were allowed to be, so the head has not moved
    have hhead : r.head = 0 := h.head_of_size_lt (hsize.trans_lt hlt)
    exact ⟨h.size_le_capacity, Nat.le_of_not_lt hcap, hpos, hcount, h.head_lt, Or.inl hhead⟩
  · exact h

theorem toList_lowerLimit (h : r.WellFormed) (hpos : 0 < bound) (hsize : r.size ≤ bound) :
    (r.lowerLimit bound).toList = r.toList := by
  have hcount := h.size_le_count
  unfold lowerLimit
  split_ifs with hlt hcap
  · refine (toList_compact h (by omega) hsize hpos hcount).trans ?_
    rw [List.drop_zero, List.take_of_length_le r.length_toList.le]
  · rfl
  · rfl

end Lower

section Bound

variable (h : r.WellFormed) (bound : Nat)

theorem size_ensureAtMost (r : Ring α) (bound : Nat) :
    (r.ensureAtMost bound).size = min r.size (max bound 1) := by
  rw [ensureAtMost_eq, size_lowerLimit, size_dropOldest]
  omega

theorem count_ensureAtMost (r : Ring α) (bound : Nat) :
    (r.ensureAtMost bound).count = r.count - (r.size - max bound 1) := by
  rw [ensureAtMost_eq, count_lowerLimit, count_dropOldest]
  omega

include h

/-- A bound that the limit keeps already changes nothing. -/
theorem ensureAtMost_of_limit_le (hle : r.limit ≤ bound) : r.ensureAtMost bound = r := by
  have hsize := h.size_le_limit
  have hkept : r.size - max bound 1 = 0 := by omega
  have hbound : ¬max bound 1 < r.limit := by omega
  rw [ensureAtMost_eq, hkept, dropOldest_of_eq_zero (Nat.zero_min _), lowerLimit, if_neg hbound]

theorem limit_ensureAtMost : (r.ensureAtMost bound).limit = min r.limit (max bound 1) := by
  have := h.size_le_limit
  have := h.limit_pos
  rw [ensureAtMost_eq, limit_lowerLimit, limit_dropOldest h]
  omega

theorem WellFormed.ensureAtMost : (r.ensureAtMost bound).WellFormed := by
  have hsize : (r.dropOldest (r.size - max bound 1)).size ≤ max bound 1 := by
    rw [size_dropOldest]
    omega
  rw [ensureAtMost_eq]
  exact (h.dropOldest _).lowerLimit (by omega) hsize

/-- **Bounding drops the oldest items beyond the bound** from the view. -/
theorem toList_ensureAtMost :
    (r.ensureAtMost bound).toList = r.toList.drop (r.size - max bound 1) := by
  have hsize : (r.dropOldest (r.size - max bound 1)).size ≤ max bound 1 := by
    rw [size_dropOldest]
    omega
  rw [ensureAtMost_eq, toList_lowerLimit (h.dropOldest _) (by omega) hsize, toList_dropOldest h]

end Bound

end Trim

end FlightRecorder.Ring
