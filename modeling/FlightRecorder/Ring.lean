/-!
# Rings with a movable limit

A ring keeps the latest items it was given, up to a limit. It starts with a few
slots, doubles them until it has as many as the limit allows, and from then on
overwrites its oldest item. Unlike a plain ring buffer its limit is not fixed: it
can be lowered, which drops the oldest items and gives their slots back.

```text
 growing:  [a b c d · ·]      head = 0, size < capacity
 full:     [e f c d]          head = 2, the oldest; size = capacity = limit
 trimmed:  [d e f]            head = 0, the limit lowered by the trim
```

* `FlightRecorder.Ring` – slots, the place of the oldest item, the number of
  items, the limit, and the number of items offered so far less those trimmed;
* `FlightRecorder.Ring.push`, `FlightRecorder.Ring.dropOldest`,
  `FlightRecorder.Ring.ensureAtMost` – the three operations;
* `FlightRecorder.Ring.get?`, `FlightRecorder.Ring.toList` – the view: the items
  that can be read back, oldest first.

Slots that hold no item hold the blank of the ring.
-/

namespace FlightRecorder

/-- A ring of items of type `α`. -/
structure Ring (α : Type) where
  /-- The content of a slot that holds no item. -/
  blank : α
  slots : Array α
  /-- The slot of the oldest item. -/
  head : Nat
  /-- How many items can be read back. -/
  size : Nat
  /-- How many items may be kept; never below one. -/
  limit : Nat
  /-- Items offered so far, less those trimmed. -/
  count : Nat
  deriving Repr

namespace Ring

variable {α : Type}

/-- The number of slots a ring starts with, unless its limit is smaller. -/
def initialCapacity : Nat := 32

/-- An empty ring. A limit of zero is taken for one. -/
def new (blank : α) (limit : Nat) : Ring α :=
  let limit := max limit 1
  { blank, slots := Array.replicate (min initialCapacity limit) blank
    head := 0, size := 0, limit, count := 0 }

/-- The number of slots. -/
def capacity (r : Ring α) : Nat :=
  r.slots.size

/-- The slot of the `i`-th item, the oldest being the zeroth. -/
def slotOf (r : Ring α) (i : Nat) : Nat :=
  (r.head + i) % r.capacity

/-- The slots in the order of their items: those from the head on come first. -/
def unrolled (r : Ring α) : Array α :=
  r.slots.extract r.head r.slots.size ++ r.slots.extract 0 r.head

/-- Unroll the slots and add blank ones up to the given capacity. -/
def grow (r : Ring α) (capacity : Nat) : Ring α :=
  { r with
    slots := r.unrolled ++ Array.replicate (capacity - r.capacity) r.blank
    head := 0 }

/-- Unroll the slots, skip `skip` of them and keep the `keep` ones that follow;
the others are given back. -/
def compact (r : Ring α) (skip keep : Nat) : Ring α :=
  { r with slots := r.unrolled.extract skip (skip + keep), head := 0 }

/-- The number of slots of a ring once it has grown. -/
def grownCapacity (r : Ring α) : Nat :=
  min (max (r.capacity * 2) 1) r.limit

/-- Whether the next item needs a slot that is not there yet. -/
def needsSlots (r : Ring α) : Bool :=
  decide (r.capacity ≤ r.size) && decide (r.capacity < r.limit)

/-- Offer an item. It takes a free slot if there is one, then a new slot if the
limit allows more, and otherwise the slot of the oldest item. -/
def push (r : Ring α) (a : α) : Ring α :=
  if r.size < r.capacity then
    { r with
      slots := r.slots.setIfInBounds (r.slotOf r.size) a
      size := r.size + 1
      count := r.count + 1 }
  else if r.capacity < r.limit then
    let g := r.grow r.grownCapacity
    { g with
      slots := g.slots.setIfInBounds r.size a
      size := r.size + 1
      count := r.count + 1 }
  else
    { r with
      slots := r.slots.setIfInBounds r.head a
      head := (r.head + 1) % r.capacity
      count := r.count + 1 }

/-- Trim the `n` oldest items, or all if there are fewer. The limit and the count
drop by the number of items trimmed. -/
def dropOldest (r : Ring α) (n : Nat) : Ring α :=
  let n := min n r.size
  if n = 0 then r
  else
    let keep := r.size - n
    { r.compact n keep with
      size := keep
      limit := max (r.limit - n) 1
      count := r.count - n }

/-- Trim down to at most `bound` items and lower the limit to `bound`. A bound of
zero is taken for one. Slots beyond the new limit are given back. -/
def ensureAtMost (r : Ring α) (bound : Nat) : Ring α :=
  let bound := max bound 1
  let r := r.dropOldest (r.size - bound)
  if bound < r.limit then
    let r := if bound < r.capacity then r.compact 0 r.size else r
    { r with limit := bound }
  else r

/-- The `i`-th item, the oldest being the zeroth. -/
def get? (r : Ring α) (i : Nat) : Option α :=
  if i < r.size then some (r.slots.getD (r.slotOf i) r.blank) else none

/-- **The view**: the items that can be read back, oldest first. -/
def toList (r : Ring α) : List α :=
  (List.range r.size).map fun i => r.slots.getD (r.slotOf i) r.blank

/-! ### What each operation does to the numbers -/

@[simp] theorem size_new (blank : α) (limit : Nat) : (new blank limit).size = 0 := rfl

@[simp] theorem count_new (blank : α) (limit : Nat) : (new blank limit).count = 0 := rfl

@[simp] theorem limit_new (blank : α) (limit : Nat) : (new blank limit).limit = max limit 1 := rfl

@[simp] theorem length_toList (r : Ring α) : r.toList.length = r.size := by
  simp [toList]

@[simp] theorem count_push (r : Ring α) (a : α) : (r.push a).count = r.count + 1 := by
  unfold push grow
  split
  · rfl
  · split <;> rfl

@[simp] theorem limit_push (r : Ring α) (a : α) : (r.push a).limit = r.limit := by
  unfold push grow
  split
  · rfl
  · split <;> rfl

@[simp] theorem size_dropOldest (r : Ring α) (n : Nat) :
    (r.dropOldest n).size = r.size - min n r.size := by
  by_cases h : min n r.size = 0 <;> simp [dropOldest, h]

end Ring

end FlightRecorder
