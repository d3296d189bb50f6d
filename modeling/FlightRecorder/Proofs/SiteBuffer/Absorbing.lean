import Mathlib.Data.List.DropRight
import FlightRecorder.Proofs.SiteBuffer.Contents
import FlightRecorder.Registry

/-!
# Buffers that take the events of others

When buffers are put back, each of them takes the events that were recorded at its
site meanwhile. It does so by reading them back and storing them, one after the
other, so it ends up with the latest of the two sequences put together, as many as
its limit allows: the end of a list, `List.rtake`.

* `FlightRecorder.SiteBuffer.pushAll` – the buffer after several events that it
  accepts, with its events, limit and count;
* `FlightRecorder.SiteBuffer.absorb` – the buffer after the events of another
  (`FlightRecorder.SiteBuffer.append_records`): all of them, or none if the other
  is of another kind;
* `FlightRecorder.SiteBuffer.events_absorb` – **the events of both**.
-/

namespace FlightRecorder

/-! ### The end of a list -/

section Rtake

variable {α : Type} {n : Nat} {l l' : List α}

/-- What is not at the end of the second list is not at the end of both. -/
theorem rtake_append_rtake (n : Nat) (l l' : List α) :
    (l ++ l'.rtake n).rtake n = (l ++ l').rtake n := by
  simp only [List.rtake_eq_reverse_take_reverse, List.reverse_append, List.reverse_reverse]
  congr 1
  rw [List.take_append, List.take_append, List.take_take, Nat.min_self, List.length_take]
  rcases Nat.le_total n l'.reverse.length with hle | hle
  · rw [Nat.min_eq_left hle, Nat.sub_self, Nat.sub_eq_zero_of_le hle]
  · rw [Nat.min_eq_right hle]

theorem rtake_rtake_append (n : Nat) (l l' : List α) :
    (l.rtake n ++ l').rtake n = (l ++ l').rtake n := by
  simp only [List.rtake_eq_reverse_take_reverse, List.reverse_append, List.reverse_reverse]
  congr 1
  rw [List.take_append, List.take_append, List.take_take, Nat.min_eq_left (Nat.sub_le _ _)]

theorem rtake_of_length_le (h : l.length ≤ n) : l.rtake n = l := by
  rw [List.rtake, Nat.sub_eq_zero_of_le h, List.drop_zero]

theorem length_rtake (n : Nat) (l : List α) : (l.rtake n).length = min n l.length := by
  rw [List.rtake, List.length_drop]
  omega

theorem map_rtake {β : Type} (f : α → β) (n : Nat) (l : List α) :
    (l.rtake n).map f = (l.map f).rtake n := by
  rw [List.rtake, List.rtake, List.map_drop, List.length_map]

theorem rtake_suffix (n : Nat) (l : List α) : l.rtake n <:+ l :=
  List.drop_suffix _ _

end Rtake

namespace SiteBuffer

variable {b source : SiteBuffer} {p : Retention} {c : Heap.Census} {events : List Reading}

/-! ### Several events -/

/-- A buffer after several events that it accepts. -/
def pushAll (b : SiteBuffer) (events : List Reading) : SiteBuffer :=
  events.foldl push b

theorem pushAll_concat (b : SiteBuffer) (events : List Reading) (e : Reading) :
    b.pushAll (events ++ [e]) = (b.pushAll events).push e :=
  List.foldl_concat ..

@[simp] theorem kind_pushAll (b : SiteBuffer) (events : List Reading) :
    (b.pushAll events).kind = b.kind := by
  induction events generalizing b with
  | nil => rfl
  | cons e rest ih => exact ih (b.push e)

@[simp] theorem retention_pushAll (b : SiteBuffer) (events : List Reading) :
    (b.pushAll events).retention = b.retention := by
  induction events generalizing b with
  | nil => rfl
  | cons e rest ih => exact ih (b.push e)

@[simp] theorem limit_pushAll (b : SiteBuffer) (events : List Reading) :
    (b.pushAll events).limit = b.limit := by
  induction events generalizing b with
  | nil => rfl
  | cons e rest ih => exact (ih (b.push e)).trans (limit_push b e)

@[simp] theorem count_pushAll (b : SiteBuffer) (events : List Reading) :
    (b.pushAll events).count = b.count + events.length := by
  induction events using List.reverseRecOn with
  | nil => rfl
  | append_singleton events e ih =>
    rw [pushAll_concat, count_push, ih, List.length_append, List.length_singleton, Nat.add_assoc]

theorem WellFormed.pushAll (h : b.WellFormed) (events : List Reading) :
    (b.pushAll events).WellFormed := by
  induction events generalizing b with
  | nil => exact h
  | cons e rest ih => exact ih (h.push e)

theorem Faithful.pushAll (h : b.Faithful p) (hkind : ∀ e ∈ events, e.value.kind = b.kind) :
    (b.pushAll events).Faithful p := by
  induction events generalizing b with
  | nil => exact h
  | cons e rest ih =>
    obtain ⟨he, hrest⟩ := List.forall_mem_cons.mp hkind
    exact ih (h.push he) hrest

/-- Storing an event, with what it drops told by the limit. -/
theorem events_push_eq_rtake (h : b.WellFormed) (e : Reading) :
    (b.push e).events = (b.events ++ [e.store b.retention]).rtake b.limit := by
  have hlimit := h.size_le_limit
  have hpos := h.limit_pos
  have hlength := b.length_events
  rw [events_push h]
  split_ifs with hfull
  · have hone : (b.events ++ [e.store b.retention]).length - b.limit = 1 := by
      rw [List.length_append, List.length_singleton]
      omega
    rw [List.rtake, hone, List.drop_append_of_le_length (by omega), List.drop_one]
  · rw [rtake_of_length_le]
    rw [List.length_append, List.length_singleton]
    omega

/-- **Storing several events appends them**, and drops the oldest of all beyond the
limit. -/
theorem events_pushAll (h : b.WellFormed) (events : List Reading) :
    (b.pushAll events).events =
      (b.events ++ events.map (·.store b.retention)).rtake b.limit := by
  induction events using List.reverseRecOn with
  | nil =>
    rw [List.map_nil, List.append_nil, rtake_of_length_le (b.length_events ▸ h.size_le_limit)]
    rfl
  | append_singleton events e ih =>
    rw [pushAll_concat, events_push_eq_rtake (h.pushAll events), limit_pushAll,
      retention_pushAll, ih, rtake_rtake_append, List.map_append, List.map_singleton,
      List.append_assoc]

/-! ### The events of another buffer -/

theorem append_of_kind (h : ∀ e ∈ events, e.value.kind = b.kind) :
    Registry.append b events = (b.pushAll events, none) := by
  induction events generalizing b with
  | nil => rfl
  | cons e rest ih =>
    obtain ⟨he, hrest⟩ := List.forall_mem_cons.mp h
    rw [Registry.append, add?_eq, if_pos he]
    exact ih (b := b.push e) hrest

theorem append_of_ne (h : ∀ e ∈ events, e.value.kind ≠ b.kind) :
    (Registry.append b events).1 = b := by
  cases events with
  | nil => rfl
  | cons e rest => rw [Registry.append, add?_eq, if_neg (h e List.mem_cons_self)]

/-- A buffer after the events of another, as they read back: all of them if it is of
the same kind, and none otherwise. -/
def absorb (c : Heap.Census) (b source : SiteBuffer) : SiteBuffer :=
  if source.kind = b.kind then b.pushAll (source.records c) else b

/-- **Appending the events of a buffer** to another. -/
theorem append_records (h : source.Faithful p) (c : Heap.Census) (b : SiteBuffer) :
    (Registry.append b (source.records c)).1 = b.absorb c source := by
  rw [absorb]
  split_ifs with hkind
  · rw [append_of_kind fun e he => (h.kind_of_mem_records he).trans hkind]
  · refine append_of_ne fun e he heq => hkind ?_
    rw [← h.kind_of_mem_records he, heq]

section Absorb

variable (c)

@[simp] theorem length_records (b : SiteBuffer) : (b.records c).length = b.size := by
  rw [records_eq, List.length_map, length_events]

@[simp] theorem kind_absorb (b source : SiteBuffer) : (b.absorb c source).kind = b.kind := by
  rw [absorb]
  split_ifs
  · exact kind_pushAll b _
  · rfl

@[simp] theorem limit_absorb (b source : SiteBuffer) : (b.absorb c source).limit = b.limit := by
  rw [absorb]
  split_ifs
  · exact limit_pushAll b _
  · rfl

@[simp] theorem retention_absorb (b source : SiteBuffer) :
    (b.absorb c source).retention = b.retention := by
  rw [absorb]
  split_ifs
  · exact retention_pushAll b _
  · rfl

theorem Faithful.absorb (h : b.Faithful p) (hsource : source.Faithful p) :
    (b.absorb c source).Faithful p := by
  rw [SiteBuffer.absorb]
  split_ifs with hkind
  · exact h.pushAll fun e he => (hsource.kind_of_mem_records he).trans hkind
  · exact h

variable {c}

theorem count_absorb (hkind : source.kind = b.kind) :
    (b.absorb c source).count = b.count + source.size := by
  rw [absorb, if_pos hkind, count_pushAll, length_records]

/-- **The events of both**, the latest of them, as many as the limit allows. -/
theorem events_absorb (h : b.WellFormed) (hb : b.retention = p) (hkind : source.kind = b.kind) :
    (b.absorb c source).events =
      (b.events ++ source.events.map (·.restored p c)).rtake b.limit := by
  rw [absorb, if_pos hkind, events_pushAll h, records_eq, hb, List.map_map]
  rfl

/-- Whatever the kinds, nothing else gets into the buffer. -/
theorem events_absorb_suffix (h : b.WellFormed) (hb : b.retention = p) :
    (b.absorb c source).events <:+ b.events ++
      (if source.kind = b.kind then source.events.map (·.restored p c) else []) := by
  split_ifs with hkind
  · rw [events_absorb h hb hkind]
    exact rtake_suffix _ _
  · rw [absorb, if_neg hkind, List.append_nil]

end Absorb

end SiteBuffer

end FlightRecorder
