import FlightRecorder.Proofs.SiteBuffer.Events

/-!
# What the slots hold

The view of a buffer shows the events that can be read back; its slots may hold
more than that, and what they hold keeps objects alive. This file is about all of
it: a slot holds a value of the kind of its buffer, stored under the policy of the
buffer, and nothing else ever gets into one. So a buffer never refuses what another
buffer of its kind reads back, and buffers that hold objects weakly keep none of
them alive.

* `FlightRecorder.Ring.Holds` – a property of everything in the slots of a ring,
  kept by the operations;
* `FlightRecorder.Event.StoredAs` – events as a buffer of a kind and a policy
  stores them;
* `FlightRecorder.SiteBuffer.Faithful` – buffers that hold nothing else, with
  `FlightRecorder.SiteBuffer.Faithful.kind_of_mem_records` and
  `FlightRecorder.SiteBuffer.Faithful.held_eq_nil`;
* `FlightRecorder.Event.restored`, `FlightRecorder.Event.StoredAs.read_restored` –
  an event that is read back and stored anew, which is the same event but for an
  object that has been collected.
-/

namespace FlightRecorder

/-! ### Everything in a ring -/

namespace Ring

variable {α : Type} {P : α → Prop} {r : Ring α}

/-- **A property of all slots**, and of what a slot without an item holds. -/
structure Holds (P : α → Prop) (r : Ring α) : Prop where
  blank : P r.blank
  slots : ∀ a ∈ r.slots.toList, P a

theorem holds_new {blank : α} (h : P blank) (limit : Nat) : (new blank limit).Holds P where
  blank := h
  slots a ha := by
    rw [new, Array.toList_replicate] at ha
    rw [List.eq_of_mem_replicate ha]
    exact h

theorem mem_of_mem_unrolled {a : α} (ha : a ∈ r.unrolled.toList) : a ∈ r.slots.toList := by
  rw [unrolled, Array.toList_append, Array.toList_extract, Array.toList_extract,
    List.extract_eq_take_drop, List.extract_eq_take_drop, List.mem_append] at ha
  rcases ha with ha | ha
  · exact List.mem_of_mem_drop (List.mem_of_mem_take ha)
  · exact List.mem_of_mem_drop (List.mem_of_mem_take ha)

theorem Holds.grow (h : r.Holds P) (capacity : Nat) : (r.grow capacity).Holds P where
  blank := h.blank
  slots a ha := by
    rw [Ring.grow, Array.toList_append, Array.toList_replicate, List.mem_append] at ha
    rcases ha with ha | ha
    · exact h.slots a (mem_of_mem_unrolled ha)
    · rw [List.eq_of_mem_replicate ha]
      exact h.blank

theorem Holds.compact (h : r.Holds P) (skip keep : Nat) : (r.compact skip keep).Holds P where
  blank := h.blank
  slots a ha := by
    rw [Ring.compact, Array.toList_extract, List.extract_eq_take_drop] at ha
    exact h.slots a (mem_of_mem_unrolled (List.mem_of_mem_drop (List.mem_of_mem_take ha)))

/-- **Whatever is pushed** gets into a slot, and nothing else does. -/
theorem Holds.push (h : r.Holds P) {a : α} (ha : P a) : (r.push a).Holds P := by
  have hset : ∀ (slots : Array α) (i : Nat), (∀ x ∈ slots.toList, P x) →
      ∀ x ∈ (slots.setIfInBounds i a).toList, P x := by
    intro slots i hslots x hx
    rw [Array.toList_setIfInBounds] at hx
    rcases List.mem_or_eq_of_mem_set hx with hx | rfl
    · exact hslots x hx
    · exact ha
  rw [Ring.push]
  split_ifs
  · exact ⟨h.blank, hset _ _ h.slots⟩
  · exact ⟨h.blank, hset _ _ (h.grow _).slots⟩
  · exact ⟨h.blank, hset _ _ h.slots⟩

theorem Holds.dropOldest (h : r.Holds P) (n : Nat) : (r.dropOldest n).Holds P := by
  rcases Nat.eq_zero_or_pos (min n r.size) with hzero | hpos
  · rw [dropOldest_of_eq_zero hzero]
    exact h
  · rw [dropOldest_of_pos hpos]
    exact ⟨h.blank, (h.compact _ _).slots⟩

theorem Holds.lowerLimit (h : r.Holds P) (bound : Nat) : (r.lowerLimit bound).Holds P := by
  unfold Ring.lowerLimit
  split_ifs
  · exact ⟨h.blank, (h.compact _ _).slots⟩
  · exact ⟨h.blank, h.slots⟩
  · exact h

theorem Holds.ensureAtMost (h : r.Holds P) (bound : Nat) : (r.ensureAtMost bound).Holds P := by
  rw [ensureAtMost_eq]
  exact (h.dropOldest _).lowerLimit _

/-- What can be read back is in a slot. -/
theorem Holds.of_mem_toList (h : r.Holds P) {a : α} (ha : a ∈ r.toList) : P a := by
  obtain ⟨i, -, rfl⟩ := List.mem_map.mp ha
  by_cases hi : r.slotOf i < r.slots.size
  · rw [Array.getD_eq_getD_getElem?, Array.getElem?_eq_getElem hi, Option.getD_some]
    exact h.slots _ (Array.getElem_mem_toList hi)
  · rw [Array.getD_eq_getD_getElem?, Array.getElem?_eq_none (Nat.le_of_not_lt hi), Option.getD_none]
    exact h.blank

end Ring

/-! ### Events as they are stored -/

/-- An object that has been collected is forgotten once it is read. -/
def Resolved.forget : Resolved → Resolved
  | .collected => .null
  | r => r

namespace Event

variable {p : Retention} {kind : Kind} {e : Event} {c c' : Heap.Census}

/-- **Events of a kind, stored under a policy.** -/
def StoredAs (p : Retention) (kind : Kind) (e : Event) : Prop :=
  ∃ v : Value, v.kind = kind ∧ e.cell = p.store v

theorem storedAs_blank (p : Retention) (kind : Kind) : (Event.blank kind).StoredAs p kind := by
  refine ⟨Datum.zero none kind, Datum.kind_zero none kind, ?_⟩
  cases kind <;> cases p <;> rfl

theorem StoredAs.kind_load (h : e.StoredAs p kind) (c : Heap.Census) :
    (e.cell.load c).kind = kind := by
  obtain ⟨v, hv, hcell⟩ := h
  rw [hcell, load_store, Retention.recall, Datum.kind_map, hv]

/-- A cell under the weak policy keeps nothing alive. -/
theorem StoredAs.held_eq_none (h : e.StoredAs .weak kind) : e.cell.held = none := by
  obtain ⟨v, -, hcell⟩ := h
  rw [hcell]
  cases v with
  | object o => cases o <;> rfl
  | _ => rfl

/-- An event that was read back and stored anew. -/
def restored (p : Retention) (c : Heap.Census) (e : Event) : Event :=
  (e.read c).store p

@[simp] theorem seq_restored (p : Retention) (c : Heap.Census) (e : Event) :
    (e.restored p c).seq = e.seq := rfl

@[simp] theorem thread_restored (p : Retention) (c : Heap.Census) (e : Event) :
    (e.restored p c).thread = e.thread := rfl

/-- What an event reads as depends on who is alive under the weak policy only. -/
theorem StoredAs.read_eq (h : e.StoredAs p kind) (hc : p = .weak → c' = c) :
    e.cell.read c' = e.cell.read c := by
  obtain ⟨v, -, hcell⟩ := h
  rw [hcell]
  cases v with
  | object o =>
    cases o with
    | none => cases p <;> rfl
    | some r =>
      cases p with
      | strong | id => rfl
      | weak => rw [hc rfl]
  | _ => rfl

/-- **What an event reads as once it was stored anew**: what it read as before, but
for an object that had been collected, which is null from then on. Under the weak
policy those who were alive when it was stored anew have to be so still. -/
theorem StoredAs.read_restored (h : e.StoredAs p kind) (hc : p = .weak → c' = c) :
    (e.restored p c).cell.read c' = (e.cell.read c).map Resolved.forget := by
  obtain ⟨v, -, hcell⟩ := h
  have hvalue : (e.restored p c).cell = p.store ((p.store v).load c) := by
    rw [restored, Event.read, hcell]
    rfl
  rw [hvalue, hcell]
  cases v with
  | object o =>
    cases o with
    | none => cases p <;> rfl
    | some r =>
      cases p with
      | strong | id => rfl
      | weak =>
        -- an object that is alive is held weakly once more, a dead one is gone
        rw [hc rfl]
        cases halive : c.isAlive r <;>
          simp [Retention.store, Datum.load, Datum.read, Datum.map, Retention.hold, Slot.resolve,
            Resolved.ref?, Resolved.forget, halive]
  | _ => rfl

/-- The same for an event as a whole, whose object is null both before and after once
it has been collected. -/
theorem StoredAs.reading_eq (h : e.StoredAs p kind) (hc : p = .weak → c' = c) :
    Event.read c' e = Event.read c e := by
  rw [Event.read, Event.read, Datum.load, Datum.load, h.read_eq hc]

theorem StoredAs.reading_restored (h : e.StoredAs p kind) (hc : p = .weak → c' = c) :
    Event.read c' (e.restored p c) = Event.read c e := by
  have href : ∀ o : Resolved, o.forget.ref? = o.ref? := by
    intro o
    cases o <;> rfl
  rw [Event.read, Event.read, Datum.load, Datum.load, h.read_restored hc, Datum.map_map]
  simp only [href, seq_restored, thread_restored]

end Event

/-! ### Faithful buffers -/

namespace SiteBuffer

variable {b : SiteBuffer} {p : Retention} {c : Heap.Census}

/-- **Faithful buffers** hold events of their kind, stored under their policy, in
every slot. -/
structure Faithful (b : SiteBuffer) (p : Retention) : Prop where
  retention : b.retention = p
  slots : b.ring.Holds (Event.StoredAs p b.kind)

theorem faithful_new (kind : SiteKind) (limit : Nat) (p : Retention) :
    (new kind limit p).Faithful p :=
  ⟨rfl, Ring.holds_new (Event.storedAs_blank p kind.stored) limit⟩

theorem Faithful.push (h : b.Faithful p) {e : Reading} (he : e.value.kind = b.kind) :
    (b.push e).Faithful p :=
  ⟨h.retention, h.slots.push ⟨e.value, he, by rw [h.retention]; rfl⟩⟩

theorem Faithful.dropOldest (h : b.Faithful p) (n : Nat) : (b.dropOldest n).Faithful p :=
  ⟨h.retention, h.slots.dropOldest n⟩

theorem Faithful.ensureAtMost (h : b.Faithful p) (bound : Nat) :
    (b.ensureAtMost bound).Faithful p :=
  ⟨h.retention, h.slots.ensureAtMost bound⟩

theorem Faithful.storedAs (h : b.Faithful p) {e : Event} (he : e ∈ b.events) :
    e.StoredAs p b.kind :=
  h.slots.of_mem_toList he

/-- What a faithful buffer reads back is of its kind. -/
theorem Faithful.kind_of_mem_records (h : b.Faithful p) {e : Reading} (he : e ∈ b.records c) :
    e.value.kind = b.kind := by
  rw [records_eq] at he
  obtain ⟨x, hx, rfl⟩ := List.mem_map.mp he
  exact (h.storedAs hx).kind_load c

/-- **Weak buffers keep nothing alive.** -/
theorem Faithful.held_eq_nil (h : b.Faithful .weak) : b.held = [] := by
  rw [held, List.filterMap_eq_nil_iff]
  intro e he
  exact (h.slots.slots e he).held_eq_none

end SiteBuffer

end FlightRecorder
