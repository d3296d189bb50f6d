import FlightRecorder.Proofs.Registry.Restoring
import FlightRecorder.Proofs.SiteBuffer.Slots

/-!
# Properties of buffers that last

Buffers are created, take events, are trimmed, and are put back with other events
appended to them. A property of buffers that survives each of these holds of every
buffer there is, in the registry and outside, and what may depend on the run is only
which references get into slots. This file says so once for any such property, and
has two of them: that spare slots keep nothing alive, and that slots keep alive
nobody but certain objects.

* `FlightRecorder.Lasting` – properties that last while only references of a certain
  kind are stored, with `FlightRecorder.lasting_tidy` and
  `FlightRecorder.lasting_holdsOnly`;
* `FlightRecorder.Arena.All`, `FlightRecorder.Registry.All` – all buffers of an arena
  or of a registry are such;
* `FlightRecorder.Registry.All.record`, `FlightRecorder.Registry.All.getOrCreate`,
  `FlightRecorder.Registry.All.restore` – **the operations of a registry keep it so**.
-/

namespace FlightRecorder

variable {p : Retention} {P : Ref → Prop} {Q : SiteBuffer → Prop}

/-- Reading an event back and storing it anew keeps alive whom it kept alive
before. -/
theorem Event.StoredAs.held_restored {kind : Kind} {e : Event} (h : e.StoredAs p kind)
    (c : Heap.Census) : (e.restored p c).cell.held = e.cell.held := by
  obtain ⟨v, -, hcell⟩ := h
  have hvalue : (e.restored p c).cell = p.store ((p.store v).load c) := by
    rw [Event.restored, Event.read, hcell]
    rfl
  rw [hvalue, hcell, load_store]
  cases v with
  | object o =>
    cases o with
    | none => cases p <;> rfl
    | some r =>
      cases p with
      | strong | id => rfl
      | weak =>
        cases halive : c.isAlive r <;>
          simp [Retention.recall, Retention.store, Retention.hold, Retention.recallRef, Datum.map,
            Datum.held, Slot.held, Option.filter, halive]
  | _ => rfl

/-! ### Properties that last -/

/-- **Properties that last**: under the policy `p` they hold of every buffer, as long
as slots that keep an object alive keep only such alive that `P` says. What is read
back from such buffers may be stored again. -/
structure Lasting (p : Retention) (P : Ref → Prop) (Q : SiteBuffer → Prop) : Prop where
  new : ∀ kind limit, Q (.new kind limit p)
  push : ∀ {b} (e : Reading), b.WellFormed → b.Faithful p → Q b →
    (∀ r, (p.store e.value).held = some r → P r) → Q (b.push e)
  dropOldest : ∀ {b} (n : Nat), b.WellFormed → Q b → Q (b.dropOldest n)
  ensureAtMost : ∀ {b} (bound : Nat), b.WellFormed → Q b → Q (b.ensureAtMost bound)
  held : ∀ {b e}, Q b → e ∈ b.events → ∀ r, e.cell.held = some r → P r

/-- Spare slots stay blank, whatever is stored. -/
theorem lasting_tidy (p : Retention) : Lasting p (fun _ => True) SiteBuffer.Tidy where
  new kind limit := SiteBuffer.tidy_new kind limit p
  push e h _ ht _ := ht.push h e
  dropOldest n h ht := ht.dropOldest h n
  ensureAtMost bound h ht := ht.ensureAtMost h bound
  held _ _ _ _ := trivial

/-- Buffers whose slots keep alive nobody but certain objects. -/
def SiteBuffer.HoldsOnly (P : Ref → Prop) (b : SiteBuffer) : Prop :=
  b.ring.Holds fun e => ∀ r, e.cell.held = some r → P r

theorem SiteBuffer.HoldsOnly.of_mem_held {b : SiteBuffer} {r : Ref} (h : b.HoldsOnly P)
    (hr : r ∈ b.held) : P r := by
  obtain ⟨e, he, hheld⟩ := List.mem_filterMap.mp hr
  exact h.slots e he r hheld

/-- Slots of a tidy buffer hold only whom it keeps alive. -/
theorem SiteBuffer.Tidy.holdsOnly {b : SiteBuffer} (ht : b.Tidy)
    (hP : ∀ r ∈ b.held, P r) : b.HoldsOnly P where
  blank r hr := by
    rw [ht.blank, Event.held_blank] at hr
    cases hr
  slots e he r hr := hP r (List.mem_filterMap.mpr ⟨e, he, hr⟩)

/-- Slots keep alive nobody but those who are stored. -/
theorem lasting_holdsOnly (p : Retention) (P : Ref → Prop) :
    Lasting p P (SiteBuffer.HoldsOnly P) where
  new kind limit := Ring.holds_new (fun r hr => by rw [Event.held_blank] at hr; cases hr) limit
  push {b} e _ hb h hP := by
    refine Ring.Holds.push h fun r hr => hP r ?_
    rw [← hb.retention]
    exact hr
  dropOldest n _ h := Ring.Holds.dropOldest h n
  ensureAtMost bound _ h := Ring.Holds.ensureAtMost h bound
  held h he r hr := Ring.Holds.of_mem_toList h he r hr

section Absorb

variable {b source : SiteBuffer} {c : Heap.Census} {events : List Reading}

theorem Lasting.pushAll (hQ : Lasting p P Q) (hb : b.WellFormed) (hf : b.Faithful p) (h : Q b)
    (hkind : ∀ e ∈ events, e.value.kind = b.kind)
    (hP : ∀ e ∈ events, ∀ r, (p.store e.value).held = some r → P r) : Q (b.pushAll events) := by
  induction events generalizing b with
  | nil => exact h
  | cons e rest ih =>
    obtain ⟨hfirst, hkind⟩ := List.forall_mem_cons.mp hkind
    obtain ⟨hstored, hP⟩ := List.forall_mem_cons.mp hP
    exact ih (hb.push e) (hf.push hfirst) (hQ.push e hb hf h hstored) hkind hP

/-- What lasts survives appending the events of another buffer. -/
theorem Lasting.absorb (hQ : Lasting p P Q) (hb : b.WellFormed) (hf : b.Faithful p) (h : Q b)
    (hsource : source.Faithful p) (hs : Q source) : Q (b.absorb c source) := by
  rw [SiteBuffer.absorb]
  split_ifs with hkind
  · refine hQ.pushAll hb hf h (fun e he => (hsource.kind_of_mem_records he).trans hkind) ?_
    intro e he r hr
    rw [SiteBuffer.records_eq] at he
    obtain ⟨x, hx, rfl⟩ := List.mem_map.mp he
    have hrestored : (x.restored p c).cell.held = some r := hr
    rw [(hsource.storedAs hx).held_restored c] at hrestored
    exact hQ.held hs hx r hrestored
  · exact h

end Absorb

/-! ### All buffers of an arena -/

/-- **All buffers of an arena** have a property, and the arena can be put back. -/
structure Arena.All (p : Retention) (Q : SiteBuffer → Prop) (a : Arena) : Prop where
  sound : a.Sound
  every : a.Every fun site b => site < Arena.maxSites ∧ b.Faithful p ∧ Q b

theorem Arena.all_empty (p : Retention) (Q : SiteBuffer → Prop) : Arena.All p Q {} :=
  ⟨Arena.sound_empty, Arena.every_empty _⟩

theorem Arena.All.orderly {a : Arena} (h : a.All p Q) : a.Orderly p :=
  fun q hq => ⟨(h.every q hq).1, (h.every q hq).2.1⟩

theorem Lasting.trimmable (hQ : Lasting p P Q) :
    Trimmable fun site b => site < Arena.maxSites ∧ b.Faithful p ∧ Q b where
  dropOldest n hb h := ⟨h.1, h.2.1.dropOldest n, hQ.dropOldest n hb h.2.2⟩
  ensureAtMost bound hb h := ⟨h.1, h.2.1.ensureAtMost bound, hQ.ensureAtMost bound hb h.2.2⟩

/-! ### All buffers of a registry -/

namespace Registry

/-- **All buffers of a registry** have a property. -/
structure All (p : Retention) (Q : SiteBuffer → Prop) (r : Registry) : Prop where
  arena : r.arena.All p Q
  ceiling_pos : 0 < r.ceiling
  retention : r.retention = p

variable {r : Registry}

theorem All.sound (h : r.All p Q) : r.Sound :=
  ⟨h.arena.sound, h.ceiling_pos⟩

theorem all_new (limits : RegistryLimits) (clock : Clock) (Q : SiteBuffer → Prop) :
    (new limits clock).All limits.retention Q :=
  ⟨Arena.all_empty _ _, (sound_new limits clock).ceiling_pos, rfl⟩

/-- Taking the buffers out leaves none. -/
theorem All.detach (h : r.All p Q) : r.detach.2.All p Q :=
  ⟨Arena.all_empty p Q, h.ceiling_pos, h.retention⟩

theorem All.close (h : r.All p Q) : r.close.All p Q :=
  ⟨h.arena, h.ceiling_pos, h.retention⟩

/-- What was reported does not matter. -/
theorem All.reported (h : r.All p Q) (d : Diagnostics) :
    All p Q { r with diagnostics := d } :=
  ⟨h.arena, h.ceiling_pos, h.retention⟩

theorem All.record (h : r.All p Q) (hQ : Lasting p P Q) (site : Nat) {value : Value}
    (hP : ∀ ref, (p.store value).held = some ref → P ref) (thread : UInt32) :
    (r.record site value thread).All p Q := by
  have hsound := h.sound.record site value thread
  refine ⟨⟨hsound.arena, ?_⟩, hsound.ceiling_pos,
    (retention_of_rules (rules_record r site value thread)).trans h.retention⟩
  refine every_record h.arena.every h.sound hQ.trimmable hQ.trimmable (fun _ _ _ => id)
    (fun _ _ => id) (fun hsite => ?_) fun _ b hwf hb hkind => ?_
  · rw [h.retention]
    exact ⟨hsite, SiteBuffer.faithful_new _ _ _, hQ.new _ _⟩
  · exact ⟨hb.1, hb.2.1.push hkind, hQ.push _ hwf hb.2.1 hb.2.2 hP⟩

theorem All.getOrCreate (h : r.All p Q) (hQ : Lasting p P Q) (site : Nat) (kind : SiteKind) :
    (r.getOrCreate site kind).1.All p Q := by
  have hsound := h.sound.getOrCreate site kind
  refine ⟨⟨hsound.arena, every_getOrCreate h.arena.every fun hsite => ?_⟩, hsound.ceiling_pos,
    (retention_of_rules (rules_getOrCreate r site kind)).trans h.retention⟩
  rw [h.retention]
  exact ⟨hsite, SiteBuffer.faithful_new _ _ _, hQ.new _ _⟩

/-- **Putting back**: what the buffers on either side have, the joined ones have. -/
theorem All.restore (h : r.All p Q) (hQ : Lasting p P Q) {detached : Arena}
    (hd : detached.All p Q) (c : Heap.Census) : (r.restore c detached).All p Q := by
  rcases Bool.eq_false_or_eq_true r.degraded with hdeg | hdeg
  · rw [restore_of_degraded c hdeg]
    exact h
  · have hsound := h.sound.restore hd.sound c
    refine ⟨⟨hsound.arena, ?_⟩, hsound.ceiling_pos,
      (retention_of_rules (rules_restore c r detached)).trans h.retention⟩
    refine every_restore hdeg h.sound hd.sound h.arena.orderly hQ.trimmable fun site x hx => ?_
    rcases rejoined_cases hx with ⟨-, hfind⟩ | ⟨b, hfind, rfl⟩
    · exact hd.every.find? hd.sound hfind
    · obtain ⟨hsite, hb, hQb⟩ := h.arena.every.find? h.arena.sound hfind
      obtain ⟨-, htarget, hQtarget⟩ := every_target hd.every hd.sound (b := b) (r := r)
        (by rw [h.retention]; exact ⟨hsite, SiteBuffer.faithful_new _ _ _, hQ.new _ _⟩)
      exact ⟨hsite, htarget.absorb c hb,
        hQ.absorb (wellFormed_target hd.sound site b) htarget hQtarget hb hQb⟩

end Registry

end FlightRecorder
