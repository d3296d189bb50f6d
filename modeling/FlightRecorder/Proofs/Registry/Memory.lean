import FlightRecorder.Proofs.Registry.Numbering

/-!
# Recording where memory is refused

Memory can be refused to an event at three places: the arena may get no slot for its
site, a new buffer none to begin with, and a buffer that there is no more of them. The
registry degrades over each of the three, but not in the same state: a buffer grows for
an event that has its sequence number already, and is created for one that has none.
Nothing else depends on what memory refuses.

* `FlightRecorder.Registry.Granted` – the ways of recording an event under whatever
  memory (`FlightRecorder.Registry.granted_record`);
* `FlightRecorder.Registry.Sound.record_of_memory` – soundness is kept all the same, and
  so are the other invariants that recorders rely on;
* `FlightRecorder.Registry.tick_record_of_memory` – **which events take a number**;
* `FlightRecorder.Registry.occupied_record`,
  `FlightRecorder.Registry.breaksOff_of_buffers` – why no call breaks off behind one that
  did not.
-/

namespace FlightRecorder.Registry

section Memory

variable {r r' : Registry} {site : Nat} {kind : SiteKind} {b : SiteBuffer} {value : Value}
  {thread : UInt32} {m : Memory} {f : Failure}

/-! ### Buffers -/

/-- What a buffer is refused for is memory. -/
theorem isAllocation_of_bufferRefusal? (h : r.bufferRefusal? site b m = some f) :
    f.isAllocation = true := by
  rw [bufferRefusal?, Option.or_eq_some_iff] at h
  rcases h with h | ⟨-, h⟩
  · rw [slotRefusal?] at h
    split_ifs at h
    · obtain rfl := Option.some.inj h
      rfl
    · obtain ⟨fault, -, rfl⟩ := Option.map_eq_some_iff.mp h
      rfl
  · obtain ⟨fault, -, rfl⟩ := Option.map_eq_some_iff.mp h
    rfl

/-- What is not refused is not beyond, and what is granted anyhow is granted by ample
memory. -/
theorem bufferRefusal?_ample_of_none (h : r.bufferRefusal? site b m = none) :
    r.bufferRefusal? site b .ample = none := by
  rw [bufferRefusal?, Option.or_eq_none_iff] at h
  rw [bufferRefusal?_ample, if_neg]
  rintro ⟨hslot, hsite⟩
  have hrefused := h.1
  rw [slotRefusal?, if_neg (Bool.eq_false_iff.mp hslot),
    if_pos (Nat.lt_succ_of_le hsite)] at hrefused
  cases hrefused

theorem getOrCreate_of_find? (hfind : r.arena.find? site = some b) (hdeg : r.degraded = false) :
    r.getOrCreate site kind m = (r, some b) := by
  rw [getOrCreate, if_neg (Bool.eq_false_iff.mp hdeg), hfind]

/-- A buffer that is refused degrades the registry. -/
theorem getOrCreate_of_refusal (hfind : r.arena.find? site = none) (hdeg : r.degraded = false)
    (h : r.bufferRefusal? site (.new kind r.ceiling r.retention) m = some f) :
    r.getOrCreate site kind m = (r.degrade f, none) := by
  rw [getOrCreate, if_neg (Bool.eq_false_iff.mp hdeg), hfind]
  simp only [h]

/-- One that is not refused is had as from ample memory. -/
theorem getOrCreate_of_grant (hfind : r.arena.find? site = none)
    (h : r.bufferRefusal? site (.new kind r.ceiling r.retention) m = none) :
    r.getOrCreate site kind m = r.getOrCreate site kind := by
  rw [getOrCreate, getOrCreate, hfind]
  simp only [h, bufferRefusal?_ample_of_none h]

/-- A buffer that is created has slots to spare. -/
theorem growthRefusal?_new (kind : SiteKind) (ceiling : Nat) (p : Retention)
    (growth : Option MemoryFault) :
    ((SiteBuffer.new kind ceiling p).ensureAtMost ceiling).growthRefusal? growth = none := by
  have hring : ((SiteBuffer.new kind ceiling p).ensureAtMost ceiling).ring =
      Ring.new (Event.blank kind.stored) ceiling := by
    simp [SiteBuffer.ensureAtMost, SiteBuffer.new, Ring.ensureAtMost, Ring.new, Ring.dropOldest]
  have hspare : (Ring.new (Event.blank kind.stored) ceiling).needsSlots = false := by
    simp [Ring.needsSlots, Ring.new, Ring.capacity, Ring.initialCapacity]
  rw [SiteBuffer.growthRefusal?, hring, hspare]
  rfl

/-! ### Storing -/

/-- An event whose buffer need not grow, or may, is stored as in ample memory, and so is
one of another kind refused. -/
theorem store_of_grant (h : value.kind = b.kind →
      (b.ensureAtMost r.ceiling).growthRefusal? m.growth = none) :
    r.store site b value thread m = r.store site b value thread := by
  have hgrowth : Memory.ample.growth = none := rfl
  have hadd : (b.ensureAtMost r.ceiling).add? value r.clock.next thread m.growth =
      (b.ensureAtMost r.ceiling).add? value r.clock.next thread := by
    rw [SiteBuffer.add?, SiteBuffer.add?, SiteBuffer.growthRefusal?_none]
    split_ifs with hkind
    · rw [h hkind]
    · rfl
  simp only [store, hadd, hgrowth]

/-- An event whose buffer must grow and may not has its number when the registry
degrades. -/
theorem store_of_refusal (site : Nat) (thread : UInt32) (hdeg : r.degraded = false)
    (hkind : value.kind = b.kind)
    (h : (b.ensureAtMost r.ceiling).growthRefusal? m.growth = some f) :
    f.isAllocation = true ∧
      r.store site b value thread m = { r.degrade f with clock := r.clock.tick } := by
  have hallocation : f.isAllocation = true := by
    rw [SiteBuffer.growthRefusal?] at h
    split_ifs at h
    obtain ⟨fault, -, rfl⟩ := Option.map_eq_some_iff.mp h
    rfl
  have hadd : (b.ensureAtMost r.ceiling).add? value r.clock.next thread m.growth = .error f :=
    SiteBuffer.add?_eq_error_iff.mpr (Or.inr ⟨hkind, h⟩)
  refine ⟨hallocation, ?_⟩
  simp only [store, hadd, hallocation, if_true, degrade, hdeg, Bool.false_eq_true, if_false]

/-! ### Recording -/

/-- **The ways of recording an event** under whatever memory. -/
inductive Granted (r : Registry) (site : Nat) (value : Value) (thread : UInt32) (m : Memory) :
    Registry → Prop
  | stopped : r.closed = true ∨ r.degraded = true → Granted r site value thread m r
  /-- All goes as in ample memory. -/
  | amply : r.closed = false → r.degraded = false →
      r.breaksOff site m = r.breaksOff site →
      Granted r site value thread m (r.record site value thread)
  /-- The site has no buffer and gets none; the event takes no number. -/
  | uncreated {f : Failure} : r.closed = false → r.degraded = false →
      r.arena.find? site = none → f.isAllocation = true →
      Granted r site value thread m (r.degrade f)
  /-- The buffer of the site gets no more slots; the event has taken its number. -/
  | ungrown {f : Failure} : r.closed = false → r.degraded = false →
      (r.arena.find? site).isSome = true → f.isAllocation = true →
      Granted r site value thread m { r.degrade f with clock := r.clock.tick }

/-- A registry that records, and has no buffer for the site. -/
theorem record_of_getOrCreate_none {r' : Registry} (hrunning : ¬(r.closed || r.degraded) = true)
    (hget : r.getOrCreate site (.of value.kind) m = (r', none)) (thread : UInt32) :
    r.record site value thread m = r' := by
  rw [record, if_neg hrunning, hget]

/-- One that has a buffer for it stores the event there. -/
theorem record_of_getOrCreate_some {r' : Registry} (hrunning : ¬(r.closed || r.degraded) = true)
    (hget : r.getOrCreate site (.of value.kind) m = (r', some b)) (thread : UInt32) :
    r.record site value thread m = r'.store site b value thread m := by
  rw [record, if_neg hrunning, hget]

theorem granted_record (r : Registry) (site : Nat) (value : Value) (thread : UInt32) (m : Memory) :
    Granted r site value thread m (r.record site value thread m) := by
  by_cases hstopped : (r.closed || r.degraded) = true
  · rw [record, if_pos hstopped]
    exact .stopped (by simpa using hstopped)
  have hrunning := hstopped
  simp only [Bool.or_eq_true, not_or, Bool.not_eq_true] at hrunning
  obtain ⟨hclosed, hdeg⟩ := hrunning
  cases hfind : r.arena.find? site with
  | some b =>
    have hslot : r.lacksSlot site = false := by
      by_contra hlacks
      rw [find?_of_lacksSlot (by simpa using hlacks)] at hfind
      cases hfind
    have hbreak : r.breaksOff site m = r.breaksOff site := by simp [breaksOff, hslot]
    have hstore (m : Memory) : r.record site value thread m = r.store site b value thread m :=
      record_of_getOrCreate_some hstopped (getOrCreate_of_find? hfind hdeg) thread
    by_cases hgrant : value.kind = b.kind →
        (b.ensureAtMost r.ceiling).growthRefusal? m.growth = none
    · rw [hstore, store_of_grant hgrant, ← hstore]
      exact .amply hclosed hdeg hbreak
    · obtain ⟨hkind, hrefusal⟩ := Classical.not_imp.mp hgrant
      obtain ⟨f, hf⟩ := Option.ne_none_iff_exists'.mp hrefusal
      obtain ⟨hallocation, heq⟩ := store_of_refusal site thread hdeg hkind hf
      rw [hstore, heq]
      exact .ungrown hclosed hdeg (by rw [hfind]; rfl) hallocation
  | none =>
    cases hrefusal : r.bufferRefusal? site (.new (.of value.kind) r.ceiling r.retention) m with
    | some f =>
      rw [record_of_getOrCreate_none hstopped (getOrCreate_of_refusal hfind hdeg hrefusal)]
      exact .uncreated hclosed hdeg hfind (isAllocation_of_bufferRefusal? hrefusal)
    | none =>
      have hbuffer : m.buffer = none := by
        rw [bufferRefusal?, Option.or_eq_none_iff, Option.map_eq_none_iff] at hrefusal
        exact hrefusal.2
      have hbreak : r.breaksOff site m = r.breaksOff site := by
        simp [breaksOff, hbuffer, Memory.ample]
      -- a buffer that is created need not grow for its first event
      have hsame : r.record site value thread m = r.record site value thread := by
        have hgrant := getOrCreate_of_grant hfind hrefusal
        rcases getOrCreate_cases r site (.of value.kind) with
          ⟨-, hget⟩ | ⟨-, -, -, hget⟩ | ⟨r', b, -, hget, hready⟩
        · rw [record_of_getOrCreate_none hstopped (hgrant.trans hget),
            record_of_getOrCreate_none hstopped hget]
        · rw [record_of_getOrCreate_none hstopped (hgrant.trans hget),
            record_of_getOrCreate_none hstopped hget]
        · rw [record_of_getOrCreate_some hstopped (hgrant.trans hget),
            record_of_getOrCreate_some hstopped hget]
          cases hready with
          | found hfound =>
            rw [hfind] at hfound
            cases hfound
          | created => exact store_of_grant fun _ => growthRefusal?_new _ _ _ _
      rw [hsame]
      exact .amply hclosed hdeg hbreak

/-! ### What is kept -/

theorem Sound.record_of_memory (h : r.Sound) (site : Nat) (value : Value) (thread : UInt32)
    (m : Memory) : (r.record site value thread m).Sound := by
  have hgranted := granted_record r site value thread m
  generalize r.record site value thread m = r'' at hgranted ⊢
  cases hgranted with
  | stopped => exact h
  | amply => exact h.record site value thread
  | uncreated => exact h.degrade _
  | ungrown => exact ⟨(h.degrade _).arena, (h.degrade _).ceiling_pos⟩

theorem Within.record_of_memory (h : r.Within) (hr : r.Sound) (site : Nat) (value : Value)
    (thread : UInt32) (m : Memory) : (r.record site value thread m).Within := by
  have hgranted := granted_record r site value thread m
  generalize r.record site value thread m = r'' at hgranted ⊢
  cases hgranted with
  | stopped => exact h
  | amply => exact h.record hr site value thread
  | uncreated | ungrown => exact h.degrade _

theorem Drained.record_of_memory (h : r.Drained) (site : Nat) (value : Value) (thread : UInt32)
    (m : Memory) : (r.record site value thread m).Drained := by
  have hgranted := granted_record r site value thread m
  generalize r.record site value thread m = r'' at hgranted ⊢
  cases hgranted with
  | stopped => exact h
  | amply => exact h.record site value thread
  | uncreated | ungrown => exact h.degrade _

theorem closed_record_of_memory (r : Registry) (site : Nat) (value : Value) (thread : UInt32)
    (m : Memory) : (r.record site value thread m).closed = r.closed := by
  have hgranted := granted_record r site value thread m
  generalize r.record site value thread m = r'' at hgranted ⊢
  cases hgranted with
  | stopped => rfl
  | amply => exact closed_record r site value thread
  | uncreated | ungrown => exact closed_degrade r _

/-- **The clock moves once at most**: while it stands still, the buffers stay as they are
or are dropped, and when it moves, the event is recorded as in ample memory or the buffers
are dropped. -/
theorem clock_record_of_memory (r : Registry) (site : Nat) (value : Value) (thread : UInt32)
    (m : Memory) :
    let r' := r.record site value thread m
    (r'.clock = r.clock ∧ (r' = r ∨ r'.arena = {})) ∨
    (r'.clock = r.clock.tick ∧ (r' = r.record site value thread ∨ r'.arena = {})) := by
  intro r'
  have hgranted := granted_record r site value thread m
  rw [show r.record site value thread m = r' from rfl] at hgranted
  generalize r' = r'' at hgranted ⊢
  have hdropped {f : Failure} (hdeg : r.degraded = false) : (r.degrade f).arena = {} := by
    rw [degrade, if_neg (Bool.eq_false_iff.mp hdeg)]
  cases hgranted with
  | stopped => exact Or.inl ⟨rfl, Or.inl rfl⟩
  | uncreated _ hdeg => exact Or.inl ⟨(degrade_frame r _).1, Or.inr (hdropped hdeg)⟩
  | ungrown _ hdeg => exact Or.inr ⟨rfl, Or.inr (hdropped hdeg)⟩
  | amply =>
    have hout := outcome_record r site value thread
    generalize r.record site value thread = r'' at hout ⊢
    cases hout with
    | unchanged => exact Or.inl ⟨rfl, Or.inl rfl⟩
    | beyond _ hdeg => exact Or.inl ⟨(degrade_frame r _).1, Or.inr (hdropped hdeg)⟩
    | stored _ _ hready => exact Or.inr ⟨congrArg Clock.tick hready.clock_eq, Or.inl rfl⟩
    | refused _ _ hready => exact Or.inr ⟨congrArg Clock.tick hready.clock_eq, Or.inl rfl⟩

/-- **Which events take a number**: those that the registry keeps on recording after, and
those over which it degrades although their site has a buffer. -/
theorem tick_record_of_memory (hclosed : r.closed = false) (hdeg : r.degraded = false)
    (hbreak : r.breaksOff site m = false) (value : Value) (thread : UInt32) :
    let r' := r.record site value thread m
    (r'.degraded = false ∧ r'.clock = r.clock.tick) ∨
    (r'.degraded = true ∧ r.arena.find? site = none ∧ r'.clock = r.clock) ∨
    (r'.degraded = true ∧ (r.arena.find? site).isSome = true ∧ r'.clock = r.clock.tick) := by
  intro r'
  have hgranted := granted_record r site value thread m
  rw [show r.record site value thread m = r' from rfl] at hgranted
  generalize r' = r'' at hgranted ⊢
  cases hgranted with
  | stopped hstopped => simp [hclosed, hdeg] at hstopped
  | amply _ _ hsame =>
    have hout := outcome_record r site value thread
    generalize r.record site value thread = r'' at hout ⊢
    cases hout with
    | unchanged hstopped => simp [hclosed, hdeg, ← hsame, hbreak] at hstopped
    | beyond _ _ hfind =>
      exact Or.inr (Or.inl ⟨(degrade_frame r _).2, hfind, (degrade_frame r _).1⟩)
    | stored _ _ hready =>
      exact Or.inl ⟨hready.degraded_eq.trans hdeg, congrArg Clock.tick hready.clock_eq⟩
    | refused _ _ hready =>
      exact Or.inl ⟨hready.degraded_eq.trans hdeg, congrArg Clock.tick hready.clock_eq⟩
  | uncreated _ _ hfind =>
    exact Or.inr (Or.inl ⟨(degrade_frame r _).2, hfind, (degrade_frame r _).1⟩)
  | ungrown _ _ hfind => exact Or.inr (Or.inr ⟨(degrade_frame r _).2, hfind, rfl⟩)

/-! ### Calls that break off -/

/-- Enforcement leaves no arena empty that was not. -/
theorem buffers_enforceBudget_ne_nil (h : r.arena.buffers ≠ []) :
    r.enforceBudget.arena.buffers ≠ [] := by
  rcases enforceBudget_cases r with hsame | ⟨-, hmoves⟩
  · rwa [hsame]
  · have hsites : r.enforceBudget.arena.buffers.map (·.1) = r.arena.buffers.map (·.1) :=
      hmoves.sites
    intro hempty
    rw [hempty, List.map_nil, eq_comm, List.map_eq_nil_iff] at hsites
    exact h hsites

theorem place_ne_nil (site : Nat) (b : SiteBuffer) (l : List (Nat × SiteBuffer)) :
    Arena.place site b l ≠ [] := by
  intro hempty
  have hsite : site ∈ (Arena.place site b l).map (·.1) :=
    Arena.mem_map_fst_place.mpr (Or.inl rfl)
  rw [hempty] at hsite
  cases hsite

/-- **A call that does not break off** leaves a buffer behind, or a degraded registry. -/
theorem occupied_record (hclosed : r.closed = false) (hdeg : r.degraded = false)
    (hbreak : r.breaksOff site m = false) (value : Value) (thread : UInt32) :
    (r.record site value thread m).degraded = true ∨
      (r.record site value thread m).arena.buffers ≠ [] := by
  have hgranted := granted_record r site value thread m
  generalize r.record site value thread m = r' at hgranted ⊢
  cases hgranted with
  | stopped hstopped => simp [hclosed, hdeg] at hstopped
  | uncreated | ungrown => exact Or.inl (degrade_frame r _).2
  | amply _ _ hsame =>
    have hout := outcome_record r site value thread
    generalize r.record site value thread = r' at hout ⊢
    cases hout with
    | unchanged hstopped => simp [hclosed, hdeg, ← hsame, hbreak] at hstopped
    | beyond => exact Or.inl (degrade_frame r _).2
    | stored => exact Or.inr (buffers_enforceBudget_ne_nil (place_ne_nil _ _ _))
    | refused => exact Or.inr (place_ne_nil _ _ _)

/-- **Where there is a buffer, no call breaks off.** -/
theorem breaksOff_of_buffers (h : r.arena.buffers ≠ []) (site : Nat) (m : Memory) :
    r.breaksOff site m = false := by
  simp [breaksOff, lacksSlot, h]

end Memory

end FlightRecorder.Registry
