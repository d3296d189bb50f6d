import FlightRecorder.Proofs.Registry.Balance

/-!
# What a registry still knows

Between growing rings, a ceiling that falls and a budget that cuts the oldest
events off any buffer, what does a buffer hold in the end? Always the latest
events of its site, whatever happened at the other sites. This file keeps a
journal beside a run – every event that was accepted since the buffers were last
taken out – and proves that each buffer is the tail of it.

* `FlightRecorder.Registry.accepts` – whether a registry stores an event;
* `FlightRecorder.Registry.Session.journal` – the events that a run stored;
* `FlightRecorder.SiteBuffer.Latest`, `FlightRecorder.Registry.Follows` – buffers
  that hold the latest of the events stored, and no others;
* `FlightRecorder.SiteBuffer.Complete`, `FlightRecorder.Registry.Unpressed` – how
  many they hold so long as the budget was never enforced;
* `FlightRecorder.Registry.Session.latest_of_run` – **the latest events**.
-/

namespace FlightRecorder

/-! ### A buffer and the events of its site -/

namespace SiteBuffer

variable {b : SiteBuffer} {p : Retention} {log : List Reading} {limit n : Nat}

/-- A buffer that holds the latest events of a log. -/
def Latest (b : SiteBuffer) (p : Retention) (log : List Reading) : Prop :=
  b.retention = p ∧ b.events <:+ log.map (·.store p)

theorem latest_new (kind : SiteKind) (limit : Nat) (p : Retention) (log : List Reading) :
    (new kind limit p).Latest p log := by
  refine ⟨rfl, ?_⟩
  have hempty : (new kind limit p).events = [] := Ring.toList_new _ _
  rw [hempty]
  exact List.nil_suffix

theorem Latest.dropOldest (h : b.Latest p log) (hb : b.WellFormed) (n : Nat) :
    (b.dropOldest n).Latest p log := by
  refine ⟨h.1, ?_⟩
  rw [events_dropOldest hb]
  exact (List.drop_suffix n b.events).trans h.2

theorem Latest.ensureAtMost (h : b.Latest p log) (hb : b.WellFormed) (bound : Nat) :
    (b.ensureAtMost bound).Latest p log := by
  refine ⟨h.1, ?_⟩
  rw [events_ensureAtMost hb]
  exact (List.drop_suffix _ b.events).trans h.2

/-- **Storing an event** that the log goes on with. -/
theorem Latest.push (h : b.Latest p log) (hb : b.WellFormed) (e : Reading) :
    (b.push e).Latest p (log ++ [e]) := by
  refine ⟨h.1, ?_⟩
  -- what is left of the events before is still the end of the log before
  have hkept : (if b.size = b.limit then b.events.tail else b.events) <:+ b.events := by
    split_ifs
    · exact List.tail_suffix b.events
    · exact List.suffix_refl b.events
  rw [events_push hb, h.1, List.map_append, List.map_singleton]
  exact (List.suffix_append_inj_of_length_eq rfl).mpr ⟨hkept.trans h.2, rfl⟩

/-- What such a buffer reads back. -/
theorem Latest.records_eq (h : b.Latest p log) (c : Heap.Census) :
    b.size ≤ log.length ∧
      b.records c = (log.drop (log.length - b.size)).map (·.recall p c) := by
  have hle : b.size ≤ log.length := by
    rw [← length_events, ← List.length_map (fun e : Reading => e.store p)]
    exact h.2.length_le
  refine ⟨hle, ?_⟩
  have hevents : b.events = (log.drop (log.length - b.size)).map (·.store p) := by
    rw [List.map_drop, ← length_events, ← List.length_map (fun e : Reading => e.store p)]
    exact List.suffix_iff_eq_drop.mp h.2
  rw [SiteBuffer.records_eq, hevents, List.map_map]
  exact List.map_congr_left fun e _ => Event.read_store p c e

/-- The newest event of such a buffer is the last of the log. -/
theorem Latest.record?_newest {e : Reading} (h : b.Latest p (log ++ [e])) (hpos : 0 < b.size)
    (c : Heap.Census) : b.record? c (b.size - 1) = some (e.recall p c) := by
  obtain ⟨hle, hrecords⟩ := h.records_eq c
  rw [List.length_append, List.length_singleton] at hle hrecords
  have hindex : log.length + 1 - b.size + (b.size - 1) = log.length := by omega
  rw [record?_eq, ← List.getElem?_map, ← SiteBuffer.records_eq, hrecords, List.getElem?_map,
    List.getElem?_drop, hindex, List.getElem?_concat_length]
  rfl

/-- A buffer that has all it can have of the `n` events of its site. -/
structure Complete (b : SiteBuffer) (limit n : Nat) : Prop where
  limit_eq : b.limit = limit
  count_eq : b.count = n
  size_eq : b.size = min n limit

theorem complete_new (kind : SiteKind) (p : Retention) (h : 0 < limit) :
    (new kind limit p).Complete limit 0 where
  limit_eq := Nat.max_eq_left h
  count_eq := rfl
  size_eq := (Nat.zero_min limit).symm

/-- A bound that the buffer keeps already changes nothing. -/
theorem Complete.ensureAtMost (h : b.Complete limit n) (hb : b.WellFormed) :
    (b.ensureAtMost limit).Complete limit n := by
  obtain ⟨hlimit, hcount, hsize⟩ := h
  have hpos := hb.limit_pos
  refine ⟨?_, ?_, ?_⟩
  · rw [limit_ensureAtMost hb]
    omega
  · rw [count_ensureAtMost]
    omega
  · rw [size_ensureAtMost]
    omega

theorem Complete.push (h : b.Complete limit n) (hb : b.WellFormed) (e : Reading) :
    (b.push e).Complete limit (n + 1) := by
  obtain ⟨hlimit, hcount, hsize⟩ := h
  refine ⟨?_, ?_, ?_⟩
  · rw [limit_push, hlimit]
  · rw [count_push, hcount]
  · rw [size_push hb]
    omega

end SiteBuffer

/-! ### A registry and the events stored -/

namespace Registry

/-- Whether a registry stores an event that is offered. -/
def accepts (r : Registry) (site : Nat) (value : Value) : Bool :=
  !r.closed && !r.degraded &&
    match r.arena.find? site with
    | some b => decide (value.kind = b.kind)
    | none => decide (site < Arena.maxSites)

/-- The events of a site in a log, oldest first. -/
def eventsAt (log : List (Nat × Reading)) (site : Nat) : List Reading :=
  log.filterMap fun (s, e) => if s = site then some e else none

/-- A log after an event was offered. It says with which sequence number and on
which thread the event was recorded. -/
def logged (r : Registry) (log : List (Nat × Reading)) (site : Nat) (value : Value)
    (thread : UInt32) : List (Nat × Reading) :=
  if r.accepts site value then log ++ [(site, ⟨value, r.clock.next, thread⟩)] else log

section Accepts

variable {r r' : Registry} {site : Nat} {value : Value} {b : SiteBuffer}

theorem accepts_of_stopped (h : r.closed = true ∨ r.degraded = true) :
    r.accepts site value = false := by
  rcases h with h | h <;> simp [accepts, h]

theorem accepts_of_beyond (hfind : r.arena.find? site = none) (hsite : Arena.maxSites ≤ site) :
    r.accepts site value = false := by
  simp [accepts, hfind, Nat.not_lt.mpr hsite]

/-- What is left as it was by a record takes no event. -/
theorem accepts_of_unchanged (h : r.closed = true ∨ r.degraded = true ∨ r.breaksOff site = true) :
    r.accepts site value = false := by
  rcases h with h | h | h
  · exact accepts_of_stopped (.inl h)
  · exact accepts_of_stopped (.inr h)
  · rw [breaksOff_ample, Bool.and_eq_true] at h
    exact accepts_of_beyond (find?_of_lacksSlot h.2) (maxSites_le_of_lacksSlot h.2)

/-- A registry that has a buffer at hand goes by the kind. -/
theorem accepts_of_ready (hclosed : r.closed = false) (hdeg : r.degraded = false)
    (h : Ready r site (.of value.kind) r' b) :
    r.accepts site value = decide (value.kind = b.kind) := by
  cases h with
  | found hfind => simp [accepts, hclosed, hdeg, hfind]
  | created hfind hsite =>
    have hkind : value.kind = (SiteBuffer.new (.of value.kind) r.ceiling r.retention).kind := rfl
    rw [decide_eq_true hkind]
    simp [accepts, hclosed, hdeg, hfind, hsite]

theorem eventsAt_concat (log : List (Nat × Reading)) (s : Nat) (e : Reading) (site : Nat) :
    eventsAt (log ++ [(s, e)]) site =
      if s = site then eventsAt log site ++ [e] else eventsAt log site := by
  rw [eventsAt, List.filterMap_append]
  split_ifs with hs
  · simp [eventsAt, hs]
  · simp [eventsAt, hs]

end Accepts

/-- **Every buffer holds the latest events** of its site. -/
def Follows (r : Registry) (log : List (Nat × Reading)) : Prop :=
  ∀ p ∈ r.arena.buffers, p.2.Latest r.retention (eventsAt log p.1)

/-- **So long as the budget was never enforced**, every buffer has all it can have
under the ceiling to begin with, and the sites without a buffer never had one. -/
def Unpressed (r : Registry) (limit : Nat) (log : List (Nat × Reading)) : Prop :=
  r.stats.enforcements = 0 →
    r.ceiling = limit ∧
    (∀ p ∈ r.arena.buffers, p.2.Complete limit (eventsAt log p.1).length) ∧
    (r.degraded = false → ∀ site, r.arena.find? site = none → eventsAt log site = [])

section Follows

variable {r r' : Registry} {site limit : Nat} {kind : SiteKind} {b : SiteBuffer}
  {log : List (Nat × Reading)}

theorem Follows.find? (h : r.Follows log) (hr : r.Sound) (hb : r.arena.find? site = some b) :
    b.Latest r.retention (eventsAt log site) :=
  h (site, b) (hr.arena.find?_eq_some_iff.mp hb)

theorem Follows.degrade (h : r.Follows log) (cause : Failure) : (r.degrade cause).Follows log := by
  rw [Registry.degrade]
  split_ifs
  · exact h
  · intro p hp
    exact absurd hp List.not_mem_nil

theorem Follows.ready (h : r.Follows log) (hready : Ready r site kind r' b) : r'.Follows log := by
  cases hready with
  | found => exact h
  | created =>
    intro p hp
    rcases Arena.eq_or_mem_of_mem_place hp with rfl | hp
    · exact SiteBuffer.latest_new _ _ _ _
    · exact h p hp

theorem Follows.stored (h : r.Follows log) (hr : r.Sound) (hb : r.arena.find? site = some b)
    (e : Reading) : (r.stored site b e).Follows (log ++ [(site, e)]) := by
  intro p hp
  rw [eventsAt_concat]
  have hwf := hr.arena.wellFormed_of_find? hb
  rcases (Arena.mem_place_iff hr.arena.ordered).mp hp with rfl | ⟨hp, hne⟩
  · rw [if_pos rfl]
    exact ((h.find? hr hb).ensureAtMost hwf r.ceiling).push (hwf.ensureAtMost r.ceiling) e
  · rw [if_neg hne.symm]
    exact h p hp

theorem Follows.refused (h : r.Follows log) (hr : r.Sound) (hb : r.arena.find? site = some b)
    (value : Value) : (r.refused site b value).Follows log := by
  intro p hp
  rcases Arena.eq_or_mem_of_mem_place hp with rfl | hp
  · exact (h.find? hr hb).ensureAtMost (hr.arena.wellFormed_of_find? hb) r.ceiling
  · exact h p hp

/-- Enforcement cuts off the oldest events only, whichever buffers it trims. -/
theorem Follows.enforceBudget (h : r.Follows log) (hr : r.Sound) :
    r.enforceBudget.Follows log := by
  have hledger : r.ledger.arena.Sound := hr.arena
  rcases enforceBudget_cases r with heq | ⟨-, hmoves⟩
  · rw [heq]
    exact h
  · exact hmoves.forall_mem hledger
      (Q := fun s x => x.Latest r.retention (eventsAt log s))
      (fun s x n hx _ hlatest => hlatest.dropOldest hx n) h

theorem Follows.record (h : r.Follows log) (hr : r.Sound) (site : Nat) (value : Value)
    (thread : UInt32) :
    (r.record site value thread).Follows (r.logged log site value thread) := by
  have hout := outcome_record r site value thread
  generalize r.record site value thread = r'' at hout ⊢
  rw [logged]
  cases hout with
  | unchanged hstopped =>
    rw [accepts_of_unchanged hstopped, if_neg Bool.false_ne_true]
    exact h
  | beyond _ _ hfind hsite =>
    rw [accepts_of_beyond hfind hsite, if_neg Bool.false_ne_true]
    exact h.degrade _
  | stored hclosed hdeg hready hkind =>
    have hr' := hr.ready hready
    rw [accepts_of_ready hclosed hdeg hready, if_pos (decide_eq_true hkind)]
    exact ((h.ready hready).stored hr' hready.find? _).enforceBudget
      (hr'.stored hready.find? _)
  | refused hclosed hdeg hready hkind =>
    rw [accepts_of_ready hclosed hdeg hready, if_neg (by simpa using hkind)]
    exact (h.ready hready).refused (hr.ready hready) hready.find? value

theorem Follows.getOrCreate (h : r.Follows log) (site : Nat) (kind : SiteKind) :
    (r.getOrCreate site kind).1.Follows log :=
  getOrCreate_ind h h.degrade fun _ _ _ hready => h.ready hready

end Follows

/-! ### Without pressure -/

section Unpressed

variable {r r' : Registry} {site limit : Nat} {kind : SiteKind} {b : SiteBuffer}
  {log : List (Nat × Reading)}

/-- Enforcement counts itself, so it was never needed where the count is zero. -/
theorem Unpressed.enforceBudget (h : r.Unpressed limit log) :
    r.enforceBudget.Unpressed limit log := by
  rcases enforceBudget_cases r with heq | ⟨-, hmoves⟩
  · rw [heq]
    exact h
  · intro hzero
    have hcount : r.enforceBudget.stats.enforcements = r.stats.enforcements + 1 :=
      hmoves.enforcements
    omega

theorem Unpressed.degrade (h : r.Unpressed limit log) (cause : Failure) :
    (r.degrade cause).Unpressed limit log := by
  rw [Registry.degrade]
  split_ifs
  · exact h
  · intro hzero
    refine ⟨(h hzero).1, fun p hp => absurd hp List.not_mem_nil, fun hdeg => ?_⟩
    cases hdeg

theorem Unpressed.ready (h : r.Unpressed limit log) (hr : r.Sound) (hdeg : r.degraded = false)
    (hready : Ready r site kind r' b) : r'.Unpressed limit log := by
  cases hready with
  | found => exact h
  | created hfind =>
    intro hzero
    obtain ⟨hceiling, hbuffers, hempty⟩ := h hzero
    refine ⟨hceiling, fun p hp => ?_, fun _ s hs => ?_⟩
    · rcases Arena.eq_or_mem_of_mem_place hp with rfl | hp
      · -- no event of the site was stored, or it would have a buffer
        have hnone : eventsAt log site = [] := hempty hdeg site hfind
        show (SiteBuffer.new kind r.ceiling r.retention).Complete limit (eventsAt log site).length
        rw [hnone, ← hceiling]
        exact SiteBuffer.complete_new kind r.retention hr.ceiling_pos
      · exact hbuffers p hp
    · rw [Arena.put, Arena.find?, Arena.lookup_place] at hs
      split_ifs at hs
      exact hempty hdeg s hs

theorem Unpressed.find? (h : r.Unpressed limit log) (hzero : r.stats.enforcements = 0)
    (hr : r.Sound) (hb : r.arena.find? site = some b) :
    b.Complete limit (eventsAt log site).length :=
  (h hzero).2.1 (site, b) (hr.arena.find?_eq_some_iff.mp hb)

/-- A site that has a buffer keeps one. -/
theorem find?_place_eq_none {a : Arena} {x : SiteBuffer} {retained s : Nat}
    (h : Arena.find? ⟨Arena.place site x a.buffers, retained⟩ s = none) :
    s ≠ site ∧ a.find? s = none := by
  rw [Arena.find?, Arena.lookup_place] at h
  split_ifs at h with hs
  exact ⟨hs, h⟩

theorem Unpressed.stored (h : r.Unpressed limit log) (hr : r.Sound)
    (hb : r.arena.find? site = some b) (e : Reading) :
    (r.stored site b e).Unpressed limit (log ++ [(site, e)]) := by
  intro hzero
  obtain ⟨hceiling, hbuffers, hempty⟩ := h hzero
  have hwf := hr.arena.wellFormed_of_find? hb
  refine ⟨hceiling, fun p hp => ?_, fun hdeg s hs => ?_⟩
  · rw [eventsAt_concat]
    rcases (Arena.mem_place_iff hr.arena.ordered).mp hp with rfl | ⟨hp, hne⟩
    · rw [if_pos rfl, List.length_append, List.length_singleton, hceiling]
      exact ((h.find? hzero hr hb).ensureAtMost hwf).push (hwf.ensureAtMost limit) e
    · rw [if_neg hne.symm]
      exact hbuffers p hp
  · obtain ⟨hne, hs⟩ := find?_place_eq_none hs
    rw [eventsAt_concat, if_neg hne.symm]
    exact hempty hdeg s hs

theorem Unpressed.refused (h : r.Unpressed limit log) (hr : r.Sound)
    (hb : r.arena.find? site = some b) (value : Value) :
    (r.refused site b value).Unpressed limit log := by
  intro hzero
  obtain ⟨hceiling, hbuffers, hempty⟩ := h hzero
  have hwf := hr.arena.wellFormed_of_find? hb
  refine ⟨hceiling, fun p hp => ?_, fun hdeg s hs => hempty hdeg s (find?_place_eq_none hs).2⟩
  rcases Arena.eq_or_mem_of_mem_place hp with rfl | hp
  · rw [hceiling]
    exact (h.find? hzero hr hb).ensureAtMost hwf
  · exact hbuffers p hp

theorem Unpressed.record (h : r.Unpressed limit log) (hr : r.Sound) (site : Nat) (value : Value)
    (thread : UInt32) :
    (r.record site value thread).Unpressed limit (r.logged log site value thread) := by
  have hout := outcome_record r site value thread
  generalize r.record site value thread = r'' at hout ⊢
  rw [logged]
  cases hout with
  | unchanged hstopped =>
    rw [accepts_of_unchanged hstopped, if_neg Bool.false_ne_true]
    exact h
  | beyond _ _ hfind hsite =>
    rw [accepts_of_beyond hfind hsite, if_neg Bool.false_ne_true]
    exact h.degrade _
  | stored hclosed hdeg hready hkind =>
    rw [accepts_of_ready hclosed hdeg hready, if_pos (decide_eq_true hkind)]
    exact ((h.ready hr hdeg hready).stored (hr.ready hready) hready.find? _).enforceBudget
  | refused hclosed hdeg hready hkind =>
    rw [accepts_of_ready hclosed hdeg hready, if_neg (by simpa using hkind)]
    exact (h.ready hr hdeg hready).refused (hr.ready hready) hready.find? value

theorem Unpressed.getOrCreate (h : r.Unpressed limit log) (hr : r.Sound) (site : Nat)
    (kind : SiteKind) : (r.getOrCreate site kind).1.Unpressed limit log :=
  getOrCreate_ind h h.degrade fun _ _ hdeg hready => h.ready hr hdeg hready

end Unpressed

/-! ### The journal of a run -/

namespace Session

/-- What was stored since the buffers were last taken out, after one more action. -/
def logged (s : Session) (log : List (Nat × Reading)) : Action → List (Nat × Reading)
  | .record site value thread => s.registry.logged log site value thread
  | .detach _ => []
  | _ => log

/-- **The journal of a run**, which goes on from a log. -/
def journal (s : Session) (log : List (Nat × Reading)) : List Action → List (Nat × Reading)
  | [] => log
  | a :: rest => (s.step a).journal (s.logged log a) rest

variable {s : Session} {log : List (Nat × Reading)} {limit : Nat}

theorem follows_step (h : s.registry.Follows log) (hs : s.registry.Sound) {a : Action}
    (ha : a.restores = false) : (s.step a).registry.Follows (s.logged log a) := by
  cases a with
  | record site value thread => exact h.record hs site value thread
  | getOrCreate site kind => exact h.getOrCreate site kind
  | detach =>
    intro p hp
    exact absurd hp List.not_mem_nil
  | restore => cases ha
  | close | create | release => exact h

theorem unpressed_step (h : s.registry.Unpressed limit log) (hs : s.registry.Sound) {a : Action}
    (ha : a.restores = false) : (s.step a).registry.Unpressed limit (s.logged log a) := by
  cases a with
  | record site value thread => exact h.record hs site value thread
  | getOrCreate site kind => exact h.getOrCreate hs site kind
  | detach =>
    intro hzero
    exact ⟨(h hzero).1, fun p hp => absurd hp List.not_mem_nil, fun _ _ _ => rfl⟩
  | restore => cases ha
  | close | create | release => exact h

/-- Both are kept along a run, by induction on its actions. -/
theorem follows_run (h : s.registry.Follows log) (hlimit : s.registry.Unpressed limit log)
    (hs : s.Balanced) {actions : List Action} (ha : ∀ a ∈ actions, a.restores = false) :
    (s.run actions).registry.Follows (s.journal log actions) ∧
      (s.run actions).registry.Unpressed limit (s.journal log actions) := by
  induction actions generalizing s log with
  | nil => exact ⟨h, hlimit⟩
  | cons a rest ih =>
    have hfirst := ha a List.mem_cons_self
    exact ih (follows_step h hs.registry hfirst) (unpressed_step hlimit hs.registry hfirst)
      (hs.step a) fun b hb => ha b (List.mem_cons_of_mem a hb)

/-- **The latest events.** At every point of a run that puts nothing back, a buffer
reads back, in order, the last events of its site that were stored since the
buffers were last taken out, but for objects that have died. If the budget was
never enforced, it has as many of them as a buffer may have, and counts all. -/
theorem latest_of_run (heap : Heap) (limits : RegistryLimits) (clock : Clock)
    (actions : List Action) (h : ∀ a ∈ actions, a.restores = false) (site : Nat)
    (b : SiteBuffer)
    (hb : ((start heap limits clock).run actions).registry.arena.find? site = some b) :
    let s := (start heap limits clock).run actions
    let stored := eventsAt ((start heap limits clock).journal [] actions) site
    b.size ≤ stored.length ∧
    b.records s.census =
      (stored.drop (stored.length - b.size)).map (·.recall limits.retention s.census) ∧
    (s.registry.stats.enforcements = 0 →
      b.size = min stored.length (max limits.bufferSize 1) ∧ b.count = stored.length) := by
  intro s stored
  have hbalanced : s.Balanced := (balanced_start heap limits clock).run actions
  have hfollows : (start heap limits clock).registry.Follows [] := by
    intro p hp
    exact absurd hp List.not_mem_nil
  have hunpressed :
      (start heap limits clock).registry.Unpressed (max limits.bufferSize 1) [] :=
    fun _ => ⟨rfl, fun p hp => absurd hp List.not_mem_nil, fun _ _ _ => rfl⟩
  obtain ⟨hlatest, hcomplete⟩ :=
    follows_run hfollows hunpressed (balanced_start heap limits clock) h
  have hretention : s.registry.retention = limits.retention :=
    retention_of_rules (rules_run (start heap limits clock) actions)
  obtain ⟨hle, hrecords⟩ := (hlatest.find? hbalanced.registry hb).records_eq s.census
  refine ⟨hle, hretention ▸ hrecords, fun hzero => ?_⟩
  have hall := hcomplete.find? hzero hbalanced.registry hb
  exact ⟨hall.size_eq, hall.count_eq⟩

/-- Three events for a buffer of two. -/
def overwriting : List Action :=
  [.record 3 (.int 1) 0, .record 3 (.int 2) 7, .record 3 (.int 3) 0]

theorem latest_of_run_overwriting :
    ∃ b, ((start {} { bufferSize := 2 } ⟨5⟩).run overwriting).registry.arena.find? 3 = some b ∧
      b.records ((start {} { bufferSize := 2 } ⟨5⟩).run overwriting).census =
        [⟨.int 2, 6, 7⟩, ⟨.int 3, 7, 0⟩] ∧
      b.size = 2 ∧ b.count = 3 := by
  obtain ⟨-, hrecords, hcomplete⟩ :=
    latest_of_run {} { bufferSize := 2 } ⟨5⟩ overwriting (by decide) 3 _ rfl
  obtain ⟨hsize, hcount⟩ := hcomplete rfl
  exact ⟨_, rfl, hrecords, hsize, hcount⟩

end Session

end Registry

end FlightRecorder
