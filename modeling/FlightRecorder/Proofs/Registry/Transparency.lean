import FlightRecorder.Proofs.Registry.Restoring

/-!
# Taking out and putting back under no pressure

Two runs record the same events. One does so directly; the other takes the buffers
out first, records apart, and puts the buffers back in the end. So long as the budget
need not be enforced, what is in the buffers is the same: the latest events of a site
are the latest of those before and after, wherever the line between the two is drawn.
This file compares the two runs step by step.

What differs is what the buffers count. A buffer that fills up apart overwrites its
oldest events, and those are not offered to the buffer put back: its count is short
of them, although nothing was ever trimmed.

* `FlightRecorder.Arena.Took`, `FlightRecorder.Arena.Parts` – an arena after an event,
  and an arena that has what two others have together
  (`FlightRecorder.Arena.Parts.took`);
* `FlightRecorder.Registry.Calm` – registries that never had to enforce their budget;
* `FlightRecorder.Registry.Session.Abreast` – the two runs, at the same event
  (`FlightRecorder.Registry.Session.Abreast.run`);
* `FlightRecorder.Registry.Session.transparency_of_restore` – **the two runs end
  alike**, but for the counts;
* `FlightRecorder.Registry.Session.count_lost_of_restore` – the counts do differ.
-/

namespace FlightRecorder

namespace Arena

variable {a a' old part part' whole whole' : Arena} {p : Retention} {limit site s : Nat}
  {e : Reading} {b : SiteBuffer}

/-! ### An arena after an event -/

/-- What the buffer of a site counts; a site without a buffer counts nothing. -/
def count (a : Arena) (site : Nat) : Nat :=
  ((a.find? site).map (·.count)).getD 0

theorem count_of_some (h : a.find? site = some b) : a.count site = b.count := by
  rw [count, h, Option.map_some, Option.getD_some]

/-- **An arena takes an event** at a site, under a policy and a limit. -/
structure Took (p : Retention) (limit site : Nat) (e : Reading) (a a' : Arena) : Prop where
  find?_eq_none : ∀ s, a'.find? s = none ↔ s ≠ site ∧ a.find? s = none
  events : ∀ s, a'.events s =
    if s = site then (a.events s ++ [e.store p]).rtake limit else a.events s
  count : ∀ s, a'.count s = if s = site then a.count s + 1 else a.count s

theorem took_of_find? (h : ∀ s, a'.find? s = if s = site then some (b.push e) else a.find? s)
    (hb : b.WellFormed) (hlimit : b.limit = limit) (hp : b.retention = p)
    (hevents : b.events = a.events site) (hcount : b.count = a.count site) :
    Took p limit site e a a' := by
  have hother {s : Nat} (hs : s ≠ site) : a'.find? s = a.find? s := by rw [h, if_neg hs]
  have hsite : a'.find? site = some (b.push e) := by rw [h, if_pos rfl]
  constructor
  · intro s
    rw [h]
    split_ifs with hs
    · simp [hs]
    · simp [hs]
  · intro s
    split_ifs with hs
    · rw [hs, events_of_some hsite, SiteBuffer.events_push_eq_rtake hb, hlimit, hp, hevents]
    · rw [events, hother hs, events]
  · intro s
    split_ifs with hs
    · rw [hs, count_of_some hsite, SiteBuffer.count_push, hcount]
    · rw [count, hother hs, count]

/-- **The parts of an arena**: `whole` has at a site what `old` and `part` have there
one after the other, the latest of it, as many as the limit. -/
structure Parts (limit : Nat) (old part whole : Arena) (site : Nat) : Prop where
  find?_eq_none : whole.find? site = none ↔ old.find? site = none ∧ part.find? site = none
  events : whole.events site = (old.events site ++ part.events site).rtake limit
  count : whole.count site = old.count site + part.count site

/-- **An event that the whole takes and the part takes too** leaves them a whole and
its part, wherever the older events end. -/
theorem Parts.took (h : Parts limit old part whole s) (hpart : Took p limit site e part part')
    (hwhole : Took p limit site e whole whole') : Parts limit old part' whole' s := by
  obtain ⟨hnone, hevents, hcount⟩ := h
  constructor
  · rw [hwhole.find?_eq_none, hpart.find?_eq_none, hnone]
    tauto
  · rw [hwhole.events, hpart.events, hevents]
    split_ifs with hs
    · rw [rtake_rtake_append, rtake_append_rtake, List.append_assoc]
    · rfl
  · rw [hwhole.count, hpart.count, hcount]
    split_ifs with hs
    · exact Nat.add_assoc _ _ _
    · rfl

theorem Parts.length_le (h : Parts limit old part whole site)
    (hle : (part.events site).length ≤ limit) :
    (part.events site).length ≤ (whole.events site).length := by
  rw [h.events, length_rtake, List.length_append]
  omega

/-- **Uniform arenas**: sound and orderly, with one limit for all buffers, which are of
the kinds of their sites. -/
structure Uniform (p : Retention) (kinds : Nat → Kind) (limit : Nat) (a : Arena) : Prop where
  sound : a.Sound
  orderly : a.Orderly p
  buffers : a.Every fun site b => b.limit = limit ∧ b.kind = kinds site

/-- An arena that has no more at any site retains no more. -/
theorem retained_le_retained (ha : a.Sound) (ha' : a'.Sound)
    (h : ∀ site, (a.events site).length ≤ (a'.events site).length) :
    a.retained ≤ a'.retained := by
  rw [ha.retained, ha'.retained]
  refine eventCount_le_eventCount ha.ordered ha'.ordered fun site b hb hpos => ?_
  have hle := h site
  rw [events_of_some hb, SiteBuffer.length_events] at hle
  cases hfind : a'.find? site with
  | none =>
    rw [events_of_none hfind, List.length_nil] at hle
    omega
  | some b' =>
    rw [events_of_some hfind, SiteBuffer.length_events] at hle
    exact ⟨b', hfind, hle⟩

end Arena

namespace Registry

/-! ### Recording without pressure -/

/-- **Calm registries**: the ceiling is as it was at first, and so are the limits of
all buffers; they are of the kinds of their sites. -/
structure Calm (r : Registry) (kinds : Nat → Kind) (limit : Nat) : Prop where
  closed : r.closed = false
  ceiling : r.ceiling = limit
  buffers : r.arena.Every fun site b => b.limit = limit ∧ b.kind = kinds site

section Calm

variable {r r' : Registry} {kinds : Nat → Kind} {limit site : Nat} {b : SiteBuffer} {value : Value}

theorem Calm.degrade (h : r.Calm kinds limit) (cause : Failure) :
    (r.degrade cause).Calm kinds limit := by
  refine ⟨?_, ?_, every_degrade h.buffers cause⟩
  · rw [Registry.degrade]
    split_ifs <;> exact h.closed
  · rw [Registry.degrade]
    split_ifs <;> exact h.ceiling

/-- No site has more events than the limit. -/
theorem Calm.length_events_le (h : r.Calm kinds limit) (hr : r.Sound) (site : Nat) :
    (r.arena.events site).length ≤ limit := by
  cases hfind : r.arena.find? site with
  | none =>
    rw [Arena.events_of_none hfind]
    exact Nat.zero_le _
  | some b =>
    obtain ⟨hlimit, -⟩ := h.buffers.find? hr.arena hfind
    rw [Arena.events_of_some hfind, SiteBuffer.length_events, ← hlimit]
    exact (hr.arena.wellFormed_of_find? hfind).size_le_limit

/-- **An event that fits is taken**, before the budget is looked at. -/
theorem Calm.record (h : r.Calm kinds limit) (hr : r.Sound)
    (ho : r.arena.Orderly r.retention) (hdeg : r.degraded = false)
    (hsite : site < Arena.maxSites) (hkind : value.kind = kinds site) (thread : UInt32) :
    ∃ r' : Registry, r.record site value thread = r'.enforceBudget ∧ r'.Sound ∧
      r'.Calm kinds limit ∧ r' = { r with clock := r.clock.tick, arena := r'.arena } ∧
      Arena.Took r.retention limit site ⟨value, r.clock.next, thread⟩ r.arena r'.arena := by
  have hnew : (SiteBuffer.new (.of value.kind) r.ceiling r.retention).limit = limit ∧
      (SiteBuffer.new (.of value.kind) r.ceiling r.retention).kind = kinds site := by
    refine ⟨?_, hkind⟩
    rw [← h.ceiling]
    exact Nat.max_eq_left hr.ceiling_pos
  have hout := outcome_record r site value thread
  generalize r.record site value thread = r'' at hout ⊢
  cases hout with
  | unchanged hstopped =>
    simp [h.closed, hdeg, breaksOff_ample, lacksSlot_of_lt_maxSites r hsite] at hstopped
  | beyond _ _ _ hbeyond => exact absurd hsite (Nat.not_lt.mpr hbeyond)
  | @refused r₁ b _ _ hready hne =>
    have hbuffers := every_ready h.buffers hready fun _ => hnew
    obtain ⟨-, hb⟩ := hbuffers.find? (hr.ready hready).arena hready.find?
    exact absurd (hkind.trans hb.symm) hne
  | @stored r₁ b _ _ hready hb =>
    have hr₁ := hr.ready hready
    have hwf := hr₁.arena.wellFormed_of_find? hready.find?
    have hbuffers := every_ready h.buffers hready fun _ => hnew
    obtain ⟨hlimit, hbkind⟩ := hbuffers.find? hr₁.arena hready.find?
    have hceiling : r₁.ceiling = limit := by rw [hready.eq_with, h.ceiling]
    -- the ceiling is the limit of the buffer already
    have htrim : b.ensureAtMost r₁.ceiling = b := by
      refine SiteBuffer.ensureAtMost_of_limit_le hwf ?_
      rw [hlimit, hceiling]
    have hold : b.events = r.arena.events site ∧ b.count = r.arena.count site ∧
        b.retention = r.retention := by
      rw [hready.eq_getD, Arena.events, Arena.count]
      cases hfind : r.arena.find? site with
      | none => exact ⟨Ring.toList_new _ _, rfl, rfl⟩
      | some x => exact ⟨rfl, rfl, (ho.find? hr.arena hfind).2.retention⟩
    obtain ⟨hevents, hcount, hretention⟩ := hold
    refine ⟨_, rfl, hr₁.stored hready.find? _, ⟨?_, ?_, ?_⟩, ?_, ?_⟩
    · rw [stored, hready.eq_with]
      exact h.closed
    · exact hceiling
    · rw [stored, htrim]
      exact hbuffers.place ⟨(SiteBuffer.limit_push _ _).trans hlimit, hbkind⟩ _
    · rw [stored, hready.eq_with]
    · refine Arena.took_of_find? (b := b) (fun s => ?_) hwf hlimit hretention hevents hcount
      rw [stored, htrim, Arena.find?, Arena.lookup_place]
      split_ifs with hs
      · rfl
      · exact hready.find?_of_ne hs

/-- The budget was kept where enforcement did not count itself. -/
theorem retained_le_of_quiet (h : r.enforceBudget.stats.enforcements = r.stats.enforcements) :
    r.arena.retained ≤ r.globalCapacity := by
  by_contra hover
  have hmoves : Ledger.Moves r.policy r.globalCapacity r.ledger.counted r.enforceBudget.ledger :=
    Ledger.moves_enforce r.policy (Nat.lt_of_not_le hover)
  have hcount : r.enforceBudget.stats.enforcements = r.stats.enforcements + 1 :=
    hmoves.enforcements
  omega

theorem enforcements_le_enforceBudget (r : Registry) :
    r.stats.enforcements ≤ r.enforceBudget.stats.enforcements := by
  rcases enforceBudget_cases r with heq | ⟨-, hmoves⟩
  · rw [heq]
  · have hcount : r.enforceBudget.stats.enforcements = r.stats.enforcements + 1 :=
      hmoves.enforcements
    omega

/-- Enforcements are never forgotten. -/
theorem enforcements_le_record (r : Registry) (site : Nat) (value : Value) (thread : UInt32) :
    r.stats.enforcements ≤ (r.record site value thread).stats.enforcements := by
  have hout := outcome_record r site value thread
  generalize r.record site value thread = r'' at hout ⊢
  cases hout with
  | unchanged => exact le_rfl
  | beyond =>
    rw [degrade]
    split_ifs <;> exact le_rfl
  | @stored r₁ b _ _ hready =>
    have hstats : r₁.stats = r.stats := by rw [hready.eq_with]
    rw [← hstats]
    exact enforcements_le_enforceBudget (r₁.stored site b ⟨value, r.clock.next, thread⟩)
  | refused _ _ hready =>
    rw [refused, hready.eq_with]

end Calm

namespace Session

/-! ### The two runs -/

/-- Actions that record an event of the kind of its site, and those of the program. The
last word is left out: there is no slot for it, which a registry that has buffers
degrades over, while the call breaks off where the buffers were taken out. -/
def Action.Fits (kinds : Nat → Kind) : Action → Prop
  | .record site value _ => value.kind = kinds site ∧ site + 1 < wordSize
  | .create _ | .release _ => True
  | .getOrCreate .. | .detach _ | .restore _ | .close => False

/-- **Abreast**: of two sessions at the same event, `whole` has what was recorded from
the beginning, and `part` what was recorded since the arena `old` was taken out. -/
structure Abreast (kinds : Nat → Kind) (limit : Nat) (old : Arena) (whole part : Session) :
    Prop where
  heap : part.heap = whole.heap
  clock : part.registry.clock = whole.registry.clock
  degraded : part.registry.degraded = whole.registry.degraded
  rules : part.registry.rules = whole.registry.rules
  calm_whole : whole.registry.Calm kinds limit
  calm_part : part.registry.Calm kinds limit
  parts : whole.registry.degraded = false → ∀ site,
    Arena.Parts limit old part.registry.arena whole.registry.arena site

section Abreast

variable {s whole part : Session} {kinds : Nat → Kind} {limit : Nat} {old : Arena} {a : Action}
  {actions : List Action}

theorem enforcements_le_step (s : Session) (ha : a.Fits kinds) :
    s.registry.stats.enforcements ≤ (s.step a).registry.stats.enforcements := by
  cases a with
  | record site value thread => exact enforcements_le_record _ _ _ _
  | getOrCreate | detach | restore | close => exact ha.elim
  | create | release => exact le_rfl

theorem enforcements_le_run (s : Session) (ha : ∀ a ∈ actions, a.Fits kinds) :
    s.registry.stats.enforcements ≤ (s.run actions).registry.stats.enforcements := by
  induction actions generalizing s with
  | nil => exact le_rfl
  | cons a rest ih =>
    obtain ⟨hfirst, hrest⟩ := List.forall_mem_cons.mp ha
    exact (enforcements_le_step s hfirst).trans (ih (s.step a) hrest)

/-- **An event that fits is taken by both**: where the whole keeps the budget, so does
the part, which has no more to retain. -/
theorem Abreast.record_of_fits (h : Abreast kinds limit old whole part) (hw : whole.Balanced)
    (how : whole.Orderly) (hp : part.Balanced) (hop : part.Orderly)
    (hdeg : whole.registry.degraded = false) {site : Nat} (hsite : site < Arena.maxSites)
    {value : Value} (hkind : value.kind = kinds site) {thread : UInt32}
    (hquiet : (whole.registry.record site value thread).stats.enforcements =
      whole.registry.stats.enforcements) :
    Abreast kinds limit old (whole.step (.record site value thread))
      (part.step (.record site value thread)) := by
  obtain ⟨w, hweq, hwsound, hwcalm, hwframe, hwtook⟩ :=
    h.calm_whole.record hw.registry how.registry hdeg hsite hkind thread
  obtain ⟨q, hqeq, hqsound, hqcalm, hqframe, hqtook⟩ :=
    h.calm_part.record hp.registry hop.registry (h.degraded.trans hdeg) hsite hkind thread
  rw [retention_of_rules h.rules, h.clock] at hqtook
  have hparts (s : Nat) : Arena.Parts limit old q.arena w.arena s :=
    (h.parts hdeg s).took hqtook hwtook
  have hwkept : w.arena.retained ≤ w.globalCapacity := by
    have hstats : w.stats = whole.registry.stats := by rw [hwframe]
    rw [hweq, ← hstats] at hquiet
    exact retained_le_of_quiet hquiet
  have hqkept : q.arena.retained ≤ q.globalCapacity := by
    have hle : q.arena.retained ≤ w.arena.retained :=
      Arena.retained_le_retained hqsound.arena hwsound.arena fun s =>
        (hparts s).length_le (hqcalm.length_events_le hqsound s)
    have hcapacity : q.globalCapacity = w.globalCapacity := by
      rw [hqframe, hwframe]
      exact globalCapacity_of_rules h.rules
    omega
  rw [step, step, hweq, hqeq, enforceBudget_of_le hwkept, enforceBudget_of_le hqkept]
  refine ⟨h.heap, ?_, ?_, ?_, hwcalm, hqcalm, fun _ => hparts⟩
  · rw [hwframe, hqframe]
    exact congrArg Clock.tick h.clock
  · rw [hwframe, hqframe]
    exact h.degraded
  · rw [hwframe, hqframe]
    exact h.rules

/-- No buffer is of a site beyond all that there can be. -/
theorem find?_of_beyond (hs : s.Balanced) (ho : s.Orderly) {site : Nat}
    (hsite : Arena.maxSites ≤ site) : s.registry.arena.find? site = none := by
  rw [Option.eq_none_iff_forall_ne_some]
  intro b hb
  obtain ⟨hlt, -⟩ := ho.registry.find? hs.registry.arena hb
  omega

/-- **An event that is beyond** degrades both. -/
theorem Abreast.record_of_beyond (h : Abreast kinds limit old whole part) (hw : whole.Balanced)
    (how : whole.Orderly) (hp : part.Balanced) (hop : part.Orderly)
    (hdeg : whole.registry.degraded = false) {site : Nat} (hsite : Arena.maxSites ≤ site)
    (hword : site + 1 < wordSize) (value : Value) (thread : UInt32) :
    Abreast kinds limit old (whole.step (.record site value thread))
      (part.step (.record site value thread)) := by
  have hdeg' := h.degraded.trans hdeg
  rw [step, step,
    Registry.record_of_beyond h.calm_whole.closed hdeg (find?_of_beyond hw how hsite) hsite
      (lacksSlot_of_lt _ hword),
    Registry.record_of_beyond h.calm_part.closed hdeg' (find?_of_beyond hp hop hsite) hsite
      (lacksSlot_of_lt _ hword)]
  obtain ⟨hwclock, hwdeg⟩ := degrade_frame whole.registry (.allocation ((site + 1) % wordSize))
  obtain ⟨hqclock, hqdeg⟩ := degrade_frame part.registry (.allocation ((site + 1) % wordSize))
  refine ⟨h.heap, ?_, ?_, ?_, h.calm_whole.degrade _, h.calm_part.degrade _, ?_⟩
  · rw [hwclock, hqclock, h.clock]
  · rw [hwdeg, hqdeg]
  · rw [rules_degrade, rules_degrade, h.rules]
  · -- nothing is said of the parts of a degraded registry
    intro hnot
    rw [hwdeg] at hnot
    cases hnot

/-- **An event is taken by both**, or by neither. -/
theorem Abreast.record (h : Abreast kinds limit old whole part) (hw : whole.Balanced)
    (how : whole.Orderly) (hp : part.Balanced) (hop : part.Orderly) {site : Nat} {value : Value}
    {thread : UInt32} (hkind : value.kind = kinds site) (hword : site + 1 < wordSize)
    (hquiet : (whole.registry.record site value thread).stats.enforcements =
      whole.registry.stats.enforcements) :
    Abreast kinds limit old (whole.step (.record site value thread))
      (part.step (.record site value thread)) := by
  rcases Bool.eq_false_or_eq_true whole.registry.degraded with hdeg | hdeg
  · rw [step, step, record_of_degraded hdeg, record_of_degraded (h.degraded.trans hdeg)]
    exact h
  · rcases Nat.lt_or_ge site Arena.maxSites with hsite | hsite
    · exact h.record_of_fits hw how hp hop hdeg hsite hkind hquiet
    · exact h.record_of_beyond hw how hp hop hdeg hsite hword value thread

/-- **Every action keeps the two runs abreast** that lets the whole of them keep the
budget. -/
theorem Abreast.step (h : Abreast kinds limit old whole part) (hw : whole.Balanced)
    (how : whole.Orderly) (hp : part.Balanced) (hop : part.Orderly) (ha : a.Fits kinds)
    (hquiet : (whole.step a).registry.stats.enforcements = whole.registry.stats.enforcements) :
    Abreast kinds limit old (whole.step a) (part.step a) := by
  cases a with
  | record site value thread => exact h.record hw how hp hop ha.1 ha.2 hquiet
  | getOrCreate | detach | restore | close => exact ha.elim
  | create spec =>
    exact { h with heap := congrArg (·.create spec) h.heap }
  | release name =>
    exact { h with heap := congrArg (·.release name) h.heap }

theorem Abreast.run (h : Abreast kinds limit old whole part) (hw : whole.Balanced)
    (how : whole.Orderly) (hp : part.Balanced) (hop : part.Orderly)
    (ha : ∀ a ∈ actions, a.Fits kinds)
    (hquiet : (whole.run actions).registry.stats.enforcements =
      whole.registry.stats.enforcements) :
    Abreast kinds limit old (whole.run actions) (part.run actions) := by
  induction actions generalizing whole part with
  | nil => exact h
  | cons a rest ih =>
    obtain ⟨hfirst, hrest⟩ := List.forall_mem_cons.mp ha
    have hstep := enforcements_le_step whole hfirst
    have hlater := enforcements_le_run (whole.step a) hrest
    have hsame : (whole.step a).registry.stats.enforcements =
        whole.registry.stats.enforcements := le_antisymm (hlater.trans_eq hquiet) hstep
    exact ih (h.step hw how hp hop hfirst hsame) (hw.step a) (how.step hw a) (hp.step a)
      (hop.step hp a) hrest (hquiet.trans hsame.symm)

end Abreast

end Session

/-! ### Putting the part back -/

section Rejoin

variable {r : Registry} {kinds : Nat → Kind} {limit site : Nat} {old : Arena} {x : SiteBuffer}

/-- **The buffer that a site comes by** has what it had and what was recorded apart,
the latest of it; it counts no more of the latter than was still there. -/
theorem Calm.of_rejoined (h : r.Calm kinds limit) (hr : r.Sound)
    (ho : r.arena.Orderly r.retention) (hold : old.Uniform r.retention kinds limit)
    (c : Heap.Census) (hx : r.rejoined c old site = some x) :
    x.limit = limit ∧ x.kind = kinds site ∧
      x.events = (old.events site ++
        (r.arena.events site).map (·.restored r.retention c)).rtake limit ∧
      x.count = old.count site + (r.arena.events site).length := by
  rcases rejoined_cases hx with ⟨hnone, hfind⟩ | ⟨b, hfind, rfl⟩
  · obtain ⟨hlimit, hkind⟩ := hold.buffers.find? hold.sound hfind
    have hsize : x.events.length ≤ limit := by
      rw [SiteBuffer.length_events, ← hlimit]
      exact (hold.sound.wellFormed_of_find? hfind).size_le_limit
    refine ⟨hlimit, hkind, ?_, ?_⟩
    · rw [Arena.events_of_some hfind, Arena.events_of_none hnone, List.map_nil, List.append_nil,
        rtake_of_length_le hsize]
    · rw [Arena.count_of_some hfind, Arena.events_of_none hnone, List.length_nil, Nat.add_zero]
  · have hwf := wellFormed_target (r := r) hold.sound site b
    obtain ⟨-, hbkind⟩ := h.buffers.find? hr.arena hfind
    obtain ⟨-, htarget⟩ := orderly_target hr hold.sound ho hold.orderly hfind
    obtain ⟨hlimit, hkind⟩ : (r.target old site b).limit = limit ∧
        (r.target old site b).kind = kinds site := by
      refine every_target hold.buffers hold.sound ⟨?_, hbkind⟩
      rw [← h.ceiling]
      exact Nat.max_eq_left hr.ceiling_pos
    have hsame : b.kind = (r.target old site b).kind := hbkind.trans hkind.symm
    have hcount : (r.target old site b).count = old.count site := by
      rw [target, Arena.count]
      cases old.find? site <;> rfl
    refine ⟨?_, ?_, ?_, ?_⟩
    · rw [SiteBuffer.limit_absorb, hlimit]
    · rw [SiteBuffer.kind_absorb, hkind]
    · rw [SiteBuffer.events_absorb hwf htarget.retention hsame, events_target, hlimit,
        Arena.events_of_some hfind]
    · rw [SiteBuffer.count_absorb hsame, hcount, Arena.events_of_some hfind,
        SiteBuffer.length_events]

/-- The same for all sites. -/
theorem Calm.events_rejoin (h : r.Calm kinds limit) (hr : r.Sound)
    (ho : r.arena.Orderly r.retention) (hold : old.Uniform r.retention kinds limit)
    (hdeg : r.degraded = false) (c : Heap.Census) (site : Nat) :
    (r.rejoin c old).arena.events site = (old.events site ++
      (r.arena.events site).map (·.restored r.retention c)).rtake limit := by
  have hfind := find?_rejoin (c := c) hdeg hr ho old site
  cases hx : r.rejoined c old site with
  | some x =>
    obtain ⟨-, -, hevents, -⟩ := h.of_rejoined hr ho hold c hx
    rw [Arena.events_of_some (hfind.trans hx), hevents]
  | none =>
    obtain ⟨hnone, hpart⟩ := rejoined_eq_none_iff.mp hx
    rw [Arena.events_of_none (hfind.trans hx), Arena.events_of_none hpart,
      Arena.events_of_none hnone, List.map_nil, List.append_nil, List.rtake_nil]

end Rejoin

/-- How many events a site has overwritten: those that its buffer counts but does not
have. -/
def overwritten (r : Registry) (site : Nat) : Nat :=
  r.arena.count site - (r.arena.events site).length

/-- **A buffer renews another**: it is of the same kind, limit and size, and reads the
same events back; it counts as many less as were `lost`. -/
structure Renews (c c' : Heap.Census) (lost : Nat) (b b' : SiteBuffer) : Prop where
  kind : b'.kind = b.kind
  limit : b'.limit = b.limit
  size : b'.size = b.size
  records : b'.records c' = b.records c
  count : b'.count + lost = b.count

/-- A site counts what it has, at least. -/
theorem length_events_le_count {a : Arena} (ha : a.Sound) (site : Nat) :
    (a.events site).length ≤ a.count site := by
  cases hfind : a.find? site with
  | none =>
    rw [Arena.events_of_none hfind]
    exact Nat.zero_le _
  | some b =>
    rw [Arena.events_of_some hfind, Arena.count_of_some hfind, SiteBuffer.length_events]
    exact (ha.wellFormed_of_find? hfind).size_le_count

namespace Session

section Abreast

variable {whole part : Session} {kinds : Nat → Kind} {limit site : Nat} {old : Arena}
  {b x : SiteBuffer} {actions : List Action}

/-- **What the two runs come to at a site.** -/
theorem Abreast.renews (h : Abreast kinds limit old whole part) (hw : whole.Balanced)
    (hp : part.Balanced) (hop : part.Orderly)
    (hold : old.Uniform part.registry.retention kinds limit)
    (hdeg : whole.registry.degraded = false) {c c' c'' : Heap.Census}
    (hc : part.registry.retention = .weak → c' = c ∧ c'' = c)
    (hx : part.registry.rejoined c old site = some x)
    (hb : whole.registry.arena.find? site = some b) :
    Renews c'' c' (part.registry.overwritten site) b x := by
  have hparts := h.parts hdeg site
  obtain ⟨hblimit, hbkind⟩ := h.calm_whole.buffers.find? hw.registry.arena hb
  obtain ⟨hxlimit, hxkind, hxevents, hxcount⟩ :=
    h.calm_part.of_rejoined hp.registry hop.registry hold c hx
  have hbevents : b.events = (old.events site ++ part.registry.arena.events site).rtake limit := by
    rw [← Arena.events_of_some hb, hparts.events]
  refine ⟨hxkind.trans hbkind.symm, hxlimit.trans hblimit.symm, ?_, ?_, ?_⟩
  · rw [← SiteBuffer.length_events, ← SiteBuffer.length_events, hxevents, hbevents, length_rtake,
      length_rtake, List.length_append, List.length_append, List.length_map]
  · -- an event that was stored anew reads as it did, and so do those that were not
    have hc' (hweak : part.registry.retention = .weak) : c' = c'' :=
      (hc hweak).1.trans (hc hweak).2.symm
    have holder : (old.events site).map (Event.read c') = (old.events site).map (Event.read c'') := by
      refine List.map_congr_left fun e he => ?_
      obtain ⟨kind, hstored⟩ := hold.orderly.exists_storedAs hold.sound he
      exact hstored.reading_eq hc'
    have hnewer : ((part.registry.arena.events site).map
          (Event.restored part.registry.retention c)).map (Event.read c') =
        (part.registry.arena.events site).map (Event.read c'') := by
      rw [List.map_map]
      refine List.map_congr_left fun e he => ?_
      obtain ⟨kind, hstored⟩ := hop.registry.exists_storedAs hp.registry.arena he
      rw [Function.comp_apply, hstored.reading_restored fun hweak => (hc hweak).1]
      exact (hstored.reading_eq fun hweak => (hc hweak).2).symm
    rw [SiteBuffer.records_eq, SiteBuffer.records_eq, hxevents, hbevents, map_rtake, map_rtake,
      List.map_append, List.map_append, holder, hnewer]
  · have hle := length_events_le_count hp.registry.arena site
    have hbcount : b.count = old.count site + part.registry.arena.count site := by
      rw [← Arena.count_of_some hb, hparts.count]
    rw [overwritten, hxcount, hbcount]
    omega

/-- What is put back is as much as was recorded directly, so nothing is taken off
it. -/
theorem Abreast.restore_eq (h : Abreast kinds limit old whole part) (hw : whole.Balanced)
    (hwithin : whole.registry.Within) (hp : part.Balanced) (hop : part.Orderly)
    (hold : old.Uniform part.registry.retention kinds limit)
    (hdeg : whole.registry.degraded = false) (c : Heap.Census) :
    part.registry.restore c old = part.registry.rejoin c old ∧
      (part.registry.rejoin c old).totalRetained = whole.registry.totalRetained := by
  have hdeg' := h.degraded.trans hdeg
  have hsound : (part.registry.rejoin c old).Sound := sound_rejoin hp.registry hold.sound
  have hlength (site : Nat) : ((part.registry.rejoin c old).arena.events site).length =
      (whole.registry.arena.events site).length := by
    rw [h.calm_part.events_rejoin hp.registry hop.registry hold hdeg' c, (h.parts hdeg site).events,
      length_rtake, length_rtake, List.length_append, List.length_append, List.length_map]
  have hretained : (part.registry.rejoin c old).arena.retained = whole.registry.arena.retained :=
    le_antisymm
      (Arena.retained_le_retained hsound.arena hw.registry.arena fun site => (hlength site).le)
      (Arena.retained_le_retained hw.registry.arena hsound.arena fun site => (hlength site).ge)
  have halike : Alike part.registry (part.registry.rejoin c old) :=
    alike_rejoin hdeg' hop.registry
  have hcapacity : (part.registry.rejoin c old).globalCapacity = whole.registry.globalCapacity :=
    (congrArg Registry.globalCapacity halike :).trans (globalCapacity_of_rules h.rules)
  refine ⟨?_, hretained⟩
  rw [Registry.restore_eq c hdeg']
  refine enforceBudget_of_le ?_
  rw [hretained, hcapacity]
  exact hwithin

/-- **Putting the part back** makes it what the whole is, but for the counts. -/
theorem Abreast.restore (h : Abreast kinds limit old whole part) (hw : whole.Balanced)
    (how : whole.Orderly) (hwdrained : whole.registry.Drained) (hwithin : whole.registry.Within)
    (hp : part.Balanced) (hop : part.Orderly) (hpdrained : part.registry.Drained)
    (hold : old.Uniform part.registry.retention kinds limit) {name : String}
    (hlookup : part.parked.lookup name = some old) :
    (part.step (.restore name)).registry.totalRetained = whole.registry.totalRetained ∧
    (part.step (.restore name)).registry.ceiling = whole.registry.ceiling ∧
    ∀ site, Option.Rel
      (Renews whole.census (part.step (.restore name)).census (part.registry.overwritten site))
      (whole.registry.arena.find? site)
      ((part.step (.restore name)).registry.arena.find? site) := by
  have hcensus (hweak : part.registry.retention = .weak) :
      (part.step (.restore name)).census = part.census ∧ whole.census = part.census := by
    have hweak' : whole.registry.retention = .weak :=
      (retention_of_rules h.rules).symm.trans hweak
    refine ⟨census_restore hp hop hweak name, ?_⟩
    rw [how.census_of_weak hweak', hop.census_of_weak hweak, h.heap]
  generalize (part.step (.restore name)).census = c' at hcensus ⊢
  rw [step_restore hlookup]
  rcases Bool.eq_false_or_eq_true whole.registry.degraded with hdeg | hdeg
  · -- a site was beyond all that there can be, and both lost their buffers
    have hdeg' := h.degraded.trans hdeg
    rw [restore_of_degraded _ hdeg', totalRetained, totalRetained, hwdrained hdeg,
      hpdrained hdeg', h.calm_part.ceiling, h.calm_whole.ceiling]
    exact ⟨rfl, rfl, fun _ => .none⟩
  · have hdeg' := h.degraded.trans hdeg
    obtain ⟨hrejoin, hretained⟩ := h.restore_eq hw hwithin hp hop hold hdeg part.census
    have halike : Alike part.registry (part.registry.rejoin part.census old) :=
      alike_rejoin hdeg' hop.registry
    have hceiling := (congrArg Registry.ceiling halike :).trans h.calm_part.ceiling
    rw [hrejoin]
    refine ⟨hretained, hceiling.trans h.calm_whole.ceiling.symm, fun site => ?_⟩
    rw [find?_rejoin hdeg' hp.registry hop.registry]
    have hsame : whole.registry.arena.find? site = none ↔
        part.registry.rejoined part.census old site = none := by
      rw [(h.parts hdeg site).find?_eq_none, rejoined_eq_none_iff]
    cases hb : whole.registry.arena.find? site with
    | none =>
      rw [hsame.mp hb]
      exact .none
    | some b =>
      cases hx : part.registry.rejoined part.census old site with
      | none =>
        rw [hsame.mpr hx] at hb
        cases hb
      | some x => exact .some (h.renews hw hp hop hold hdeg hcensus hx hb)

/-! ### From the beginning to the end -/

theorem abreast_start (heap : Heap) (limits : RegistryLimits) (clock : Clock)
    (kinds : Nat → Kind) :
    Abreast kinds (max limits.bufferSize 1) {} (start heap limits clock)
      (start heap limits clock) :=
  have hcalm : (Registry.new limits clock).Calm kinds (max limits.bufferSize 1) :=
    ⟨rfl, rfl, Arena.every_empty _⟩
  ⟨rfl, rfl, rfl, rfl, hcalm, hcalm, fun _ site => ⟨by tauto, (List.rtake_nil _).symm, rfl⟩⟩

theorem Abreast.uniform (h : Abreast kinds limit old whole part) (hw : whole.Balanced)
    (how : whole.Orderly) :
    whole.registry.arena.Uniform whole.registry.retention kinds limit :=
  ⟨hw.registry.arena, how.registry, h.calm_whole.buffers⟩

/-- **Taking the buffers out** starts a part of its own, without any events. -/
theorem Abreast.detach (h : Abreast kinds limit old whole part) (hw : whole.Balanced)
    (name : String) :
    Abreast kinds limit whole.registry.arena whole (whole.step (.detach name)) where
  heap := rfl
  clock := rfl
  degraded := rfl
  rules := rfl
  calm_whole := h.calm_whole
  calm_part := ⟨h.calm_whole.closed, h.calm_whole.ceiling, Arena.every_empty _⟩
  parts _ site := by
    have hlength := h.calm_whole.length_events_le hw.registry site
    constructor
    · exact (and_iff_left rfl).symm
    · show _ = (whole.registry.arena.events site ++ []).rtake limit
      rw [List.append_nil, rtake_of_length_le hlength]
    · rfl

theorem parked_run (s : Session) (ha : ∀ a ∈ actions, a.Fits kinds) :
    (s.run actions).parked = s.parked := by
  induction actions generalizing s with
  | nil => rfl
  | cons a rest ih =>
    obtain ⟨hfirst, hrest⟩ := List.forall_mem_cons.mp ha
    refine (ih (s.step a) hrest).trans ?_
    cases a with
    | record | create | release => rfl
    | getOrCreate | detach | restore | close => exact hfirst.elim

end Abreast

/-- **Taking out and putting back makes no difference** so long as the budget need not
be enforced. A run that records `before` and `after` comes to the same retained
events, the same ceiling and, at every site, the same buffer as the run that takes the
buffers out in between and puts them back in the end; only that a buffer put back does
not count what was overwritten at its site in between. -/
theorem transparency_of_restore (heap : Heap) (limits : RegistryLimits) (clock : Clock)
    (kinds : Nat → Kind) (name : String) {before after : List Action}
    (hbefore : ∀ a ∈ before, a.Fits kinds) (hafter : ∀ a ∈ after, a.Fits kinds)
    (hquiet : ((start heap limits clock).run (before ++ after)).registry.stats.enforcements = 0) :
    let direct := (start heap limits clock).run (before ++ after)
    let apart := (start heap limits clock).run (before ++ .detach name :: after)
    let restored := apart.step (.restore name)
    restored.registry.totalRetained = direct.registry.totalRetained ∧
    restored.registry.ceiling = direct.registry.ceiling ∧
    ∀ site, Option.Rel
      (Renews direct.census restored.census (apart.registry.overwritten site))
      (direct.registry.arena.find? site) (restored.registry.arena.find? site) := by
  intro direct apart restored
  let base := (start heap limits clock).run before
  have hdirect : direct = base.run after := List.foldl_append
  have hapart : apart = (base.step (.detach name)).run after := List.foldl_append
  have hbase : base.Balanced := (balanced_start heap limits clock).run before
  have hobase : base.Orderly := (orderly_start heap limits clock).run (balanced_start _ _ _) before
  have hw : direct.Balanced := (balanced_start heap limits clock).run _
  have how : direct.Orderly := (orderly_start heap limits clock).run (balanced_start _ _ _) _
  have hp : apart.Balanced := (balanced_start heap limits clock).run _
  have hop : apart.Orderly := (orderly_start heap limits clock).run (balanced_start _ _ _) _
  -- the run before is abreast of itself, with nothing taken out
  have hzero : base.registry.stats.enforcements = 0 := by
    have hle := enforcements_le_run base hafter
    rw [← hdirect] at hle
    exact Nat.le_zero.mp (hle.trans_eq hquiet)
  have hself : Abreast kinds (max limits.bufferSize 1) {} base base :=
    (abreast_start heap limits clock kinds).run (balanced_start _ _ _) (orderly_start _ _ _)
      (balanced_start _ _ _) (orderly_start _ _ _) hbefore hzero
  have hboth : Abreast kinds (max limits.bufferSize 1) base.registry.arena direct apart := by
    rw [hdirect, hapart]
    refine (hself.detach hbase name).run hbase hobase (hbase.step _) (hobase.step hbase _) hafter ?_
    rw [← hdirect, hzero]
    exact hquiet
  have hlookup : apart.parked.lookup name = some base.registry.arena := by
    rw [hapart, parked_run _ hafter]
    exact List.lookup_cons_self
  have hretention : base.registry.retention = apart.registry.retention :=
    retention_of_rules ((rules_run _ before).trans (rules_run _ _).symm)
  have hold : base.registry.arena.Uniform apart.registry.retention kinds (max limits.bufferSize 1) :=
    hretention ▸ hself.uniform hbase hobase
  have hdrained {actions : List Action} :
      ((start heap limits clock).run actions).registry.Drained :=
    drained_run (drained_of_empty rfl) (orderly_start _ _ _) (balanced_start _ _ _) actions
  have hwithin : direct.registry.Within := by
    refine within_run (within_of_empty rfl) (balanced_start _ _ _) fun a ha => ?_
    have hfits := (List.mem_append.mp ha).elim (hbefore a) (hafter a)
    cases a with
    | restore => exact hfits.elim
    | _ => rfl
  exact hboth.restore hw how hdrained hwithin hp hop hdrained hold hlookup

/-- Records of one site, whose buffer has room for two. -/
def recordsOf (values : List Int32) : List Action :=
  values.map fun x => .record 3 (.int x) 0

theorem transparency_of_restore_overwriting :
    let direct := (start {} { bufferSize := 2 } ⟨0⟩).run (recordsOf [1] ++ recordsOf [2, 3, 4])
    let apart := (start {} { bufferSize := 2 } ⟨0⟩).run
      (recordsOf [1] ++ .detach "d" :: recordsOf [2, 3, 4])
    let restored := apart.step (.restore "d")
    (direct.registry.arena.find? 3).map (·.records direct.census) =
      some [⟨.int 3, 2, 0⟩, ⟨.int 4, 3, 0⟩] ∧
    restored.registry.totalRetained = 2 ∧
    Option.Rel (Renews direct.census restored.census 1)
      (direct.registry.arena.find? 3) (restored.registry.arena.find? 3) := by
  intro direct apart restored
  have hfits (values : List Int32) : ∀ a ∈ recordsOf values, a.Fits fun _ => .int := by
    intro a ha
    obtain ⟨x, -, rfl⟩ := List.mem_map.mp ha
    exact ⟨rfl, by decide⟩
  obtain ⟨hretained, -, hsites⟩ :=
    transparency_of_restore {} { bufferSize := 2 } ⟨0⟩ (fun _ => .int) "d" (hfits [1])
      (hfits [2, 3, 4]) (by decide +kernel)
  exact ⟨by decide +kernel, hretained.trans (by decide +kernel), hsites 3⟩

/-- **A count is lost**: the buffer that the events in between went to had room for one
of the two. -/
theorem count_lost_of_restore :
    let direct := (start {} { bufferSize := 1 } ⟨0⟩).run (recordsOf [1, 2])
    let apart := (start {} { bufferSize := 1 } ⟨0⟩).run (.detach "d" :: recordsOf [1, 2])
    direct.registry.stats.enforcements = 0 ∧
    (direct.registry.arena.find? 3).map (·.count) = some 2 ∧
    ((apart.step (.restore "d")).registry.arena.find? 3).map (·.count) = some 1 := by
  decide +kernel

end Session

end Registry

end FlightRecorder
