import Mathlib.Data.Finset.Card
import FlightRecorder.Proofs.Registry.Latest

/-!
# How many sites a budget can feed

The budget trims the largest buffers first so that no site starves. But a trim
takes the whole eviction unit at once, and if the largest buffer is not larger
than that, the trim leaves nothing of it – not even the event that was just
recorded. What is needed is that some buffer is larger than the unit whenever
there are too many events, and this is a matter of counting: it is so, in every
run, exactly when the budget has room for one eviction unit per site.

* `FlightRecorder.Registry.Offer`, `FlightRecorder.Registry.recordAll` – runs of
  records; `FlightRecorder.Registry.Regular` – records that are never refused;
* `FlightRecorder.Registry.Serving` – the invariant of such runs;
* `FlightRecorder.Registry.Serving.fed_enforceBudget` – enforcement empties no
  buffer where there is room for one eviction unit per site;
* `FlightRecorder.Registry.turns` – recording at the sites in turn, which starves
  one of them where there is not (`FlightRecorder.Registry.not_fed_turns`);
* `FlightRecorder.Registry.fed_iff` – **the two together**.
-/

namespace FlightRecorder.Registry

/-! ### Runs of records -/

/-- An event offered to a registry. -/
structure Offer where
  site : Nat
  value : Value
  thread : UInt32

/-- Record several events, one after the other. -/
def recordAll (r : Registry) (offers : List Offer) : Registry :=
  offers.foldl (fun r o => r.record o.site o.value o.thread) r

theorem recordAll_concat (r : Registry) (offers : List Offer) (o : Offer) :
    r.recordAll (offers ++ [o]) = (r.recordAll offers).record o.site o.value o.thread :=
  List.foldl_append

/-- The sites that events were offered to. -/
def sitesOf (offers : List Offer) : Finset Nat :=
  (offers.map (·.site)).toFinset

theorem mem_sitesOf_concat {offers : List Offer} {o : Offer} {s : Nat} :
    s ∈ sitesOf (offers ++ [o]) ↔ s = o.site ∨ s ∈ sitesOf offers := by
  simp only [sitesOf, List.mem_toFinset, List.map_append, List.mem_append, List.map_singleton,
    List.mem_singleton, or_comm]

/-- Offers that an open registry never refuses: sites that an arena can have, and
values of one kind for each of them. -/
def Regular (kinds : Nat → Kind) (offers : List Offer) : Prop :=
  ∀ o ∈ offers, o.site < Arena.maxSites ∧ o.value.kind = kinds o.site

/-- **No site starves**: every site that was recorded has an event. -/
def Fed (r : Registry) (offers : List Offer) : Prop :=
  ∀ site ∈ sitesOf offers, ∃ b, r.arena.find? site = some b ∧ 0 < b.size

/-- An event can be read back as the newest of its site. -/
def Newest (r : Registry) (site : Nat) (e : Reading) : Prop :=
  ∃ b, r.arena.find? site = some b ∧
    ∀ c, b.record? c (b.size - 1) = some (e.recall r.retention c)

/-- **Serving**: what holds of a registry to which nothing but regular offers was
made. Its buffers are those of the sites recorded. -/
structure Serving (r : Registry) (kinds : Nat → Kind) (limit : Nat) (offers : List Offer) :
    Prop where
  sound : r.Sound
  follows : ∃ log, r.Follows log
  closed : r.closed = false
  degraded : r.degraded = false
  ceiling_le : r.ceiling ≤ limit
  buffers : ∀ p ∈ r.arena.buffers, p.2.kind = kinds p.1 ∧ p.2.limit ≤ limit
  sites : ∀ s, s ∈ r.arena.buffers.map (·.1) ↔ s ∈ sitesOf offers

section Serving

variable {r r' : Registry} {kinds : Nat → Kind} {limit : Nat} {offers : List Offer} {o : Offer}
  {b : SiteBuffer} {e : Reading}

theorem serving_new (limits : RegistryLimits) (clock : Clock) (kinds : Nat → Kind) :
    (new limits clock).Serving kinds (max limits.bufferSize 1) [] where
  sound := sound_new limits clock
  follows := ⟨[], fun _ hp => absurd hp List.not_mem_nil⟩
  closed := rfl
  degraded := rfl
  ceiling_le := le_refl _
  buffers _ hp := absurd hp List.not_mem_nil
  sites _ := Iff.rfl

/-- A regular offer is stored. -/
theorem Serving.record_eq (h : r.Serving kinds limit offers) (hsite : o.site < Arena.maxSites)
    (hkind : o.value.kind = kinds o.site) :
    ∃ r' b, Ready r o.site (.of o.value.kind) r' b ∧ b.kind = kinds o.site ∧
      r.record o.site o.value o.thread =
        (r'.stored o.site b ⟨o.value, r.clock.next, o.thread⟩).enforceBudget := by
  have hready {r' : Registry} {b : SiteBuffer} (hr : Ready r o.site (.of o.value.kind) r' b) :
      b.kind = kinds o.site := by
    cases hr with
    | found hfind =>
      exact (h.buffers (o.site, b) (h.sound.arena.find?_eq_some_iff.mp hfind)).1
    | created => exact hkind
  have hout := outcome_record r o.site o.value o.thread
  generalize r.record o.site o.value o.thread = r'' at hout ⊢
  cases hout with
  | unchanged hstopped =>
    simp [h.closed, h.degraded, breaksOff_ample, lacksSlot_of_lt_maxSites r hsite] at hstopped
  | beyond _ _ _ hbeyond => exact absurd hsite (Nat.not_lt.mpr hbeyond)
  | @stored r' b _ _ hr => exact ⟨r', b, hr, hready hr, rfl⟩
  | refused _ _ hr hne => exact absurd (hkind.trans (hready hr).symm) hne

/-- The buffers after an event was stored: that of the site, and the others as
they were. -/
theorem mem_stored (h : r.Sound) {site : Nat} {kind : SiteKind} (hready : Ready r site kind r' b)
    {p : Nat × SiteBuffer} (hp : p ∈ (r'.stored site b e).arena.buffers) :
    p = (site, (b.ensureAtMost r.ceiling).push e) ∨ p ∈ r.arena.buffers := by
  have hceiling : r'.ceiling = r.ceiling := by rw [hready.eq_with]
  rcases (Arena.mem_place_iff (h.ready hready).arena.ordered).mp hp with rfl | ⟨hp, hne⟩
  · exact Or.inl (by rw [hceiling])
  · exact Or.inr (hready.mem h.arena hp hne)

theorem Serving.stored (h : r.Serving kinds limit offers)
    (hready : Ready r o.site (.of o.value.kind) r' b) (hkind : b.kind = kinds o.site) :
    (r'.stored o.site b e).Serving kinds limit (offers ++ [o]) := by
  have hsound := h.sound.ready hready
  have hwf := hsound.arena.wellFormed_of_find? hready.find?
  obtain ⟨log, hfollows⟩ := h.follows
  have heq := hready.eq_with
  refine
    { sound := hsound.stored hready.find? e
      follows := ⟨_, (hfollows.ready hready).stored hsound hready.find? e⟩
      closed := (congrArg Registry.closed heq).trans h.closed
      degraded := (congrArg Registry.degraded heq).trans h.degraded
      ceiling_le := (congrArg Registry.ceiling heq).trans_le h.ceiling_le
      buffers := fun p hp => ?_
      sites := fun s => ?_ }
  · rcases mem_stored h.sound hready hp with rfl | hp
    · have hkept : ((b.ensureAtMost r.ceiling).push e).kind = kinds o.site := by
        rw [SiteBuffer.kind_push, SiteBuffer.kind_ensureAtMost, hkind]
      have hceiling := h.ceiling_le
      have hpos := h.sound.ceiling_pos
      refine ⟨hkept, ?_⟩
      rw [SiteBuffer.limit_push, SiteBuffer.limit_ensureAtMost hwf]
      omega
    · exact h.buffers p hp
  · rw [mem_sitesOf_concat, ← h.sites s]
    have hplace : s ∈ (r'.stored o.site b e).arena.buffers.map (·.1) ↔
        s = o.site ∨ s ∈ r'.arena.buffers.map (·.1) := Arena.mem_map_fst_place
    cases hready with
    | found => exact hplace
    | created =>
      refine hplace.trans ?_
      rw [Arena.put, Arena.mem_map_fst_place, ← or_assoc, or_self]

theorem Serving.enforceBudget (h : r.Serving kinds limit offers) :
    r.enforceBudget.Serving kinds limit offers := by
  rcases enforceBudget_cases r with heq | ⟨-, hmoves⟩
  · rw [heq]
    exact h
  · obtain ⟨log, hfollows⟩ := h.follows
    have hledger : r.ledger.counted.arena.Sound := h.sound.arena
    have hsites : r.enforceBudget.arena.buffers.map (·.1) = r.arena.buffers.map (·.1) :=
      hmoves.sites
    refine
      { sound := h.sound.enforceBudget
        follows := ⟨log, hfollows.enforceBudget h.sound⟩
        closed := h.closed
        degraded := h.degraded
        ceiling_le := hmoves.ceiling_le.trans h.ceiling_le
        buffers := ?_
        sites := fun s => by rw [hsites, h.sites] }
    refine hmoves.forall_mem hledger (Q := fun s x => x.kind = kinds s ∧ x.limit ≤ limit)
      (fun s x n hx _ hQ => ⟨hQ.1, ?_⟩) h.buffers
    have hpos := hx.limit_pos
    have hlimit := hQ.2
    rw [SiteBuffer.limit_dropOldest hx]
    omega

theorem Serving.record (h : r.Serving kinds limit offers) (hsite : o.site < Arena.maxSites)
    (hkind : o.value.kind = kinds o.site) :
    (r.record o.site o.value o.thread).Serving kinds limit (offers ++ [o]) := by
  obtain ⟨r', b, hready, hb, hrecord⟩ := h.record_eq hsite hkind
  rw [hrecord]
  exact (h.stored hready hb).enforceBudget

/-- There are as many buffers as sites recorded. -/
theorem Serving.length_buffers (h : r.Serving kinds limit offers) :
    r.arena.buffers.length = (sitesOf offers).card := by
  have hnodup : (r.arena.buffers.map (·.1)).Nodup :=
    (Arena.ordered_iff.mp h.sound.arena.ordered).imp fun hlt => hlt.ne
  have hsites : (r.arena.buffers.map (·.1)).toFinset = sitesOf offers := by
    ext s
    rw [List.mem_toFinset, h.sites]
  rw [← hsites, List.toFinset_card_of_nodup hnodup, List.length_map]

end Serving

/-! ### Enforcement that empties no buffer -/

section Fed

variable {r r' : Registry} {kinds : Nat → Kind} {limit : Nat} {offers : List Offer} {o : Offer}
  {b : SiteBuffer} {e : Reading}

/-- An excess of one event is met by one trim, off a buffer of the largest size. -/
theorem enforceBudget_of_excess_one (h : r.Sound)
    (hone : r.arena.retained = r.globalCapacity + 1) :
    ∃ site b, r.arena.find? site = some b ∧ 0 < b.size ∧
      (∀ p ∈ r.arena.buffers, p.2.size ≤ b.size) ∧
      r.enforceBudget.arena.buffers =
        Arena.adjust site (·.dropOldest (min r.policy.evictionUnit b.size)) r.arena.buffers := by
  have hledger : r.ledger.arena.Sound := h.arena
  obtain ⟨site, rest, b, -, hb, hsize, hpos, henforce, -⟩ :=
    Ledger.enforce_of_excess_one r.policy hledger hone
  refine ⟨site, b, hb, hpos, fun p hp => ?_, ?_⟩
  · rw [hsize]
    exact Ledger.size_le_largestSize (l := r.ledger) hp
  · have hlower : (r.ledger.counted.lowerCeiling r.policy).buffers = r.arena.buffers :=
      congrArg Arena.buffers (Ledger.arena_lowerCeiling r.policy r.ledger.counted)
    show (r.ledger.enforce r.policy r.globalCapacity).buffers = _
    rw [henforce, Ledger.cut, hlower]

/-- **Where there is room for one eviction unit per site, enforcement empties no
buffer.** Too many events in so few buffers make one of them larger than the
unit, and that is the one that is trimmed. -/
theorem Serving.fed_enforceBudget (h : r.Serving kinds limit offers)
    (hle : r.arena.retained ≤ r.globalCapacity + 1)
    (hroom : (sitesOf offers).card * min r.policy.evictionUnit limit ≤ r.globalCapacity)
    (hpos : ∀ p ∈ r.arena.buffers, 0 < p.2.size) :
    ∀ p ∈ r.enforceBudget.arena.buffers, 0 < p.2.size := by
  rcases Nat.lt_or_ge r.globalCapacity r.arena.retained with hover | hkept
  · obtain ⟨site, b, hb, -, hlargest, hbuffers⟩ :=
      enforceBudget_of_excess_one h.sound (le_antisymm hle hover)
    have hmem : (site, b) ∈ r.arena.buffers := h.sound.arena.find?_eq_some_iff.mp hb
    have hlarge : r.policy.evictionUnit < b.size := by
      have hmin : min r.policy.evictionUnit limit < b.size := by
        -- otherwise the buffers together would keep the budget
        by_contra hsmall
        have hcount := Arena.eventCount_le fun p hp =>
          (hlargest p hp).trans (Nat.le_of_not_lt hsmall)
        rw [h.length_buffers, ← Arena.totalSize_eq, ← h.sound.arena.retained] at hcount
        omega
      have hwf : b.WellFormed := h.sound.arena.wellFormed_of_find? hb
      have hlimit : b.size ≤ limit := hwf.size_le_limit.trans (h.buffers _ hmem).2
      omega
    intro p hp
    rw [hbuffers] at hp
    obtain ⟨x, hx, hpx⟩ := Arena.mem_adjust_iff.mp hp
    rw [hpx]
    split_ifs with hsite
    · have hxb : x = b := by
        have hfind := h.sound.arena.find?_eq_some_iff.mpr hx
        exact Option.some.inj (hfind.symm.trans (hsite ▸ hb))
      rw [SiteBuffer.size_dropOldest, hxb]
      omega
    · exact hpos _ hx
  · rw [enforceBudget_of_le hkept]
    exact hpos

/-- A buffer that took an event has it. -/
theorem pos_stored (h : r.Sound) {site : Nat} {kind : SiteKind} (hready : Ready r site kind r' b)
    (hpos : ∀ p ∈ r.arena.buffers, 0 < p.2.size) :
    ∀ p ∈ (r'.stored site b e).arena.buffers, 0 < p.2.size := by
  intro p hp
  have hwf := ((h.ready hready).arena.wellFormed_of_find? hready.find?).ensureAtMost r.ceiling
  rcases mem_stored h hready hp with rfl | hp
  · have hlimit := hwf.limit_pos
    rw [SiteBuffer.size_push hwf]
    omega
  · exact hpos p hp

/-- **One record** empties no buffer where there is room. -/
theorem Serving.fed_record (h : r.Serving kinds limit offers) (hwithin : r.Within)
    (hsite : o.site < Arena.maxSites) (hkind : o.value.kind = kinds o.site)
    (hroom : (sitesOf (offers ++ [o])).card * min r.policy.evictionUnit limit ≤
      r.globalCapacity)
    (hpos : ∀ p ∈ r.arena.buffers, 0 < p.2.size) :
    ∀ p ∈ (r.record o.site o.value o.thread).arena.buffers, 0 < p.2.size := by
  obtain ⟨r', b, hready, hb, hrecord⟩ := h.record_eq hsite hkind
  rw [hrecord]
  have hsound := h.sound.ready hready
  have hle := hsound.retained_stored_le hready.find? ⟨o.value, r.clock.next, o.thread⟩
  have hwithin' : r'.arena.retained ≤ r'.globalCapacity := hwithin.ready hready
  have hcapacity := globalCapacity_of_rules hready.rules
  have hpolicy := policy_of_rules hready.rules
  refine (h.stored hready hb).fed_enforceBudget (hle.trans (Nat.succ_le_succ hwithin')) ?_
    (pos_stored h.sound hready hpos)
  show (sitesOf (offers ++ [o])).card * min r'.policy.evictionUnit limit ≤ r'.globalCapacity
  rw [hcapacity, hpolicy]
  exact hroom

/-- An event just recorded is the newest of its site, if there is any. -/
theorem Serving.newest_record (h : r.Serving kinds limit offers)
    (hsite : o.site < Arena.maxSites) (hkind : o.value.kind = kinds o.site)
    (hpos : ∀ p ∈ (r.record o.site o.value o.thread).arena.buffers, 0 < p.2.size) :
    (r.record o.site o.value o.thread).Newest o.site ⟨o.value, r.clock.next, o.thread⟩ := by
  have hserving := h.record hsite hkind
  obtain ⟨r', b, hready, hb, hrecord⟩ := h.record_eq hsite hkind
  obtain ⟨log, hfollows⟩ := h.follows
  have hsound := h.sound.ready hready
  have hlatest : (r.record o.site o.value o.thread).Follows
      (log ++ [(o.site, ⟨o.value, r.clock.next, o.thread⟩)]) := by
    rw [hrecord]
    exact ((hfollows.ready hready).stored hsound hready.find? _).enforceBudget
      (hsound.stored hready.find? _)
  obtain ⟨⟨s, x⟩, hx, rfl⟩ :=
    List.mem_map.mp ((hserving.sites o.site).mpr (mem_sitesOf_concat.mpr (Or.inl rfl)))
  have hx' := hlatest _ hx
  rw [eventsAt_concat, if_pos rfl] at hx'
  exact ⟨x, hserving.sound.arena.find?_eq_some_iff.mpr hx, hx'.record?_newest (hpos _ hx)⟩

end Fed

/-! ### Runs -/

section Runs

variable {limits : RegistryLimits} {clock : Clock} {kinds : Nat → Kind} {offers : List Offer}

theorem rules_recordAll (r : Registry) (offers : List Offer) :
    (r.recordAll offers).rules = r.rules := by
  induction offers generalizing r with
  | nil => rfl
  | cons o rest ih => exact (ih _).trans (rules_record r o.site o.value o.thread)

theorem Regular.of_concat {o : Offer} (h : Regular kinds (offers ++ [o])) :
    Regular kinds offers ∧ o.site < Arena.maxSites ∧ o.value.kind = kinds o.site :=
  ⟨fun x hx => h x (List.mem_append_left _ hx), h o (List.mem_append_right _ List.mem_cons_self)⟩

theorem serving_recordAll (limits : RegistryLimits) (clock : Clock) (h : Regular kinds offers) :
    ((new limits clock).recordAll offers).Serving kinds (max limits.bufferSize 1) offers := by
  induction offers using List.reverseRecOn with
  | nil => exact serving_new limits clock kinds
  | append_singleton offers o ih =>
    obtain ⟨hoffers, hsite, hkind⟩ := h.of_concat
    rw [recordAll_concat]
    exact (ih hoffers).record hsite hkind

theorem within_recordAll (limits : RegistryLimits) (clock : Clock) (offers : List Offer) :
    ((new limits clock).recordAll offers).Within := by
  have hkeep (r : Registry) (hr : r.Sound) (h : r.Within) : (r.recordAll offers).Within := by
    induction offers generalizing r with
    | nil => exact h
    | cons o rest ih => exact ih _ (hr.record _ _ _) (h.record hr _ _ _)
  exact hkeep _ (sound_new limits clock) (within_of_empty rfl)

/-- **No site starves where there is room** for one eviction unit per site. -/
theorem fed_recordAll (limits : RegistryLimits) (clock : Clock) (h : Regular kinds offers)
    (hroom : (sitesOf offers).card * min (max limits.evictionUnit 1) (max limits.bufferSize 1) ≤
      limits.globalCapacity) :
    ∀ p ∈ ((new limits clock).recordAll offers).arena.buffers, 0 < p.2.size := by
  induction offers using List.reverseRecOn with
  | nil =>
    intro p hp
    exact absurd hp List.not_mem_nil
  | append_singleton offers o ih =>
    obtain ⟨hoffers, hsite, hkind⟩ := h.of_concat
    have hrules := rules_recordAll (new limits clock) offers
    have hfewer : (sitesOf offers).card ≤ (sitesOf (offers ++ [o])).card :=
      Finset.card_le_card fun s hs => mem_sitesOf_concat.mpr (Or.inr hs)
    rw [recordAll_concat]
    refine (serving_recordAll limits clock hoffers).fed_record
      (within_recordAll limits clock offers) hsite hkind ?_
      (ih hoffers ((Nat.mul_le_mul_right _ hfewer).trans hroom))
    rw [globalCapacity_of_rules hrules, policy_of_rules hrules]
    exact hroom

end Runs

/-! ### One site after the other -/

section Turns

variable {limits : RegistryLimits} {clock : Clock} {kinds : Nat → Kind} {k n limit : Nat}
  {r r' : Registry} {b : SiteBuffer} {e : Reading}

/-- The `i`-th offer to `k` sites that are recorded in turn. -/
def turn (kinds : Nat → Kind) (k i : Nat) : Offer :=
  ⟨i % k, Datum.zero none (kinds (i % k)), 0⟩

/-- The first `n` offers to `k` sites in turn. -/
def turns (kinds : Nat → Kind) (k n : Nat) : List Offer :=
  (List.range n).map (turn kinds k)

theorem turns_succ (kinds : Nat → Kind) (k n : Nat) :
    turns kinds k (n + 1) = turns kinds k n ++ [turn kinds k n] := by
  rw [turns, List.range_succ, List.map_append]
  rfl

theorem regular_turns (kinds : Nat → Kind) (hpos : 0 < k) (hk : k ≤ Arena.maxSites) (n : Nat) :
    Regular kinds (turns kinds k n) := by
  intro o ho
  obtain ⟨i, -, rfl⟩ := List.mem_map.mp ho
  exact ⟨(Nat.mod_lt i hpos).trans_le hk, Datum.kind_zero _ _⟩

theorem mem_sitesOf_turns (hpos : 0 < k) {s : Nat} (hs : s ∈ sitesOf (turns kinds k n)) :
    s < k := by
  obtain ⟨o, ho, rfl⟩ := List.mem_map.mp (List.mem_toFinset.mp hs)
  obtain ⟨i, -, rfl⟩ := List.mem_map.mp ho
  exact Nat.mod_lt i hpos

theorem card_sitesOf_turns_le (kinds : Nat → Kind) (n : Nat) (hpos : 0 < k) :
    (sitesOf (turns kinds k n)).card ≤ k := by
  have hsub : sitesOf (turns kinds k n) ⊆ Finset.range k := fun s hs =>
    Finset.mem_range.mpr (mem_sitesOf_turns hpos hs)
  exact (Finset.card_le_card hsub).trans_eq (Finset.card_range k)

/-- **The events are spread evenly** over the sites recorded in turn, and none is
lost yet. -/
structure Spread (r : Registry) (k limit n : Nat) : Prop where
  retained : r.arena.retained = n
  ceiling : r.ceiling = limit
  buffers : ∀ p ∈ r.arena.buffers, p.2.limit = limit ∧ p.2.size * k + p.1 < n + k

theorem spread_new (limits : RegistryLimits) (clock : Clock) (k : Nat) :
    (new limits clock).Spread k (max limits.bufferSize 1) 0 :=
  ⟨rfl, rfl, fun _ hp => absurd hp List.not_mem_nil⟩

/-- The buffer whose turn it is has room for the event. -/
theorem Spread.stored (h : r.Spread k limit n) (hr : r.Sound) (hpos : 0 < k)
    (hroom : n < k * limit) {kind : SiteKind} (hready : Ready r (n % k) kind r' b) :
    (r'.stored (n % k) b e).Spread k limit (n + 1) := by
  have hceiling := h.ceiling
  have hceiling_pos := hr.ceiling_pos
  have hsplit := Nat.div_add_mod n k
  -- the buffer has at most one event for every full round
  have hb : b.limit = limit ∧ b.size * k + n % k < n + k := by
    cases hready with
    | found hfind =>
      exact h.buffers (n % k, b) (hr.arena.find?_eq_some_iff.mp hfind)
    | created =>
      refine ⟨?_, ?_⟩
      · show max r.ceiling 1 = limit
        omega
      · rw [SiteBuffer.size_new]
        omega
  obtain ⟨hlimit, hsize⟩ := hb
  have hrounds : b.size ≤ n / k := by
    have hlt : b.size * k < (n / k + 1) * k := by
      rw [Nat.add_mul, Nat.mul_comm (n / k)]
      omega
    exact Nat.lt_succ_iff.mp (Nat.lt_of_mul_lt_mul_right hlt)
  have hfree : n / k < limit := Nat.div_lt_of_lt_mul hroom
  have hsound := hr.ready hready
  have hwf := hsound.arena.wellFormed_of_find? hready.find?
  have hceiling' : r'.ceiling = limit := (congrArg Registry.ceiling hready.eq_with).trans hceiling
  have htrimmed : (b.ensureAtMost r'.ceiling).size = b.size := by
    rw [SiteBuffer.size_ensureAtMost]
    omega
  have hpushed : ((b.ensureAtMost r'.ceiling).push e).size = b.size + 1 := by
    rw [SiteBuffer.size_push (hwf.ensureAtMost _), htrimmed, SiteBuffer.limit_ensureAtMost hwf]
    omega
  have hretained : r'.arena.retained = n := by
    cases hready <;> exact h.retained
  refine ⟨?_, hceiling', fun p hp => ?_⟩
  · show Ledger.retainedLess r'.arena.retained (b.size - (b.ensureAtMost r'.ceiling).size) +
      (((b.ensureAtMost r'.ceiling).push e).size - (b.ensureAtMost r'.ceiling).size) = n + 1
    rw [hpushed, htrimmed, hretained, Nat.sub_self, Ledger.retainedLess, if_pos (Nat.zero_le n)]
    omega
  · rcases mem_stored hr hready hp with rfl | hp
    · rw [← congrArg Registry.ceiling hready.eq_with]
      refine ⟨?_, ?_⟩
      · rw [SiteBuffer.limit_push, SiteBuffer.limit_ensureAtMost hwf]
        omega
      · have hrow : (b.size + 1) * k + n % k ≤ n + k := by
          have := Nat.mul_le_mul_right k hrounds
          rw [Nat.mul_comm (n / k)] at this
          rw [Nat.add_mul]
          omega
        rw [hpushed]
        omega
    · obtain ⟨hlimit, hsize⟩ := h.buffers p hp
      exact ⟨hlimit, by omega⟩

/-- What the next offer in turn leads to before the budget is looked at. -/
theorem Spread.record_turn (h : r.Spread k limit n)
    (hr : r.Serving kinds limit (turns kinds k n)) (hpos : 0 < k) (hk : k ≤ Arena.maxSites)
    (hroom : n < k * limit) :
    ∃ r₁ : Registry, r₁.Spread k limit (n + 1) ∧
      r₁.Serving kinds limit (turns kinds k (n + 1)) ∧ r₁.rules = r.rules ∧
      r.record (turn kinds k n).site (turn kinds k n).value (turn kinds k n).thread =
        r₁.enforceBudget := by
  obtain ⟨hsite, hkind⟩ := regular_turns kinds hpos hk (n + 1) (turn kinds k n)
    (by rw [turns_succ]; exact List.mem_append_right _ List.mem_cons_self)
  obtain ⟨r', b, hready, hb, hrecord⟩ := hr.record_eq hsite hkind
  refine ⟨_, h.stored hr.sound hpos hroom hready, ?_, hready.rules, hrecord⟩
  rw [turns_succ]
  exact hr.stored hready hb

theorem spread_recordAll (limits : RegistryLimits) (clock : Clock) (kinds : Nat → Kind)
    (hpos : 0 < k) (hk : k ≤ Arena.maxSites)
    (hroom : limits.globalCapacity < k * max limits.bufferSize 1)
    (hn : n ≤ limits.globalCapacity) :
    ((new limits clock).recordAll (turns kinds k n)).Spread k (max limits.bufferSize 1) n := by
  induction n with
  | zero => exact spread_new limits clock k
  | succ n ih =>
    have hserving := serving_recordAll limits clock (regular_turns kinds hpos hk n)
    obtain ⟨r₁, hspread, -, hrules, hrecord⟩ :=
      (ih (by omega)).record_turn hserving hpos hk (by omega)
    have hcapacity : r₁.globalCapacity = limits.globalCapacity :=
      globalCapacity_of_rules (hrules.trans (rules_recordAll (new limits clock) _))
    rw [turns_succ, recordAll_concat, hrecord, enforceBudget_of_le]
    · exact hspread
    · rw [hspread.retained, hcapacity]
      exact hn

/-- **One event too many starves a site** if the largest buffer is not larger than
the eviction unit. -/
theorem Spread.not_fed_enforceBudget (h : r.Spread k limit (r.globalCapacity + 1))
    (hr : r.Serving kinds limit offers)
    (hunit : r.globalCapacity < k * r.policy.evictionUnit) : ¬ r.enforceBudget.Fed offers := by
  intro hfed
  obtain ⟨site, b, hb, hbpos, -, hbuffers⟩ := enforceBudget_of_excess_one hr.sound h.retained
  have hmem : (site, b) ∈ r.arena.buffers := hr.sound.arena.find?_eq_some_iff.mp hb
  have hsmall : b.size ≤ r.policy.evictionUnit := by
    have hrow : b.size * k + site < r.globalCapacity + 1 + k := (h.buffers _ hmem).2
    have hlt : b.size * k < (r.policy.evictionUnit + 1) * k := by
      rw [Nat.add_mul, Nat.mul_comm r.policy.evictionUnit]
      omega
    exact Nat.lt_succ_iff.mp (Nat.lt_of_mul_lt_mul_right hlt)
  have hsite : site ∈ sitesOf offers :=
    (hr.sites site).mp (List.mem_map_of_mem (f := fun p : Nat × SiteBuffer => p.1) hmem)
  obtain ⟨x, hx, hxpos⟩ := hfed site hsite
  -- the trim takes all that the buffer has
  have hempty : x = b.dropOldest (min r.policy.evictionUnit b.size) := by
    have hlookup : r.arena.buffers.lookup site = some b := hb
    rw [Arena.find?, hbuffers, Arena.lookup_adjust, if_pos rfl, hlookup] at hx
    exact (Option.some.inj hx).symm
  rw [hempty, SiteBuffer.size_dropOldest] at hxpos
  omega

/-- **A run that starves a site**: as many records as the budget has room for at
`k` sites in turn, and one more. -/
theorem not_fed_turns (limits : RegistryLimits) (clock : Clock) (kinds : Nat → Kind)
    (hk : k ≤ Arena.maxSites)
    (hroom : limits.globalCapacity <
      k * min (max limits.evictionUnit 1) (max limits.bufferSize 1)) :
    ¬ ((new limits clock).recordAll (turns kinds k (limits.globalCapacity + 1))).Fed
      (turns kinds k (limits.globalCapacity + 1)) := by
  have hpos : 0 < k := Nat.pos_of_lt_mul_right hroom
  have hlimit : limits.globalCapacity < k * max limits.bufferSize 1 :=
    hroom.trans_le (Nat.mul_le_mul_left k (Nat.min_le_right _ _))
  have hunit : limits.globalCapacity < k * max limits.evictionUnit 1 :=
    hroom.trans_le (Nat.mul_le_mul_left k (Nat.min_le_left _ _))
  have hserving := serving_recordAll limits clock
    (regular_turns kinds hpos hk limits.globalCapacity)
  obtain ⟨r₁, hspread, hserving₁, hrules, hrecord⟩ :=
    (spread_recordAll limits clock kinds hpos hk hlimit (le_refl _)).record_turn hserving hpos hk
      hlimit
  have hrules₁ := hrules.trans (rules_recordAll (new limits clock) _)
  have hcapacity : r₁.globalCapacity = limits.globalCapacity := globalCapacity_of_rules hrules₁
  have hpolicy : r₁.policy = (new limits clock).policy := policy_of_rules hrules₁
  have hrun : (new limits clock).recordAll (turns kinds k (limits.globalCapacity + 1)) =
      r₁.enforceBudget := by
    rw [turns_succ, recordAll_concat, hrecord]
  rw [hrun]
  refine Spread.not_fed_enforceBudget (hcapacity ▸ hspread) hserving₁ ?_
  rw [hcapacity, hpolicy]
  exact hunit

end Turns

/-! ### The two together -/

/-- **How many sites a budget can feed.** Every run of records at no more than `k`
sites leaves each site recorded with an event, and the event just recorded the
newest of its site, exactly if the budget has room for `k` eviction units – or
for `k` full buffers, if they are smaller. -/
theorem fed_iff (limits : RegistryLimits) (clock : Clock) (kinds : Nat → Kind) {k : Nat}
    (hk : k ≤ Arena.maxSites) :
    (∀ offers o, Regular kinds (offers ++ [o]) → (sitesOf (offers ++ [o])).card ≤ k →
      ((new limits clock).recordAll (offers ++ [o])).Fed (offers ++ [o]) ∧
      ((new limits clock).recordAll (offers ++ [o])).Newest o.site
        ⟨o.value, ((new limits clock).recordAll offers).clock.next, o.thread⟩) ↔
      k * min (max limits.evictionUnit 1) (max limits.bufferSize 1) ≤ limits.globalCapacity := by
  constructor
  · intro h
    by_contra hnot
    have hroom := Nat.lt_of_not_le hnot
    have hpos : 0 < k := Nat.pos_of_lt_mul_right hroom
    have hregular := regular_turns kinds hpos hk (limits.globalCapacity + 1)
    have hfew := card_sitesOf_turns_le kinds (limits.globalCapacity + 1) hpos
    have hstarved := not_fed_turns limits clock kinds hk hroom
    -- the last of the turns is the record after which a site has nothing
    rw [turns_succ] at hregular hfew hstarved
    exact hstarved (h _ _ hregular hfew).1
  · intro hroom offers o hregular hfew
    obtain ⟨hoffers, hsite, hkind⟩ := hregular.of_concat
    have hserving := serving_recordAll limits clock hoffers
    have hfed := fed_recordAll limits clock hregular ((Nat.mul_le_mul_right _ hfew).trans hroom)
    have hall := serving_recordAll limits clock hregular
    refine ⟨fun site hs => ?_, ?_⟩
    · obtain ⟨⟨s, b⟩, hb, rfl⟩ := List.mem_map.mp ((hall.sites site).mpr hs)
      exact ⟨b, hall.sound.arena.find?_eq_some_iff.mpr hb, hfed _ hb⟩
    · rw [recordAll_concat] at hfed ⊢
      exact hserving.newest_record hsite hkind hfed

/-- Two sites that share a budget of five, one after the other. -/
def sharing : List Offer :=
  [⟨0, .int 0, 0⟩, ⟨0, .int 1, 0⟩, ⟨0, .int 2, 0⟩, ⟨0, .int 3, 0⟩,
    ⟨1, .int 0, 0⟩, ⟨1, .int 1, 0⟩, ⟨1, .int 2, 0⟩]

theorem fed_sharing :
    2 ≤ Arena.maxSites ∧
    ((new { globalCapacity := 5, evictionUnit := 2 } ⟨0⟩).recordAll
      (sharing ++ [⟨1, .int 3, 0⟩])).Fed (sharing ++ [⟨1, .int 3, 0⟩]) := by
  have htwo : 2 ≤ Arena.maxSites := by decide
  have hroom : 2 * min (max 2 1) (max 32 1) ≤ 5 := by decide
  have hregular : Regular (fun _ => .int) (sharing ++ [⟨1, .int 3, 0⟩]) := by
    unfold Regular
    decide
  have hfed := (fed_iff { globalCapacity := 5, evictionUnit := 2 } ⟨0⟩ (fun _ => .int) htwo).mpr
    hroom sharing ⟨1, .int 3, 0⟩ hregular (by decide)
  exact ⟨htwo, hfed.1⟩

/-- A valid configuration whose eviction unit is larger than its budget. -/
def narrow : RegistryLimits :=
  { bufferSize := 4, globalCapacity := 1, evictionUnit := 2 }

/-- Two events at one site. The budget has room for the site, but not for an
eviction unit, and the trim takes both of them. -/
def crowding : List Offer :=
  [⟨0, .int 1, 0⟩, ⟨0, .int 2, 0⟩]

theorem starved_crowding :
    4 ≤ narrow.bufferSize ∧ 1 ≤ narrow.evictionUnit ∧ 1 ≤ narrow.globalCapacity ∧
    Regular (fun _ => .int) crowding ∧ (sitesOf crowding).card ≤ narrow.globalCapacity ∧
    ¬ ((new narrow ⟨0⟩).recordAll crowding).Fed crowding := by
  refine ⟨by decide, by decide, by decide, by unfold Regular; decide, by decide, ?_⟩
  intro hfed
  obtain ⟨b, hb, hpos⟩ := hfed 0 (by decide)
  have hempty : (((new narrow ⟨0⟩).recordAll crowding).arena.find? 0).map (·.size) = some 0 := rfl
  rw [hb, Option.map_some] at hempty
  exact absurd (Option.some.inj hempty) hpos.ne'

end FlightRecorder.Registry
