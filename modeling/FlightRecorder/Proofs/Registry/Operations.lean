import FlightRecorder.Proofs.Budget
import FlightRecorder.Registry

/-!
# What the operations of a registry do

Where memory refuses nothing, recording takes one of four ways: the registry is
stopped or the call breaks off, and nothing happens; the site is beyond all that an
arena can have and the registry degrades; the event is stored, and the budget
enforced; or the buffer refuses the event. This file tells the four apart once and
for all, so that no proof about registries has to open the definitions again, and
proves that every operation keeps a registry sound.

* `FlightRecorder.Registry.Ready` – a registry in which a site has a buffer,
  found or created (`FlightRecorder.Registry.ready_of_getOrCreate`);
* `FlightRecorder.Registry.Outcome` – the four ways of recording
  (`FlightRecorder.Registry.outcome_record`);
* `FlightRecorder.Registry.rules` – what no operation ever changes;
* `FlightRecorder.Registry.Sound` – the invariant: a sound arena and a ceiling of
  at least one.
-/

namespace FlightRecorder.Registry

/-! ### Finding or creating a buffer -/

/-- **A buffer is at hand**: `Ready r site kind r' b` says that `b` is the buffer
of the site in `r'`, which is `r` itself or `r` with that buffer created. -/
inductive Ready (r : Registry) (site : Nat) (kind : SiteKind) : Registry → SiteBuffer → Prop
  /-- The site has a buffer already. -/
  | found {b : SiteBuffer} : r.arena.find? site = some b → Ready r site kind r b
  /-- The site has none; an empty one is created under the present ceiling. -/
  | created : r.arena.find? site = none → site < Arena.maxSites →
      Ready r site kind
        { r with arena := r.arena.put site (.new kind r.ceiling r.retention) }
        (.new kind r.ceiling r.retention)

section GetOrCreate

variable {r r' : Registry} {site : Nat} {kind : SiteKind} {b : SiteBuffer}

theorem getOrCreate_of_degraded (h : r.degraded = true) : r.getOrCreate site kind = (r, none) := by
  rw [getOrCreate, if_pos h]

/-- Only the last word is a site whose slot can be lacking. -/
theorem lacksSlot_of_lt (r : Registry) (hsite : site + 1 < wordSize) :
    r.lacksSlot site = false := by
  simp [lacksSlot, hsite.ne]

/-- It is not among the sites an arena can have. -/
theorem lacksSlot_of_lt_maxSites (r : Registry) (hsite : site < Arena.maxSites) :
    r.lacksSlot site = false := by
  have hmax : Arena.maxSites + 1 < wordSize := by decide
  exact lacksSlot_of_lt r (by omega)

/-- What is asked of ample memory is refused only if there can be no such arena. -/
theorem bufferRefusal?_ample (r : Registry) (site : Nat) (b : SiteBuffer) :
    r.bufferRefusal? site b .ample =
      if r.lacksSlot site = false ∧ Arena.maxSites ≤ site then
        some (.allocation ((site + 1) % wordSize))
      else none := by
  have hbuffer : Memory.ample.buffer = none := rfl
  have hsites : Memory.ample.sites = none := rfl
  rw [bufferRefusal?, slotRefusal?, hbuffer, hsites]
  cases r.lacksSlot site with
  | true => simp
  | false =>
    by_cases hsite : Arena.maxSites ≤ site
    · have hlt : Arena.maxSites < site + 1 := Nat.lt_succ_of_le hsite
      rw [if_neg Bool.false_ne_true, if_pos hlt, if_pos ⟨rfl, hsite⟩, Option.some_or]
    · have hle : ¬Arena.maxSites < site + 1 := fun hlt => hsite (Nat.le_of_lt_succ hlt)
      have hnot : ¬(false = false ∧ Arena.maxSites ≤ site) := fun h => hsite h.2
      rw [if_neg Bool.false_ne_true, if_neg hle, if_neg hnot, Option.map_none, ite_self,
        Option.map_none, Option.none_or]

/-- A registry that is not degraded has a buffer ready for every site that an
arena can have. -/
theorem ready_of_getOrCreate (kind : SiteKind) (h : r.degraded = false)
    (hsite : r.arena.find? site = none → site < Arena.maxSites) :
    ∃ r' b, r.getOrCreate site kind = (r', some b) ∧ Ready r site kind r' b := by
  rw [getOrCreate, if_neg (by simp [h])]
  cases hfind : r.arena.find? site with
  | some b => exact ⟨r, b, rfl, .found hfind⟩
  | none =>
    have hlt := hsite hfind
    simp only [bufferRefusal?_ample, lacksSlot_of_lt_maxSites r hlt, Nat.not_le.mpr hlt, and_false,
      if_false, Bool.false_eq_true]
    exact ⟨_, _, rfl, .created hfind hlt⟩

/-- It degrades if it is asked for a buffer beyond. -/
theorem getOrCreate_of_beyond (h : r.degraded = false) (hfind : r.arena.find? site = none)
    (hsite : Arena.maxSites ≤ site) (hslot : r.lacksSlot site = false) :
    r.getOrCreate site kind = (r.degrade (.allocation ((site + 1) % wordSize)), none) := by
  rw [getOrCreate, if_neg (by simp [h]), hfind]
  simp only [bufferRefusal?_ample, hslot, hsite, and_self, if_true]

theorem breaksOff_ample (r : Registry) (site : Nat) :
    r.breaksOff site = (!r.degraded && r.lacksSlot site) := by
  simp [breaksOff, Memory.ample]

/-- An arena without slots has no buffers. -/
theorem find?_of_lacksSlot (h : r.lacksSlot site = true) : r.arena.find? site = none := by
  simp only [lacksSlot, Bool.and_eq_true, List.isEmpty_iff] at h
  rw [Arena.find?, h.1, List.lookup_nil]

/-- Only sites beyond lack a slot in this way. -/
theorem maxSites_le_of_lacksSlot (h : r.lacksSlot site = true) : Arena.maxSites ≤ site :=
  Nat.le_of_not_lt fun hlt => Bool.false_ne_true ((lacksSlot_of_lt_maxSites r hlt).symm.trans h)

/-- Nothing changes where the slot is lacking. -/
theorem getOrCreate_of_lacksSlot (h : r.lacksSlot site = true) :
    r.getOrCreate site kind = (r, none) := by
  rw [getOrCreate, find?_of_lacksSlot h]
  simp only [bufferRefusal?_ample, h, Bool.true_eq_false, false_and, if_false, if_true, ite_self]

/-- In every case the registry is as before, degraded, or ready. -/
theorem getOrCreate_cases (r : Registry) (site : Nat) (kind : SiteKind) :
    ((r.degraded = true ∨ r.breaksOff site = true) ∧ r.getOrCreate site kind = (r, none)) ∨
    (r.degraded = false ∧ r.arena.find? site = none ∧ Arena.maxSites ≤ site ∧
      r.getOrCreate site kind = (r.degrade (.allocation ((site + 1) % wordSize)), none)) ∨
    ∃ r' b, r.degraded = false ∧ r.getOrCreate site kind = (r', some b) ∧
      Ready r site kind r' b := by
  rcases Bool.eq_false_or_eq_true r.degraded with hdeg | hdeg
  · exact Or.inl ⟨Or.inl hdeg, getOrCreate_of_degraded hdeg⟩
  rcases Bool.eq_false_or_eq_true (r.breaksOff site) with hbreak | hbreak
  · have hslot : r.lacksSlot site = true := by simpa [breaksOff_ample, hdeg] using hbreak
    exact Or.inl ⟨Or.inr hbreak, getOrCreate_of_lacksSlot hslot⟩
  have hslot : r.lacksSlot site = false := by simpa [breaksOff_ample, hdeg] using hbreak
  by_cases hbeyond : r.arena.find? site = none ∧ Arena.maxSites ≤ site
  · exact Or.inr (Or.inl ⟨hdeg, hbeyond.1, hbeyond.2,
      getOrCreate_of_beyond hdeg hbeyond.1 hbeyond.2 hslot⟩)
  · obtain ⟨r', b, hget, hready⟩ := ready_of_getOrCreate kind hdeg
      fun hfind => Nat.lt_of_not_le fun hle => hbeyond ⟨hfind, hle⟩
    exact Or.inr (Or.inr ⟨r', b, hdeg, hget, hready⟩)

/-- **Induction on the cases**: what holds of the registry, and survives degrading
and creating a buffer, holds after it was asked for a buffer. -/
theorem getOrCreate_ind {P : Registry → Prop} (hsame : P r)
    (hdegrade : ∀ cause, P (r.degrade cause))
    (hready : ∀ r' b, r.degraded = false → Ready r site kind r' b → P r') :
    P (r.getOrCreate site kind).1 := by
  rcases getOrCreate_cases r site kind with
    ⟨-, hget⟩ | ⟨-, -, -, hget⟩ | ⟨r', b, hdeg, hget, hr'⟩
  · rw [hget]
    exact hsame
  · rw [hget]
    exact hdegrade _
  · rw [hget]
    exact hready r' b hdeg hr'

theorem Ready.find? (h : Ready r site kind r' b) : r'.arena.find? site = some b := by
  cases h with
  | found hfind => exact hfind
  | created =>
    rw [Arena.put, Arena.find?, Arena.lookup_place, if_pos rfl]

/-- Creating a buffer changes the arena only. -/
theorem Ready.eq_with (h : Ready r site kind r' b) : r' = { r with arena := r'.arena } := by
  cases h <;> rfl

/-- The buffers of the other sites stay as they are. -/
theorem Ready.mem (hr : r.arena.Sound) (h : Ready r site kind r' b) {p : Nat × SiteBuffer}
    (hp : p ∈ r'.arena.buffers) (hne : p.1 ≠ site) : p ∈ r.arena.buffers := by
  cases h with
  | found => exact hp
  | created =>
    rcases (Arena.mem_place_iff hr.ordered).mp hp with rfl | ⟨hp, -⟩
    · exact absurd rfl hne
    · exact hp

end GetOrCreate

/-! ### Storing and refusing -/

/-- The registry after its buffer took an event, before the budget is looked at. -/
def stored (r : Registry) (site : Nat) (b : SiteBuffer) (e : Reading) : Registry :=
  let trimmed := b.ensureAtMost r.ceiling
  { r with
    clock := r.clock.tick
    arena :=
      { buffers := Arena.place site (trimmed.push e) r.arena.buffers
        retained := Ledger.retainedLess r.arena.retained (b.size - trimmed.size) +
          ((trimmed.push e).size - trimmed.size) } }

/-- The registry after its buffer refused an event. -/
def refused (r : Registry) (site : Nat) (b : SiteBuffer) (value : Value) : Registry :=
  let trimmed := b.ensureAtMost r.ceiling
  { r with
    clock := r.clock.tick
    arena :=
      { buffers := Arena.place site trimmed r.arena.buffers
        retained := Ledger.retainedLess r.arena.retained (b.size - trimmed.size) }
    diagnostics := r.diagnostics.report (.kindMismatch b.kind value.kind) }

/-- **The four ways of recording an event.** -/
inductive Outcome (r : Registry) (site : Nat) (value : Value) (thread : UInt32) : Registry → Prop
  /-- The registry is closed or degraded, or the call breaks off. -/
  | unchanged : r.closed = true ∨ r.degraded = true ∨ r.breaksOff site = true →
      Outcome r site value thread r
  /-- There can be no buffer for the site. -/
  | beyond : r.closed = false → r.degraded = false → r.arena.find? site = none →
      Arena.maxSites ≤ site →
      Outcome r site value thread (r.degrade (.allocation ((site + 1) % wordSize)))
  /-- The event is stored, and the budget enforced. -/
  | stored {r' : Registry} {b : SiteBuffer} : r.closed = false → r.degraded = false →
      Ready r site (.of value.kind) r' b → value.kind = b.kind →
      Outcome r site value thread (r'.stored site b ⟨value, r.clock.next, thread⟩).enforceBudget
  /-- The event is refused. -/
  | refused {r' : Registry} {b : SiteBuffer} : r.closed = false → r.degraded = false →
      Ready r site (.of value.kind) r' b → value.kind ≠ b.kind →
      Outcome r site value thread (r'.refused site b value)

theorem store_eq (r : Registry) (site : Nat) (b : SiteBuffer) (value : Value) (thread : UInt32) :
    r.store site b value thread =
      if value.kind = b.kind then (r.stored site b ⟨value, r.clock.next, thread⟩).enforceBudget
      else r.refused site b value := by
  have hadd : (b.ensureAtMost r.ceiling).add? value r.clock.next thread =
      if value.kind = b.kind then
        .ok ((b.ensureAtMost r.ceiling).push ⟨value, r.clock.next, thread⟩)
      else .error (.kindMismatch b.kind value.kind) :=
    SiteBuffer.add?_eq (b.ensureAtMost r.ceiling) ⟨value, r.clock.next, thread⟩
  have hgrowth : Memory.ample.growth = none := rfl
  by_cases hkind : value.kind = b.kind
  · rw [if_pos hkind] at hadd ⊢
    simp only [store, hgrowth, hadd]
    rfl
  · rw [if_neg hkind] at hadd ⊢
    simp only [store, hgrowth, hadd]
    rfl

theorem outcome_record (r : Registry) (site : Nat) (value : Value) (thread : UInt32) :
    Outcome r site value thread (r.record site value thread) := by
  rw [record]
  by_cases hstopped : (r.closed || r.degraded) = true
  · rw [if_pos hstopped]
    exact .unchanged ((by simpa using hstopped : r.closed = true ∨ r.degraded = true).imp_right .inl)
  · rw [if_neg hstopped]
    simp only [Bool.or_eq_true, not_or, Bool.not_eq_true] at hstopped
    obtain ⟨hclosed, hdeg⟩ := hstopped
    rcases getOrCreate_cases r site (.of value.kind) with
      ⟨hsame, hget⟩ | ⟨-, hfind, hsite, hget⟩ | ⟨r', b, -, hget, hready⟩
    · rw [hget]
      exact .unchanged (.inr hsame)
    · rw [hget]
      exact .beyond hclosed hdeg hfind hsite
    · rw [hget]
      simp only [store_eq]
      have hclock : r'.clock = r.clock := by rw [hready.eq_with]
      split_ifs with hkind
      · rw [hclock]
        exact .stored hclosed hdeg hready hkind
      · exact .refused hclosed hdeg hready hkind

theorem degrade_frame (r : Registry) (cause : Failure) :
    (r.degrade cause).clock = r.clock ∧ (r.degrade cause).degraded = true := by
  rw [degrade]
  split_ifs with hdeg
  · exact ⟨rfl, hdeg⟩
  · exact ⟨rfl, rfl⟩

theorem record_of_degraded {r : Registry} (h : r.degraded = true) (site : Nat) (value : Value)
    (thread : UInt32) : r.record site value thread = r := by
  rw [record, if_pos (by simp [h])]

theorem record_of_lacksSlot {r : Registry} {site : Nat} (h : r.lacksSlot site = true)
    (value : Value) (thread : UInt32) : r.record site value thread = r := by
  rw [record, getOrCreate_of_lacksSlot h, ite_self]

theorem record_of_beyond {r : Registry} {site : Nat} (hclosed : r.closed = false)
    (hdeg : r.degraded = false) (hfind : r.arena.find? site = none)
    (hsite : Arena.maxSites ≤ site) (hslot : r.lacksSlot site = false) (value : Value)
    (thread : UInt32) :
    r.record site value thread = r.degrade (.allocation ((site + 1) % wordSize)) := by
  rw [record, if_neg (by simp [hclosed, hdeg]), getOrCreate_of_beyond hdeg hfind hsite hslot]

/-! ### Open and closed registries -/

section Closed

variable {r r' : Registry} {site : Nat} {kind : SiteKind} {b : SiteBuffer}

theorem closed_degrade (r : Registry) (cause : Failure) : (r.degrade cause).closed = r.closed := by
  rw [degrade]
  split_ifs <;> rfl

theorem Ready.closed_eq (h : Ready r site kind r' b) : r'.closed = r.closed := by
  rw [h.eq_with]

/-- Recording neither closes a registry nor opens it. -/
theorem closed_record (r : Registry) (site : Nat) (value : Value) (thread : UInt32) :
    (r.record site value thread).closed = r.closed := by
  have hout := outcome_record r site value thread
  generalize r.record site value thread = r'' at hout ⊢
  cases hout with
  | unchanged => rfl
  | beyond => exact closed_degrade r _
  | stored _ _ hready => exact hready.closed_eq
  | refused _ _ hready => exact hready.closed_eq

theorem closed_getOrCreate (r : Registry) (site : Nat) (kind : SiteKind) :
    (r.getOrCreate site kind).1.closed = r.closed :=
  getOrCreate_ind (P := fun r' => r'.closed = r.closed) rfl (closed_degrade r)
    fun _ _ _ hready => hready.closed_eq

end Closed

/-! ### What no operation changes -/

/-- What governs a registry from its creation on. -/
def rules (r : Registry) : Nat × Retention × BudgetPolicy :=
  (r.globalCapacity, r.retention, r.policy)

theorem globalCapacity_of_rules {r r' : Registry} (h : r.rules = r'.rules) :
    r.globalCapacity = r'.globalCapacity :=
  congrArg (fun rules => rules.1) h

theorem retention_of_rules {r r' : Registry} (h : r.rules = r'.rules) :
    r.retention = r'.retention :=
  congrArg (fun rules => rules.2.1) h

theorem policy_of_rules {r r' : Registry} (h : r.rules = r'.rules) : r.policy = r'.policy :=
  congrArg (fun rules => rules.2.2) h

section Rules

variable {r r' : Registry} {site : Nat} {kind : SiteKind} {b : SiteBuffer}

theorem rules_degrade (r : Registry) (cause : Failure) : (r.degrade cause).rules = r.rules := by
  rw [degrade]
  split_ifs <;> rfl

theorem Ready.rules (h : Ready r site kind r' b) : r'.rules = r.rules := by
  cases h <;> rfl

theorem rules_stored (r : Registry) (site : Nat) (b : SiteBuffer) (e : Reading) :
    (r.stored site b e).rules = r.rules := rfl

theorem rules_refused (r : Registry) (site : Nat) (b : SiteBuffer) (value : Value) :
    (r.refused site b value).rules = r.rules := rfl

theorem rules_enforceBudget (r : Registry) : r.enforceBudget.rules = r.rules := rfl

theorem rules_getOrCreate (r : Registry) (site : Nat) (kind : SiteKind) :
    (r.getOrCreate site kind).1.rules = r.rules := by
  refine getOrCreate_ind (P := fun r' => r'.rules = r.rules) rfl (rules_degrade r) ?_
  intro r' b _ hready
  exact hready.rules

theorem rules_record (r : Registry) (site : Nat) (value : Value) (thread : UInt32) :
    (r.record site value thread).rules = r.rules := by
  have hout := outcome_record r site value thread
  generalize r.record site value thread = r'' at hout ⊢
  cases hout with
  | unchanged => rfl
  | beyond => exact rules_degrade _ _
  | stored _ _ hready =>
    exact (rules_enforceBudget _).trans ((rules_stored _ _ _ _).trans hready.rules)
  | refused _ _ hready => exact (rules_refused _ _ _ _).trans hready.rules

theorem rules_merge (c : Heap.Census) (r : Registry) (interim : Nat × SiteBuffer) :
    (r.merge c interim).rules = r.rules := by
  have hget := rules_getOrCreate r interim.1 (.of interim.2.kind)
  rw [merge]
  split
  · rename_i heq
    rw [heq] at hget
    exact hget
  · rename_i heq
    rw [heq] at hget
    exact hget

theorem rules_foldl_merge (c : Heap.Census) (r : Registry) (interim : List (Nat × SiteBuffer)) :
    (interim.foldl (merge c) r).rules = r.rules := by
  induction interim generalizing r with
  | nil => rfl
  | cons p rest ih => exact (ih _).trans (rules_merge c r p)

theorem rules_restore (c : Heap.Census) (r : Registry) (detached : Arena) :
    (r.restore c detached).rules = r.rules := by
  rw [restore]
  split_ifs
  · rfl
  · exact rules_foldl_merge c { r with arena := detached } r.arena.buffers

end Rules

/-! ### The invariant -/

/-- **Sound registries**: a sound arena, and a ceiling of at least one. -/
structure Sound (r : Registry) : Prop where
  arena : r.arena.Sound
  ceiling_pos : 0 < r.ceiling

section Sound

variable {r r' : Registry} {site : Nat} {kind : SiteKind} {b : SiteBuffer}

theorem sound_new (limits : RegistryLimits) (clock : Clock) : (new limits clock).Sound :=
  ⟨Arena.sound_empty, lt_of_lt_of_le Nat.one_pos (Nat.le_max_right _ _)⟩

theorem Sound.degrade (h : r.Sound) (cause : Failure) : (r.degrade cause).Sound := by
  rw [Registry.degrade]
  split_ifs
  · exact h
  · exact ⟨Arena.sound_empty, h.ceiling_pos⟩

theorem Sound.ready (h : r.Sound) (hready : Ready r site kind r' b) : r'.Sound := by
  cases hready with
  | found => exact h
  | created hfind =>
    exact ⟨h.arena.put_new hfind (SiteBuffer.wellFormed_new _ _ _) rfl, h.ceiling_pos⟩

theorem Sound.getOrCreate (h : r.Sound) (site : Nat) (kind : SiteKind) :
    (r.getOrCreate site kind).1.Sound :=
  getOrCreate_ind h h.degrade fun _ _ _ hready => h.ready hready

/-- Bringing a buffer under the ceiling takes as many events off the number of
retained events as it drops. -/
theorem Sound.retainedLess_ensureAtMost (h : r.Sound) (hb : r.arena.find? site = some b)
    (bound : Nat) :
    Ledger.retainedLess r.arena.retained (b.size - (b.ensureAtMost bound).size) + b.size =
      r.arena.retained + (b.ensureAtMost bound).size := by
  have hle := h.arena.size_le hb
  have hsize : (b.ensureAtMost bound).size ≤ b.size := by
    rw [SiteBuffer.size_ensureAtMost]
    exact Nat.min_le_left _ _
  rw [Ledger.retainedLess, if_pos (by omega)]
  omega

theorem Sound.stored (h : r.Sound) (hb : r.arena.find? site = some b) (e : Reading) :
    (r.stored site b e).Sound := by
  have hwf := (h.arena.wellFormed_of_find? hb).ensureAtMost r.ceiling
  have hless := h.retainedLess_ensureAtMost hb r.ceiling
  have hpush := SiteBuffer.size_push hwf e
  have hlimit := hwf.size_le_limit
  refine ⟨h.arena.replace hb (hwf.push e) ?_, h.ceiling_pos⟩
  omega

theorem Sound.refused (h : r.Sound) (hb : r.arena.find? site = some b) (value : Value) :
    (r.refused site b value).Sound :=
  ⟨h.arena.replace hb ((h.arena.wellFormed_of_find? hb).ensureAtMost r.ceiling)
    (h.retainedLess_ensureAtMost hb r.ceiling), h.ceiling_pos⟩

/-- A stored event adds at most one to the number of retained events. -/
theorem Sound.retained_stored_le (h : r.Sound) (hb : r.arena.find? site = some b) (e : Reading) :
    (r.stored site b e).arena.retained ≤ r.arena.retained + 1 := by
  have hwf := (h.arena.wellFormed_of_find? hb).ensureAtMost r.ceiling
  have hless := h.retainedLess_ensureAtMost hb r.ceiling
  have hpush := SiteBuffer.size_push hwf e
  have hsize := SiteBuffer.size_ensureAtMost b r.ceiling
  simp only [Registry.stored]
  omega

/-- A refused event adds nothing to it. -/
theorem Sound.retained_refused_le (h : r.Sound) (hb : r.arena.find? site = some b)
    (value : Value) : (r.refused site b value).arena.retained ≤ r.arena.retained := by
  have hless := h.retainedLess_ensureAtMost hb r.ceiling
  have hsize := SiteBuffer.size_ensureAtMost b r.ceiling
  simp only [Registry.refused]
  omega

/-- Enforcement leaves a registry alone that keeps the budget. -/
theorem enforceBudget_of_le (h : r.arena.retained ≤ r.globalCapacity) : r.enforceBudget = r := by
  have hledger : r.ledger.enforce r.policy r.globalCapacity = r.ledger :=
    Ledger.enforce_of_le r.policy h
  simp only [Registry.enforceBudget, hledger]
  simp only [ledger, Nat.sub_self, if_true]

/-- **Enforcement** does nothing, or is a sequence of moves. -/
theorem enforceBudget_cases (r : Registry) :
    r.enforceBudget = r ∨ (r.globalCapacity < r.arena.retained ∧
      Ledger.Moves r.policy r.globalCapacity r.ledger.counted r.enforceBudget.ledger) := by
  rcases Nat.lt_or_ge r.globalCapacity r.arena.retained with hover | hkept
  · exact Or.inr ⟨hover, Ledger.moves_enforce r.policy hover⟩
  · exact Or.inl (enforceBudget_of_le hkept)

/-- **The ceiling only falls.** -/
theorem ceiling_enforceBudget_le (r : Registry) : r.enforceBudget.ceiling ≤ r.ceiling := by
  rcases enforceBudget_cases r with heq | ⟨-, hmoves⟩
  · rw [heq]
  · exact hmoves.ceiling_le

theorem Sound.enforceBudget (h : r.Sound) : r.enforceBudget.Sound := by
  have hledger : r.ledger.arena.Sound := h.arena
  rcases enforceBudget_cases r with heq | ⟨-, hmoves⟩
  · rw [heq]
    exact h
  · exact ⟨hmoves.sound hledger, hmoves.ceiling_pos h.ceiling_pos⟩

theorem Sound.record (h : r.Sound) (site : Nat) (value : Value) (thread : UInt32) :
    (r.record site value thread).Sound := by
  have hout := outcome_record r site value thread
  generalize r.record site value thread = r'' at hout ⊢
  cases hout with
  | unchanged => exact h
  | beyond => exact h.degrade _
  | stored _ _ hready => exact ((h.ready hready).stored hready.find? _).enforceBudget
  | refused _ _ hready => exact (h.ready hready).refused hready.find? _

/-- Appending events keeps a buffer well-formed and loses none of its size. -/
theorem append_spec (hb : b.WellFormed) (events : List Reading) :
    (append b events).1.WellFormed ∧ b.size ≤ (append b events).1.size := by
  induction events generalizing b with
  | nil => exact ⟨hb, le_refl _⟩
  | cons e rest ih =>
    rw [append, SiteBuffer.add?_eq]
    split_ifs
    · obtain ⟨hwf, hsize⟩ := ih (hb.push e)
      have hpush := SiteBuffer.size_push hb e
      have hlimit := hb.size_le_limit
      have hle : b.size ≤ (append (b.push e) rest).1.size := by omega
      exact ⟨hwf, hle⟩
    · exact ⟨hb, le_refl _⟩

theorem Sound.merge (h : r.Sound) (c : Heap.Census) (interim : Nat × SiteBuffer) :
    (r.merge c interim).Sound := by
  rw [Registry.merge]
  rcases getOrCreate_cases r interim.1 (.of interim.2.kind) with
    ⟨-, hget⟩ | ⟨-, -, -, hget⟩ | ⟨r', b, -, hget, hready⟩
  · rw [hget]
    exact h
  · rw [hget]
    exact h.degrade _
  · rw [hget]
    have hr' := h.ready hready
    obtain ⟨hwf, hsize⟩ :=
      append_spec (hr'.arena.wellFormed_of_find? hready.find?) (interim.2.records c)
    refine ⟨hr'.arena.replace hready.find? hwf ?_, hr'.ceiling_pos⟩
    omega

theorem Sound.foldl_merge (h : r.Sound) (c : Heap.Census) (interim : List (Nat × SiteBuffer)) :
    (interim.foldl (Registry.merge c) r).Sound := by
  induction interim generalizing r with
  | nil => exact h
  | cons p rest ih => exact ih (h.merge c p)

theorem Sound.restore (h : r.Sound) {detached : Arena} (hd : detached.Sound) (c : Heap.Census) :
    (r.restore c detached).Sound := by
  rw [Registry.restore]
  split_ifs
  · exact h
  · have hstart : Sound { r with arena := detached } := ⟨hd, h.ceiling_pos⟩
    exact (hstart.foldl_merge c r.arena.buffers).enforceBudget

end Sound

end FlightRecorder.Registry
