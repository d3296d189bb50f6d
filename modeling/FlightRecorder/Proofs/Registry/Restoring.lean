import FlightRecorder.Proofs.Registry.Detaching
import FlightRecorder.Proofs.Registry.Latest
import FlightRecorder.Proofs.SiteBuffer.Absorbing

/-!
# What becomes of a site when buffers are put back

Putting buffers back is a walk over the sites that were recorded meanwhile, with the
budget enforced in the end. No site has anything to do with another on that walk, so
what it does can be told site by site: a site that was not recorded meanwhile gets
back the buffer it had, and one that was gets it back with the events in between
appended to it. This file proves that, and the means to say what follows for all
buffers at once.

* `FlightRecorder.Arena.Every`, `FlightRecorder.Trimmable` – a property of every
  buffer and of its site, and those that trimming keeps, with what an operation has
  to do to keep them (`FlightRecorder.Registry.every_record`);
* `FlightRecorder.Arena.events` – the events of a site;
* `FlightRecorder.Arena.Orderly` – the invariant of arenas whose buffers can be put
  back, kept along a run (`FlightRecorder.Registry.Session.Orderly.run`);
* `FlightRecorder.Registry.rejoined` – the buffer that a site comes by;
* `FlightRecorder.Registry.find?_rejoin`, `FlightRecorder.Registry.every_restore` –
  **putting back, site by site**.
-/

namespace FlightRecorder

/-! ### Properties of every buffer -/

/-- A property of every buffer of an arena, and of its site. -/
def Arena.Every (Q : Nat → SiteBuffer → Prop) (a : Arena) : Prop :=
  ∀ q ∈ a.buffers, Q q.1 q.2

/-- **Properties that trimming keeps.** -/
structure Trimmable (Q : Nat → SiteBuffer → Prop) : Prop where
  dropOldest : ∀ {site b} (n : Nat), b.WellFormed → Q site b → Q site (b.dropOldest n)
  ensureAtMost : ∀ {site b} (bound : Nat), b.WellFormed → Q site b → Q site (b.ensureAtMost bound)

namespace Arena

variable {Q : Nat → SiteBuffer → Prop} {a : Arena} {p : Retention} {site : Nat} {b : SiteBuffer}
  {e : Event}

theorem every_empty (Q : Nat → SiteBuffer → Prop) : Arena.Every Q {} :=
  fun _ hq => absurd hq List.not_mem_nil

theorem Every.find? (h : a.Every Q) (ha : a.Sound) (hb : a.find? site = some b) : Q site b :=
  h (site, b) (ha.find?_eq_some_iff.mp hb)

theorem every_of_find? (ha : a.Sound) (h : ∀ site b, a.find? site = some b → Q site b) :
    a.Every Q :=
  fun q hq => h q.1 q.2 (ha.find?_eq_some_iff.mpr hq)

theorem Every.place (h : a.Every Q) (hb : Q site b) (retained : Nat) :
    Arena.Every Q { buffers := place site b a.buffers, retained } := by
  intro q hq
  rcases eq_or_mem_of_mem_place hq with rfl | hq
  · exact hb
  · exact h q hq

/-- The events of a site, oldest first; a site without a buffer has none. -/
def events (a : Arena) (site : Nat) : List Event :=
  ((a.find? site).map (·.events)).getD []

theorem events_of_some (h : a.find? site = some b) : a.events site = b.events := by
  rw [events, h, Option.map_some, Option.getD_some]

theorem events_of_none (h : a.find? site = none) : a.events site = [] := by
  rw [events, h, Option.map_none, Option.getD_none]

/-- **Orderly arenas**: every buffer is faithful, and at a site that an arena can
have. -/
def Orderly (p : Retention) (a : Arena) : Prop :=
  a.Every fun site b => site < maxSites ∧ b.Faithful p

/-- Arenas of weak buffers keep nothing alive. -/
theorem Orderly.held_eq_nil (h : a.Orderly .weak) : a.held = [] := by
  rw [held, List.flatMap_eq_nil_iff]
  intro q hq
  exact (h q hq).2.held_eq_nil

/-- Events of orderly arenas are stored under the policy of the arena. -/
theorem Orderly.exists_storedAs (h : a.Orderly p) (ha : a.Sound)
    (he : e ∈ a.events site) : ∃ kind, e.StoredAs p kind := by
  cases hfind : a.find? site with
  | none =>
    rw [events_of_none hfind] at he
    exact absurd he List.not_mem_nil
  | some b =>
    rw [events_of_some hfind] at he
    obtain ⟨-, hfaithful⟩ := h.find? ha hfind
    exact ⟨b.kind, hfaithful.storedAs he⟩

end Arena

theorem trimmable_orderly (p : Retention) :
    Trimmable fun site b => site < Arena.maxSites ∧ b.Faithful p where
  dropOldest n _ h := ⟨h.1, h.2.dropOldest n⟩
  ensureAtMost bound _ h := ⟨h.1, h.2.ensureAtMost bound⟩

/-- What holds of a list of events and of its ends survives trimming. -/
theorem trimmable_of_suffix {P : Nat → List Event → Prop}
    (h : ∀ {site l l'}, l' <:+ l → P site l → P site l') :
    Trimmable fun site b => P site b.events where
  dropOldest n hb hP := by
    rw [SiteBuffer.events_dropOldest hb]
    exact h (List.drop_suffix n _) hP
  ensureAtMost bound hb hP := by
    rw [SiteBuffer.events_ensureAtMost hb]
    exact h (List.drop_suffix _ _) hP

namespace Registry

/-! ### What the operations do to every buffer -/

section Every

variable {Q : Nat → SiteBuffer → Prop} {r r' : Registry} {site : Nat} {kind : SiteKind}
  {b : SiteBuffer}

theorem every_degrade (h : r.arena.Every Q) (cause : Failure) : (r.degrade cause).arena.Every Q := by
  rw [degrade]
  split_ifs
  · exact h
  · exact Arena.every_empty Q

theorem every_ready (h : r.arena.Every Q) (hready : Ready r site kind r' b)
    (hnew : site < Arena.maxSites → Q site (.new kind r.ceiling r.retention)) :
    r'.arena.Every Q := by
  cases hready with
  | found => exact h
  | created _ hsite => exact h.place (hnew hsite) _

theorem every_getOrCreate (h : r.arena.Every Q)
    (hnew : site < Arena.maxSites → Q site (.new kind r.ceiling r.retention)) :
    (r.getOrCreate site kind).1.arena.Every Q :=
  getOrCreate_ind (P := fun r => r.arena.Every Q) h (every_degrade h)
    fun _ _ _ hready => every_ready h hready hnew

theorem every_enforceBudget (h : r.arena.Every Q) (hr : r.Sound) (hQ : Trimmable Q) :
    r.enforceBudget.arena.Every Q := by
  rcases enforceBudget_cases r with heq | ⟨-, hmoves⟩
  · rw [heq]
    exact h
  · have hledger : r.ledger.arena.Sound := hr.arena
    exact hmoves.forall_mem hledger (fun _ _ n hb _ => hQ.dropOldest n hb) h

/-- **Recording**: what held of every buffer, and holds of a new buffer of the site,
is followed at the other sites by what it implies there, and at the site by what
holds of a buffer after the event, or follows if the event is not stored. -/
theorem every_record {Q' : Nat → SiteBuffer → Prop} {value : Value} {thread : UInt32}
    (h : r.arena.Every Q) (hr : r.Sound) (hQ : Trimmable Q) (hQ' : Trimmable Q')
    (hother : ∀ s b, s ≠ site → Q s b → Q' s b)
    (hkept : r.accepts site value = false → ∀ b, Q site b → Q' site b)
    (hnew : site < Arena.maxSites → Q site (.new (.of value.kind) r.ceiling r.retention))
    (hpush : r.accepts site value = true → ∀ b, b.WellFormed → Q site b → value.kind = b.kind →
      Q' site (b.push ⟨value, r.clock.next, thread⟩)) :
    (r.record site value thread).arena.Every Q' := by
  have hall (hno : r.accepts site value = false) {a : Arena} (ha : a.Every Q) : a.Every Q' := by
    intro q hq
    by_cases hs : q.1 = site
    · exact hs ▸ hkept hno q.2 (hs ▸ ha q hq)
    · exact hother _ _ hs (ha q hq)
  have hout := outcome_record r site value thread
  generalize r.record site value thread = r'' at hout ⊢
  cases hout with
  | unchanged hstopped => exact hall (accepts_of_unchanged hstopped) h
  | beyond _ _ hfind hsite => exact every_degrade (hall (accepts_of_beyond hfind hsite) h) _
  | @stored r' b hclosed hdeg hready hkind =>
    have hr' := hr.ready hready
    have hb := hr'.arena.wellFormed_of_find? hready.find?
    have hevery := every_ready h hready hnew
    have htrimmed := hQ.ensureAtMost r'.ceiling hb (hevery.find? hr'.arena hready.find?)
    have hyes : r.accepts site value = true := by
      rw [accepts_of_ready hclosed hdeg hready, decide_eq_true hkind]
    refine every_enforceBudget (fun q hq => ?_) (hr'.stored hready.find? _) hQ'
    rcases (Arena.mem_place_iff hr'.arena.ordered).mp hq with rfl | ⟨hq, hs⟩
    · exact hpush hyes _ (hb.ensureAtMost _) htrimmed hkind
    · exact hother _ _ hs (hevery q hq)
  | @refused r' b hclosed hdeg hready hkind =>
    have hr' := hr.ready hready
    have hb := hr'.arena.wellFormed_of_find? hready.find?
    have hno : r.accepts site value = false := by
      rw [accepts_of_ready hclosed hdeg hready, decide_eq_false hkind]
    have hevery := hall hno (every_ready h hready hnew)
    exact hevery.place
      (hQ'.ensureAtMost r'.ceiling hb (hevery.find? hr'.arena hready.find?)) _

/-- **Recording keeps an arena orderly.** -/
theorem orderly_record (h : r.arena.Orderly r.retention) (hr : r.Sound) (site : Nat)
    (value : Value) (thread : UInt32) :
    (r.record site value thread).arena.Orderly r.retention :=
  every_record h hr (trimmable_orderly _) (trimmable_orderly _) (fun _ _ _ => id) (fun _ _ => id)
    (fun hsite => ⟨hsite, SiteBuffer.faithful_new _ _ _⟩)
    fun _ _ _ hb hkind => ⟨hb.1, hb.2.push hkind⟩

theorem orderly_getOrCreate (h : r.arena.Orderly r.retention) (site : Nat) (kind : SiteKind) :
    (r.getOrCreate site kind).1.arena.Orderly r.retention :=
  every_getOrCreate h fun hsite => ⟨hsite, SiteBuffer.faithful_new _ _ _⟩

end Every

/-! ### Merging one site -/

/-- Registries that differ in their buffers and in what was reported only. -/
def Alike (r r' : Registry) : Prop :=
  r' = { r with arena := r'.arena, diagnostics := r'.diagnostics }

section Merge

variable {r r' r'' : Registry} {site s : Nat} {kind : SiteKind} {b : SiteBuffer}
  {c : Heap.Census} {p : Retention} {q : Nat × SiteBuffer} {interim : List (Nat × SiteBuffer)}

theorem Alike.refl (r : Registry) : Alike r r := rfl

theorem Alike.trans (h : Alike r r') (h' : Alike r' r'') : Alike r r'' := by
  rw [Alike] at h h' ⊢
  rw [h', h]

theorem Ready.alike (h : Ready r site kind r' b) : Alike r r' := by
  cases h <;> rfl

/-- The buffer at hand, told by the registry before. -/
theorem Ready.eq_getD (h : Ready r site kind r' b) :
    b = (r.arena.find? site).getD (.new kind r.ceiling r.retention) := by
  cases h with
  | found hfind => rw [hfind, Option.getD_some]
  | created hfind => rw [hfind, Option.getD_none]

theorem Ready.find?_of_ne (h : Ready r site kind r' b) (hne : s ≠ site) :
    r'.arena.find? s = r.arena.find? s := by
  cases h with
  | found => rfl
  | created => rw [Arena.put, Arena.find?, Arena.lookup_place, if_neg hne, Arena.find?]

/-- **Merging the events of a buffer**: the buffer of the site, found or created,
takes them. -/
theorem merge_eq (hdeg : r.degraded = false) (hsite : q.1 < Arena.maxSites)
    (hq : q.2.Faithful p) :
    ∃ r' target d, Ready r q.1 (.of q.2.kind) r' target ∧ r.merge c q = { r' with
      arena :=
        { buffers := Arena.place q.1 (target.absorb c q.2) r'.arena.buffers
          retained := r'.arena.retained + ((target.absorb c q.2).size - target.size) }
      diagnostics := d } := by
  obtain ⟨r', target, hget, hready⟩ := ready_of_getOrCreate (.of q.2.kind) hdeg fun _ => hsite
  refine ⟨r', target, (r.merge c q).diagnostics, hready, ?_⟩
  rw [merge, hget]
  simp only [SiteBuffer.append_records hq]

theorem alike_merge (hdeg : r.degraded = false) (hsite : q.1 < Arena.maxSites)
    (hq : q.2.Faithful p) : Alike r (r.merge c q) := by
  obtain ⟨r', target, d, hready, hmerge⟩ := merge_eq (c := c) hdeg hsite hq
  rw [hmerge]
  exact hready.alike.trans rfl

theorem find?_merge (hdeg : r.degraded = false) (hsite : q.1 < Arena.maxSites)
    (hq : q.2.Faithful p) (s : Nat) :
    (r.merge c q).arena.find? s =
      if s = q.1 then
        some (((r.arena.find? s).getD (.new (.of q.2.kind) r.ceiling r.retention)).absorb c q.2)
      else r.arena.find? s := by
  obtain ⟨r', target, d, hready, hmerge⟩ := merge_eq (c := c) hdeg hsite hq
  rw [hmerge, Arena.find?, Arena.lookup_place]
  split_ifs with hs
  · rw [hs, ← hready.eq_getD]
  · exact hready.find?_of_ne hs

/-! ### Merging all sites -/

theorem alike_foldl_merge (hdeg : r.degraded = false)
    (hall : ∀ q ∈ interim, q.1 < Arena.maxSites ∧ q.2.Faithful p) :
    Alike r (interim.foldl (merge c) r) := by
  induction interim generalizing r with
  | nil => exact .refl r
  | cons q rest ih =>
    obtain ⟨⟨hsite, hq⟩, hrest⟩ := List.forall_mem_cons.mp hall
    have halike := alike_merge (c := c) hdeg hsite hq
    have hdeg' : (r.merge c q).degraded = false := by
      rw [halike]
      exact hdeg
    exact halike.trans (ih hdeg' hrest)

/-- **Merging all sites**, by induction on them: they are different sites, so each of
them takes the events of one buffer. -/
theorem find?_foldl_merge (hdeg : r.degraded = false) (hordered : Arena.Ordered interim)
    (hall : ∀ q ∈ interim, q.1 < Arena.maxSites ∧ q.2.Faithful p) (s : Nat) :
    (interim.foldl (merge c) r).arena.find? s =
      match interim.lookup s with
      | none => r.arena.find? s
      | some b =>
        some (((r.arena.find? s).getD (.new (.of b.kind) r.ceiling r.retention)).absorb c b) := by
  induction interim generalizing r with
  | nil => rfl
  | cons q rest ih =>
    obtain ⟨hlt, hrest⟩ := List.pairwise_cons.mp hordered
    obtain ⟨⟨hsite, hq⟩, hall'⟩ := List.forall_mem_cons.mp hall
    have halike := alike_merge (c := c) hdeg hsite hq
    have hfind := find?_merge (c := c) hdeg hsite hq s
    rw [List.foldl_cons]
    generalize r.merge c q = r' at halike hfind ⊢
    have hdeg' : r'.degraded = false := by
      rw [halike]
      exact hdeg
    have hnext := ih hdeg' hrest hall'
    rcases eq_or_ne s q.1 with rfl | hne
    · -- the sites that follow are above, so they leave the buffer of this one alone
      have hnone : rest.lookup q.1 = none := by
        rw [List.lookup_eq_none_iff]
        intro x hx
        simpa using (hlt x hx).ne
      rw [hnone] at hnext
      rw [hnext, hfind, if_pos rfl, List.lookup_cons_self]
    · rw [if_neg hne] at hfind
      have hceiling : r'.ceiling = r.ceiling := by rw [halike]
      have hretention : r'.retention = r.retention := by rw [halike]
      rw [hnext, Arena.lookup_cons_of_ne hne, hfind, hceiling, hretention]

end Merge

/-! ### Putting back -/

/-- A registry with buffers put back and the events in between appended to them,
before the budget is looked at. -/
def rejoin (c : Heap.Census) (r : Registry) (detached : Arena) : Registry :=
  r.arena.buffers.foldl (merge c) { r with arena := detached }

/-- The buffer of a site that takes the events in between: the one put back, or a new
one. -/
def target (r : Registry) (detached : Arena) (site : Nat) (b : SiteBuffer) : SiteBuffer :=
  (detached.find? site).getD (.new (.of b.kind) r.ceiling r.retention)

/-- **The buffer that a site comes by**, before the budget is looked at. -/
def rejoined (c : Heap.Census) (r : Registry) (detached : Arena) (site : Nat) :
    Option SiteBuffer :=
  match r.arena.find? site with
  | none => detached.find? site
  | some b => some ((r.target detached site b).absorb c b)

section Restore

variable {Q : Nat → SiteBuffer → Prop} {r : Registry} {detached : Arena} {site : Nat}
  {b x : SiteBuffer} {c : Heap.Census} {p : Retention}

theorem restore_eq (c : Heap.Census) (hdeg : r.degraded = false) (detached : Arena) :
    r.restore c detached = (r.rejoin c detached).enforceBudget := by
  rw [restore, if_neg (Bool.eq_false_iff.mp hdeg)]
  rfl

theorem restore_of_degraded (c : Heap.Census) (hdeg : r.degraded = true) (detached : Arena) :
    r.restore c detached = r := by
  rw [restore, if_pos hdeg]

theorem rejoined_of_none (c : Heap.Census) (hfind : r.arena.find? site = none)
    (detached : Arena) : r.rejoined c detached site = detached.find? site := by
  rw [rejoined, hfind]

theorem rejoined_of_some (c : Heap.Census) (hfind : r.arena.find? site = some b)
    (detached : Arena) :
    r.rejoined c detached site = some ((r.target detached site b).absorb c b) := by
  rw [rejoined, hfind]

/-- A site comes by no buffer if it has none and none is put back. -/
theorem rejoined_eq_none_iff : r.rejoined c detached site = none ↔
    detached.find? site = none ∧ r.arena.find? site = none := by
  rw [rejoined]
  cases hfind : r.arena.find? site <;> simp

/-- A site comes by the buffer put back, or by the target of its events in
between. -/
theorem rejoined_cases (h : r.rejoined c detached site = some x) :
    (r.arena.find? site = none ∧ detached.find? site = some x) ∨
    ∃ b, r.arena.find? site = some b ∧ x = (r.target detached site b).absorb c b := by
  cases hfind : r.arena.find? site with
  | none =>
    rw [rejoined_of_none c hfind] at h
    exact Or.inl ⟨rfl, h⟩
  | some b =>
    rw [rejoined_of_some c hfind] at h
    exact Or.inr ⟨b, rfl, (Option.some.inj h).symm⟩

/-- What holds of the buffers put back and of a new one holds of the target. -/
theorem every_target (h : detached.Every Q) (hd : detached.Sound)
    (hnew : Q site (.new (.of b.kind) r.ceiling r.retention)) :
    Q site (r.target detached site b) := by
  rw [target]
  cases hfind : detached.find? site with
  | none => exact hnew
  | some t => exact h.find? hd hfind

theorem wellFormed_target (hd : detached.Sound) (site : Nat) (b : SiteBuffer) :
    (r.target detached site b).WellFormed :=
  every_target (Q := fun _ t => t.WellFormed) hd.wellFormed hd (SiteBuffer.wellFormed_new _ _ _)

/-- A new target has no events, like the site. -/
theorem events_target (r : Registry) (detached : Arena) (site : Nat) (b : SiteBuffer) :
    (r.target detached site b).events = detached.events site := by
  rw [target, Arena.events]
  cases detached.find? site with
  | none => exact Ring.toList_new _ _
  | some t => rfl

/-- The target of orderly events is at their site, and takes them. -/
theorem orderly_target (hr : r.Sound) (hd : detached.Sound)
    (horderly : r.arena.Orderly r.retention) (hdetached : detached.Orderly r.retention)
    (hfind : r.arena.find? site = some b) :
    site < Arena.maxSites ∧ (r.target detached site b).Faithful r.retention := by
  obtain ⟨hsite, -⟩ := horderly.find? hr.arena hfind
  exact every_target hdetached hd ⟨hsite, SiteBuffer.faithful_new _ _ _⟩

theorem alike_rejoin (hdeg : r.degraded = false) (horderly : r.arena.Orderly p) :
    Alike r (r.rejoin c detached) :=
  alike_foldl_merge (r := { r with arena := detached }) hdeg horderly

theorem sound_rejoin (hr : r.Sound) (hd : detached.Sound) : (r.rejoin c detached).Sound :=
  Sound.foldl_merge (r := { r with arena := detached }) ⟨hd, hr.ceiling_pos⟩ c r.arena.buffers

/-- **Putting back, site by site.** -/
theorem find?_rejoin (hdeg : r.degraded = false) (hr : r.Sound) (horderly : r.arena.Orderly p)
    (detached : Arena) (site : Nat) :
    (r.rejoin c detached).arena.find? site = r.rejoined c detached site :=
  find?_foldl_merge (r := { r with arena := detached }) hdeg hr.arena.ordered horderly site

/-- **What holds of every site that comes by a buffer**, and survives trimming, holds
after buffers were put back. -/
theorem every_restore (hdeg : r.degraded = false) (hr : r.Sound) (hd : detached.Sound)
    (horderly : r.arena.Orderly p) (hQ : Trimmable Q)
    (h : ∀ site x, r.rejoined c detached site = some x → Q site x) :
    (r.restore c detached).arena.Every Q := by
  have hsound : (r.rejoin c detached).Sound := sound_rejoin hr hd
  rw [restore_eq c hdeg]
  refine every_enforceBudget (Arena.every_of_find? hsound.arena fun site x hx => h site x ?_)
    hsound hQ
  rw [← hx, find?_rejoin hdeg hr horderly]

/-- Arenas put back are orderly again. -/
theorem orderly_restore (horderly : r.arena.Orderly r.retention) (hr : r.Sound)
    (hdetached : detached.Orderly r.retention) (hd : detached.Sound) (c : Heap.Census) :
    (r.restore c detached).arena.Orderly r.retention := by
  rcases Bool.eq_false_or_eq_true r.degraded with hdeg | hdeg
  · rw [restore_of_degraded c hdeg]
    exact horderly
  · refine every_restore hdeg hr hd horderly (trimmable_orderly _) fun site x hx => ?_
    rcases rejoined_cases hx with ⟨-, hfind⟩ | ⟨b, hfind, rfl⟩
    · exact hdetached.find? hd hfind
    · obtain ⟨-, hb⟩ := horderly.find? hr.arena hfind
      obtain ⟨hsite, htarget⟩ := orderly_target hr hd horderly hdetached hfind
      exact ⟨hsite, htarget.absorb c hb⟩

/-- Putting back leaves the clock alone, and neither closes nor degrades. -/
theorem restore_frame (horderly : r.arena.Orderly p) (c : Heap.Census) (detached : Arena) :
    (r.restore c detached).clock = r.clock ∧ (r.restore c detached).closed = r.closed ∧
      (r.restore c detached).degraded = r.degraded := by
  rcases Bool.eq_false_or_eq_true r.degraded with hdeg | hdeg
  · rw [restore_of_degraded c hdeg]
    exact ⟨rfl, rfl, rfl⟩
  · have halike : Alike r (r.rejoin c detached) := alike_rejoin hdeg horderly
    rw [restore_eq c hdeg]
    refine ⟨?_, ?_, ?_⟩
    · exact (congrArg Registry.clock halike :)
    · exact (congrArg Registry.closed halike :)
    · exact (congrArg Registry.degraded halike :)

theorem Drained.restore (h : r.Drained) (horderly : r.arena.Orderly p) (c : Heap.Census)
    (detached : Arena) : (r.restore c detached).Drained := by
  intro hdeg
  rw [(restore_frame horderly c detached).2.2] at hdeg
  rw [restore_of_degraded c hdeg]
  exact h hdeg

end Restore

/-! ### Sessions -/

namespace Session

variable {s : Session} {name : String} {detached : Arena}

/-- **Orderly sessions**: the buffers of the registry and those taken out of it are
orderly. -/
structure Orderly (s : Session) : Prop where
  registry : s.registry.arena.Orderly s.registry.retention
  parked : ∀ p ∈ s.parked, p.2.Orderly s.registry.retention

theorem orderly_start (heap : Heap) (limits : RegistryLimits) (clock : Clock) :
    (start heap limits clock).Orderly :=
  ⟨Arena.every_empty _, fun _ hp => absurd hp List.not_mem_nil⟩

/-- An arena that waits under a name is one of those taken out. -/
theorem mem_of_lookup_parked {parked : List (String × Arena)} {name : String} {arena : Arena}
    (h : parked.lookup name = some arena) : (name, arena) ∈ parked := by
  obtain ⟨before, after, heq, -⟩ := List.lookup_eq_some_iff.mp h
  rw [heq]
  exact List.mem_append_right _ List.mem_cons_self

theorem Orderly.step (h : s.Orderly) (hs : s.Balanced) (a : Action) : (s.step a).Orderly := by
  have hretention : (s.step a).registry.retention = s.registry.retention :=
    retention_of_rules (rules_step s a)
  suffices hstep : (s.step a).registry.arena.Orderly s.registry.retention ∧
      ∀ p ∈ (s.step a).parked, p.2.Orderly s.registry.retention by
    rw [← hretention] at hstep
    exact ⟨hstep.1, hstep.2⟩
  cases a with
  | record site value thread => exact ⟨orderly_record h.registry hs.registry _ _ _, h.parked⟩
  | getOrCreate site kind => exact ⟨orderly_getOrCreate h.registry _ _, h.parked⟩
  | detach name =>
    refine ⟨Arena.every_empty _, fun p hp => ?_⟩
    rcases List.mem_cons.mp hp with rfl | hp
    · exact h.registry
    · exact h.parked p (List.mem_of_mem_filter hp)
  | restore name =>
    rw [Session.step]
    split
    · exact ⟨h.registry, h.parked⟩
    · rename_i arena hlookup
      have hmem := mem_of_lookup_parked hlookup
      exact ⟨orderly_restore h.registry hs.registry (h.parked _ hmem) (hs.parked _ hmem) _,
        fun p hp => h.parked p (List.mem_of_mem_filter hp)⟩
  | close | create | release => exact ⟨h.registry, h.parked⟩

theorem Orderly.run (h : s.Orderly) (hs : s.Balanced) (actions : List Action) :
    (s.run actions).Orderly := by
  induction actions generalizing s with
  | nil => exact h
  | cons a rest ih => exact ih (h.step hs a) (hs.step a)

/-- Degraded registries of sessions have no buffers. -/
theorem drained_run (h : s.registry.Drained) (ho : s.Orderly) (hs : s.Balanced)
    (actions : List Action) : (s.run actions).registry.Drained := by
  induction actions generalizing s with
  | nil => exact h
  | cons a rest ih =>
    refine ih ?_ (ho.step hs a) (hs.step a)
    cases a with
    | record site value thread => exact h.record site value thread
    | getOrCreate site kind => exact h.getOrCreate site kind
    | detach => exact drained_of_empty rfl
    | restore name =>
      rw [Session.step]
      split
      · exact h
      · exact h.restore ho.registry _ _
    | close | create | release => exact h

/-- **Under the weak policy only the program keeps objects alive.** -/
theorem Orderly.census_of_weak (h : s.Orderly) (hweak : s.registry.retention = .weak) :
    s.census = s.heap.census [] := by
  have hregistry := h.registry
  rw [hweak] at hregistry
  have hparked : (s.parked.flatMap fun p => p.2.held) = [] := by
    rw [List.flatMap_eq_nil_iff]
    intro p hp
    have hp' := h.parked p hp
    rw [hweak] at hp'
    exact hp'.held_eq_nil
  rw [census, held, hregistry.held_eq_nil, hparked]
  rfl

theorem step_restore (h : s.parked.lookup name = some detached) :
    s.step (.restore name) = { s with
      registry := s.registry.restore s.census detached
      parked := s.parked.filter (·.1 != name) } := by
  rw [step, h]

/-- Under the weak policy, putting back neither saves an object nor drops one. -/
theorem census_restore (hs : s.Balanced) (ho : s.Orderly)
    (hweak : s.registry.retention = .weak) (name : String) :
    (s.step (.restore name)).census = s.census := by
  have hretention : (s.step (.restore name)).registry.retention = .weak :=
    (retention_of_rules (rules_step s _)).trans hweak
  have hheap : (s.step (.restore name)).heap = s.heap := by
    rw [step]
    split <;> rfl
  rw [ho.census_of_weak hweak, (ho.step hs _).census_of_weak hretention, hheap]

end Session

end Registry

end FlightRecorder
