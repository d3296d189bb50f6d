import FlightRecorder.Proofs.Registry.Windows

/-!
# The kinds of buffers

The buffer of a site takes its kind from the first request at the site, be it an event
or a call that asks for the buffer, and keeps it for as long as it lives, in the
registry and outside. Whoever records a value of another kind there is refused. This
file says what a refusal does, which is not nothing, and that there are no other ways
for a kind to come about: requests are kept account of beside the run, arena by arena,
from the actions alone.

* `FlightRecorder.Registry.Contained` – all the effects of a refused event
  (`FlightRecorder.Registry.Sound.contained`);
* `FlightRecorder.Arena.Founded` – the kinds of an arena are those of the first requests
  at its sites, with what the operations have to say to that
  (`FlightRecorder.Registry.founded_record`, `FlightRecorder.Registry.founded_restore`);
* `FlightRecorder.Registry.Session.Requests` – the requests that arenas have seen;
* `FlightRecorder.Registry.Session.Founded` – the invariant of sessions, kept by every
  step (`FlightRecorder.Registry.Session.Founded.step`);
* `FlightRecorder.Registry.Session.kinds_of_run` – **kinds along a run**.
-/

namespace FlightRecorder

/-! ### The kinds of an arena -/

namespace Arena

variable {a : Arena} {site : Nat} {b old : SiteBuffer}

/-- The kind of the buffer of a site. -/
def kindAt (a : Arena) (site : Nat) : Option Kind :=
  (a.find? site).map (·.kind)

/-- **The kinds of an arena are founded on a log of requests**: a site that an arena can
have has a buffer if there was a request at it, of the kind of the first. -/
def Founded (a : Arena) (log : List (Nat × Kind)) : Prop :=
  ∀ site, site < maxSites → a.kindAt site = log.lookup site

theorem founded_empty : Founded {} [] :=
  fun _ _ => rfl

/-- A request counts at a site that had none. -/
theorem lookup_concat (log : List (Nat × Kind)) (site : Nat) (kind : Kind) (s : Nat) :
    (log ++ [(site, kind)]).lookup s =
      (log.lookup s).or (if s = site then some kind else none) := by
  rw [List.lookup_append]
  split_ifs with hs
  · rw [hs, List.lookup_cons_self]
  · rw [List.lookup_cons, beq_eq_false_iff_ne.mpr hs, List.lookup_nil]

/-- A request beyond founds nothing. -/
theorem Founded.concat_of_beyond {log : List (Nat × Kind)} (h : a.Founded log)
    (hsite : maxSites ≤ site) (kind : Kind) : a.Founded (log ++ [(site, kind)]) := by
  intro s hs
  rw [lookup_concat, if_neg (by omega), Option.or_none]
  exact h s hs

/-- A buffer put in the place of another of its kind changes no kind. -/
theorem kindAt_place (hold : a.find? site = some old) (hkind : b.kind = old.kind)
    (retained s : Nat) :
    kindAt { buffers := place site b a.buffers, retained } s = a.kindAt s := by
  rw [kindAt, find?, lookup_place]
  split_ifs with hs
  · rw [hs, kindAt, hold, Option.map_some, Option.map_some, hkind]
  · rfl

end Arena

namespace Registry

section Operations

variable {r r' : Registry} {site : Nat} {kind : SiteKind} {b : SiteBuffer} {value : Value}
  {log earlier : List (Nat × Kind)} {detached : Arena} {p : Retention}

/-! ### Refused events -/

/-- **The effects of a refused event**, of which there are no others: the failure that
names the two kinds is reported, a sequence number is spent, and the buffer is brought
under the ceiling, with its newest events. -/
structure Contained (r : Registry) (site : Nat) (b : SiteBuffer) (value : Value)
    (r' : Registry) : Prop where
  diagnostics : r'.diagnostics = r.diagnostics.report (.kindMismatch b.kind value.kind)
  clock : r'.clock = r.clock.tick
  ceiling : r'.ceiling = r.ceiling
  stats : r'.stats = r.stats
  rules : r'.rules = r.rules
  running : r'.closed = r.closed ∧ r'.degraded = r.degraded
  others : ∀ s, s ≠ site → r'.arena.find? s = r.arena.find? s
  buffer : ∃ b', r'.arena.find? site = some b' ∧ b'.kind = b.kind ∧ b'.retention = b.retention ∧
    b'.events = b.events.rtake (min b.size r.ceiling)
  retained : r'.totalRetained = r'.arena.totalSize

/-- Recording a value of another kind than the buffer's is refused. -/
theorem record_of_ne_kind (hclosed : r.closed = false) (hdeg : r.degraded = false)
    (hfind : r.arena.find? site = some b) (hkind : value.kind ≠ b.kind) (thread : UInt32) :
    r.record site value thread = r.refused site b value := by
  have hget : r.getOrCreate site (.of value.kind) = (r, some b) := by
    rw [getOrCreate, if_neg (Bool.eq_false_iff.mp hdeg), hfind]
  rw [record, if_neg (by simp [hclosed, hdeg]), hget]
  exact (store_eq r site b value thread).trans (if_neg hkind)

/-- **A refusal is contained.** -/
theorem Sound.contained (h : r.Sound) (hclosed : r.closed = false) (hdeg : r.degraded = false)
    (hfind : r.arena.find? site = some b) (hkind : value.kind ≠ b.kind) (thread : UInt32) :
    Contained r site b value (r.record site value thread) := by
  rw [record_of_ne_kind hclosed hdeg hfind hkind]
  have hplaced := Arena.lookup_place site (b.ensureAtMost r.ceiling) r.arena.buffers
  have hevents : (b.ensureAtMost r.ceiling).events =
      b.events.rtake (min b.size r.ceiling) := by
    have hpos := h.ceiling_pos
    rw [SiteBuffer.events_ensureAtMost (h.arena.wellFormed_of_find? hfind), List.rtake,
      SiteBuffer.length_events]
    congr 1
    omega
  exact
    { diagnostics := rfl
      clock := rfl
      ceiling := rfl
      stats := rfl
      rules := rfl
      running := ⟨rfl, rfl⟩
      others := fun s hs => (hplaced s).trans (if_neg hs)
      buffer := ⟨_, (hplaced site).trans (if_pos rfl), rfl, rfl, hevents⟩
      retained := (h.refused hfind value).arena.retained }

/-! ### What the operations do to kinds -/

theorem founded_ready (h : r.arena.Founded log) (hready : Ready r site kind r' b) :
    r'.arena.Founded (log ++ [(site, kind.stored)]) := by
  intro s hbound
  rw [Arena.lookup_concat, ← h s hbound]
  by_cases hs : s = site
  · -- a buffer that was found had its request before
    rw [if_pos hs, hs, Arena.kindAt, Arena.kindAt, hready.find?]
    cases hready with
    | found hfind => rw [hfind]; rfl
    | created hfind => rw [hfind]; rfl
  · rw [if_neg hs, Option.or_none, Arena.kindAt, hready.find?_of_ne hs, Arena.kindAt]

/-- Enforcement trims buffers, and neither takes one away nor changes its kind. -/
theorem kindAt_enforceBudget (hr : r.Sound) (s : Nat) :
    r.enforceBudget.arena.kindAt s = r.arena.kindAt s := by
  have hkinds : r.enforceBudget.arena.Every fun s b => r.arena.kindAt s = some b.kind := by
    refine every_enforceBudget (Arena.every_of_find? hr.arena fun s b hb => ?_) hr ⟨?_, ?_⟩
    · rw [Arena.kindAt, hb, Option.map_some]
    · exact fun _ _ h => h
    · exact fun _ _ h => h
  cases hfind : r.enforceBudget.arena.find? s with
  | none => rw [Arena.kindAt, hfind, Arena.kindAt, find?_enforceBudget_eq_none hfind]
  | some b =>
    rw [hkinds.find? hr.enforceBudget.arena hfind, Arena.kindAt, hfind, Option.map_some]

/-- **Recording** is a request, unless the registry is closed. -/
theorem founded_record (h : r.arena.Founded log) (hr : r.Sound) (hdeg : r.degraded = false)
    (hafter : (r.record site value thread).degraded = false) :
    (r.record site value thread).arena.Founded
      (if r.closed then log else log ++ [(site, value.kind)]) := by
  have hout := outcome_record r site value thread
  generalize r.record site value thread = r'' at hout hafter ⊢
  cases hout with
  | unchanged hstopped =>
    -- a call that breaks off is a request, but beyond
    split_ifs with hclosed
    · exact h
    · rw [hdeg, breaksOff_ample, Bool.and_eq_true] at hstopped
      obtain ⟨-, hslot⟩ := (hstopped.resolve_left hclosed).resolve_left Bool.false_ne_true
      exact h.concat_of_beyond (maxSites_le_of_lacksSlot hslot) value.kind
  | beyond =>
    rw [(degrade_frame r _).2] at hafter
    cases hafter
  | @stored r' b hclosed _ hready hkind =>
    have hr' := hr.ready hready
    rw [hclosed, if_neg Bool.false_ne_true]
    intro s hs
    have hplaced : (r'.stored site b ⟨value, r.clock.next, thread⟩).arena.kindAt s =
        r'.arena.kindAt s := Arena.kindAt_place hready.find? (by rfl) _ s
    rw [kindAt_enforceBudget (hr'.stored hready.find? _), hplaced]
    exact founded_ready h hready s hs
  | @refused r' b hclosed _ hready =>
    rw [hclosed, if_neg Bool.false_ne_true]
    intro s hs
    have hplaced : (r'.refused site b value).arena.kindAt s = r'.arena.kindAt s :=
      Arena.kindAt_place hready.find? (by rfl) _ s
    rw [hplaced]
    exact founded_ready h hready s hs

/-- **Asking for a buffer** is a request, also of a closed registry. -/
theorem founded_getOrCreate (h : r.arena.Founded log) (hdeg : r.degraded = false)
    (hafter : (r.getOrCreate site kind).1.degraded = false) :
    (r.getOrCreate site kind).1.arena.Founded (log ++ [(site, kind.stored)]) := by
  rcases getOrCreate_cases r site kind with
    ⟨hsame, hget⟩ | ⟨-, -, -, hget⟩ | ⟨r', b, -, hget, hready⟩
  · rw [hdeg, breaksOff_ample, Bool.and_eq_true] at hsame
    obtain ⟨-, hslot⟩ := hsame.resolve_left Bool.false_ne_true
    rw [hget]
    exact h.concat_of_beyond (maxSites_le_of_lacksSlot hslot) kind.stored
  · rw [hget, (degrade_frame r _).2] at hafter
    cases hafter
  · rw [hget]
    exact founded_ready h hready

/-- **Putting back**: the requests that the buffers put back have seen come before those
in between. -/
theorem founded_restore (h : r.arena.Founded log) (hr : r.Sound) (hdeg : r.degraded = false)
    (horderly : r.arena.Orderly p) (hd : detached.Sound) (hdetached : detached.Founded earlier)
    (c : Heap.Census) : (r.restore c detached).arena.Founded (earlier ++ log) := by
  intro s hs
  rw [restore_eq c hdeg, kindAt_enforceBudget (sound_rejoin hr hd), Arena.kindAt,
    find?_rejoin hdeg hr horderly, List.lookup_append, ← hdetached s hs, ← h s hs, Arena.kindAt,
    Arena.kindAt]
  cases hfind : r.arena.find? s with
  | none => rw [rejoined_of_none c hfind, Option.map_none, Option.or_none]
  | some b =>
    rw [rejoined_of_some c hfind, Option.map_some, SiteBuffer.kind_absorb, target]
    cases detached.find? s <;> rfl

end Operations

namespace Session

/-! ### Requests along a run -/

/-- **The requests that arenas have seen**, in order, each with its site and its kind:
the present arena, and those taken out, by their names. -/
structure Requests where
  live : List (Nat × Kind) := []
  parked : String → List (Nat × Kind) := fun _ => []
  /-- Whether recording has come to an end. -/
  closed : Bool := false

/-- What an action makes of the requests. -/
def Requests.step (q : Requests) : Action → Requests
  | .record site value _ =>
    { q with live := if q.closed then q.live else q.live ++ [(site, value.kind)] }
  | .getOrCreate site kind => { q with live := q.live ++ [(site, kind.stored)] }
  | .detach name => { q with live := [], parked := Function.update q.parked name q.live }
  | .restore name =>
    { q with live := q.parked name ++ q.live, parked := Function.update q.parked name [] }
  | .close => { q with closed := true }
  | .create _ | .release _ => q

/-- What several actions make of them. -/
def Requests.run (q : Requests) (actions : List Action) : Requests :=
  actions.foldl Requests.step q

theorem Requests.parked_detach (q : Requests) (name name' : String) :
    (q.step (.detach name)).parked name' = if name' = name then q.live else q.parked name' :=
  Function.update_apply _ _ _ _

theorem Requests.parked_restore (q : Requests) (name name' : String) :
    (q.step (.restore name)).parked name' = if name' = name then [] else q.parked name' :=
  Function.update_apply _ _ _ _

/-- **The invariant**: arenas are founded on the requests they have seen. A degraded
registry has no buffers, so that neither its arena nor those taken out of it account for
its requests any more. -/
structure Founded (s : Session) (q : Requests) : Prop where
  closed : q.closed = s.registry.closed
  live : s.registry.degraded = false → s.registry.arena.Founded q.live
  parked : ∀ x ∈ s.parked, x.2.Founded (q.parked x.1) ∨ (s.registry.degraded = true ∧ x.2 = {})
  unknown : ∀ name, (∀ x ∈ s.parked, x.1 ≠ name) → q.parked name = []

variable {s : Session} {q : Requests}

theorem founded_start (heap : Heap) (limits : RegistryLimits) (clock : Clock) :
    (start heap limits clock).Founded {} where
  closed := rfl
  live _ := Arena.founded_empty
  parked _ hx := absurd hx List.not_mem_nil
  unknown _ _ := rfl

/-- No step undoes a degradation. -/
theorem degraded_step (hdeg : s.registry.degraded = true) (a : Action) :
    (s.step a).registry.degraded = true := by
  cases a with
  | record site value thread =>
    rw [step, record_of_degraded hdeg]
    exact hdeg
  | getOrCreate site kind =>
    rw [step, getOrCreate_of_degraded hdeg]
    exact hdeg
  | restore name =>
    rw [step]
    split
    · exact hdeg
    · exact (congrArg degraded (restore_of_degraded _ hdeg _)).trans hdeg
  | detach | close | create | release => exact hdeg

theorem degraded_of_step {a : Action} (hafter : (s.step a).registry.degraded = false) :
    s.registry.degraded = false := by
  by_contra hdeg
  rw [degraded_step (by simpa using hdeg) a] at hafter
  cases hafter

/-- No arena waits under a name that is not found. -/
theorem ne_of_lookup_parked {parked : List (String × Arena)} {name : String}
    (h : parked.lookup name = none) {x : String × Arena} (hx : x ∈ parked) : x.1 ≠ name :=
  (bne_iff_ne.mp (List.lookup_eq_none_iff.mp h x hx)).symm

/-- Putting buffers back leaves none under their name. -/
theorem parked_restore (s : Session) (name : String) :
    (s.step (.restore name)).parked = s.parked.filter (·.1 != name) := by
  rw [step]
  split
  · rename_i hlookup
    refine (List.filter_eq_self.mpr fun x hx => ?_).symm
    exact bne_iff_ne.mpr (ne_of_lookup_parked hlookup hx)
  · rfl

/-- **Every step keeps arenas founded on their requests.** -/
theorem Founded.step (h : s.Founded q) (hs : s.Balanced) (ho : s.Orderly)
    (hdrained : s.registry.Drained) (a : Action) : (s.step a).Founded (q.step a) := by
  have hlive : (s.step a).registry.degraded = false → s.registry.arena.Founded q.live :=
    fun hafter => h.live (degraded_of_step hafter)
  have hparked : ∀ x ∈ s.parked, x.2.Founded (q.parked x.1) ∨
      ((s.step a).registry.degraded = true ∧ x.2 = {}) := fun x hx =>
    (h.parked x hx).imp_right fun ⟨hdeg, hempty⟩ => ⟨degraded_step hdeg a, hempty⟩
  cases a with
  | record site value thread =>
    refine ⟨h.closed.trans (closed_record _ _ _ _).symm, fun hafter => ?_, hparked, h.unknown⟩
    rw [Requests.step, h.closed]
    exact founded_record (hlive hafter) hs.registry (degraded_of_step hafter) hafter
  | getOrCreate site kind =>
    exact ⟨h.closed.trans (closed_getOrCreate _ _ _).symm, fun hafter =>
      founded_getOrCreate (hlive hafter) (degraded_of_step hafter) hafter, hparked, h.unknown⟩
  | detach name =>
    refine ⟨h.closed, fun _ => Arena.founded_empty, fun x hx => ?_, fun name' hname => ?_⟩
    · rw [Requests.parked_detach]
      rcases List.mem_cons.mp hx with rfl | hx
      · rw [if_pos rfl]
        rcases Bool.eq_false_or_eq_true s.registry.degraded with hdeg | hdeg
        · exact .inr ⟨hdeg, hdrained hdeg⟩
        · exact .inl (h.live hdeg)
      · obtain ⟨hx, hne⟩ := List.mem_filter.mp hx
        rw [if_neg (bne_iff_ne.mp hne)]
        exact hparked x hx
    · obtain ⟨hne, hrest⟩ := List.forall_mem_cons.mp hname
      rw [Requests.parked_detach, if_neg (Ne.symm hne)]
      refine h.unknown name' fun x hx hx' => ?_
      exact hrest x (List.mem_filter.mpr ⟨hx, bne_iff_ne.mpr (hx'.trans_ne (Ne.symm hne))⟩) hx'
  | restore name =>
    refine ⟨?_, fun hafter => ?_, fun x hx => ?_, fun name' hname => ?_⟩
    · rw [Session.step]
      split
      · exact h.closed
      · exact h.closed.trans (restore_frame ho.registry _ _).2.1.symm
    · have hbefore := hlive hafter
      have hdeg := degraded_of_step hafter
      cases hlookup : s.parked.lookup name with
      | none =>
        have hnone : q.parked name = [] :=
          h.unknown name fun x hx => ne_of_lookup_parked hlookup hx
        rw [Session.step, hlookup, Requests.step, hnone]
        exact hbefore
      | some detached =>
        have hmem := mem_of_lookup_parked hlookup
        have hfounded := (h.parked _ hmem).resolve_right fun hgone =>
          Bool.false_ne_true (hdeg.symm.trans hgone.1)
        rw [step_restore hlookup]
        exact founded_restore hbefore hs.registry hdeg ho.registry (hs.parked _ hmem) hfounded _
    · rw [parked_restore] at hx
      obtain ⟨hx, hne⟩ := List.mem_filter.mp hx
      rw [Requests.parked_restore, if_neg (bne_iff_ne.mp hne)]
      exact hparked x hx
    · rw [parked_restore] at hname
      rw [Requests.parked_restore]
      split_ifs with heq
      · rfl
      · refine h.unknown name' fun x hx hx' => ?_
        exact hname x (List.mem_filter.mpr ⟨hx, bne_iff_ne.mpr (hx'.trans_ne heq)⟩) hx'
  | close => exact ⟨rfl, h.live, h.parked, h.unknown⟩
  | create | release => exact ⟨h.closed, h.live, h.parked, h.unknown⟩

theorem Founded.run (h : s.Founded q) (hs : s.Balanced) (ho : s.Orderly)
    (hdrained : s.registry.Drained) (actions : List Action) :
    (s.run actions).Founded (q.run actions) := by
  induction actions generalizing s q with
  | nil => exact h
  | cons a rest ih =>
    exact ih (h.step hs ho hdrained a) (hs.step a) (ho.step hs a) (drained_run hdrained ho hs [a])

/-- **A buffer of the first kind**: the kind of the first request at its site, which is
also that of all its events, as they are stored and as they read back. -/
structure OfFirstKind (log : List (Nat × Kind)) (site : Nat) (b : SiteBuffer) : Prop where
  first : log.lookup site = some b.kind
  stored : ∀ e ∈ b.events, e.cell.kind = b.kind
  read : ∀ c, ∀ e ∈ b.records c, e.value.kind = b.kind

/-- Orderly buffers hold events of their kind, and in a founded arena that is the
first. -/
theorem every_ofFirstKind {a : Arena} {log : List (Nat × Kind)} {p : Retention}
    (h : a.Founded log) (ha : a.Sound) (horderly : a.Orderly p) :
    a.Every (OfFirstKind log) := by
  refine Arena.every_of_find? ha fun site b hb => ?_
  obtain ⟨hsite, hfaithful⟩ := horderly.find? ha hb
  refine ⟨?_, fun e he => ?_, fun c e he => hfaithful.kind_of_mem_records he⟩
  · rw [← h site hsite, Arena.kindAt, hb, Option.map_some]
  · obtain ⟨v, hv, hcell⟩ := hfaithful.storedAs he
    rw [hcell, Retention.store, Datum.kind_map, hv]

/-- **Kinds along a run**, at any point of any run of a new registry. If it is neither
closed nor degraded and has a buffer for a site, recording a value of another kind there
is refused, and the effects of that are contained. Every buffer, in the registry and in
the arenas taken out of it, is of the kind of the first request at its site that its
arena has seen: an event, or a call that asked for the buffer. -/
theorem kinds_of_run (heap : Heap) (limits : RegistryLimits) (clock : Clock)
    (actions : List Action) :
    let s := (start heap limits clock).run actions
    let q := Requests.run {} actions
    (s.registry.closed = false → s.registry.degraded = false →
      ∀ site b, s.registry.arena.find? site = some b → ∀ value : Value, value.kind ≠ b.kind →
      ∀ thread, Contained s.registry site b value (s.registry.record site value thread)) ∧
    s.registry.arena.Every (OfFirstKind q.live) ∧
    ∀ x ∈ s.parked, x.2.Every (OfFirstKind (q.parked x.1)) := by
  intro s q
  have hstart := balanced_start heap limits clock
  have hs : s.Balanced := hstart.run actions
  have ho : s.Orderly := (orderly_start heap limits clock).run hstart actions
  have hdrained : s.registry.Drained :=
    drained_run (drained_of_empty rfl) (orderly_start heap limits clock) hstart actions
  have hq : s.Founded q := (founded_start heap limits clock).run hstart
    (orderly_start heap limits clock) (drained_of_empty rfl) actions
  refine ⟨fun hclosed hdeg site b hfind value hkind thread =>
    hs.registry.contained hclosed hdeg hfind hkind thread, ?_, fun x hx => ?_⟩
  · rcases Bool.eq_false_or_eq_true s.registry.degraded with hdeg | hdeg
    · rw [hdrained hdeg]
      exact Arena.every_empty _
    · exact every_ofFirstKind (hq.live hdeg) hs.registry.arena ho.registry
  · rcases hq.parked x hx with hfounded | ⟨-, hempty⟩
    · exact every_ofFirstKind hfounded (hs.parked x hx) (ho.parked x hx)
    · rw [hempty]
      exact Arena.every_empty _

/-- Three numbers at a site, taken out; then so many events elsewhere that the ceiling
falls, which are taken out as well before the three are put back. At the last site a
buffer is asked for that stores no values. -/
def underCeiling : List Action :=
  [.record 0 (.int 1) 5, .record 0 (.int 2) 5, .record 0 (.int 3) 5, .detach "numbers",
    .record 1 (.long 1) 5, .record 1 (.long 2) 5, .record 1 (.long 3) 5, .record 1 (.long 4) 5,
    .record 2 (.long 5) 5, .detach "elsewhere", .restore "numbers", .getOrCreate 2 .void]

/-- A long number at the site of the three is refused, which costs the oldest of them. -/
theorem kinds_of_run_underCeiling :
    let s := (start {} { bufferSize := 4, globalCapacity := 4, evictionUnit := 2 } ⟨7⟩).run
      underCeiling
    ∃ b, s.registry.arena.find? 0 = some b ∧ b.size = 3 ∧ s.registry.ceiling = 2 ∧
      Contained s.registry 0 b (.long 9) (s.registry.record 0 (.long 9) 5) ∧
      ((s.registry.record 0 (.long 9) 5).arena.events 0).map (·.cell) = [.int 2, .int 3] ∧
      (s.registry.record 0 (.long 9) 5).diagnostics.failures.map Failure.message =
        ["site buffer holds Int values, got Long"] ∧
      (Requests.run {} underCeiling).live = [(0, .int), (0, .int), (0, .int), (2, .int)] ∧
      s.registry.arena.Every (OfFirstKind (Requests.run {} underCeiling).live) := by
  intro s
  have hsome : (s.registry.arena.find? 0).isSome = true := by decide +kernel
  obtain ⟨b, hb⟩ := Option.isSome_iff_exists.mp hsome
  have hshape : (s.registry.arena.find? 0).map (fun b => (b.size, b.kind)) = some (3, .int) := by
    decide +kernel
  rw [hb] at hshape
  obtain ⟨hsize, hkind⟩ := Prod.mk.inj (Option.some.inj hshape)
  obtain ⟨hrefused, hevery, -⟩ := kinds_of_run {}
    { bufferSize := 4, globalCapacity := 4, evictionUnit := 2 } ⟨7⟩ underCeiling
  have hcontained := hrefused (by decide +kernel) (by decide +kernel) 0 b hb (.long 9)
    (by rw [hkind]; decide) 5
  exact ⟨b, hb, hsize, by decide +kernel, hcontained, by decide +kernel, by decide +kernel,
    by decide +kernel, hevery⟩

end Session

end Registry

end FlightRecorder
