import Mathlib.Algebra.Ring.Nat
import FlightRecorder.Proofs.Registry.Restoring

/-!
# The merge of two arenas

Putting buffers back is a walk over the sites that were recorded meanwhile, and inside
it one over the events of a site. The inner walk may end early, because a buffer of
another kind refuses the events; the outer one creates buffers for sites that have none
to take them. This file says what the two of them make of two arenas: at which sites
there is a buffer and what is in it, what is reported and in which order, and when the
budget is enforced afterwards.

* `FlightRecorder.SiteBuffer.MadeOf` – a buffer that holds the latest events of others
  (`FlightRecorder.SiteBuffer.madeOf_absorb`);
* `FlightRecorder.SiteBuffer.refusal?` – what is reported about a buffer of another kind
  (`FlightRecorder.Registry.diagnostics_rejoin`);
* `FlightRecorder.Registry.Merged` – the merge, as a whole;
* `FlightRecorder.Registry.Session.merged_of_restore` – **putting back is that merge, and
  enforcement after it if it exceeds the budget**.
-/

namespace FlightRecorder

namespace SiteBuffer

/-- **A buffer made of others**: of a given kind and limit, it holds the latest of the
events in `parts`, put one after the other, as many as its limit allows. They read as they
do in `parts`; where objects are held weakly, this is meant for the objects that `c` says
are alive. -/
structure MadeOf (c : Heap.Census) (x : SiteBuffer) (kind : Kind) (limit : Nat)
    (parts : List SiteBuffer) : Prop where
  kind_eq : x.kind = kind
  limit_eq : x.limit = limit
  size_eq : x.size = min limit (parts.map (·.size)).sum
  records_eq : ∀ c', (x.retention = .weak → c' = c) →
    x.records c' = (parts.flatMap (·.records c')).rtake limit

/-- What is reported when a buffer takes the events of another: that their kind is not its
own, unless there are none. -/
def refusal? (target source : SiteBuffer) : Option Failure :=
  if source.kind ≠ target.kind ∧ 0 < source.size then
    some (.kindMismatch target.kind source.kind)
  else none

section Absorb

variable {b source : SiteBuffer} {p : Retention} {c c' : Heap.Census} {kind : SiteKind}
  {limit : Nat}

theorem refusal?_of_kind (h : source.kind = b.kind) : b.refusal? source = none :=
  if_neg fun hne => hne.1 h

/-- **The first event of another kind is reported**, and it is the only one, since no
other is tried. -/
theorem append_records_snd (h : source.Faithful p) (c : Heap.Census) (b : SiteBuffer) :
    (Registry.append b (source.records c)).2 = b.refusal? source := by
  by_cases hkind : source.kind = b.kind
  · rw [refusal?_of_kind hkind,
      append_of_kind fun e he => (h.kind_of_mem_records he).trans hkind]
  · rw [refusal?]
    cases hrecords : source.records c with
    | nil =>
      have hempty : source.size = 0 := by
        rw [← length_records c, hrecords, List.length_nil]
      rw [if_neg (by omega)]
      rfl
    | cons e rest =>
      have he : e.value.kind = source.kind :=
        h.kind_of_mem_records (hrecords ▸ List.mem_cons_self)
      have hsome : 0 < source.size := by
        rw [← length_records c, hrecords]
        exact Nat.succ_pos _
      rw [Registry.append, add?_eq, he, if_neg hkind, if_pos ⟨hkind, hsome⟩]

/-- Events read the same once they were taken by a buffer of the same policy. -/
theorem records_absorb (h : b.WellFormed) (hb : b.Faithful p) (hs : source.Faithful p)
    (hkind : source.kind = b.kind) (hc : p = .weak → c' = c) :
    (b.absorb c source).records c' = (b.records c' ++ source.records c').rtake b.limit := by
  rw [records_eq, events_absorb h hb.retention hkind, map_rtake, List.map_append, List.map_map,
    records_eq, records_eq]
  congr 2
  refine List.map_congr_left fun e he => ?_
  have hstored := hs.storedAs he
  exact (hstored.reading_restored hc).trans (hstored.reading_eq hc).symm

/-- **A buffer that took the events of another** is made of both. -/
theorem madeOf_absorb (h : b.WellFormed) (hb : b.Faithful p) (hs : source.Faithful p)
    (hkind : source.kind = b.kind) :
    (b.absorb c source).MadeOf c b.kind b.limit [b, source] where
  kind_eq := kind_absorb c b source
  limit_eq := limit_absorb c b source
  size_eq := by
    rw [← length_events, events_absorb h hb.retention hkind, length_rtake, List.length_append,
      List.length_map, length_events, length_events]
    rfl
  records_eq c' hc := by
    rw [retention_absorb, hb.retention] at hc
    rw [records_absorb h hb hs hkind hc]
    simp only [List.flatMap_cons, List.flatMap_nil, List.append_nil]

/-- An empty buffer adds nothing. -/
theorem madeOf_absorb_new (hs : source.Faithful p) (hlimit : 0 < limit) :
    ((new (.of source.kind) limit p).absorb c source).MadeOf c source.kind limit [source] := by
  have hnew := madeOf_absorb (c := c) (wellFormed_new (.of source.kind) limit p)
    (faithful_new _ _ _) hs rfl
  have hempty : (new (.of source.kind) limit p).records = fun _ => [] := by
    funext c'
    rw [records_eq]
    exact congrArg (List.map _) (Ring.toList_new _ _)
  have hlimit' : (new (.of source.kind) limit p).limit = limit :=
    (Ring.limit_new _ _).trans (Nat.max_eq_left hlimit)
  refine ⟨hnew.kind_eq, hnew.limit_eq.trans hlimit', ?_, fun c' hc => ?_⟩
  · rw [hnew.size_eq, hlimit']
    simp
  · rw [hnew.records_eq c' hc, hlimit']
    simp [hempty]

end Absorb

end SiteBuffer

namespace Registry

/-! ### What is reported -/

/-- What is reported about the events at a site, if buffers of `detached` take them: a
site without a buffer there gets one of their kind. -/
def clash? (detached : Arena) (q : Nat × SiteBuffer) : Option Failure :=
  (detached.find? q.1).bind (·.refusal? q.2)

section Reports

variable {r : Registry} {c : Heap.Census} {p : Retention} {q : Nat × SiteBuffer}
  {interim : List (Nat × SiteBuffer)} {detached : Arena}

theorem diagnostics_merge (hdeg : r.degraded = false) (hsite : q.1 < Arena.maxSites)
    (hq : q.2.Faithful p) :
    (r.merge c q).diagnostics = { r.diagnostics with
      failures := r.diagnostics.failures ++ (clash? r.arena q).toList } := by
  obtain ⟨r', target, hget, hready⟩ := ready_of_getOrCreate (.of q.2.kind) hdeg fun _ => hsite
  have hdiagnostics : r'.diagnostics = r.diagnostics := by rw [hready.eq_with]
  have hclash : target.refusal? q.2 = clash? r.arena q := by
    rw [clash?, hready.eq_getD]
    cases r.arena.find? q.1 with
    | none => exact SiteBuffer.refusal?_of_kind rfl
    | some d => rfl
  rw [merge, hget]
  simp only [SiteBuffer.append_records_snd hq, hclash, hdiagnostics]
  cases clash? r.arena q with
  | none => rw [Option.toList_none, List.append_nil]
  | some f => rfl

/-- **What is reported about all sites**, by induction on them: they are different sites,
so what one of them gets changes nothing for the others. -/
theorem diagnostics_foldl_merge (hdeg : r.degraded = false) (hordered : Arena.Ordered interim)
    (hall : ∀ q ∈ interim, q.1 < Arena.maxSites ∧ q.2.Faithful p) :
    (interim.foldl (merge c) r).diagnostics = { r.diagnostics with
      failures := r.diagnostics.failures ++ interim.filterMap (clash? r.arena) } := by
  induction interim generalizing r with
  | nil => rw [List.filterMap_nil, List.append_nil, List.foldl_nil]
  | cons q rest ih =>
    obtain ⟨hlt, hrest⟩ := List.pairwise_cons.mp hordered
    obtain ⟨⟨hsite, hq⟩, hall'⟩ := List.forall_mem_cons.mp hall
    have halike := alike_merge (c := c) hdeg hsite hq
    have hdeg' : (r.merge c q).degraded = false := by
      rw [halike]
      exact hdeg
    have hsame : rest.filterMap (clash? (r.merge c q).arena) = rest.filterMap (clash? r.arena) := by
      refine List.filterMap_congr fun x hx => ?_
      rw [clash?, clash?, find?_merge hdeg hsite hq, if_neg (hlt x hx).ne']
    rw [List.foldl_cons, ih hdeg' hrest hall', hsame, diagnostics_merge hdeg hsite hq]
    cases hclash : clash? r.arena q <;> simp [hclash]

theorem diagnostics_rejoin (hdeg : r.degraded = false) (hr : r.Sound)
    (horderly : r.arena.Orderly p) (detached : Arena) :
    (r.rejoin c detached).diagnostics = { r.diagnostics with
      failures := r.diagnostics.failures ++ r.arena.buffers.filterMap (clash? detached) } :=
  diagnostics_foldl_merge (r := { r with arena := detached }) hdeg hr.arena.ordered horderly

end Reports

/-! ### The merge -/

/-- **The merge of two arenas**: `Merged c r detached joined` says that `joined` is the
registry `r` with the buffers of `detached` in the place of its own, whose events were
appended to them. -/
structure Merged (c : Heap.Census) (r : Registry) (detached : Arena) (joined : Registry) :
    Prop where
  /-- Only buffers and reports differ, and of the reports only the failures. -/
  alike : Alike r joined
  sites : ∀ s, (joined.arena.find? s).isSome =
    ((detached.find? s).isSome || (r.arena.find? s).isSome)
  /-- A site without events in between gets its buffer back. -/
  back : ∀ s d, detached.find? s = some d → r.arena.find? s = none →
    joined.arena.find? s = some d
  /-- A site without a buffer to get back has a new one, under the present ceiling. -/
  fresh : ∀ s i, detached.find? s = none → r.arena.find? s = some i →
    ∃ x, joined.arena.find? s = some x ∧ x.MadeOf c i.kind r.ceiling [i]
  /-- The buffer that a site gets back takes the events in between. -/
  both : ∀ s d i, detached.find? s = some d → r.arena.find? s = some i → i.kind = d.kind →
    ∃ x, joined.arena.find? s = some x ∧ x.MadeOf c d.kind d.limit [d, i]
  /-- It takes none of another kind. -/
  clash : ∀ s d i, detached.find? s = some d → r.arena.find? s = some i → i.kind ≠ d.kind →
    joined.arena.find? s = some d
  /-- Such events are reported, once for each site that has any, and in the order of
  sites. -/
  reported : joined.diagnostics = { r.diagnostics with
    failures := r.diagnostics.failures ++ r.arena.buffers.filterMap (clash? detached) }
  ordered : Arena.Ordered r.arena.buffers
  retained : joined.totalRetained = joined.arena.totalSize

section Merged

variable {r : Registry} {c : Heap.Census} {detached : Arena}

/-- **Before the budget is looked at**, the two arenas are merged. -/
theorem merged_rejoin (hdeg : r.degraded = false) (hr : r.Sound) (hd : detached.Sound)
    (horderly : r.arena.Orderly r.retention) (hdetached : detached.Orderly r.retention) :
    Merged c r detached (r.rejoin c detached) := by
  have hfind (s : Nat) := find?_rejoin (c := c) hdeg hr horderly detached s
  refine
    { alike := alike_rejoin hdeg horderly
      sites := fun s => ?_
      back := fun s d hs hnone => ?_
      fresh := fun s i hnone hs => ?_
      both := fun s d i hs hi hkind => ?_
      clash := fun s d i hs hi hkind => ?_
      reported := diagnostics_rejoin hdeg hr horderly detached
      ordered := hr.arena.ordered
      retained := (sound_rejoin hr hd).arena.retained }
  · rw [hfind, rejoined]
    cases r.arena.find? s <;> simp
  · rw [hfind, rejoined_of_none c hnone, hs]
  · obtain ⟨-, hfaithful⟩ := horderly.find? hr.arena hs
    rw [hfind, rejoined_of_some c hs, target, hnone, Option.getD_none]
    exact ⟨_, rfl, SiteBuffer.madeOf_absorb_new hfaithful hr.ceiling_pos⟩
  · obtain ⟨-, hfaithful⟩ := horderly.find? hr.arena hi
    obtain ⟨-, hfaithful'⟩ := hdetached.find? hd hs
    rw [hfind, rejoined_of_some c hi, target, hs, Option.getD_some]
    exact ⟨_, rfl, SiteBuffer.madeOf_absorb (hd.wellFormed_of_find? hs) hfaithful' hfaithful hkind⟩
  · rw [hfind, rejoined_of_some c hi, target, hs, Option.getD_some, SiteBuffer.absorb, if_neg hkind]

/-- Enforcement counts itself if it comes upon a registry over its budget. -/
theorem enforcements_enforceBudget_of_lt (h : r.globalCapacity < r.arena.retained) :
    r.enforceBudget.stats.enforcements = r.stats.enforcements + 1 :=
  Ledger.Moves.enforcements (Ledger.moves_enforce (l := r.ledger) r.policy h)

end Merged

namespace Session

/-- **Putting back is a merge**, and enforcement after it if it exceeds the budget. The
registry is that of any run, as long as it did not degrade, and the buffers put back are
those taken out at any point of this run or of any other, under the same policy. -/
theorem merged_of_restore (heap heap' : Heap) (limits limits' : RegistryLimits)
    (clock clock' : Clock) (actions actions' : List Action) (c : Heap.Census)
    (hretention : limits'.retention = limits.retention)
    (hdeg : ((start heap limits clock).run actions).registry.degraded = false) :
    let r := ((start heap limits clock).run actions).registry
    let detached := ((start heap' limits' clock').run actions').registry.detach.1
    let joined := r.rejoin c detached
    Merged c r detached joined ∧ r.restore c detached = joined.enforceBudget ∧
    (joined.arena.totalSize ≤ limits.globalCapacity → r.restore c detached = joined) ∧
    (limits.globalCapacity < joined.arena.totalSize →
      (r.restore c detached).stats.enforcements = r.stats.enforcements + 1) := by
  intro r detached joined
  have hr : r.Sound := ((balanced_start heap limits clock).run actions).registry
  have hd : detached.Sound := ((balanced_start heap' limits' clock').run actions').registry.arena
  have hcapacity : joined.globalCapacity = limits.globalCapacity :=
    (globalCapacity_of_rules (rules_foldl_merge c _ _)).trans
      (globalCapacity_of_rules (rules_run (start heap limits clock) actions))
  have horderly : r.arena.Orderly r.retention :=
    ((orderly_start heap limits clock).run (balanced_start _ _ _) actions).registry
  have hdetached : detached.Orderly r.retention := by
    have hown := ((orderly_start heap' limits' clock').run (balanced_start _ _ _) actions').registry
    have hsame : ((start heap' limits' clock').run actions').registry.retention = r.retention :=
      (retention_of_rules (rules_run (start heap' limits' clock') actions')).trans
        (hretention.trans (retention_of_rules (rules_run (start heap limits clock) actions)).symm)
    rw [hsame] at hown
    exact hown
  have hmerged : Merged c r detached joined := merged_rejoin hdeg hr hd horderly hdetached
  have hrestore : r.restore c detached = joined.enforceBudget := restore_eq c hdeg detached
  have hretained : joined.arena.retained = joined.arena.totalSize := hmerged.retained
  refine ⟨hmerged, hrestore, fun hkept => ?_, fun hover => ?_⟩
  · rw [hrestore]
    exact enforceBudget_of_le (hretained.trans_le (hkept.trans hcapacity.ge))
  · have hstats : joined.stats = r.stats := (congrArg Registry.stats hmerged.alike :)
    rw [hrestore, ← hstats]
    exact enforcements_enforceBudget_of_lt (hcapacity.trans_lt (hover.trans_eq hretained.symm))

/-- Room for two events at a site, and for five at all. -/
def crowded : RegistryLimits :=
  { bufferSize := 2, globalCapacity := 5, evictionUnit := 1 }

/-- Events at four sites. -/
def before : List Action :=
  [.record 0 (.int 1) 0, .record 2 (.int 2) 0, .record 2 (.int 3) 0, .record 3 (.int 4) 0,
    .record 4 (.int 5) 0]

/-- What is recorded meanwhile: at a new site, at one of those, and at two of them as if they
were of another kind, though there is no event at the last. -/
def meanwhile : List Action :=
  [.record 1 (.int 6) 0, .record 2 (.int 7) 0, .record 3 (.byte 8) 0, .record 3 (.byte 9) 0,
    .getOrCreate 4 (.of .byte)]

theorem merged_of_restore_meanwhile :
    let r := ((start {} crowded ⟨5⟩).run meanwhile).registry
    let detached := ((start {} crowded ⟨0⟩).run before).registry.detach.1
    let c := ((start {} crowded ⟨0⟩).run before).census
    let joined := r.rejoin c detached
    crowded.retention = crowded.retention ∧ r.degraded = false ∧
    Merged c r detached joined ∧ joined.diagnostics.failures = [.kindMismatch .int .byte] ∧
    joined.arena.buffers.map (fun q => (q.1, (q.2.records c).map (·.value))) =
      [(0, [.int 1]), (1, [.int 6]), (2, [.int 3, .int 7]), (3, [.int 4]), (4, [.int 5])] ∧
    (r.restore c detached).stats.enforcements = 1 := by
  have hdeg : ((start {} crowded ⟨5⟩).run meanwhile).registry.degraded = false := by decide +kernel
  obtain ⟨hmerged, -, -, henforced⟩ := merged_of_restore {} {} crowded crowded ⟨5⟩ ⟨0⟩ meanwhile
    before ((start {} crowded ⟨0⟩).run before).census rfl hdeg
  exact ⟨rfl, hdeg, hmerged, by decide +kernel, by decide +kernel,
    (henforced (by decide +kernel)).trans (by decide +kernel)⟩

end Session

end Registry

end FlightRecorder
