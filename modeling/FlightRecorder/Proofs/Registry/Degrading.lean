import FlightRecorder.Proofs.Registry.Restoring

/-!
# Degrading for good

A registry that is asked for a site beyond all that an arena can have degrades: it
drops its buffers and reports the cause. Two questions are left, whether anything
brings it back, and how often the cause is reported. Arenas that were taken out
before are still there to be put back, so neither is answered by looking at one
operation.

The reports are told apart from everything else by what they leave behind. Nothing
but degrading does so (`FlightRecorder.Registry.alarms_record`,
`FlightRecorder.Registry.alarms_restore`), and no site beyond is in an arena to be
put back; and nothing an action does to a degraded registry shows, save that it may
be closed.

* `FlightRecorder.Registry.alarms` – what degrading leaves behind;
* `FlightRecorder.Registry.Session.beyond?` – the site beyond that an action asks for;
* `FlightRecorder.Registry.Session.run_of_degraded` – what becomes of a degraded
  registry;
* `FlightRecorder.Registry.Session.degradation_of_run` – **degradation is for good,
  total, and reported once**.
-/

namespace FlightRecorder

/-- The allocations that were reported to have failed. -/
def Diagnostics.allocations (d : Diagnostics) : List Failure :=
  d.failures.filter Failure.isAllocation

/-- A report of anything else. -/
theorem Diagnostics.allocations_report_of_not {f : Failure} (hf : f.isAllocation = false)
    (d : Diagnostics) : (d.report f).allocations = d.allocations := by
  rw [allocations, report, List.filter_append, List.filter_cons_of_neg (by simp [hf]),
    List.filter_nil, List.append_nil]
  rfl

namespace Registry

/-- **What degrading leaves behind**: the mark on the registry, the reports of failed
allocations, and the metric. -/
def alarms (r : Registry) : Bool × List Failure × Option Nat :=
  (r.degraded, r.diagnostics.allocations, r.diagnostics.metrics.degraded)

section Alarms

variable {r r' : Registry} {site : Nat} {kind : SiteKind} {b : SiteBuffer} {p : Retention}
  {q : Nat × SiteBuffer} {interim : List (Nat × SiteBuffer)}

/-- The first degradation is reported, to the diagnostics and to the metrics. -/
theorem alarms_degrade (hdeg : r.degraded = false) (requested : Nat) :
    (r.degrade (.allocation requested)).alarms =
      (true, r.diagnostics.allocations ++ [.allocation requested],
        Metrics.raise r.diagnostics.metrics.degraded 1) := by
  rw [degrade, if_neg (Bool.eq_false_iff.mp hdeg), alarms, Diagnostics.allocations,
    Diagnostics.report, List.filter_append]
  rfl

theorem Ready.alarms_eq (h : Ready r site kind r' b) : r'.alarms = r.alarms := by
  cases h <;> rfl

theorem alarms_stored (r : Registry) (site : Nat) (b : SiteBuffer) (e : Reading) :
    (r.stored site b e).alarms = r.alarms := rfl

/-- A refused event is reported, but not as an allocation. -/
theorem alarms_refused (r : Registry) (site : Nat) (b : SiteBuffer) (value : Value) :
    (r.refused site b value).alarms = r.alarms := by
  have hreport := r.diagnostics.allocations_report_of_not
    (f := .kindMismatch b.kind value.kind) rfl
  simp only [alarms, refused, hreport]
  rfl

theorem alarms_enforceBudget (r : Registry) : r.enforceBudget.alarms = r.alarms := by
  simp only [alarms, enforceBudget, Diagnostics.allocations]
  split_ifs <;> rfl

/-- **Recording** within reach raises no alarm. -/
theorem alarms_record (hreach : r.closed = false → site < Arena.maxSites) (value : Value)
    (thread : UInt32) : (r.record site value thread).alarms = r.alarms := by
  have hout := outcome_record r site value thread
  generalize r.record site value thread = r'' at hout ⊢
  cases hout with
  | unchanged => rfl
  | beyond hclosed _ _ hsite => exact absurd (hreach hclosed) (Nat.not_lt.mpr hsite)
  | stored _ _ hready =>
    rw [alarms_enforceBudget, alarms_stored, hready.alarms_eq]
  | refused _ _ hready => rw [alarms_refused, hready.alarms_eq]

theorem alarms_getOrCreate (hreach : site < Arena.maxSites) (kind : SiteKind) :
    (r.getOrCreate site kind).1.alarms = r.alarms := by
  rcases getOrCreate_cases r site kind with
    ⟨-, hget⟩ | ⟨-, -, hsite, -⟩ | ⟨r', b, -, hget, hready⟩
  · rw [hget]
  · exact absurd hreach (Nat.not_lt.mpr hsite)
  · rw [hget]
    exact hready.alarms_eq

/-- Events are refused for their kind only. -/
theorem isAllocation_of_append {events : List Reading} {f : Failure}
    (h : (append b events).2 = some f) : f.isAllocation = false := by
  induction events generalizing b with
  | nil => cases h
  | cons e rest ih =>
    rw [append, SiteBuffer.add?_eq] at h
    split_ifs at h
    · exact ih h
    · cases h
      rfl

theorem alarms_merge (c : Heap.Census) (hreach : q.1 < Arena.maxSites) :
    (r.merge c q).alarms = r.alarms := by
  have hget := alarms_getOrCreate (r := r) hreach (.of q.2.kind)
  rw [merge]
  generalize r.getOrCreate q.1 (.of q.2.kind) = got at hget ⊢
  obtain ⟨r', target⟩ := got
  cases target with
  | none => exact hget
  | some target =>
    rw [← hget]
    cases hrefused : (append target (q.2.records c)).2 with
    | none => simp only [alarms, hrefused]
    | some f =>
      have hreport := r'.diagnostics.allocations_report_of_not (isAllocation_of_append hrefused)
      simp only [alarms, hrefused, hreport]
      rfl

theorem alarms_foldl_merge (c : Heap.Census) (hreach : ∀ q ∈ interim, q.1 < Arena.maxSites) :
    (interim.foldl (merge c) r).alarms = r.alarms := by
  induction interim generalizing r with
  | nil => rfl
  | cons q rest ih =>
    obtain ⟨hq, hrest⟩ := List.forall_mem_cons.mp hreach
    rw [List.foldl_cons, ih hrest, alarms_merge c hq]

/-- **Putting back** raises no alarm: the sites recorded meanwhile are within reach. -/
theorem alarms_restore (c : Heap.Census) (h : r.arena.Orderly p) (detached : Arena) :
    (r.restore c detached).alarms = r.alarms := by
  rcases Bool.eq_false_or_eq_true r.degraded with hdeg | hdeg
  · rw [restore_of_degraded c hdeg]
  · rw [restore_eq c hdeg, alarms_enforceBudget, rejoin,
      alarms_foldl_merge c fun q hq => (h q hq).1]
    rfl

/-- An orderly arena has no buffer for a site beyond. -/
theorem find?_of_orderly (h : r.arena.Orderly p) (hr : r.Sound) (hsite : Arena.maxSites ≤ site) :
    r.arena.find? site = none := by
  cases hfind : r.arena.find? site with
  | none => rfl
  | some b => exact absurd (h.find? hr.arena hfind).1 (Nat.not_lt.mpr hsite)

end Alarms

namespace Session

variable {s : Session} {a : Action} {actions : List Action} {site : Nat}

/-! ### Asking for too much -/

/-- **The site beyond all that an arena can have** that an action asks for a buffer
of. A closed registry does not look at events, and a call that breaks off does not
come to asking. -/
def beyond? (s : Session) : Action → Option Nat
  | .record site _ _ =>
    if s.registry.closed = false ∧ Arena.maxSites ≤ site ∧ s.registry.lacksSlot site = false then
      some site
    else none
  | .getOrCreate site _ =>
    if Arena.maxSites ≤ site ∧ s.registry.lacksSlot site = false then some site else none
  | _ => none

/-- The first such site that a run asks for. -/
def firstBeyond? (s : Session) : List Action → Option Nat
  | [] => none
  | a :: rest => (s.beyond? a).or ((s.step a).firstBeyond? rest)

/-- **An action that asks for no site beyond** raises no alarm. -/
theorem alarms_step (ho : s.Orderly) (ha : s.beyond? a = none) :
    (s.step a).registry.alarms = s.registry.alarms := by
  cases a with
  | record site value thread =>
    rcases Bool.eq_false_or_eq_true (s.registry.lacksSlot site) with hslot | hslot
    · rw [step, record_of_lacksSlot hslot]
    · refine alarms_record (fun hclosed => Nat.lt_of_not_le fun hsite => ?_) value thread
      rw [beyond?, if_pos ⟨hclosed, hsite, hslot⟩] at ha
      cases ha
  | getOrCreate site kind =>
    rcases Bool.eq_false_or_eq_true (s.registry.lacksSlot site) with hslot | hslot
    · rw [step, getOrCreate_of_lacksSlot hslot]
    · refine alarms_getOrCreate (Nat.lt_of_not_le fun hsite => ?_) kind
      rw [beyond?, if_pos ⟨hsite, hslot⟩] at ha
      cases ha
  | restore name =>
    rw [step]
    split
    · rfl
    · exact alarms_restore _ ho.registry _
  | detach | close | create | release => rfl

theorem alarms_run (ho : s.Orderly) (hs : s.Balanced) (h : s.firstBeyond? actions = none) :
    (s.run actions).registry.alarms = s.registry.alarms := by
  induction actions generalizing s with
  | nil => rfl
  | cons a rest ih =>
    rw [firstBeyond?, Option.or_eq_none_iff] at h
    exact (ih (ho.step hs a) (hs.step a) h.2).trans (alarms_step ho h.1)

/-- **An action that asks for a site beyond** degrades the registry. -/
theorem step_of_beyond (ho : s.Orderly) (hs : s.Balanced) (hdeg : s.registry.degraded = false)
    (ha : s.beyond? a = some site) :
    (s.step a).registry = s.registry.degrade (.allocation ((site + 1) % wordSize)) := by
  cases a with
  | record _ value thread =>
    rw [beyond?, Option.ite_none_right_eq_some] at ha
    obtain ⟨⟨hclosed, hsite, hslot⟩, heq⟩ := ha
    cases heq
    exact record_of_beyond hclosed hdeg (find?_of_orderly ho.registry hs.registry hsite) hsite
      hslot _ _
  | getOrCreate _ kind =>
    rw [beyond?, Option.ite_none_right_eq_some] at ha
    obtain ⟨⟨hsite, hslot⟩, heq⟩ := ha
    cases heq
    exact congrArg Prod.fst
      (getOrCreate_of_beyond hdeg (find?_of_orderly ho.registry hs.registry hsite) hsite hslot)
  | detach | restore | close | create | release => cases ha

/-! ### Afterwards -/

/-- **A degraded registry** without buffers is left alone, save that it may be
closed. -/
theorem step_of_degraded (hdeg : s.registry.degraded = true) (hempty : s.registry.arena = {})
    (a : Action) :
    (s.step a).registry = { s.registry with closed := (s.step a).registry.closed } := by
  cases a with
  | record site value thread => rw [step, record_of_degraded hdeg]
  | getOrCreate site kind => rw [step, getOrCreate_of_degraded hdeg]
  | detach name =>
    show { s.registry with arena := {} } = _
    rw [← hempty]
    rfl
  | restore name =>
    rw [step]
    split
    · rfl
    · rw [restore_of_degraded _ hdeg]
  | close | create | release => rfl

theorem run_of_degraded (hdeg : s.registry.degraded = true) (hempty : s.registry.arena = {})
    (actions : List Action) :
    (s.run actions).registry = { s.registry with closed := (s.run actions).registry.closed } := by
  induction actions generalizing s with
  | nil => rfl
  | cons a rest ih =>
    have hstep := step_of_degraded hdeg hempty a
    have hrest := ih (s := s.step a) (by rw [hstep]; exact hdeg) (by rw [hstep]; exact hempty)
    rw [hstep] at hrest
    exact hrest

/-- **Degradation is for good, total, and reported once.** From the first action of
any run on that asks for a site beyond all that an arena can have, and whatever comes
after it – also arenas put back that were taken out before –, the registry is
degraded and without buffers, no site can get one, and clock and statistics stand
where that action found them. Until then no allocation was reported to have failed;
over the whole run one is, for one slot more than the site, and the metric is raised
once. -/
theorem degradation_of_run (heap : Heap) (limits : RegistryLimits) (clock : Clock)
    (before after : List Action) {a : Action} {site : Nat}
    (hbefore : (start heap limits clock).firstBeyond? before = none)
    (ha : ((start heap limits clock).run before).beyond? a = some site)
    (hword : site + 1 < wordSize) :
    let s := (start heap limits clock).run before
    let t := (start heap limits clock).run (before ++ a :: after)
    s.registry.alarms = (false, [], none) ∧
    t.registry.alarms = (true, [.allocation (site + 1)], some 1) ∧
    t.registry.arena.buffers = [] ∧ t.registry.totalRetained = 0 ∧
    (∀ other, t.registry.isRecorded other = false) ∧
    (∀ other kind, t.registry.getOrCreate other kind = (t.registry, none)) ∧
    t.registry.clock = s.registry.clock ∧ t.registry.stats = s.registry.stats := by
  intro s t
  have hs : s.Balanced := (balanced_start heap limits clock).run before
  have ho : s.Orderly :=
    (orderly_start heap limits clock).run (balanced_start heap limits clock) before
  have halarms : s.registry.alarms = (false, [], none) :=
    alarms_run (orderly_start heap limits clock) (balanced_start heap limits clock) hbefore
  obtain ⟨hdeg, hnone, hmetric⟩ : s.registry.degraded = false ∧
      s.registry.diagnostics.allocations = [] ∧ s.registry.diagnostics.metrics.degraded = none := by
    simpa [alarms] using halarms
  have hstep : (s.step a).registry = s.registry.degrade (.allocation (site + 1)) := by
    rw [step_of_beyond ho hs hdeg ha, Nat.mod_eq_of_lt hword]
  have hafter := alarms_degrade hdeg (site + 1)
  rw [hnone, hmetric] at hafter
  have hdegrade : s.registry.degrade (.allocation (site + 1)) = _ :=
    if_neg (Bool.eq_false_iff.mp hdeg)
  -- what the degraded registry looks like, it looks like in the end
  have ht : t = (s.step a).run after := List.foldl_append
  have hrun := run_of_degraded (s := s.step a) (by rw [hstep, hdegrade]) (by rw [hstep, hdegrade])
    after
  rw [← ht, hstep] at hrun
  have hdegraded : t.registry.degraded = true := by rw [hrun, hdegrade]
  have harena : t.registry.arena = {} := by rw [hrun, hdegrade]
  refine ⟨halarms, ?_, ?_, ?_, fun other => ?_, fun other kind => ?_, ?_, ?_⟩
  · rw [hrun]
    exact hafter
  · rw [harena]
  · rw [totalRetained, harena]
  · rw [isRecorded, harena]
    rfl
  · exact getOrCreate_of_degraded hdegraded
  · rw [hrun, hdegrade]
  · rw [hrun, hdegrade]

/-- An arena that was taken out before is put back in vain. -/
theorem degradation_of_run_detached :
    let limits : RegistryLimits := { bufferSize := 4, globalCapacity := 2, evictionUnit := 1 }
    let before : List Action :=
      [.record 3 (.int 1) 0, .record 3 (.int 2) 0, .record 3 (.int 3) 0, .record 3 (.byte 0) 0,
        .detach "d", .record 4 (.int 4) 0]
    let a : Action := .record (Nat.pow 2 63) (.int 5) 0
    let s := (start {} limits (.startingAt 7)).run before
    let t := (start {} limits (.startingAt 7)).run (before ++ a :: [.restore "d", .record 4 (.int 6) 0])
    (start {} limits (.startingAt 7)).firstBeyond? before = none ∧
    s.beyond? a = some (Nat.pow 2 63) ∧ Nat.pow 2 63 + 1 < wordSize ∧
    s.parked.map (·.2.retained) = [2] ∧
    t.registry.alarms = (true, [.allocation (Nat.pow 2 63 + 1)], some 1) ∧
    t.registry.totalRetained = 0 ∧ t.registry.clock = s.registry.clock := by
  intro limits before a s t
  have hbefore : (start {} limits (.startingAt 7)).firstBeyond? before = none := by decide +kernel
  have ha : s.beyond? a = some (Nat.pow 2 63) := by decide +kernel
  have hword : Nat.pow 2 63 + 1 < wordSize := by decide +kernel
  obtain ⟨-, halarms, -, hretained, -, -, hclock, -⟩ := degradation_of_run {} limits
    (.startingAt 7) before [.restore "d", .record 4 (.int 6) 0] hbefore ha hword
  exact ⟨hbefore, ha, hword, by decide +kernel, halarms, hretained, hclock⟩

end Session

end Registry

end FlightRecorder
