import FlightRecorder.Proofs.Budget.Evictions
import FlightRecorder.Proofs.Registry.Restoring

/-!
# Accounts of what the budget evicts

Four counters, the ceiling, a metric and two gauges tell what became of the events
that the budget had no room for. They are written at different places: the counters
and the ceiling deep inside enforcement, the metrics after it, from the difference that
it made to one of the counters. This file proves that they agree at every point of
every run.

Only two kinds of actions come to the budget at all, a record that is accepted and
buffers that are put back, and both of them leave everything to enforcement that has
to do with these accounts.

* `FlightRecorder.Registry.books` – what the accounts are about;
* `FlightRecorder.Registry.take` – a registry that took an event, before the budget is
  looked at;
* `FlightRecorder.Registry.Session.atBudget?` – the registry that an action enforces the
  budget on (`FlightRecorder.Registry.Session.step_of_atBudget`);
* `FlightRecorder.Registry.Session.returned` – the answers of enforcement, along a run;
* `FlightRecorder.Registry.Accounted` – the invariant, kept by enforcement;
* `FlightRecorder.Registry.Session.accounts_of_run` – **the accounts of a run**.
-/

namespace FlightRecorder.Registry

/-- **The books of the budget**: the ceiling, the statistics, and the metrics about
evicted events. -/
def books (r : Registry) : Nat × BudgetStats × Option Nat × Option Nat × Option Nat :=
  (r.ceiling, r.stats, r.diagnostics.metrics.eventsEvicted,
    r.diagnostics.metrics.eventsRetained, r.diagnostics.metrics.maxBufferSize)

section Books

variable {r r' : Registry} {site : Nat} {kind : SiteKind} {b : SiteBuffer}

theorem ceiling_of_books (h : r.books = r'.books) : r.ceiling = r'.ceiling :=
  congrArg (fun books => books.1) h

theorem stats_of_books (h : r.books = r'.books) : r.stats = r'.stats :=
  congrArg (fun books => books.2.1) h

theorem eventsEvicted_of_books (h : r.books = r'.books) :
    r.diagnostics.metrics.eventsEvicted = r'.diagnostics.metrics.eventsEvicted :=
  congrArg (fun books => books.2.2.1) h

/-! ### What leaves the books alone -/

theorem books_degrade (r : Registry) (cause : Failure) : (r.degrade cause).books = r.books := by
  rw [degrade]
  split_ifs <;> rfl

theorem Ready.books (h : Ready r site kind r' b) : r'.books = r.books := by
  cases h <;> rfl

theorem books_getOrCreate (r : Registry) (site : Nat) (kind : SiteKind) :
    (r.getOrCreate site kind).1.books = r.books := by
  refine getOrCreate_ind (P := fun r' => r'.books = r.books) rfl (books_degrade r) ?_
  intro r' b _ hready
  exact hready.books

theorem books_merge (c : Heap.Census) (r : Registry) (interim : Nat × SiteBuffer) :
    (r.merge c interim).books = r.books := by
  have hget := books_getOrCreate r interim.1 (.of interim.2.kind)
  rw [merge]
  generalize r.getOrCreate interim.1 (.of interim.2.kind) = got at hget ⊢
  obtain ⟨r', target⟩ := got
  rw [← hget]
  cases target with
  | none => rfl
  | some target =>
    -- a refused event is reported as a failure, which is in none of the books
    cases hrefused : (append target (interim.2.records c)).2 <;>
      simp only [books, hrefused, Diagnostics.report]

theorem books_rejoin (c : Heap.Census) (r : Registry) (detached : Arena) :
    (r.rejoin c detached).books = r.books := by
  have hfold : ∀ (interim : List (Nat × SiteBuffer)) (r : Registry),
      (interim.foldl (merge c) r).books = r.books := by
    intro interim
    induction interim with
    | nil => exact fun _ => rfl
    | cons q rest ih => exact fun r => (ih _).trans (books_merge c r q)
  exact hfold r.arena.buffers { r with arena := detached }

end Books

/-! ### A record that comes to the budget -/

/-- **A registry that took an event**, before the budget is looked at. -/
def take (r : Registry) (site : Nat) (value : Value) (thread : UInt32) : Registry :=
  match r.getOrCreate site (.of value.kind) with
  | (r', none) => r'
  | (r', some b) => r'.stored site b ⟨value, r.clock.next, thread⟩

section Take

variable {r : Registry} {site : Nat} {value : Value}

/-- An accepted event has a buffer of its kind, found or created. -/
theorem exists_ready_of_accepts (h : r.accepts site value = true) :
    r.closed = false ∧ r.degraded = false ∧
      ∃ r' b, r.getOrCreate site (.of value.kind) = (r', some b) ∧
        Ready r site (.of value.kind) r' b ∧ value.kind = b.kind := by
  have hrunning : ¬(r.closed = true ∨ r.degraded = true) := fun hstopped => by
    rw [accepts_of_stopped hstopped] at h
    cases h
  rw [not_or, Bool.not_eq_true, Bool.not_eq_true] at hrunning
  obtain ⟨hclosed, hdeg⟩ := hrunning
  have hsite : r.arena.find? site = none → site < Arena.maxSites := fun hfind => by
    by_contra hbeyond
    rw [accepts_of_beyond hfind (Nat.le_of_not_lt hbeyond)] at h
    cases h
  obtain ⟨r', b, hget, hready⟩ := ready_of_getOrCreate (.of value.kind) hdeg hsite
  rw [accepts_of_ready hclosed hdeg hready] at h
  exact ⟨hclosed, hdeg, r', b, hget, hready, of_decide_eq_true h⟩

/-- It is stored there, and nothing else is done about it before the budget. -/
theorem exists_take_eq (h : r.accepts site value = true) (thread : UInt32) :
    ∃ r' b, Ready r site (.of value.kind) r' b ∧ value.kind = b.kind ∧
      r.take site value thread = r'.stored site b ⟨value, r.clock.next, thread⟩ := by
  obtain ⟨-, -, r', b, hget, hready, hkind⟩ := exists_ready_of_accepts h
  exact ⟨r', b, hready, hkind, by rw [take, hget]⟩

/-- **An accepted event is stored, and the budget enforced.** -/
theorem record_of_accepts (h : r.accepts site value = true) (thread : UInt32) :
    r.record site value thread = (r.take site value thread).enforceBudget := by
  obtain ⟨hclosed, hdeg, r', b, hget, hready, hkind⟩ := exists_ready_of_accepts h
  have hclock : r'.clock = r.clock := by rw [hready.eq_with]
  rw [record, if_neg (by simp [hclosed, hdeg]), take, hget]
  simp only [store_eq, if_pos hkind, hclock]

/-- An event that is not accepted leaves the books alone. -/
theorem books_record_of_not (h : r.accepts site value = false) (thread : UInt32) :
    (r.record site value thread).books = r.books := by
  have hout := outcome_record r site value thread
  generalize r.record site value thread = r'' at hout ⊢
  cases hout with
  | unchanged => rfl
  | beyond => exact books_degrade _ _
  | stored hclosed hdeg hready hkind =>
    rw [accepts_of_ready hclosed hdeg hready, decide_eq_true hkind] at h
    cases h
  | refused _ _ hready => exact hready.books

theorem books_take (h : r.accepts site value = true) (thread : UInt32) :
    (r.take site value thread).books = r.books := by
  obtain ⟨r', b, hready, -, htake⟩ := exists_take_eq h thread
  rw [htake]
  exact hready.books

theorem rules_take (h : r.accepts site value = true) (thread : UInt32) :
    (r.take site value thread).rules = r.rules := by
  obtain ⟨r', b, hready, -, htake⟩ := exists_take_eq h thread
  rw [htake]
  exact hready.rules

theorem Sound.take (hr : r.Sound) (h : r.accepts site value = true) (thread : UInt32) :
    (r.take site value thread).Sound := by
  obtain ⟨r', b, hready, -, htake⟩ := exists_take_eq h thread
  rw [htake]
  exact (hr.ready hready).stored hready.find? _

end Take

/-! ### The accounts -/

/-- What enforcement answers, asked to bring a registry under its budget. -/
def evictions (r : Registry) : Nat :=
  r.ledger.evictions r.policy r.globalCapacity

/-- **Accounts that agree.** The ceiling is where its decrements brought it, from `first`
on; no enforcement goes without a trim, and no trim without an evicted event; and all
evicted events were emitted. -/
structure Accounted (r : Registry) (first : Nat) : Prop where
  lowered : r.ledger.Lowered r.policy first
  enforcements_le : r.stats.enforcements ≤ r.stats.trims
  trims_le : r.stats.trims ≤ r.stats.evicted
  emitted : r.diagnostics.metrics.eventsEvicted.getD 0 = r.stats.evicted

section Accounted

variable {r r' : Registry} {first : Nat}

/-- The accounts are in the books. -/
theorem Accounted.of_books (h : r.Accounted first) (hbooks : r'.books = r.books)
    (hpolicy : r'.policy = r.policy) : r'.Accounted first := by
  have hceiling := ceiling_of_books hbooks
  have hstats := stats_of_books hbooks
  have hemitted := eventsEvicted_of_books hbooks
  refine ⟨?_, ?_, ?_, ?_⟩
  · have hlowered := h.lowered
    simp only [Ledger.Lowered, ledger] at hlowered ⊢
    rw [hceiling, hstats, hpolicy]
    exact hlowered
  · rw [hstats]
    exact h.enforcements_le
  · rw [hstats]
    exact h.trims_le
  · rw [hemitted, hstats]
    exact h.emitted

theorem accounted_new (limits : RegistryLimits) (clock : Clock) :
    (new limits clock).Accounted (max limits.bufferSize 1) where
  lowered := by
    simp only [Ledger.Lowered, ledger, new, Nat.mul_zero, Nat.sub_zero]
    omega
  enforcements_le := le_refl _
  trims_le := le_refl _
  emitted := rfl

/-- **The statistics grow by the answer of enforcement.** -/
theorem evicted_enforceBudget (r : Registry) :
    r.enforceBudget.stats.evicted = r.stats.evicted + r.evictions :=
  Ledger.evicted_enforce r.policy r.globalCapacity r.ledger

/-- The budget reports the difference of the statistics, which is that answer. -/
theorem evicted_sub_evicted (r : Registry) :
    (r.ledger.enforce r.policy r.globalCapacity).stats.evicted - r.stats.evicted =
      r.evictions :=
  Nat.sub_eq_of_eq_add' (evicted_enforceBudget r)

/-- **So do the metrics.** -/
theorem eventsEvicted_enforceBudget (r : Registry) :
    r.enforceBudget.diagnostics.metrics.eventsEvicted.getD 0 =
      r.diagnostics.metrics.eventsEvicted.getD 0 + r.evictions := by
  simp only [enforceBudget, evicted_sub_evicted]
  split_ifs with hnone
  · rw [hnone, Nat.add_zero]
  · rfl

/-- If enforcement evicted an event, the gauges show what it left. -/
theorem gauges_enforceBudget (h : 0 < r.evictions) :
    r.enforceBudget.diagnostics.metrics.eventsRetained = some r.enforceBudget.totalRetained ∧
      r.enforceBudget.diagnostics.metrics.maxBufferSize = some r.enforceBudget.ceiling := by
  simp only [enforceBudget, evicted_sub_evicted, if_neg h.ne', totalRetained]
  exact ⟨rfl, rfl⟩

/-- **Enforcement keeps the accounts.** -/
theorem Accounted.enforceBudget (h : r.Accounted first) (hr : r.Sound) :
    r.enforceBudget.Accounted first := by
  have hledger : r.ledger.arena.Sound := hr.arena
  have hemitted : r.enforceBudget.diagnostics.metrics.eventsEvicted.getD 0 =
      r.enforceBudget.stats.evicted := by
    rw [eventsEvicted_enforceBudget, evicted_enforceBudget, h.emitted]
  have henforcements := h.enforcements_le
  have htrims := h.trims_le
  rcases enforceBudget_cases r with heq | ⟨hover, hmoves⟩
  · rw [heq]
    exact h
  · have hcounted := hmoves.enforcements
    have htrim := Ledger.trims_lt_enforce r.policy hledger hover
    obtain ⟨-, hevicted⟩ := Ledger.Moves.trims_add_evicted_le hmoves
    simp only [Ledger.counted, ledger] at hcounted hevicted htrim
    refine ⟨Ledger.Moves.lowered hmoves h.lowered, ?_, ?_, hemitted⟩
    · exact hcounted.trans_le (lt_of_le_of_lt henforcements htrim)
    · omega

end Accounted

/-! ### Sessions -/

namespace Session

variable {s : Session} {a : Action} {first : Nat}

/-- **The registry that an action enforces the budget on**, if it is one of the two that
do: a record that is accepted, or buffers that are put back. -/
def atBudget? (s : Session) : Action → Option Registry
  | .record site value thread =>
    if s.registry.accepts site value then some (s.registry.take site value thread) else none
  | .restore name =>
    if s.registry.degraded then none
    else (s.parked.lookup name).map fun detached => s.registry.rejoin s.census detached
  | _ => none

/-- What enforcement answers while an action happens. -/
def returnedBy (s : Session) (a : Action) : Nat :=
  match s.atBudget? a with
  | none => 0
  | some r => r.evictions

/-- All that enforcement answers along a run. -/
def returned (s : Session) : List Action → Nat
  | [] => 0
  | a :: rest => s.returnedBy a + (s.step a).returned rest

/-- An action that comes to the budget leaves the books to enforcement. -/
theorem step_of_atBudget {r : Registry} (hs : s.Balanced) (h : s.atBudget? a = some r) :
    (s.step a).registry = r.enforceBudget ∧ r.books = s.registry.books ∧
      r.rules = s.registry.rules ∧ r.Sound := by
  cases a with
  | record site value thread =>
    rw [atBudget?] at h
    split_ifs at h with haccepts
    obtain rfl := Option.some.inj h
    exact ⟨record_of_accepts haccepts thread, books_take haccepts thread,
      rules_take haccepts thread, hs.registry.take haccepts thread⟩
  | restore name =>
    rw [atBudget?] at h
    split_ifs at h with hdeg
    obtain ⟨detached, hlookup, rfl⟩ := Option.map_eq_some_iff.mp h
    refine ⟨?_, books_rejoin _ _ _, rules_foldl_merge _ _ _,
      sound_rejoin hs.registry (hs.parked _ (mem_of_lookup_parked hlookup))⟩
    rw [step_restore hlookup]
    exact restore_eq _ (Bool.eq_false_iff.mpr hdeg) _
  | getOrCreate | detach | close | create | release => cases h

/-- Every other action leaves them alone. -/
theorem books_step_of_none (h : s.atBudget? a = none) :
    (s.step a).registry.books = s.registry.books := by
  cases a with
  | record site value thread =>
    rw [atBudget?] at h
    split_ifs at h with haccepts
    exact books_record_of_not (Bool.eq_false_iff.mpr haccepts) thread
  | restore name =>
    rw [atBudget?] at h
    split_ifs at h with hdeg
    · rw [step]
      split
      · rfl
      · exact congrArg books (restore_of_degraded _ hdeg _)
    · rw [step, Option.map_eq_none_iff.mp h]
  | getOrCreate site kind => exact books_getOrCreate _ _ _
  | detach | close | create | release => rfl

/-- **Every step keeps the accounts.** -/
theorem accounted_step (h : s.registry.Accounted first) (hs : s.Balanced) (a : Action) :
    (s.step a).registry.Accounted first := by
  cases hat : s.atBudget? a with
  | none => exact h.of_books (books_step_of_none hat) (policy_of_rules (rules_step s a))
  | some r =>
    obtain ⟨hstep, hbooks, hrules, hr⟩ := step_of_atBudget hs hat
    rw [hstep]
    exact (h.of_books hbooks (policy_of_rules hrules)).enforceBudget hr

theorem accounted_run (h : s.registry.Accounted first) (hs : s.Balanced) (actions : List Action) :
    (s.run actions).registry.Accounted first := by
  induction actions generalizing s with
  | nil => exact h
  | cons a rest ih => exact ih (accounted_step h hs a) (hs.step a)

/-- **The statistics grow by what enforcement answers**, and by nothing else. -/
theorem evicted_step (hs : s.Balanced) (a : Action) :
    (s.step a).registry.stats.evicted = s.registry.stats.evicted + s.returnedBy a := by
  cases hat : s.atBudget? a with
  | none => rw [stats_of_books (books_step_of_none hat), returnedBy, hat, Nat.add_zero]
  | some r =>
    obtain ⟨hstep, hbooks, -, -⟩ := step_of_atBudget hs hat
    rw [hstep, evicted_enforceBudget, stats_of_books hbooks, returnedBy, hat]

theorem evicted_run (hs : s.Balanced) (actions : List Action) :
    (s.run actions).registry.stats.evicted = s.registry.stats.evicted + s.returned actions := by
  induction actions generalizing s with
  | nil => rfl
  | cons a rest ih =>
    rw [returned, ← Nat.add_assoc, ← evicted_step hs]
    exact ih (hs.step a)

/-- The ceiling never rises, whatever is taken out or put back. -/
theorem ceiling_step_le (hs : s.Balanced) (a : Action) :
    (s.step a).registry.ceiling ≤ s.registry.ceiling := by
  cases hat : s.atBudget? a with
  | none => exact (ceiling_of_books (books_step_of_none hat)).le
  | some r =>
    obtain ⟨hstep, hbooks, -, -⟩ := step_of_atBudget hs hat
    rw [hstep, ← ceiling_of_books hbooks]
    exact ceiling_enforceBudget_le r

theorem ceiling_run_le (hs : s.Balanced) (actions : List Action) :
    (s.run actions).registry.ceiling ≤ s.registry.ceiling := by
  induction actions generalizing s with
  | nil => exact le_refl _
  | cons a rest ih => exact (ih (hs.step a)).trans (ceiling_step_le hs a)

theorem gauges_step (hs : s.Balanced) (h : 0 < s.returnedBy a) :
    (s.step a).registry.diagnostics.metrics.eventsRetained =
        some (s.step a).registry.totalRetained ∧
      (s.step a).registry.diagnostics.metrics.maxBufferSize = some (s.step a).registry.ceiling := by
  cases hat : s.atBudget? a with
  | none =>
    rw [returnedBy, hat] at h
    exact absurd h (Nat.lt_irrefl 0)
  | some r =>
    rw [returnedBy, hat] at h
    obtain ⟨hstep, -, -, -⟩ := step_of_atBudget hs hat
    rw [hstep]
    exact gauges_enforceBudget h

/-- **The accounts of a run.** At every point of every run of a new registry, the
ceiling is where its decrements brought it, each of them by an eviction unit, though not
below one, and it never rises again. Enforcements are at most as many as trims, and these
at most as many as evicted events, which are as many as enforcement answered all in all,
and as were emitted. After an action that evicted events, the gauges show how many are
retained, and the ceiling. -/
theorem accounts_of_run (heap : Heap) (limits : RegistryLimits) (clock : Clock)
    (actions : List Action) :
    let s := (start heap limits clock).run actions
    let stats := s.registry.stats
    (s.registry.ceiling : Int) = max 1 (max (limits.bufferSize : Int) 1 -
        max (limits.evictionUnit : Int) 1 * (stats.ceilingDecrements : Int)) ∧
    (∀ more, (s.run more).registry.ceiling ≤ s.registry.ceiling) ∧
    stats.enforcements ≤ stats.trims ∧ stats.trims ≤ stats.evicted ∧
    stats.evicted = (start heap limits clock).returned actions ∧
    s.registry.diagnostics.metrics.eventsEvicted.getD 0 = stats.evicted ∧
    ∀ a, 0 < s.returnedBy a →
      (s.step a).registry.diagnostics.metrics.eventsRetained =
          some (s.step a).registry.totalRetained ∧
        (s.step a).registry.diagnostics.metrics.maxBufferSize =
          some (s.step a).registry.ceiling := by
  intro s stats
  have hstart := balanced_start heap limits clock
  have hs : s.Balanced := hstart.run actions
  have haccounted : s.registry.Accounted (max limits.bufferSize 1) :=
    accounted_run (accounted_new limits clock) hstart actions
  have hpolicy : s.registry.policy = .of limits.evictionUnit limits.tieBreak :=
    policy_of_rules (rules_run (start heap limits clock) actions)
  have hevicted : stats.evicted = 0 + (start heap limits clock).returned actions :=
    evicted_run hstart actions
  refine ⟨?_, ceiling_run_le hs, haccounted.enforcements_le, haccounted.trims_le,
    hevicted.trans (Nat.zero_add _), haccounted.emitted, fun a ha => gauges_step hs ha⟩
  have hlowered : s.registry.ceiling =
      max (max limits.bufferSize 1 - max limits.evictionUnit 1 * stats.ceilingDecrements) 1 := by
    have h := haccounted.lowered
    rw [Ledger.Lowered, hpolicy] at h
    exact h
  rw [hlowered]
  have hunit : ((max limits.evictionUnit 1 : Nat) : Int) = max (limits.evictionUnit : Int) 1 := by
    omega
  -- a difference of natural numbers that ends at zero is below one all the same
  rw [← hunit, ← Int.natCast_mul]
  omega

/-- Room for three events, and a unit that the ceiling is no multiple of. -/
def cramped : RegistryLimits :=
  { bufferSize := 4, globalCapacity := 3, evictionUnit := 2 }

/-- Buffers taken out twice, and put back once. -/
def twiceDetached : List Action :=
  let recordAt : List Nat → List Action := List.map fun site => .record site (.int 1) 0
  recordAt [0, 0, 0] ++ .detach "d" :: recordAt [1, 2, 3] ++ .detach "e" :: recordAt [4, 5, 6] ++
    [.restore "d"]

/-- The first time that buffers are put back, the ceiling falls from four to two, and from
there by less than the unit to one; the second time it stays at one. -/
theorem accounts_of_run_twiceDetached :
    let s := (start {} cramped ⟨0⟩).run twiceDetached
    let t := s.step (.restore "e")
    s.registry.stats = ⟨1, 2, 2, 3⟩ ∧ s.returnedBy (.restore "e") = 3 ∧
    (start {} cramped ⟨0⟩).returned twiceDetached = 3 ∧ t.registry.stats = ⟨2, 2, 5, 6⟩ ∧
    t.registry.diagnostics.metrics.eventsRetained = some t.registry.totalRetained ∧
    t.registry.diagnostics.metrics.maxBufferSize = some t.registry.ceiling := by
  obtain ⟨-, -, -, -, hevicted, -, hgauges⟩ := accounts_of_run {} cramped ⟨0⟩ twiceDetached
  have hstats : ((start {} cramped ⟨0⟩).run twiceDetached).registry.stats = ⟨1, 2, 2, 3⟩ := by
    decide +kernel
  have hreturned : ((start {} cramped ⟨0⟩).run twiceDetached).returnedBy (.restore "e") = 3 := by
    decide +kernel
  rw [hstats] at hevicted
  exact ⟨hstats, hreturned, hevicted.symm, by decide +kernel,
    hgauges (.restore "e") (hreturned.symm ▸ Nat.succ_pos 2)⟩

end Session

end FlightRecorder.Registry
