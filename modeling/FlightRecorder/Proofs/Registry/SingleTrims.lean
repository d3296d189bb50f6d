import FlightRecorder.Proofs.Registry.Evictions

/-!
# One trim for one record

Enforcement is a loop of passes over sweeps over buffers, but a record that keeps a
registry within its budget until it is stored exceeds the budget by one event at the
most, and a trim removes at least one. So all of the loops collapse to a single trim.
This file says which buffer it falls on, and what it costs it; everything else stays
where it is.

* `FlightRecorder.TieBreak.Precedes` – the order in which a tie-break goes over sites
  (`FlightRecorder.Ledger.pairwise_heaviest`);
* `FlightRecorder.Registry.find?_take` – every buffer after an event was stored;
* `FlightRecorder.Registry.TrimmedOnce` – a registry after a single trim;
* `FlightRecorder.Registry.Session.trim_of_record` – **a record within the budget is
  paid for by a single trim, or by none**.
-/

namespace FlightRecorder

/-- **The order of a tie-break**: whether a site comes before another, or is the
same. -/
def TieBreak.Precedes : TieBreak → Nat → Nat → Prop
  | .siteOrder, s, t => s ≤ t
  | .reverse, s, t => t ≤ s

theorem TieBreak.Precedes.refl (t : TieBreak) (s : Nat) : t.Precedes s s := by
  cases t <;> exact le_refl s

/-- How many events a trim takes off one of the largest buffers. -/
def BudgetPolicy.share (p : BudgetPolicy) (b : SiteBuffer) : Nat :=
  min p.evictionUnit b.size

/-! ### The first of the largest buffers -/

namespace Ledger

variable {l : Ledger} {site : Nat} {b : SiteBuffer} {rest : List Nat}

/-- The largest buffers are listed in the order of the tie-break. -/
theorem pairwise_heaviest (hl : Arena.Ordered l.buffers) (t : TieBreak) :
    (l.heaviest t).Pairwise t.Precedes := by
  have hsites : ((l.buffers.filter fun x => x.2.size == l.largestSize && l.largestSize != 0).map
      (·.1)).Pairwise (· ≤ ·) :=
    List.Pairwise.map _ (fun _ _ => le_of_lt) (hl.filter _)
  cases t with
  | siteOrder => exact hsites
  | reverse => exact List.pairwise_reverse.mpr hsites

/-- **Their first** is at least as large as any other, and comes before those of its
size. -/
theorem largest_of_heaviest {t : TieBreak} (hl : l.arena.Sound)
    (hheaviest : l.heaviest t = site :: rest) (hsize : b.size = l.largestSize) (hpos : 0 < b.size)
    {s : Nat} {x : SiteBuffer} (hx : l.arena.find? s = some x) :
    x.size ≤ b.size ∧ (x.size = b.size → t.Precedes site s) := by
  have hmem : (s, x) ∈ l.buffers := hl.find?_eq_some_iff.mp hx
  refine ⟨hsize ▸ size_le_largestSize hmem, fun hsame => ?_⟩
  have hlisted : s ∈ site :: rest := by
    rw [← hheaviest, mem_heaviest_iff]
    exact ⟨x, hmem, hsame.trans hsize, hsize ▸ hpos⟩
  have hordered := pairwise_heaviest hl.ordered t
  rw [hheaviest, List.pairwise_cons] at hordered
  rcases List.mem_cons.mp hlisted with rfl | hrest
  · exact .refl t s
  · exact hordered.1 s hrest

/-! ### Lowering the ceiling once -/

theorem ceiling_lowerCeiling_of_pos (p : BudgetPolicy) (h : 0 < l.ceiling) :
    (l.lowerCeiling p).ceiling = max (l.ceiling - p.evictionUnit) 1 := by
  rw [ceiling_lowerCeiling, nextCeiling]
  omega

/-- It counts unless the ceiling is at one. -/
theorem stats_lowerCeiling_of_pos (p : BudgetPolicy) (h : 0 < l.ceiling) :
    (l.lowerCeiling p).stats = { l.stats with
      ceilingDecrements := l.stats.ceilingDecrements + if 1 < l.ceiling then 1 else 0 } := by
  have hu := p.evictionUnit_pos
  have hfalls : l.nextCeiling p < l.ceiling ↔ 1 < l.ceiling := by
    rw [nextCeiling]
    omega
  rw [stats_lowerCeiling]
  simp only [hfalls]

theorem lookup_cut (l : Ledger) (site n s : Nat) :
    (l.cut site n).buffers.lookup s =
      if s = site then (l.buffers.lookup s).map (·.dropOldest n) else l.buffers.lookup s :=
  Arena.lookup_adjust (f := (·.dropOldest n)) s

end Ledger

namespace Registry

/-! ### An event that is stored -/

section Take

variable {r r' : Registry} {site : Nat} {value : Value} {b : SiteBuffer}

theorem find?_stored (r : Registry) (site : Nat) (b : SiteBuffer) (e : Reading) (s : Nat) :
    (r.stored site b e).arena.find? s =
      if s = site then some ((b.ensureAtMost r.ceiling).push e) else r.arena.find? s :=
  Arena.lookup_place _ _ _ _

/-- **Every buffer after an event was stored**: the one of its site, found or created,
was brought under the ceiling and took the event; the others are as they were. -/
theorem find?_take (h : r.accepts site value = true) (thread : UInt32) (s : Nat) :
    (r.take site value thread).arena.find? s =
      if s = site then
        some ((((r.arena.find? site).getD (.new (.of value.kind) r.ceiling r.retention)).ensureAtMost
          r.ceiling).push ⟨value, r.clock.next, thread⟩)
      else r.arena.find? s := by
  obtain ⟨r', b, hready, -, htake⟩ := exists_take_eq h thread
  have hceiling : r'.ceiling = r.ceiling := ceiling_of_books hready.books
  rw [htake, find?_stored, hceiling]
  split_ifs with hs
  · rw [← hready.eq_getD]
  · exact hready.find?_of_ne hs

/-- It adds at most one to the number of retained events. -/
theorem totalRetained_take_le (hr : r.Sound) (h : r.accepts site value = true) (thread : UInt32) :
    (r.take site value thread).totalRetained ≤ r.totalRetained + 1 := by
  obtain ⟨r', b, hready, -, htake⟩ := exists_take_eq h thread
  have hsame : r'.arena.retained = r.arena.retained := by
    cases hready <;> rfl
  have hle := (hr.ready hready).retained_stored_le hready.find? ⟨value, r.clock.next, thread⟩
  rw [htake, totalRetained, totalRetained, ← hsame]
  exact hle

end Take

/-! ### A single trim -/

/-- **A registry after a single trim**: `TrimmedOnce p capacity full r victim b` says that
`r` is the registry `full` after one pass of enforcement in which one trim was made, of
the buffer `b` of the site `victim`. -/
structure TrimmedOnce (p : BudgetPolicy) (capacity : Nat) (full r : Registry) (victim : Nat)
    (b : SiteBuffer) : Prop where
  find? : full.arena.find? victim = some b
  /-- No buffer is larger, and those that are as large come later. -/
  largest : ∀ s x, full.arena.find? s = some x →
    x.size ≤ b.size ∧ (x.size = b.size → p.tieBreak.Precedes victim s)
  trimmed : r.arena.find? victim = some (b.dropOldest (p.share b))
  /-- It has lost as many of its oldest events, and its limit as much room. -/
  events : (b.dropOldest (p.share b)).events = b.events.drop (p.share b)
  limit : (b.dropOldest (p.share b)).limit = max (b.limit - p.share b) 1
  others : ∀ s, s ≠ victim → r.arena.find? s = full.arena.find? s
  ceiling : r.ceiling = max (full.ceiling - p.evictionUnit) 1
  stats : r.stats =
    { enforcements := full.stats.enforcements + 1
      ceilingDecrements := full.stats.ceilingDecrements + if 1 < full.ceiling then 1 else 0
      trims := full.stats.trims + 1
      evicted := full.stats.evicted + p.share b }
  pass : r.ledger = full.ledger.counted.pass p capacity
  total : r.totalRetained = capacity + 1 - p.share b

/-- **An excess of one event** is met by a single trim. -/
theorem exists_trimmedOnce {full : Registry} (hfull : full.Sound)
    (hone : full.totalRetained = full.globalCapacity + 1) :
    ∃ victim b,
      TrimmedOnce full.policy full.globalCapacity full full.enforceBudget victim b := by
  have hledger : full.ledger.arena.Sound := hfull.arena
  obtain ⟨victim, rest, b, hheaviest, hb, hsize, hpos, henforce, -⟩ :=
    Ledger.enforce_of_excess_one full.policy hledger hone
  obtain ⟨hpass, -⟩ :=
    Ledger.pass_of_excess_one (l := full.ledger.counted) hledger hone hheaviest hb hpos
  have hafter : full.enforceBudget.ledger =
      (full.ledger.counted.lowerCeiling full.policy).cut victim (full.policy.share b) := henforce
  have harena : (full.ledger.counted.lowerCeiling full.policy).arena = full.arena :=
    Ledger.arena_lowerCeiling _ _
  have hceiling := Ledger.ceiling_lowerCeiling_of_pos full.policy (l := full.ledger.counted)
    hfull.ceiling_pos
  have hstats := Ledger.stats_lowerCeiling_of_pos full.policy (l := full.ledger.counted)
    hfull.ceiling_pos
  -- all that is needed of the ledger under the lowered ceiling has been said
  generalize full.ledger.counted.lowerCeiling full.policy = lowered at *
  have hb' : lowered.buffers.lookup victim = some b := (congrArg (·.find? victim) harena).trans hb
  have hshare : full.policy.share b ≤ b.size := Nat.min_le_right _ _
  have hwf := hfull.arena.wellFormed_of_find? hb
  have hfind (s : Nat) : full.enforceBudget.arena.find? s =
      (lowered.cut victim (full.policy.share b)).buffers.lookup s :=
    congrArg (·.buffers.lookup s) hafter
  have hretained := Ledger.retained_cut (harena ▸ hfull.arena) hb' hshare
  refine ⟨victim, b, ?_⟩
  exact
    { find? := hb
      largest := fun s x hx => Ledger.largest_of_heaviest hledger hheaviest hsize hpos hx
      trimmed := by rw [hfind, Ledger.lookup_cut, if_pos rfl, hb', Option.map_some]
      events := SiteBuffer.events_dropOldest hwf _
      limit := by rw [SiteBuffer.limit_dropOldest hwf, Nat.min_eq_left hshare]
      others := fun s hs => by
        rw [hfind, Ledger.lookup_cut, if_neg hs]
        exact congrArg (·.find? s) harena
      ceiling := (congrArg Ledger.ceiling hafter).trans hceiling
      stats := by
        have hcut := congrArg Ledger.stats hafter
        simp only [Ledger.cut, hstats] at hcut
        exact hcut
      pass := hafter.trans hpass.symm
      total := by
        have hfull' : lowered.retained = full.globalCapacity + 1 :=
          (congrArg Arena.retained harena).trans hone
        rw [hfull'] at hretained
        exact (congrArg Ledger.retained hafter).trans hretained }

/-! ### Recording within the budget -/

namespace Session

/-- **A record within the budget is paid for by a single trim, or by none.** In every run
of a new registry, if the budget is kept and an event is accepted, then storing it changes
no buffer but that of its site, and exceeds the budget by one event at the most. If it
does not, that is all; otherwise one pass is made, with one trim: the first of the largest
buffers, in the order of the tie-break, loses a unit of its oldest events or all of them,
and the ceiling is lowered by a unit, though not below one. -/
theorem trim_of_record (heap : Heap) (limits : RegistryLimits) (clock : Clock)
    (actions : List Action) {site : Nat} {value : Value} (thread : UInt32)
    (hwithin : ((start heap limits clock).run actions).registry.totalRetained ≤
      limits.globalCapacity)
    (haccepts : ((start heap limits clock).run actions).registry.accepts site value = true) :
    let r := ((start heap limits clock).run actions).registry
    let full := r.take site value thread
    let after := r.record site value thread
    let fresh := SiteBuffer.new (.of value.kind) r.ceiling r.retention
    full.arena.find? site = some ((((r.arena.find? site).getD fresh).ensureAtMost r.ceiling).push
      ⟨value, r.clock.next, thread⟩) ∧
    (∀ s, s ≠ site → full.arena.find? s = r.arena.find? s) ∧
    full.ceiling = r.ceiling ∧ full.stats = r.stats ∧
    full.totalRetained = full.arena.totalSize ∧
    (full.totalRetained ≤ limits.globalCapacity →
      (∀ s, s ≠ site → after.arena.find? s = r.arena.find? s) ∧
      after.ceiling = r.ceiling ∧ after.stats = r.stats) ∧
    (limits.globalCapacity < full.totalRetained → ∃ victim b,
      TrimmedOnce (.of limits.evictionUnit limits.tieBreak) limits.globalCapacity full after
        victim b ∧
      ∀ s, s ≠ site → s ≠ victim → after.arena.find? s = r.arena.find? s) := by
  intro r full after fresh
  have hr : r.Sound := ((balanced_start heap limits clock).run actions).registry
  have hrules : full.rules = (start heap limits clock).registry.rules :=
    (rules_take haccepts thread).trans (rules_run _ actions)
  have hcapacity : full.globalCapacity = limits.globalCapacity := globalCapacity_of_rules hrules
  have hpolicy : full.policy = .of limits.evictionUnit limits.tieBreak := policy_of_rules hrules
  have hfull : full.Sound := hr.take haccepts thread
  have hbooks : full.books = r.books := books_take haccepts thread
  have hsite := find?_take haccepts thread site
  have hothers : ∀ s, s ≠ site → full.arena.find? s = r.arena.find? s := fun s hs => by
    rw [find?_take haccepts thread, if_neg hs]
  rw [if_pos rfl] at hsite
  have hafter : after = full.enforceBudget := record_of_accepts haccepts thread
  refine ⟨hsite, hothers, ceiling_of_books hbooks, stats_of_books hbooks, hfull.arena.retained,
    fun hkept => ?_, fun hover => ?_⟩
  · rw [hafter, enforceBudget_of_le (hkept.trans hcapacity.ge)]
    exact ⟨hothers, ceiling_of_books hbooks, stats_of_books hbooks⟩
  · have hle : full.totalRetained ≤ limits.globalCapacity + 1 :=
      (totalRetained_take_le hr haccepts thread).trans (Nat.succ_le_succ hwithin)
    obtain ⟨victim, b, htrimmed⟩ :=
      exists_trimmedOnce hfull (hcapacity ▸ le_antisymm hle hover)
    rw [hpolicy, hcapacity, ← hafter] at htrimmed
    exact ⟨victim, b, htrimmed, fun s hs hv => (htrimmed.others s hv).trans (hothers s hs)⟩

/-- Two events at a site and one at another, which fill the budget. -/
def evenly : RegistryLimits × List Action :=
  ({ bufferSize := 4, globalCapacity := 3, evictionUnit := 2, tieBreak := .reverse },
    [.record 0 (.int 1) 0, .record 0 (.int 2) 0, .record 5 (.int 3) 0])

/-- One more event makes the two buffers equal, and in reverse order of sites the one that
took it comes first. -/
theorem trim_of_record_evenly :
    let r := ((start {} evenly.1 ⟨0⟩).run evenly.2).registry
    r.totalRetained ≤ 3 ∧ r.accepts 5 (.int 4) = true ∧
    (r.take 5 (.int 4) 0).arena.buffers.map (fun q => (q.1, q.2.size)) = [(0, 2), (5, 2)] ∧
    (∃ victim b, TrimmedOnce (.of 2 .reverse) 3 (r.take 5 (.int 4) 0) (r.record 5 (.int 4) 0)
      victim b) ∧
    (r.record 5 (.int 4) 0).arena.buffers.map (fun q => (q.1, q.2.size)) = [(0, 2), (5, 0)] := by
  have hwithin : ((start {} evenly.1 ⟨0⟩).run evenly.2).registry.totalRetained ≤ 3 := by
    decide +kernel
  have haccepts : ((start {} evenly.1 ⟨0⟩).run evenly.2).registry.accepts 5 (.int 4) = true := by
    decide +kernel
  obtain ⟨-, -, -, -, -, -, htrim⟩ := trim_of_record {} evenly.1 ⟨0⟩ evenly.2 0 hwithin haccepts
  obtain ⟨victim, b, htrimmed, -⟩ := htrim (by decide +kernel)
  exact ⟨hwithin, haccepts, by decide +kernel, ⟨victim, b, htrimmed⟩, by decide +kernel⟩

end Session

end Registry

end FlightRecorder
