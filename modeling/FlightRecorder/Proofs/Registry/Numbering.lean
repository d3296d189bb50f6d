import Mathlib.Data.List.Pairwise
import FlightRecorder.Proofs.Registry.Detaching
import FlightRecorder.Proofs.Registry.Latest

/-!
# Numbers in the order of events

All sites are stamped by one clock. So long as it does not run past its last
number, later events have larger numbers, and whatever a registry retains of a
stretch of time has numbers of that stretch: increasing at each site, and not
shared by two sites.

* `FlightRecorder.Registry.InOrder` – a log with increasing numbers, from one time
  on and below another;
* `FlightRecorder.Registry.Dated` – a registry whose buffers follow such a log
  (`FlightRecorder.Registry.Dated.record`);
* `FlightRecorder.Registry.Dated.increasing`,
  `FlightRecorder.Registry.Dated.bounds`, `FlightRecorder.Registry.Dated.site_eq` –
  **the numbers in its buffers**.
-/

namespace FlightRecorder

/-- The sequence numbers of the events of a buffer, oldest first, as the columns of
a trace have them. -/
def SiteBuffer.seqs (b : SiteBuffer) : List UInt64 :=
  b.events.map (·.seq)

/-- A buffer has the latest numbers of the log that it follows. -/
theorem SiteBuffer.Latest.seqs_suffix {b : SiteBuffer} {p : Retention} {log : List Reading}
    (h : b.Latest p log) : b.seqs <:+ log.map (·.seq) := by
  have hseq : log.map (·.seq) = (log.map (·.store p)).map (·.seq) := by
    rw [List.map_map]
    rfl
  rw [hseq]
  exact h.2.map (·.seq)

namespace Registry

/-! ### Logs -/

/-- **A log in order**: its numbers increase, from `lo` on and below `now`. -/
structure InOrder (log : List (Nat × Reading)) (lo now : Nat) : Prop where
  increasing : log.Pairwise fun x y => x.2.seq < y.2.seq
  bounds : ∀ x ∈ log, lo ≤ x.2.seq.toNat ∧ x.2.seq.toNat < now

section InOrder

variable {log : List (Nat × Reading)} {lo now now' site : Nat} {x y : Nat × Reading} {e : Reading}

theorem inOrder_nil (lo now : Nat) : InOrder [] lo now :=
  ⟨List.Pairwise.nil, fun _ hx => absurd hx List.not_mem_nil⟩

theorem InOrder.mono (h : InOrder log lo now) (hle : now ≤ now') : InOrder log lo now' :=
  ⟨h.increasing, fun x hx => ⟨(h.bounds x hx).1, (h.bounds x hx).2.trans_le hle⟩⟩

/-- A log goes on with the event of the moment. -/
theorem InOrder.concat (h : InOrder log lo now) (hlo : lo ≤ now) (hx : x.2.seq.toNat = now) :
    InOrder (log ++ [x]) lo (now + 1) := by
  refine ⟨List.pairwise_append.mpr ⟨h.increasing, List.pairwise_singleton _ _, ?_⟩, ?_⟩
  · intro y hy z hz
    rw [List.mem_singleton.mp hz, UInt64.lt_iff_toNat_lt, hx]
    exact (h.bounds y hy).2
  · intro y hy
    rcases List.mem_append.mp hy with hy | hy
    · have hbounds := h.bounds y hy
      omega
    · rw [List.mem_singleton.mp hy]
      omega

/-- Two events of a log with one number are one. -/
theorem InOrder.eq_of_seq (h : InOrder log lo now) (hx : x ∈ log) (hy : y ∈ log)
    (hseq : x.2.seq = y.2.seq) : x = y := by
  by_contra hne
  have hpairs : log.Pairwise fun x y => x.2.seq ≠ y.2.seq :=
    h.increasing.imp fun hlt => UInt64.ne_of_lt hlt
  have : Std.Symm fun x y : Nat × Reading => x.2.seq ≠ y.2.seq := ⟨fun _ _ h => h.symm⟩
  exact hpairs.forall hx hy hne hseq

theorem mem_eventsAt : e ∈ eventsAt log site ↔ (site, e) ∈ log := by
  simp only [eventsAt, List.mem_filterMap, Option.ite_none_right_eq_some, Option.some.injEq]
  constructor
  · rintro ⟨x, hx, rfl, rfl⟩
    exact hx
  · intro hx
    exact ⟨(site, e), hx, rfl, rfl⟩

/-- The events of one site are in order too. -/
theorem InOrder.increasing_eventsAt (h : InOrder log lo now) (site : Nat) :
    ((eventsAt log site).map (·.seq)).Pairwise (· < ·) := by
  rw [List.pairwise_map, eventsAt, List.pairwise_filterMap]
  refine h.increasing.imp ?_
  rintro ⟨s, e⟩ ⟨s', e'⟩ hlt b hb b' hb'
  simp only [Option.ite_none_right_eq_some, Option.some.injEq] at hb hb'
  rw [← hb.2, ← hb'.2]
  exact hlt

end InOrder

/-! ### Registries -/

/-- **A dated registry**: what its buffers hold was stored from the time `lo` on and
before `now`. -/
def Dated (r : Registry) (lo now : Nat) : Prop :=
  ∃ log, r.Follows log ∧ InOrder log lo now

section Dated

variable {r : Registry} {lo now now' : Nat} {p q : Nat × SiteBuffer} {m : UInt64}

/-- A registry without buffers is dated however one likes. -/
theorem dated_of_empty (h : r.arena = {}) (lo now : Nat) : r.Dated lo now := by
  refine ⟨[], fun p hp => ?_, inOrder_nil lo now⟩
  rw [h] at hp
  exact absurd hp List.not_mem_nil

/-- An event that is stored gets the number of the moment. -/
theorem Dated.record (h : r.Dated lo now) (hr : r.Sound) (hlo : lo ≤ now)
    (hclock : r.clock.next.toNat = now) (site : Nat) (value : Value) (thread : UInt32) :
    (r.record site value thread).Dated lo (now + 1) := by
  obtain ⟨log, hfollows, horder⟩ := h
  refine ⟨r.logged log site value thread, hfollows.record hr site value thread, ?_⟩
  rw [logged]
  split_ifs
  · exact horder.concat hlo hclock
  · exact horder.mono (Nat.le_succ now)

theorem Dated.increasing (h : r.Dated lo now) (hp : p ∈ r.arena.buffers) :
    p.2.seqs.Pairwise (· < ·) := by
  obtain ⟨log, hfollows, horder⟩ := h
  exact (horder.increasing_eventsAt p.1).sublist (hfollows p hp).seqs_suffix.sublist

/-- A number in a buffer is the number of an event of its site. -/
theorem Follows.exists_of_mem_seqs {log : List (Nat × Reading)} (h : r.Follows log)
    (hp : p ∈ r.arena.buffers) (hm : m ∈ p.2.seqs) : ∃ e, (p.1, e) ∈ log ∧ e.seq = m := by
  obtain ⟨e, he, hseq⟩ := List.mem_map.mp ((h p hp).seqs_suffix.subset hm)
  exact ⟨e, mem_eventsAt.mp he, hseq⟩

theorem Dated.bounds (h : r.Dated lo now) (hp : p ∈ r.arena.buffers) (hm : m ∈ p.2.seqs) :
    lo ≤ m.toNat ∧ m.toNat < now := by
  obtain ⟨log, hfollows, horder⟩ := h
  obtain ⟨e, he, rfl⟩ := hfollows.exists_of_mem_seqs hp hm
  exact horder.bounds _ he

/-- **No number is at two sites.** -/
theorem Dated.site_eq (h : r.Dated lo now) (hp : p ∈ r.arena.buffers) (hq : q ∈ r.arena.buffers)
    (hm : m ∈ p.2.seqs) (hm' : m ∈ q.2.seqs) : p.1 = q.1 := by
  obtain ⟨log, hfollows, horder⟩ := h
  obtain ⟨e, he, hseq⟩ := hfollows.exists_of_mem_seqs hp hm
  obtain ⟨e', he', hseq'⟩ := hfollows.exists_of_mem_seqs hq hm'
  have heq : (p.1, e) = (q.1, e') := horder.eq_of_seq he he' (hseq.trans hseq'.symm)
  exact (Prod.mk.inj heq).1

end Dated

/-! ### The clock -/

section Clock

variable {r r' : Registry} {site : Nat} {kind : SiteKind} {b : SiteBuffer} {value : Value}

theorem Ready.clock_eq (h : Ready r site kind r' b) : r'.clock = r.clock := by
  rw [h.eq_with]

end Clock

end Registry

end FlightRecorder
