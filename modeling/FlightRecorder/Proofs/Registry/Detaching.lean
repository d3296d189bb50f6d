import FlightRecorder.Proofs.Registry.Balance

/-!
# Taking buffers out and putting them back

Buffers that are put back before anything else was recorded come back as they
were. Two things could interfere: the budget, which is enforced once more, and a
degraded registry, which takes nothing back. Neither does in a registry that keeps
the budget and lost its buffers when it degraded, and the operations that record
keep a registry like that.

* `FlightRecorder.Registry.Drained` – a degraded registry has no buffers;
* `FlightRecorder.Registry.restore_detach` – **putting back undoes taking out**.
-/

namespace FlightRecorder.Registry

/-- **Drained registries** have no buffers once they are degraded. -/
def Drained (r : Registry) : Prop :=
  r.degraded = true → r.arena = {}

section Drained

variable {r r' : Registry} {site : Nat} {kind : SiteKind} {b : SiteBuffer}

theorem drained_of_empty (h : r.arena = {}) : r.Drained :=
  fun _ => h

theorem drained_of_not_degraded (h : r.degraded = false) : r.Drained := by
  intro hdeg
  rw [h] at hdeg
  cases hdeg

theorem Drained.degrade (h : r.Drained) (cause : Failure) : (r.degrade cause).Drained := by
  rw [Registry.degrade]
  split_ifs
  · exact h
  · exact drained_of_empty rfl

theorem Ready.degraded_eq (h : Ready r site kind r' b) : r'.degraded = r.degraded := by
  rw [h.eq_with]

/-- An event is stored or refused by registries that are not degraded, and does not
make them so. -/
theorem Drained.record (h : r.Drained) (site : Nat) (value : Value) (thread : UInt32) :
    (r.record site value thread).Drained := by
  have hout := outcome_record r site value thread
  generalize r.record site value thread = r'' at hout ⊢
  cases hout with
  | unchanged => exact h
  | beyond => exact h.degrade _
  | stored _ hdeg hready => exact drained_of_not_degraded (hready.degraded_eq.trans hdeg)
  | refused _ hdeg hready => exact drained_of_not_degraded (hready.degraded_eq.trans hdeg)

theorem Drained.getOrCreate (h : r.Drained) (site : Nat) (kind : SiteKind) :
    (r.getOrCreate site kind).1.Drained :=
  getOrCreate_ind h h.degrade fun _ _ hdeg hready =>
    drained_of_not_degraded (hready.degraded_eq.trans hdeg)

end Drained

/-- **Putting back undoes taking out**, whatever was reported in between. -/
theorem restore_detach {r : Registry} (hwithin : r.Within) (hdrained : r.Drained)
    (c : Heap.Census) (d : Diagnostics) :
    ({ r.detach.2 with diagnostics := d }).restore c r.detach.1 = { r with diagnostics := d } := by
  have hkept : ({ r with diagnostics := d } : Registry).enforceBudget = { r with diagnostics := d } :=
    enforceBudget_of_le hwithin
  rw [restore]
  split_ifs with hdeg
  · have hempty : r.arena = {} := hdrained hdeg
    simp only [detach, ← hempty]
  · exact hkept

end FlightRecorder.Registry
