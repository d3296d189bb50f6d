import Mathlib.Tactic.SplitIfs
import FlightRecorder.Registry

/-!
# Reports are not read

What a registry reports to the diagnostics it never looks at again. So a registry
whose reports are struck out does to buffers, budget and clock what it would have
done with them: striking out can be moved past every operation. Two registries that
differ in their reports only can therefore not be told apart by using them.

* `FlightRecorder.Registry.silent` – a registry without its reports;
* `FlightRecorder.Registry.silent_record`, `FlightRecorder.Registry.silent_getOrCreate`,
  `FlightRecorder.Registry.silent_restore` – **the operations do not read them**.
-/

namespace FlightRecorder.Registry

/-- **A registry without its reports.** -/
def silent (r : Registry) : Registry :=
  { r with diagnostics := {} }

variable (r : Registry)

theorem silent_close : r.close.silent = r.silent.close := rfl

theorem silent_detach : r.detach.2.silent = r.silent.detach.2 := rfl

theorem silent_enforceBudget : r.enforceBudget.silent = r.silent.enforceBudget.silent := rfl

theorem silent_degrade (cause : Failure) :
    (r.degrade cause).silent = (r.silent.degrade cause).silent := by
  have hsame : r.silent.degraded = r.degraded := rfl
  rw [degrade, degrade, hsame]
  split_ifs <;> rfl

/-- The buffer of a site, and what is reported with it. -/
theorem silent_getOrCreate (site : Nat) (kind : SiteKind) :
    (r.getOrCreate site kind).1.silent = (r.silent.getOrCreate site kind).1.silent ∧
      (r.getOrCreate site kind).2 = (r.silent.getOrCreate site kind).2 := by
  have hdegraded : r.silent.degraded = r.degraded := rfl
  have harena : r.silent.arena = r.arena := rfl
  have hslot : r.silent.lacksSlot site = r.lacksSlot site := rfl
  have hrefusal : ∀ b, r.silent.bufferRefusal? site b .ample = r.bufferRefusal? site b .ample :=
    fun b => rfl
  have hnew : SiteBuffer.new kind r.silent.ceiling r.silent.retention =
    SiteBuffer.new kind r.ceiling r.retention := rfl
  rw [getOrCreate, getOrCreate, hdegraded, harena]
  cases r.arena.find? site with
  | some b => split_ifs <;> exact ⟨rfl, rfl⟩
  | none =>
    simp only [hrefusal, hslot, hnew]
    split_ifs
    · exact ⟨rfl, rfl⟩
    all_goals cases r.bufferRefusal? site (.new kind r.ceiling r.retention) .ample with
      | none => exact ⟨rfl, rfl⟩
      | some f => exact ⟨silent_degrade r f, rfl⟩

theorem silent_store (site : Nat) (b : SiteBuffer) (value : Value) (thread : UInt32) :
    (r.store site b value thread).silent = (r.silent.store site b value thread).silent := by
  have hceiling : r.silent.ceiling = r.ceiling := rfl
  have hclock : r.silent.clock = r.clock := rfl
  rw [store, store, hceiling, hclock]
  dsimp only
  cases (b.ensureAtMost r.ceiling).add? value r.clock.next thread Memory.ample.growth with
  | ok added => rfl
  | error f =>
    dsimp only
    split_ifs
    · exact silent_degrade _ f
    · rfl

/-- **Recording** does not read what was reported. -/
theorem silent_record (site : Nat) (value : Value) (thread : UInt32) :
    (r.record site value thread).silent = (r.silent.record site value thread).silent := by
  have hclosed : r.silent.closed = r.closed := rfl
  have hdegraded : r.silent.degraded = r.degraded := rfl
  rw [record, record, hclosed, hdegraded]
  split_ifs
  · rfl
  · obtain ⟨hregistry, hbuffer⟩ := r.silent_getOrCreate site (.of value.kind)
    generalize r.getOrCreate site (.of value.kind) = x at hregistry hbuffer ⊢
    generalize r.silent.getOrCreate site (.of value.kind) = x' at hregistry hbuffer ⊢
    obtain ⟨r₁, b⟩ := x
    obtain ⟨r₂, b'⟩ := x'
    obtain rfl : b = b' := hbuffer
    cases b with
    | none => exact hregistry
    | some b =>
      dsimp only at hregistry ⊢
      rw [silent_store, hregistry, ← silent_store]

theorem silent_merge (c : Heap.Census) (interim : Nat × SiteBuffer) :
    (merge c r interim).silent = (merge c r.silent interim).silent := by
  rw [merge, merge]
  obtain ⟨hregistry, hbuffer⟩ := r.silent_getOrCreate interim.1 (.of interim.2.kind)
  generalize r.getOrCreate interim.1 (.of interim.2.kind) = x at hregistry hbuffer ⊢
  generalize r.silent.getOrCreate interim.1 (.of interim.2.kind) = x' at hregistry hbuffer ⊢
  obtain ⟨r₁, b⟩ := x
  obtain ⟨r₂, b'⟩ := x'
  obtain rfl : b = b' := hbuffer
  cases b with
  | none => exact hregistry
  | some target =>
    let merged := (append target (interim.2.records c)).1
    exact congrArg (fun q : Registry => { q with arena :=
      { buffers := Arena.place interim.1 merged q.arena.buffers
        retained := q.arena.retained + (merged.size - target.size) } }) hregistry

theorem silent_merges (c : Heap.Census) (interim : List (Nat × SiteBuffer)) :
    (interim.foldl (merge c) r).silent = (interim.foldl (merge c) r.silent).silent := by
  induction interim generalizing r with
  | nil => rfl
  | cons b rest ih =>
    rw [List.foldl_cons, List.foldl_cons, ih, silent_merge, ← ih]

/-- **Putting back** does not read what was reported. -/
theorem silent_restore (c : Heap.Census) (detached : Arena) :
    (r.restore c detached).silent = (r.silent.restore c detached).silent := by
  have hdegraded : r.silent.degraded = r.degraded := rfl
  rw [restore, restore, hdegraded]
  split_ifs
  · rfl
  · dsimp only
    rw [silent_enforceBudget, silent_merges, ← silent_enforceBudget]
    rfl

end FlightRecorder.Registry
