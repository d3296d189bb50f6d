import FlightRecorder.Proofs.Registry.Operations
import FlightRecorder.Registry.Session

/-!
# The books of a registry balance

The number of retained events is kept beside the buffers and changed by whatever
an operation thinks it adds or removes. This file proves that it is right at every
point of every run, in the registry and in the arenas taken out of it, and what
the budget makes of it: it is kept, unless arenas that were put back brought in
more sites than it has room for.

* `FlightRecorder.Registry.Settled` – the budget is kept, or there is nothing left
  to trim;
* `FlightRecorder.Registry.Within` – the budget is kept;
* `FlightRecorder.Registry.Session.Balanced` – the invariant of sessions, kept by
  every step (`FlightRecorder.Registry.Session.Balanced.step`);
* `FlightRecorder.Registry.Session.balance_of_run` – **the balance of a run**.
-/

namespace FlightRecorder.Registry

/-- **Settled registries** keep the budget, or their ceiling is at one and no
buffer is above it. -/
def Settled (r : Registry) : Prop :=
  r.ledger.Settled r.globalCapacity

/-- The budget is kept, with no exception. -/
def Within (r : Registry) : Prop :=
  r.arena.retained ≤ r.globalCapacity

section Settled

variable {r r' : Registry} {site : Nat} {kind : SiteKind} {b : SiteBuffer}

theorem Within.settled (h : r.Within) : r.Settled :=
  Or.inl h

/-- A registry without buffers keeps every budget. -/
theorem within_of_empty (h : r.arena = {}) : r.Within := by
  rw [Within, h]
  exact Nat.zero_le _

theorem Within.degrade (h : r.Within) (cause : Failure) : (r.degrade cause).Within := by
  rw [Registry.degrade]
  split_ifs
  · exact h
  · exact within_of_empty rfl

theorem Settled.degrade (h : r.Settled) (cause : Failure) : (r.degrade cause).Settled := by
  rw [Registry.degrade]
  split_ifs
  · exact h
  · exact (within_of_empty rfl).settled

theorem Within.ready (h : r.Within) (hready : Ready r site kind r' b) : r'.Within := by
  cases hready <;> exact h

/-- A buffer that was created is empty. -/
theorem Settled.ready (h : r.Settled) (hready : Ready r site kind r' b) : r'.Settled := by
  cases hready with
  | found => exact h
  | created =>
    rcases h with hle | ⟨hceiling, hsizes⟩
    · exact Or.inl hle
    · refine Or.inr ⟨hceiling, fun p hp => ?_⟩
      rcases Arena.eq_or_mem_of_mem_place hp with rfl | hp
      · exact Nat.zero_le 1
      · exact hsizes p hp

/-! ### Enforcement -/

theorem settled_enforceBudget (h : r.Sound) : r.enforceBudget.Settled :=
  Ledger.settled_enforce r.policy r.globalCapacity (l := r.ledger) h.arena

/-- **An excess of one event never survives enforcement.** -/
theorem within_enforceBudget (h : r.Sound) (hle : r.arena.retained ≤ r.globalCapacity + 1) :
    r.enforceBudget.Within := by
  have hledger : r.ledger.arena.Sound := h.arena
  rcases Nat.lt_or_ge r.globalCapacity r.arena.retained with hover | hkept
  · have hone : r.ledger.retained = r.globalCapacity + 1 := le_antisymm hle hover
    obtain ⟨-, -, -, -, -, -, -, -, hkept⟩ :=
      Ledger.enforce_of_excess_one r.policy hledger hone
    exact hkept
  · rw [enforceBudget_of_le hkept]
    exact hkept

/-! ### The operations -/

theorem Settled.refused (h : r.Settled) (hr : r.Sound) (hb : r.arena.find? site = some b)
    (value : Value) : (r.refused site b value).Settled := by
  rcases h with hle | ⟨hceiling, hsizes⟩
  · exact Or.inl ((hr.retained_refused_le hb value).trans hle)
  · refine Or.inr ⟨hceiling, fun p hp => ?_⟩
    rcases Arena.eq_or_mem_of_mem_place hp with rfl | hp
    · have hsize : b.size ≤ 1 := hsizes (site, b) (hr.arena.find?_eq_some_iff.mp hb)
      rw [SiteBuffer.size_ensureAtMost]
      omega
    · exact hsizes p hp

theorem Settled.record (h : r.Settled) (hr : r.Sound) (site : Nat) (value : Value)
    (thread : UInt32) : (r.record site value thread).Settled := by
  have hout := outcome_record r site value thread
  generalize r.record site value thread = r'' at hout ⊢
  cases hout with
  | unchanged => exact h
  | beyond => exact h.degrade _
  | stored _ _ hready =>
    exact settled_enforceBudget ((hr.ready hready).stored hready.find? _)
  | refused _ _ hready =>
    exact (h.ready hready).refused (hr.ready hready) hready.find? value

theorem Within.record (h : r.Within) (hr : r.Sound) (site : Nat) (value : Value)
    (thread : UInt32) : (r.record site value thread).Within := by
  have hout := outcome_record r site value thread
  generalize r.record site value thread = r'' at hout ⊢
  cases hout with
  | unchanged => exact h
  | beyond => exact h.degrade _
  | @stored r' b _ _ hready =>
    have hr' := hr.ready hready
    have hle := hr'.retained_stored_le hready.find? ⟨value, r.clock.next, thread⟩
    exact within_enforceBudget (hr'.stored hready.find? _)
      (hle.trans (Nat.succ_le_succ (h.ready hready)))
  | refused _ _ hready =>
    exact ((hr.ready hready).retained_refused_le hready.find? value).trans (h.ready hready)

theorem Settled.getOrCreate (h : r.Settled) (site : Nat) (kind : SiteKind) :
    (r.getOrCreate site kind).1.Settled :=
  getOrCreate_ind h h.degrade fun _ _ _ hready => h.ready hready

theorem Within.getOrCreate (h : r.Within) (site : Nat) (kind : SiteKind) :
    (r.getOrCreate site kind).1.Within :=
  getOrCreate_ind h h.degrade fun _ _ _ hready => h.ready hready

/-- Whatever was put back, enforcement settles it. -/
theorem Settled.restore (h : r.Settled) (hr : r.Sound) {detached : Arena} (hd : detached.Sound)
    (c : Heap.Census) : (r.restore c detached).Settled := by
  rw [Registry.restore]
  split_ifs
  · exact h
  · have hstart : Sound { r with arena := detached } := ⟨hd, hr.ceiling_pos⟩
    exact settled_enforceBudget (hstart.foldl_merge c r.arena.buffers)

end Settled

namespace Session

/-- **Balanced sessions**: all books are right, and the budget is settled. -/
structure Balanced (s : Session) : Prop where
  registry : s.registry.Sound
  settled : s.registry.Settled
  parked : ∀ p ∈ s.parked, p.2.Sound

section Balanced

variable {s : Session}

/-- A session about to begin. -/
def start (heap : Heap) (limits : RegistryLimits) (clock : Clock) : Session :=
  { heap, registry := .new limits clock }

theorem balanced_start (heap : Heap) (limits : RegistryLimits) (clock : Clock) :
    (start heap limits clock).Balanced where
  registry := sound_new limits clock
  settled := (within_of_empty rfl).settled
  parked _ hp := absurd hp List.not_mem_nil

/-- **Every step keeps a session balanced.** -/
theorem Balanced.step (h : s.Balanced) (a : Action) : (s.step a).Balanced := by
  cases a with
  | record site value thread =>
    exact ⟨h.registry.record site value thread, h.settled.record h.registry site value thread,
      h.parked⟩
  | getOrCreate site kind =>
    exact ⟨h.registry.getOrCreate site kind, h.settled.getOrCreate site kind, h.parked⟩
  | detach name =>
    refine ⟨⟨Arena.sound_empty, h.registry.ceiling_pos⟩, (within_of_empty rfl).settled, ?_⟩
    intro p hp
    rcases List.mem_cons.mp hp with rfl | hp
    · exact h.registry.arena
    · exact h.parked p (List.mem_of_mem_filter hp)
  | restore name =>
    rw [Session.step]
    split
    · exact h
    · rename_i arena hlookup
      have harena : arena.Sound := by
        obtain ⟨before, after, hparked, -⟩ := List.lookup_eq_some_iff.mp hlookup
        exact h.parked (name, arena) (hparked ▸ List.mem_append_right _ List.mem_cons_self)
      exact ⟨h.registry.restore harena _, h.settled.restore h.registry harena _,
        fun p hp => h.parked p (List.mem_of_mem_filter hp)⟩
  | close => exact ⟨⟨h.registry.arena, h.registry.ceiling_pos⟩, h.settled, h.parked⟩
  | create spec => exact ⟨h.registry, h.settled, h.parked⟩
  | release name => exact ⟨h.registry, h.settled, h.parked⟩

theorem Balanced.run (h : s.Balanced) (actions : List Action) : (s.run actions).Balanced := by
  induction actions generalizing s with
  | nil => exact h
  | cons a rest ih => exact ih (h.step a)

/-- No step changes what governs the registry. -/
theorem rules_step (s : Session) (a : Action) : (s.step a).registry.rules = s.registry.rules := by
  cases a with
  | record site value thread => exact rules_record _ _ _ _
  | getOrCreate site kind => exact rules_getOrCreate _ _ _
  | restore name =>
    rw [Session.step]
    split
    · rfl
    · exact rules_restore _ _ _
  | detach | close | create | release => rfl

theorem rules_run (s : Session) (actions : List Action) :
    (s.run actions).registry.rules = s.registry.rules := by
  induction actions generalizing s with
  | nil => rfl
  | cons a rest ih => exact (ih (s.step a)).trans (rules_step s a)

/-! ### Runs that put nothing back -/

/-- Whether an action puts buffers back. -/
def Action.restores : Action → Bool
  | .restore _ => true
  | _ => false

/-- **Only buffers that are put back can exceed the budget.** -/
theorem within_step (h : s.registry.Within) (hs : s.registry.Sound) {a : Action}
    (ha : a.restores = false) : (s.step a).registry.Within := by
  cases a with
  | record site value thread => exact h.record hs site value thread
  | getOrCreate site kind => exact h.getOrCreate site kind
  | detach => exact within_of_empty rfl
  | restore => cases ha
  | close | create | release => exact h

theorem within_run (h : s.registry.Within) (hs : s.Balanced) {actions : List Action}
    (ha : ∀ a ∈ actions, a.restores = false) : (s.run actions).registry.Within := by
  induction actions generalizing s with
  | nil => exact h
  | cons a rest ih =>
    have hstep := within_step h hs.registry (ha a List.mem_cons_self)
    exact ih hstep (hs.step a) fun b hb => ha b (List.mem_cons_of_mem a hb)

/-- **The balance of a run.** At every point of every run of a new registry, the
number of retained events is the number of events there are, also in every arena
that waits to be put back; and the budget is kept, or the ceiling is at one and no
buffer is above it. If nothing was ever put back, the budget is kept. -/
theorem balance_of_run (heap : Heap) (limits : RegistryLimits) (clock : Clock)
    (actions : List Action) :
    let s := (start heap limits clock).run actions
    s.registry.totalRetained = s.registry.arena.totalSize ∧
    (∀ p ∈ s.parked, p.2.retained = p.2.totalSize) ∧
    (s.registry.totalRetained ≤ limits.globalCapacity ∨
      (s.registry.ceiling = 1 ∧ ∀ p ∈ s.registry.arena.buffers, p.2.size ≤ 1)) ∧
    ((∀ a ∈ actions, a.restores = false) →
      s.registry.totalRetained ≤ limits.globalCapacity) := by
  intro s
  have hs : s.Balanced := (balanced_start heap limits clock).run actions
  have hcapacity : s.registry.globalCapacity = limits.globalCapacity :=
    globalCapacity_of_rules (rules_run (start heap limits clock) actions)
  refine ⟨hs.registry.arena.retained, fun p hp => (hs.parked p hp).retained, ?_, fun ha => ?_⟩
  · rw [← hcapacity]
    rcases hs.settled with hle | ⟨hceiling, hsizes⟩
    · exact Or.inl hle
    · exact Or.inr ⟨le_antisymm hceiling hs.registry.ceiling_pos, hsizes⟩
  · rw [← hcapacity]
    exact within_run (within_of_empty rfl) (balanced_start heap limits clock) ha

end Balanced

end Session

end FlightRecorder.Registry
