import Mathlib.Data.List.Forall2
import FlightRecorder.Proofs.Registry.Restoring

/-!
# What is left of a history that was put back together

While the buffers are out, a window is open: events go to new buffers, under a
ceiling that may have fallen, and the budget is enforced on those. When the window
closes, each buffer put back takes what is left of the events in between. This file
follows the whole history of a site through runs that open one window at a time.

What a buffer holds is always some of the history in its order. It is the latest of
the history, with no gap, so long as every window closes without a seam: at each site
that had events both before and meanwhile, the new buffer still has all that was
recorded meanwhile, or has as much as the old one may hold. Where it has neither, the
old buffer keeps its old events beside the new ones, and those in between are gone.

* `FlightRecorder.Left`, `FlightRecorder.Event.Keeps` – what is left of a log, and an
  event that holds what was recorded;
* `FlightRecorder.Registry.Kept` – a buffer that holds what is left of a log, kept
  while recording (`FlightRecorder.Registry.kept_record`) and when a window closes
  (`FlightRecorder.Registry.kept_restore`);
* `FlightRecorder.Registry.Session.history`,
  `FlightRecorder.Registry.Session.seamless` – all that a run recorded, and runs whose
  windows close without a seam;
* `FlightRecorder.Registry.Session.left_of_windows` – **what is left in the end**;
* `FlightRecorder.Registry.Session.gap_of_restore` – a window that leaves a gap.
-/

namespace FlightRecorder

open scoped List

/-! ### What is left of a log -/

/-- **What is left of a log**: some of it in its order, and its end if `seamless`. -/
def Left {α : Type} (seamless : Prop) (log l : List α) : Prop :=
  l <+ log ∧ (seamless → l <:+ log)

section Left

variable {α β : Type} {seamless : Prop} {log past window l l' : List α}

theorem left_nil (seamless : Prop) (log : List α) : Left seamless log [] :=
  ⟨List.nil_sublist _, fun _ => List.nil_suffix⟩

theorem Left.suffix (h : Left seamless log l) (hsuffix : l' <:+ l) : Left seamless log l' :=
  ⟨hsuffix.sublist.trans h.1, fun hs => hsuffix.trans (h.2 hs)⟩

theorem Left.prepend (h : Left seamless window l) (past : List α) :
    Left seamless (past ++ window) l :=
  ⟨h.1.trans (List.sublist_append_right _ _), fun hs => (h.2 hs).trans (List.suffix_append _ _)⟩

theorem Left.concat (h : Left seamless log l) (x : α) : Left seamless (log ++ [x]) (l ++ [x]) :=
  ⟨h.1.append (List.Sublist.refl _), fun hs =>
    (List.suffix_append_inj_of_length_eq rfl).mpr ⟨h.2 hs, rfl⟩⟩

/-- **Closing a window** without a seam: nothing is left from before it, or everything
from within. -/
theorem Left.append (h : Left seamless past l) (h' : Left seamless window l')
    (hseam : seamless → l = [] ∨ l' = window) : Left seamless (past ++ window) (l ++ l') := by
  refine ⟨h.1.append h'.1, fun hs => ?_⟩
  rcases hseam hs with rfl | rfl
  · exact (h'.2 hs).trans (List.suffix_append _ _)
  · exact (List.suffix_append_inj_of_length_eq rfl).mpr ⟨h.2 hs, rfl⟩

/-- The end of one of two lists that correspond, with the end of the other. -/
theorem exists_suffix_forall₂ {R : α → β → Prop} {k k' : List β} (h : List.Forall₂ R l k)
    (hsuffix : k' <:+ k) : ∃ l', l' <:+ l ∧ List.Forall₂ R l' k' := by
  obtain ⟨dropped, rfl⟩ := hsuffix
  exact ⟨l.drop dropped.length, List.drop_suffix _ _, List.forall₂_drop_append l dropped k' h⟩

end Left

/-! ### What an event holds -/

namespace Event

variable {p : Retention} {x : Reading} {e : Event} {c : Heap.Census}

/-- **An event holds what was recorded**, with its number and its thread; only an
object that was held weakly may be forgotten. -/
structure Keeps (p : Retention) (x : Reading) (e : Event) : Prop where
  seq : e.seq = x.seq
  thread : e.thread = x.thread
  cell : e.cell = p.store x.value ∨
    (p = .weak ∧ (∃ r, x.value = .object (some r)) ∧ e.cell = .object .null)

theorem keeps_store (p : Retention) (x : Reading) : Keeps p x (x.store p) :=
  ⟨rfl, rfl, Or.inl rfl⟩

/-- An event that is stored anew holds what it held, or forgets the object. -/
theorem Keeps.restored (h : Keeps p x e) (c : Heap.Census) : Keeps p x (e.restored p c) := by
  obtain ⟨hseq, hthread, hcell⟩ := h
  refine ⟨hseq, hthread, ?_⟩
  have hvalue : (e.restored p c).cell = p.store (e.cell.load c) := rfl
  rw [hvalue]
  rcases hcell with hcell | ⟨hp, hobject, hcell⟩
  · rw [hcell]
    obtain ⟨v, seq, thread⟩ := x
    cases v with
    | object o =>
      cases o with
      | none => cases p <;> exact Or.inl rfl
      | some r =>
        cases p with
        | strong | id => exact Or.inl rfl
        | weak =>
          rw [load_store]
          cases halive : c.isAlive r
          · refine Or.inr ⟨rfl, ⟨r, rfl⟩, ?_⟩
            simp [Retention.recall, Retention.recallRef, Datum.map, Option.filter, halive,
              Retention.store, Retention.hold]
          · refine Or.inl ?_
            simp [Retention.recall, Retention.recallRef, Datum.map, Option.filter, halive]
    | _ => exact Or.inl rfl
  · rw [hcell, hp]
    exact Or.inr ⟨rfl, hobject, rfl⟩

end Event

/-- **Events that are left of a log.** -/
def Retains (seamless : Prop) (p : Retention) (log : List Reading) (events : List Event) : Prop :=
  ∃ l, Left seamless log l ∧ List.Forall₂ (Event.Keeps p) l events

section Retains

variable {seamless : Prop} {p : Retention} {log past window : List Reading}
  {events events' : List Event} {b t : SiteBuffer} {c : Heap.Census}

theorem retains_nil (seamless : Prop) (p : Retention) (log : List Reading) :
    Retains seamless p log [] :=
  ⟨[], left_nil _ _, .nil⟩

theorem Retains.suffix (h : Retains seamless p log events) (hsuffix : events' <:+ events) :
    Retains seamless p log events' := by
  obtain ⟨l, hleft, hkeeps⟩ := h
  obtain ⟨l', hl', hkeeps'⟩ := exists_suffix_forall₂ hkeeps hsuffix
  exact ⟨l', hleft.suffix hl', hkeeps'⟩

theorem Retains.prepend (h : Retains seamless p window events) (past : List Reading) :
    Retains seamless p (past ++ window) events := by
  obtain ⟨l, hleft, hkeeps⟩ := h
  exact ⟨l, hleft.prepend past, hkeeps⟩

/-- **Storing** an event that the log goes on with. -/
theorem Retains.push (h : Retains seamless p log b.events) (hb : b.WellFormed)
    (hp : b.retention = p) (x : Reading) :
    Retains seamless p (log ++ [x]) (b.push x).events := by
  obtain ⟨l, hleft, hkeeps⟩ := h
  rw [SiteBuffer.events_push_eq_rtake hb, hp]
  have hboth : List.Forall₂ (Event.Keeps p) (l ++ [x]) (b.events ++ [x.store p]) :=
    List.rel_append hkeeps (.cons (Event.keeps_store p x) .nil)
  exact Retains.suffix ⟨_, hleft.concat x, hboth⟩ (rtake_suffix _ _)

/-- **Closing a window** at a site without a seam. -/
theorem Retains.absorb (ht : Retains seamless p past t.events)
    (hb : Retains seamless p window b.events) (hwf : t.WellFormed) (hp : t.retention = p)
    (hkind : b.kind = t.kind)
    (hseam : seamless → t.size = 0 ∨ t.limit ≤ b.size ∨ b.size = window.length) :
    Retains seamless p (past ++ window) (t.absorb c b).events := by
  obtain ⟨l, hl, hkeeps⟩ := ht
  obtain ⟨l', hl', hkeeps'⟩ := hb
  have hanew : List.Forall₂ (Event.Keeps p) l' (b.events.map (Event.restored p c)) := by
    rw [List.forall₂_map_right_iff]
    exact hkeeps'.imp fun _ _ hkeep => hkeep.restored c
  rw [SiteBuffer.events_absorb hwf hp hkind]
  rcases Nat.lt_or_ge b.size t.limit with hroom | hfull
  · have hlen : l.length = t.size := hkeeps.length_eq.trans t.length_events
    have hlen' : l'.length = b.size := hkeeps'.length_eq.trans b.length_events
    have hboth : Left seamless (past ++ window) (l ++ l') := by
      refine hl.append hl' fun hs => ?_
      rcases hseam hs with hempty | hfull | hall
      · exact Or.inl (List.length_eq_zero_iff.mp (hlen.trans hempty))
      · omega
      · exact Or.inr (hl'.1.eq_of_length (hlen'.trans hall))
    exact Retains.suffix ⟨_, hboth, List.rel_append hkeeps hanew⟩ (rtake_suffix _ _)
  · -- the new events fill the buffer, so there is no room for any before them
    have hsuffix : (t.events ++ b.events.map (Event.restored p c)).rtake t.limit <:+
        b.events.map (Event.restored p c) := by
      refine List.suffix_of_suffix_length_le (rtake_suffix _ _) (List.suffix_append _ _) ?_
      rw [length_rtake, List.length_map, SiteBuffer.length_events]
      omega
    exact (Retains.suffix ⟨l', hl', hanew⟩ hsuffix).prepend past

end Retains

namespace Registry

/-! ### Registries and their windows -/

/-- **What a site keeps of a log**: its buffer is of the kind of the site and holds
what is left of the events that the log has for it. -/
structure Kept (seamless : Prop) (p : Retention) (kinds : Nat → Kind)
    (log : List (Nat × Reading)) (site : Nat) (b : SiteBuffer) : Prop where
  kind : b.kind = kinds site
  retention : b.retention = p
  events : Retains seamless p (eventsAt log site) b.events

/-- **A log is covered** by a registry if it has a buffer for every site of the log;
degraded registries have none and need none. -/
def Covers (r : Registry) (log : List (Nat × Reading)) : Prop :=
  r.degraded = false → ∀ site, r.arena.find? site = none → eventsAt log site = []

section Kept

variable {seamless : Prop} {p : Retention} {kinds : Nat → Kind} {r r' : Registry}
  {log past window : List (Nat × Reading)} {site : Nat} {kind : SiteKind} {value : Value}
  {b : SiteBuffer} {detached : Arena} {c : Heap.Census}

theorem eventsAt_append (past window : List (Nat × Reading)) (site : Nat) :
    eventsAt (past ++ window) site = eventsAt past site ++ eventsAt window site :=
  List.filterMap_append

theorem trimmable_kept : Trimmable (Kept seamless p kinds log) where
  dropOldest n hb h := by
    refine ⟨h.kind, h.retention, h.events.suffix ?_⟩
    rw [SiteBuffer.events_dropOldest hb]
    exact List.drop_suffix _ _
  ensureAtMost bound hb h := by
    refine ⟨h.kind, h.retention, h.events.suffix ?_⟩
    rw [SiteBuffer.events_ensureAtMost hb]
    exact List.drop_suffix _ _

theorem kept_new {limit : Nat} (hkind : kind.stored = kinds site) :
    Kept seamless p kinds log site (.new kind limit p) :=
  ⟨hkind, rfl, retains_nil _ _ _⟩

theorem Kept.prepend (h : Kept seamless p kinds window site b) (past : List (Nat × Reading)) :
    Kept seamless p kinds (past ++ window) site b := by
  refine ⟨h.kind, h.retention, ?_⟩
  rw [eventsAt_append]
  exact h.events.prepend _

/-- **Recording** keeps what is left of the log, which goes on with the event if it is
stored. -/
theorem kept_record (h : r.arena.Every (Kept seamless p kinds log)) (hr : r.Sound)
    (hp : r.retention = p) (hkind : value.kind = kinds site) (thread : UInt32) :
    (r.record site value thread).arena.Every
      (Kept seamless p kinds (r.logged log site value thread)) := by
  refine every_record h hr trimmable_kept trimmable_kept ?_ ?_ ?_ ?_
  · intro s b hs hkept
    refine ⟨hkept.kind, hkept.retention, ?_⟩
    rw [logged]
    split_ifs
    · rw [eventsAt_concat, if_neg hs.symm]
      exact hkept.events
    · exact hkept.events
  · intro hno b hkept
    rw [logged, hno, if_neg Bool.false_ne_true]
    exact hkept
  · intro _
    rw [hp]
    exact kept_new hkind
  · intro hyes b hb hkept _
    refine ⟨hkept.kind, hkept.retention, ?_⟩
    rw [logged, if_pos hyes, eventsAt_concat, if_pos rfl]
    exact hkept.events.push hb hkept.retention _

theorem Ready.find?_eq_none (h : Ready r site kind r' b) {s : Nat}
    (hs : r'.arena.find? s = none) : r.arena.find? s = none := by
  rcases eq_or_ne s site with rfl | hne
  · rw [h.find?] at hs
    cases hs
  · rwa [h.find?_of_ne hne] at hs

/-- Enforcement takes no buffer away. -/
theorem find?_enforceBudget_eq_none {s : Nat} (hs : r.enforceBudget.arena.find? s = none) :
    r.arena.find? s = none := by
  rcases enforceBudget_cases r with heq | ⟨-, hmoves⟩
  · rwa [heq] at hs
  · have hsites : r.enforceBudget.arena.buffers.map (·.1) = r.arena.buffers.map (·.1) :=
      hmoves.sites
    rw [Arena.find?, List.lookup_eq_none_iff] at hs ⊢
    intro q hq
    have hmem : q.1 ∈ r.enforceBudget.arena.buffers.map (·.1) :=
      hsites ▸ List.mem_map_of_mem hq
    obtain ⟨q', hq', heq⟩ := List.mem_map.mp hmem
    rw [← heq]
    exact hs q' hq'

theorem covers_record (h : r.Covers log) (site : Nat) (value : Value) (thread : UInt32) :
    (r.record site value thread).Covers (r.logged log site value thread) := by
  have hout := outcome_record r site value thread
  generalize r.record site value thread = r'' at hout ⊢
  rw [logged]
  cases hout with
  | unchanged hstopped =>
    rw [accepts_of_unchanged hstopped, if_neg Bool.false_ne_true]
    exact h
  | beyond _ hdeg =>
    intro hnot
    rw [degrade, if_neg (Bool.eq_false_iff.mp hdeg)] at hnot
    cases hnot
  | @stored r' b hclosed hdeg hready hkind =>
    rw [accepts_of_ready hclosed hdeg hready, if_pos (decide_eq_true hkind)]
    intro _ s hs
    obtain ⟨hne, hs'⟩ := find?_place_eq_none (find?_enforceBudget_eq_none hs)
    rw [eventsAt_concat, if_neg hne.symm]
    exact h hdeg s (hready.find?_eq_none hs')
  | refused hclosed hdeg hready hkind =>
    rw [accepts_of_ready hclosed hdeg hready, if_neg (by simpa using hkind)]
    intro _ s hs
    exact h hdeg s (hready.find?_eq_none (find?_place_eq_none hs).2)

theorem covers_getOrCreate (h : r.Covers log) (site : Nat) (kind : SiteKind) :
    (r.getOrCreate site kind).1.Covers log := by
  refine getOrCreate_ind (P := fun r => r.Covers log) h (fun cause => ?_) fun r' b hdeg hready => ?_
  · rw [degrade]
    split_ifs
    · exact h
    · intro hnot
      cases hnot
  · intro _ s hs
    exact h hdeg s (hready.find?_eq_none hs)

/-- **Closing a window**: what is left of the log before and of the log within is left
of the two put together. -/
theorem kept_restore (h : r.arena.Every (Kept seamless p kinds window)) (hcovers : r.Covers window)
    (hr : r.Sound) (hp : r.retention = p) (horderly : r.arena.Orderly p)
    (hdetached : detached.Every (Kept seamless p kinds past)) (hd : detached.Sound)
    (hseam : seamless → ∀ site t b, detached.find? site = some t → r.arena.find? site = some b →
      t.size = 0 ∨ t.limit ≤ b.size ∨ b.size = (eventsAt window site).length) :
    (r.restore c detached).arena.Every (Kept seamless p kinds (past ++ window)) := by
  rcases Bool.eq_false_or_eq_true r.degraded with hdeg | hdeg
  · rw [restore_of_degraded c hdeg]
    exact fun q hq => (h q hq).prepend past
  · refine every_restore hdeg hr hd horderly trimmable_kept fun site x hx => ?_
    rcases rejoined_cases hx with ⟨hnone, hfind⟩ | ⟨b, hfind, rfl⟩
    · -- a site without a new buffer had no event meanwhile
      obtain ⟨hkind, hretention, hevents⟩ := hdetached.find? hd hfind
      refine ⟨hkind, hretention, ?_⟩
      rw [eventsAt_append, hcovers hdeg site hnone, List.append_nil]
      exact hevents
    · have hb := h.find? hr.arena hfind
      have ht : Kept seamless p kinds past site (r.target detached site b) := by
        refine every_target hdetached hd ?_
        rw [hp]
        exact kept_new hb.kind
      have htseam (hs : seamless) : (r.target detached site b).size = 0 ∨
          (r.target detached site b).limit ≤ b.size ∨
          b.size = (eventsAt window site).length := by
        rw [target]
        cases hold : detached.find? site with
        | none => exact Or.inl rfl
        | some t => exact hseam hs site t b hold hfind
      refine ⟨(SiteBuffer.kind_absorb c _ b).trans ht.kind,
        (SiteBuffer.retention_absorb c _ b).trans ht.retention, ?_⟩
      rw [eventsAt_append]
      exact ht.events.absorb hb.events (wellFormed_target hd site b) ht.retention
        (hb.kind.trans ht.kind.symm) htseam

end Kept

namespace Session

/-! ### Runs that open one window at a time -/

/-- Actions that offer a site values of its kind only. -/
def Action.OfKinds (kinds : Nat → Kind) : Action → Prop
  | .record site value _ => value.kind = kinds site
  | .getOrCreate site kind => kind.stored = kinds site
  | _ => True

/-- What was stored since the session began, after one more action. -/
def recorded (s : Session) (log : List (Nat × Reading)) : Action → List (Nat × Reading)
  | .record site value thread => s.registry.logged log site value thread
  | _ => log

/-- **The history of a run**, which goes on from a log. Unlike the journal, it goes on
when buffers are taken out. -/
def history (s : Session) (log : List (Nat × Reading)) : List Action → List (Nat × Reading)
  | [] => log
  | a :: rest => (s.step a).history (s.recorded log a) rest

/-- Whether an action opens no window while another is open. -/
def opensAlone (s : Session) : Action → Bool
  | .detach _ => s.parked.isEmpty
  | _ => true

/-- **One window at a time**: buffers that were taken out are put back before the next
are taken out. -/
def oneAtATime (s : Session) : List Action → Bool
  | [] => true
  | a :: rest => s.opensAlone a && (s.step a).oneAtATime rest

/-- Whether an action **closes without a seam**, if it closes a window within which the
log was stored: at each site that has a buffer on both sides, the old one is empty, or
the new one has as much as the old one may have, or it has all that was stored. -/
def closesWithoutSeam (s : Session) (log : List (Nat × Reading)) : Action → Bool
  | .restore name =>
    match s.parked.lookup name with
    | none => true
    | some detached => detached.buffers.all fun (site, t) =>
      match s.registry.arena.find? site with
      | none => true
      | some b =>
        t.size == 0 || decide (t.limit ≤ b.size) || b.size == (eventsAt log site).length
  | _ => true

/-- **A run without a seam**: every window closes without one. -/
def seamless (s : Session) (log : List (Nat × Reading)) : List Action → Bool
  | [] => true
  | a :: rest => s.closesWithoutSeam log a && (s.step a).seamless (s.logged log a) rest

theorem seam_of_closesWithoutSeam {s : Session} {log : List (Nat × Reading)} {name : String}
    {detached : Arena} (h : s.closesWithoutSeam log (.restore name) = true)
    (hlookup : s.parked.lookup name = some detached) (hd : detached.Sound) {site : Nat}
    {t b : SiteBuffer} (ht : detached.find? site = some t)
    (hb : s.registry.arena.find? site = some b) :
    t.size = 0 ∨ t.limit ≤ b.size ∨ b.size = (eventsAt log site).length := by
  simp only [closesWithoutSeam, hlookup, List.all_eq_true] at h
  have hsite := h (site, t) (hd.find?_eq_some_iff.mp ht)
  simp only [hb, Bool.or_eq_true, beq_iff_eq, decide_eq_true_eq] at hsite
  tauto

/-- **The windows of a session**: none is open, and the buffers hold what is left of the
history; or one is, the buffers taken out hold what is left of the history before it,
and those of the registry what is left of the window. -/
inductive Windowed (seamless : Prop) (p : Retention) (kinds : Nat → Kind) (s : Session)
    (log window : List (Nat × Reading)) : Prop
  | outside : s.parked = [] → s.registry.arena.Every (Kept seamless p kinds log) →
      Windowed seamless p kinds s log window
  | inside {name : String} {detached : Arena} {past : List (Nat × Reading)} :
      s.parked = [(name, detached)] → log = past ++ window →
      detached.Every (Kept seamless p kinds past) →
      s.registry.arena.Every (Kept seamless p kinds window) → s.registry.Covers window →
      Windowed seamless p kinds s log window

section Windowed

variable {seamless : Prop} {p : Retention} {kinds : Nat → Kind} {s : Session}
  {log past window : List (Nat × Reading)} {a : Action} {actions : List Action}

/-- Two logs put together go on as the second does. -/
theorem logged_append (r : Registry) (past window : List (Nat × Reading)) (site : Nat)
    (value : Value) (thread : UInt32) :
    r.logged (past ++ window) site value thread = past ++ r.logged window site value thread := by
  rw [Registry.logged, Registry.logged]
  split_ifs
  · exact List.append_assoc _ _ _
  · rfl

/-- **Putting the buffers back** ends the window that is open, if there is one: the
window joins what was recorded before it. -/
theorem Windowed.restore {name : String} (h : s.Windowed seamless p kinds log window)
    (hs : s.Balanced) (ho : s.Orderly) (hp : s.registry.retention = p)
    (hseam : seamless → s.closesWithoutSeam window (.restore name) = true) :
    (s.step (.restore name)).Windowed seamless p kinds (s.recorded log (.restore name))
      (s.logged window (.restore name)) := by
  cases hlookup : s.parked.lookup name with
  | none =>
    have hsame : s.step (.restore name) = s := by rw [Session.step, hlookup]
    rw [hsame]
    exact h
  | some detached =>
    have hmem := mem_of_lookup_parked hlookup
    cases h with
    | outside hparked =>
      rw [hparked] at hlookup
      cases hlookup
    | @inside name' _ past hparked hlog hdetached hkept hcovers =>
      -- one arena waits at most, so it is the one that is asked for
      rw [hparked] at hmem
      obtain ⟨rfl, rfl⟩ := Prod.mk.inj (List.mem_singleton.mp hmem)
      have hclosed : (s.step (.restore name)).parked = [] := by
        rw [step_restore hlookup, hparked]
        simp
      refine .outside hclosed ?_
      have hd : detached.Sound := hs.parked _ (mem_of_lookup_parked hlookup)
      rw [step_restore hlookup, show s.recorded log (.restore name) = past ++ window from hlog]
      exact kept_restore hkept hcovers hs.registry hp (hp ▸ ho.registry) hdetached hd
        fun hclose _ _ _ ht hb => seam_of_closesWithoutSeam (hseam hclose) hlookup hd ht hb

/-- **Every action keeps the account of the windows.** -/
theorem Windowed.step (h : s.Windowed seamless p kinds log window) (hs : s.Balanced)
    (ho : s.Orderly) (hp : s.registry.retention = p) (ha : a.OfKinds kinds)
    (hone : s.opensAlone a = true) (hseam : seamless → s.closesWithoutSeam window a = true) :
    (s.step a).Windowed seamless p kinds (s.recorded log a) (s.logged window a) := by
  cases a with
  | record site value thread =>
    cases h with
    | outside hparked hkept => exact .outside hparked (kept_record hkept hs.registry hp ha thread)
    | inside hparked hlog hdetached hkept hcovers =>
      refine .inside hparked ?_ hdetached (kept_record hkept hs.registry hp ha thread)
        (covers_record hcovers _ _ _)
      rw [recorded, hlog]
      exact logged_append _ _ _ _ _ _
  | getOrCreate site kind =>
    have hnew {l : List (Nat × Reading)} :
        site < Arena.maxSites → Kept seamless p kinds l site
          (.new kind s.registry.ceiling s.registry.retention) :=
      fun _ => hp.symm ▸ kept_new ha
    cases h with
    | outside hparked hkept => exact .outside hparked (every_getOrCreate hkept hnew)
    | inside hparked hlog hdetached hkept hcovers =>
      exact .inside hparked hlog hdetached (every_getOrCreate hkept hnew)
        (covers_getOrCreate hcovers _ _)
  | detach name =>
    cases h with
    | outside hparked hkept =>
      have hopened : (s.step (.detach name)).parked = [(name, s.registry.arena)] := by
        show (name, s.registry.arena) :: s.parked.filter (·.1 != name) = _
        rw [hparked, List.filter_nil]
      -- the window opens with an empty log
      exact .inside hopened (List.append_nil log).symm hkept (Arena.every_empty _)
        fun _ _ _ => rfl
    | inside hparked =>
      rw [opensAlone, hparked] at hone
      cases hone
  | restore name => exact h.restore hs ho hp hseam
  | close | create | release =>
    cases h with
    | outside hparked hkept => exact .outside hparked hkept
    | inside hparked hlog hdetached hkept hcovers =>
      exact .inside hparked hlog hdetached hkept hcovers

theorem Windowed.run (h : s.Windowed seamless p kinds log window) (hs : s.Balanced)
    (ho : s.Orderly) (hp : s.registry.retention = p) (ha : ∀ a ∈ actions, a.OfKinds kinds)
    (hone : s.oneAtATime actions = true) (hseam : seamless → s.seamless window actions = true) :
    ∃ window', (s.run actions).Windowed seamless p kinds (s.history log actions) window' := by
  induction actions generalizing s log window with
  | nil => exact ⟨window, h⟩
  | cons a rest ih =>
    obtain ⟨hfirst, hrest⟩ := List.forall_mem_cons.mp ha
    obtain ⟨hopens, hlater⟩ := Bool.and_eq_true_iff.mp hone
    have hstep := h.step hs ho hp hfirst hopens fun hclose =>
      (Bool.and_eq_true_iff.mp (hseam hclose)).1
    have hretention : (s.step a).registry.retention = p :=
      (retention_of_rules (rules_step s a)).trans hp
    exact ih hstep (hs.step a) (ho.step hs a) hretention hrest hlater fun hclose =>
      (Bool.and_eq_true_iff.mp (hseam hclose)).2

end Windowed

/-- **What is left of the history.** In a run that offers each site values of one kind
and opens one window at a time, whenever no window is open, each buffer holds events
of its site in the order in which they were recorded; if all windows closed without a
seam, it holds the latest of all that were recorded there. -/
theorem left_of_windows (heap : Heap) (limits : RegistryLimits) (clock : Clock)
    (kinds : Nat → Kind) {actions : List Action} (hkinds : ∀ a ∈ actions, a.OfKinds kinds)
    (hone : (start heap limits clock).oneAtATime actions = true)
    (hclosed : ((start heap limits clock).run actions).parked = []) (site : Nat)
    (b : SiteBuffer)
    (hb : ((start heap limits clock).run actions).registry.arena.find? site = some b) :
    let recorded := eventsAt ((start heap limits clock).history [] actions) site
    ∃ left, left <+ recorded ∧ List.Forall₂ (Event.Keeps limits.retention) left b.events ∧
      ((start heap limits clock).seamless [] actions = true → left <:+ recorded) := by
  intro recorded
  let s := (start heap limits clock).run actions
  have hs : s.Balanced := (balanced_start heap limits clock).run actions
  have hstart : (start heap limits clock).Windowed
      ((start heap limits clock).seamless [] actions = true) limits.retention kinds [] [] :=
    .outside rfl (Arena.every_empty _)
  obtain ⟨window, hrun⟩ := hstart.run (balanced_start _ _ _) (orderly_start _ _ _) rfl hkinds hone id
  cases hrun with
  | outside _ hkept =>
    obtain ⟨left, ⟨hsub, hend⟩, hkeeps⟩ := (hkept.find? hs.registry.arena hb).events
    exact ⟨left, hsub, hkeeps, hend⟩
  | inside hparked =>
    rw [hclosed] at hparked
    cases hparked

/-- One event before a window, and some more while it is open. -/
def windowOf (values : List Int32) : List Action :=
  .record 0 (.int 1) 0 :: .detach "d" :: values.map (fun x => .record 0 (.int x) 0) ++
    [.restore "d"]

/-- The new buffer still has both events, so the oldest of all make room. -/
theorem left_of_windows_seamless :
    let s := (start {} { bufferSize := 2 } ⟨0⟩).run (windowOf [2, 3])
    (start {} { bufferSize := 2 } ⟨0⟩).seamless [] (windowOf [2, 3]) = true ∧
    ∃ b, s.registry.arena.find? 0 = some b ∧ ∃ left,
      left <:+ [⟨.int 1, 0, 0⟩, ⟨.int 2, 1, 0⟩, ⟨.int 3, 2, 0⟩] ∧
      List.Forall₂ (Event.Keeps .strong) left b.events ∧ b.size = 2 := by
  intro s
  have hkinds : ∀ a ∈ windowOf [2, 3], a.OfKinds fun _ => .int := by
    intro a ha
    simp only [windowOf, List.map_cons, List.map_nil, List.cons_append, List.nil_append,
      List.mem_cons, List.not_mem_nil, or_false] at ha
    rcases ha with rfl | rfl | rfl | rfl | rfl <;> trivial
  have hseamless : (start {} { bufferSize := 2 } ⟨0⟩).seamless [] (windowOf [2, 3]) = true := by
    decide +kernel
  obtain ⟨left, -, hkeeps, hend⟩ :=
    left_of_windows {} { bufferSize := 2 } ⟨0⟩ (fun _ => .int) hkinds (by decide +kernel)
      (by rfl) 0 _ rfl
  exact ⟨hseamless, _, rfl, left, hend hseamless, hkeeps, rfl⟩

/-- **A gap**: enforcement lowers the ceiling while the buffers are out, and trims the
new buffer. The old event comes before the last two of the four recorded since, and the
two in between are gone. -/
theorem gap_of_restore :
    let limits : RegistryLimits := { bufferSize := 4, globalCapacity := 3, evictionUnit := 2 }
    let s := (start {} limits ⟨0⟩).run (windowOf [2, 3, 4, 5])
    s.parked.length = 0 ∧
    ((start {} limits ⟨0⟩).history [] (windowOf [2, 3, 4, 5])).map (·.2.seq) = [0, 1, 2, 3, 4] ∧
    (s.registry.arena.find? 0).map (·.records s.census) =
      some [⟨.int 1, 0, 0⟩, ⟨.int 4, 3, 0⟩, ⟨.int 5, 4, 0⟩] := by
  decide +kernel

end Session

end Registry

end FlightRecorder
