import Mathlib.Data.List.Forall2
import FlightRecorder.Proofs.Registry.Restoring
import FlightRecorder.SiteBuffer.Rendering

/-!
# How events render once they are put back

Putting buffers back reads every event that was recorded meanwhile and stores it
anew. Reading has three answers for an object – it is null, it is alive, it has been
collected – and storing knows two of them, so the question is what an event renders
as on the other side. This file answers it for every kind and every policy: as it did
before, with its number and its thread, with one exception. An object that has been
collected is not told from null once it was read, so what rendered as
`FlightRecorder.collectedMark` renders as null from then on. Nothing of the kind
happens to the events of the buffers that are put back, which are not read.

* `FlightRecorder.Event.ComesBack` – an event before and after, with the exception;
* `FlightRecorder.Registry.Joined` – older events with newer ones after them;
* `FlightRecorder.Registry.Session.rendering_of_restore` – **what is in a buffer that
  was put back**, and what it renders as;
* `FlightRecorder.Registry.Session.mark_lost_of_restore` – the exception does happen.
-/

namespace FlightRecorder

/-! ### One event -/

theorem cellText_forget (h : Heap) (d : Datum Resolved) :
    (d.map Resolved.forget).cellText h =
      if d = .object .collected then "null" else d.cellText h := by
  cases d with
  | object o => cases o <;> rfl
  | _ => rfl

theorem document_forget (h : Heap) (d : Datum Resolved) :
    (d.map Resolved.forget).document h =
      if d = .object .collected then .null else d.document h := by
  cases d with
  | object o => cases o <;> rfl
  | _ => rfl

namespace Event

variable {p : Retention} {kind : Kind} {e : Event} {c c' : Heap.Census}

/-- **An event comes back**: `e'`, read when `c'` are alive, has the number and the
thread of `e`, read when `c` were, and renders as it did; only an object that had been
collected renders as null. -/
structure ComesBack (h : Heap) (c c' : Heap.Census) (e e' : Event) : Prop where
  seq : e'.seq = e.seq
  thread : e'.thread = e.thread
  cellText : (e'.cell.read c').cellText h =
    if e.cell.read c = .object .collected then "null" else (e.cell.read c).cellText h
  document : (e'.cell.read c').document h =
    if e.cell.read c = .object .collected then .null else (e.cell.read c).document h

theorem StoredAs.comesBack (h : e.StoredAs p kind) (hc : p = .weak → c' = c) (heap : Heap) :
    ComesBack heap c c' e (e.restored p c) where
  seq := rfl
  thread := rfl
  cellText := by rw [h.read_restored hc, cellText_forget]
  document := by rw [h.read_restored hc, document_forget]

end Event

/-- The end of two lists put together, the second of them mapped: an end of the first
and all of the second, or an end of the second. -/
theorem exists_of_suffix_append_map {α β : Type} {l a : List β} {k : List α} {f : α → β}
    (h : l <:+ a ++ k.map f) :
    ∃ older kept, l = older ++ kept.map f ∧ older <:+ a ∧ kept <:+ k := by
  obtain ⟨dropped, hdropped⟩ := h
  rcases List.append_eq_append_iff.mp hdropped with ⟨older, rfl, rfl⟩ | ⟨rest, -, hrest⟩
  · exact ⟨older, k, rfl, List.suffix_append _ _, List.suffix_refl _⟩
  · obtain ⟨k₁, k₂, rfl, -, rfl⟩ := List.map_eq_append_iff.mp hrest
    exact ⟨[], k₂, rfl, List.nil_suffix, List.suffix_append _ _⟩

namespace Registry

/-! ### The events of a site that comes by a buffer -/

/-- Events that are the end of older ones, with the end of some newer ones, stored
anew, after them. -/
def Joined (p : Retention) (c : Heap.Census) (older newer : List Event) (l : List Event) : Prop :=
  ∃ kept, kept <:+ newer ∧ l <:+ older ++ kept.map (Event.restored p c)

section Joined

variable {p : Retention} {c : Heap.Census} {older newer l l' : List Event} {r : Registry}
  {detached : Arena}

theorem Joined.suffix (h : Joined p c older newer l) (hsuffix : l' <:+ l) :
    Joined p c older newer l' := by
  obtain ⟨kept, hkept, hl⟩ := h
  exact ⟨kept, hkept, hsuffix.trans hl⟩

theorem Joined.exists_eq (h : Joined p c older newer l) :
    ∃ old kept, l = old ++ kept.map (Event.restored p c) ∧ old <:+ older ∧ kept <:+ newer := by
  obtain ⟨kept, hkept, hl⟩ := h
  obtain ⟨old, kept', rfl, hold, hkept'⟩ := exists_of_suffix_append_map hl
  exact ⟨old, kept', rfl, hold, hkept'.trans hkept⟩

/-- **What is in the buffers after putting back**: what they had, then what was
recorded meanwhile, less the oldest. -/
theorem joined_restore (hdeg : r.degraded = false) (hr : r.Sound) (hd : detached.Sound)
    (horderly : r.arena.Orderly r.retention) (hdetached : detached.Orderly r.retention)
    (c : Heap.Census) (site : Nat) :
    Joined r.retention c (detached.events site) (r.arena.events site)
      ((r.restore c detached).arena.events site) := by
  have htrim := trimmable_of_suffix (P := fun site =>
    Joined r.retention c (detached.events site) (r.arena.events site)) fun hsuffix h =>
      h.suffix hsuffix
  have hevery := every_restore hdeg hr hd horderly htrim (c := c) fun site x hx => by
    rcases rejoined_cases hx with ⟨-, hfind⟩ | ⟨b, hfind, rfl⟩
    · rw [Arena.events_of_some hfind]
      exact ⟨[], List.nil_suffix, (List.append_nil x.events).symm ▸ List.suffix_refl _⟩
    · obtain ⟨-, htarget⟩ := orderly_target hr hd horderly hdetached hfind
      have hsuffix : ((r.target detached site b).absorb c b).events <:+
          (r.target detached site b).events ++ _ :=
        SiteBuffer.events_absorb_suffix (wellFormed_target hd site b) htarget.retention
      rw [events_target] at hsuffix
      rw [Arena.events_of_some hfind]
      -- a buffer of another kind takes none of the events in between
      split_ifs at hsuffix
      · exact ⟨b.events, List.suffix_refl _, hsuffix⟩
      · exact ⟨[], List.nil_suffix, hsuffix⟩
  cases hfind : (r.restore c detached).arena.find? site with
  | none =>
    rw [Arena.events_of_none hfind]
    exact ⟨[], List.nil_suffix, List.nil_suffix⟩
  | some b =>
    rw [Arena.events_of_some hfind]
    exact hevery.find? (hr.restore hd c).arena hfind

end Joined

namespace Session

/-- **Putting back preserves how events render**, but for objects that have been
collected. After the buffers under a name were put back, whatever was recorded before
and meanwhile and whichever objects died, a site has an end of the events that it had
before, which read as they did, and after them an end of the events that were recorded
meanwhile, in their order: each with its number and its thread, and rendering as it
did, except that an object that had been collected renders as null. -/
theorem rendering_of_restore (heap : Heap) (limits : RegistryLimits) (clock : Clock)
    (actions : List Action) {name : String} {detached : Arena}
    (h : ((start heap limits clock).run actions).parked.lookup name = some detached)
    (site : Nat) :
    let s := (start heap limits clock).run actions
    let s' := s.step (.restore name)
    ∃ older kept newer, s'.registry.arena.events site = older ++ newer ∧
      older <:+ detached.events site ∧
      (∀ e ∈ older, e.cell.read s'.census = e.cell.read s.census) ∧
      kept <:+ s.registry.arena.events site ∧
      List.Forall₂ (Event.ComesBack s.heap s.census s'.census) kept newer := by
  intro s s'
  have hs : s.Balanced := (balanced_start heap limits clock).run actions
  have ho : s.Orderly := (orderly_start heap limits clock).run (balanced_start _ _ _) actions
  have hdrained : s.registry.Drained :=
    drained_run (drained_of_empty rfl) (orderly_start _ _ _) (balanced_start _ _ _) actions
  have hmem := mem_of_lookup_parked h
  have hstep : s'.registry = s.registry.restore s.census detached := by
    rw [show s' = _ from step_restore h]
  have hcensus : s.registry.retention = .weak → s'.census = s.census :=
    fun hweak => census_restore hs ho hweak name
  rw [hstep]
  rcases Bool.eq_false_or_eq_true s.registry.degraded with hdeg | hdeg
  · rw [restore_of_degraded _ hdeg, hdrained hdeg]
    exact ⟨[], [], [], rfl, List.nil_suffix, by simp, List.nil_suffix, .nil⟩
  · have hjoined := joined_restore hdeg hs.registry (hs.parked _ hmem) ho.registry
      (ho.parked _ hmem) s.census site
    obtain ⟨older, kept, heq, holder, hkept⟩ := hjoined.exists_eq
    refine ⟨older, kept, _, heq, holder, fun e he => ?_, hkept, ?_⟩
    · obtain ⟨kind, hstored⟩ :=
        (ho.parked _ hmem).exists_storedAs (hs.parked _ hmem) (holder.subset he)
      exact hstored.read_eq hcensus
    · rw [List.forall₂_map_right_iff, List.forall₂_same]
      intro e he
      obtain ⟨kind, hstored⟩ := ho.registry.exists_storedAs hs.registry.arena (hkept.subset he)
      exact hstored.comesBack hcensus s.heap

/-- Three objects are recorded weakly, one of them before the buffers are taken out.
The second dies before they are put back. -/
def observing : List Action :=
  [.create ⟨"a", "T", none, none, false⟩, .create ⟨"b", "T", none, none, false⟩,
    .create ⟨"c", "T", none, none, false⟩, .record 4 (.object (some ⟨0⟩)) 1, .detach "d",
    .record 4 (.object (some ⟨1⟩)) 2, .record 4 (.object (some ⟨2⟩)) 3, .release "b"]

theorem rendering_of_restore_observing :
    let s := (start {} { retention := .weak } ⟨0⟩).run observing
    let s' := s.step (.restore "d")
    (s'.registry.arena.find? 4).map (·.cells s'.heap s'.census 3) =
      some ["3", "3", "T@a", "0", "1", "null", "1", "2", "T@c", "2", "3"] ∧
    ∃ older kept newer, s'.registry.arena.events 4 = older ++ newer ∧
      kept <:+ s.registry.arena.events 4 ∧
      List.Forall₂ (Event.ComesBack s.heap s.census s'.census) kept newer := by
  intro s s'
  have hparked : (s.parked.lookup "d").isSome = true := rfl
  obtain ⟨detached, h⟩ := Option.isSome_iff_exists.mp hparked
  obtain ⟨older, kept, newer, heq, -, -, hkept, hback⟩ :=
    rendering_of_restore {} { retention := .weak } ⟨0⟩ observing h 4
  exact ⟨by decide +kernel, older, kept, newer, heq, hkept, hback⟩

/-- The only object recorded dies before the buffers are put back. -/
def losing : List Action :=
  [.create ⟨"o", "T", none, none, false⟩, .detach "d", .record 0 (.object (some ⟨0⟩)) 0,
    .release "o"]

/-- **The mark of a collected object is lost** when the buffers are put back. -/
theorem mark_lost_of_restore :
    let s := (start {} { retention := .weak } ⟨0⟩).run losing
    let s' := s.step (.restore "d")
    (s.registry.arena.find? 0).map (·.cells s.heap s.census 1) =
      some ["1", "1", collectedMark, "0", "0"] ∧
    (s'.registry.arena.find? 0).map (·.cells s'.heap s'.census 1) =
      some ["1", "1", "null", "0", "0"] ∧
    (s.registry.arena.events 0).map (fun e => (e.cell.read s.census).document s.heap) =
      [.object [("id", .string collectedMark)]] ∧
    (s'.registry.arena.events 0).map (fun e => (e.cell.read s'.census).document s'.heap) =
      [.null] := by
  refine ⟨by decide +kernel, by decide +kernel, ?_, ?_⟩ <;> rfl

end Session

end Registry

end FlightRecorder
