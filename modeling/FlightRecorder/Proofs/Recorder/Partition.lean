import FlightRecorder.Proofs.Recorder.Offers

/-!
# Saving in portions

A save with a reset delivers what is retained and begins anew, and the first close
delivers the rest. The traces delivered in this way are the portions of a run. A
portion has the buffers of its moment, no more and no less; and since whatever is
recorded after it has larger numbers, the portions of a run divide the retained
events among them, in the order of time. Saves that fail and saves that keep the
buffers change nothing about that.

* `FlightRecorder.Recorder.Chronicle` – what holds of a recorder between two
  portions (`FlightRecorder.Recorder.Chronicle.strokes`,
  `FlightRecorder.Recorder.Session.chronicle_run`);
* `FlightRecorder.Recorder.Portion`,
  `FlightRecorder.Recorder.Session.portions` – the portions of a run;
* `FlightRecorder.Recorder.Partitioned` – portions that divide the numbers among
  them;
* `FlightRecorder.Recorder.Session.partitioned_portions` – **the portions of a run do**.

What stands in the files that portions are delivered to is read back in
`FlightRecorder.Proofs.Recorder.Portions`.
-/

namespace FlightRecorder

/-- The sequence numbers on a row. -/
def TraceRow.seqs (row : TraceRow) : List UInt64 :=
  match row.buffer with
  | some b => b.seqs
  | none => []

namespace Recorder

/-! ### Between two portions -/

/-- **Between two portions**: the clock shows the time, and what is retained is dated from
the time `lo` on, so long as the clock has not run past its last number. -/
structure Chronicle (r : Recorder) (lo now : Nat) : Prop where
  sound : r.Sound
  clock : r.registry.clock.next = UInt64.ofNat now
  since : lo ≤ now
  dated : now ≤ wordSize → r.registry.Dated lo now

section Chronicle

variable {r : Recorder} {lo now : Nat}

theorem chronicle_of_new? {settings : Settings} {clock : Clock} (hr : new? settings clock = .ok r) :
    r.Chronicle clock.next.toNat clock.next.toNat := by
  have hsound := sound_of_new? hr
  rw [eq_of_new? hr] at hsound ⊢
  exact ⟨hsound, UInt64.ofNat_toNat.symm, Nat.le_refl _,
    fun _ => Registry.dated_of_empty rfl _ _⟩

/-- The number of the moment, so long as there is one. -/
theorem Chronicle.toNat_next (h : r.Chronicle lo now) (hlt : now < wordSize) :
    r.registry.clock.next.toNat = now := by
  rw [h.clock, UInt64.toNat_ofNat']
  exact Nat.mod_eq_of_lt hlt

theorem Sound.stroke (hr : r.Sound) (h : Heap) (m : Nat → Memory) (st : Stroke) :
    (r.stroke h st m).Sound := by
  cases st with
  | value site value thread => exact hr.perform h (.value site value thread) m
  | object site o thread => exact hr.perform h (.object site o thread) m

/-- **An event** takes as much time as it gets numbers. -/
theorem Chronicle.stroke (hr : r.Chronicle lo now) (h : Heap) (m : Nat → Memory) (st : Stroke) :
    (r.stroke h st m).Chronicle lo
      (now + if Offer.isNumbered ⟨r, st, r.stroke h st m⟩ then 1 else 0) := by
  have hsince := hr.since
  have hsound := hr.sound.stroke h m st
  rcases clock_stroke h m r st with ⟨hnumbered, hclock, hframe⟩ | ⟨hnumbered, hclock, hframe⟩
  · rw [if_neg (Bool.eq_false_iff.mp hnumbered), Nat.add_zero]
    refine ⟨hsound, hclock ▸ hr.clock, hsince, fun hbound => ?_⟩
    rcases hframe with hsame | hempty
    · rw [hsame]
      exact hr.dated hbound
    · exact Registry.dated_of_empty hempty _ _
  · rw [if_pos hnumbered]
    refine ⟨hsound, ?_, by omega, fun hbound => ?_⟩
    · rw [hclock, Clock.tick, hr.clock, UInt64.ofNat_add]
      rfl
    · rcases hframe with ⟨value, thread, hrecord⟩ | hempty
      · rw [hrecord]
        exact (hr.dated (by omega)).record hr.sound.registry hsince (hr.toNat_next (by omega)) _ _ _
      · exact Registry.dated_of_empty hempty _ _

/-- **Several events**, one after the other. -/
theorem Chronicle.strokes (hr : r.Chronicle lo now) (h : Heap) (m : Nat → Memory)
    (strokes : List Stroke) :
    (strokes.foldl (fun r st => r.stroke h st m) r).Chronicle lo
      (now + (r.offersOf h m strokes).countP Offer.isNumbered) := by
  induction strokes generalizing r now with
  | nil => exact hr
  | cons st rest ih =>
    have hnext := ih (hr.stroke h m st)
    rw [Nat.add_right_comm, Nat.add_assoc] at hnext
    rw [List.foldl_cons, offersOf, List.countP_cons]
    exact hnext

end Chronicle

/-! ### Portions -/

/-- The rows of the trace of the present buffers. -/
def presentRows (r : Recorder) : List TraceRow :=
  rowsOf r.catalog.sites r.registry.arena.buffers

/-- A trace that was delivered: where to, and its rows. -/
structure Portion where
  path : String
  rows : List TraceRow

/-- All sequence numbers of a portion. -/
def Portion.seqs (q : Portion) : List UInt64 :=
  q.rows.flatMap TraceRow.seqs

/-- **Portions that divide the numbers among them**: the numbers of a portion are
distinct, at a site they increase, those of later portions are larger, and all are
from the time `lo` on. -/
structure Partitioned (portions : List Portion) (lo : Nat) : Prop where
  increasing : ∀ q ∈ portions, ∀ row ∈ q.rows, row.seqs.Pairwise (· < ·)
  distinct : ∀ q ∈ portions, q.seqs.Nodup
  since : ∀ q ∈ portions, ∀ m ∈ q.seqs, lo ≤ m.toNat
  successive : portions.Pairwise fun q q' => ∀ m ∈ q.seqs, ∀ n ∈ q'.seqs, m < n

section Portions

variable {r : Recorder} {lo now : Nat} {q : Portion} {portions : List Portion} {row : TraceRow}

theorem partitioned_nil (lo : Nat) : Partitioned [] lo :=
  ⟨by simp, by simp, by simp, List.Pairwise.nil⟩

/-- A portion may come before later ones. -/
theorem Partitioned.cons (h : Partitioned portions now) (hlo : lo ≤ now)
    (hincreasing : ∀ row ∈ q.rows, row.seqs.Pairwise (· < ·)) (hdistinct : q.seqs.Nodup)
    (hbounds : ∀ m ∈ q.seqs, lo ≤ m.toNat ∧ m.toNat < now) : Partitioned (q :: portions) lo where
  increasing := List.forall_mem_cons.mpr ⟨hincreasing, h.increasing⟩
  distinct := List.forall_mem_cons.mpr ⟨hdistinct, h.distinct⟩
  since := List.forall_mem_cons.mpr
    ⟨fun m hm => (hbounds m hm).1, fun q' hq' m hm => hlo.trans (h.since q' hq' m hm)⟩
  successive := by
    refine List.pairwise_cons.mpr ⟨fun q' hq' m hm n hn => ?_, h.successive⟩
    rw [UInt64.lt_iff_toNat_lt]
    exact (hbounds m hm).2.trans_le (h.since q' hq' n hn)

/-- **No number occurs twice** in all of them. -/
theorem Partitioned.nodup (h : Partitioned portions lo) :
    (portions.flatMap Portion.seqs).Nodup := by
  refine List.pairwise_flatMap.mpr ⟨h.distinct, h.successive.imp ?_⟩
  intro q q' hlt m hm n hn
  exact UInt64.ne_of_lt (hlt m hm n hn)

/-- The buffer on a row is the one of its site. -/
theorem Sound.mem_buffers_of_row (hr : r.Sound) (hrow : row ∈ r.presentRows) {b : SiteBuffer}
    (hb : row.buffer = some b) : (row.info.site, b) ∈ r.registry.arena.buffers := by
  refine hr.registry.arena.find?_eq_some_iff.mp ?_
  exact (find?_eq_some_iff_row hr.catalog hr.registry.arena.ordered).mpr ⟨row, hrow, rfl, hb⟩

/-- A row has the numbers of the buffer of its site. -/
theorem Sound.seqs_of_mem_presentRows (hr : r.Sound) (hrow : row ∈ r.presentRows) :
    row.seqs = [] ∨ ∃ b, (row.info.site, b) ∈ r.registry.arena.buffers ∧ row.seqs = b.seqs := by
  rw [TraceRow.seqs]
  cases hb : row.buffer with
  | none => exact Or.inl rfl
  | some b => exact Or.inr ⟨b, hr.mem_buffers_of_row hrow hb, rfl⟩

theorem Sound.exists_of_mem_seqs (hr : r.Sound) (hrow : row ∈ r.presentRows) {m : UInt64}
    (hm : m ∈ row.seqs) : ∃ b, (row.info.site, b) ∈ r.registry.arena.buffers ∧ m ∈ b.seqs := by
  rcases hr.seqs_of_mem_presentRows hrow with hempty | ⟨b, hb, hseqs⟩
  · rw [hempty] at hm
    exact absurd hm List.not_mem_nil
  · exact ⟨b, hb, hseqs ▸ hm⟩

/-- **What is retained can be delivered**: its numbers increase at each site, none
occurs twice, and all of them are of the time since the last portion. -/
theorem Chronicle.partitioned_cons (h : r.Chronicle lo now) (hbound : now ≤ wordSize)
    (path : String) (hrest : Partitioned portions now) :
    Partitioned (⟨path, r.presentRows⟩ :: portions) lo := by
  have hdated := h.dated hbound
  have hincreasing : ∀ row ∈ r.presentRows, row.seqs.Pairwise (· < ·) := by
    intro row hrow
    rcases h.sound.seqs_of_mem_presentRows hrow with hempty | ⟨b, hb, hseqs⟩
    · rw [hempty]
      exact List.Pairwise.nil
    · rw [hseqs]
      exact hdated.increasing hb
  refine hrest.cons h.since hincreasing ?_ ?_
  · refine List.pairwise_flatMap.mpr ⟨fun row hrow => ?_, ?_⟩
    · exact (hincreasing row hrow).imp fun hlt => UInt64.ne_of_lt hlt
    · -- two rows are of two sites, and no number is at both
      refine (ordered_rowsOf h.sound.catalog h.sound.registry.arena.ordered).imp_of_mem ?_
      rintro row row' hrow hrow' hlt m hm _ hm' rfl
      obtain ⟨b, hb, hm⟩ := h.sound.exists_of_mem_seqs hrow hm
      obtain ⟨b', hb', hm'⟩ := h.sound.exists_of_mem_seqs hrow' hm'
      exact hlt.ne (hdated.site_eq hb hb' hm hm')
  · intro m hm
    obtain ⟨row, hrow, hm⟩ := List.mem_flatMap.mp hm
    obtain ⟨b, hb, hm⟩ := h.sound.exists_of_mem_seqs hrow hm
    exact hdated.bounds hb hm

end Portions

namespace Session

/-- What an action delivers, by its answer: a save with a reset and the first close
deliver the present rows. -/
def portionOf (r : Recorder) : Action → Answer → Option Portion
  | .save true _, .path path => some ⟨path, r.presentRows⟩
  | .close _, .path path => if r.registry.closed then none else some ⟨path, r.presentRows⟩
  | _, _ => none

/-- **The portions of a run.** -/
def portions (s : Session) (actions : List Action) (w : Supplies := {}) : List Portion :=
  match actions with
  | [] => []
  | a :: rest =>
    (portionOf s.recorder a (s.step a w).2).toList ++ (s.step a w).1.portions rest w

variable {s : Session} {w : Supplies} {a : Action} {x : Session × Answer} {q : Portion}
  {lo now : Nat}

/-- Only the answer of a written trace delivers something. -/
theorem portionOf_eq_none (r : Recorder) (a : Action) {y : Answer} (hy : ∀ path, y ≠ .path path) :
    portionOf r a y = none := by
  cases y with
  | path path => exact absurd rfl (hy path)
  | none | failed =>
    cases a with
    | save reset elapsed => cases reset <;> rfl
    | _ => rfl

/-- **The chronicle goes on** with every action. -/
theorem chronicle_step (h : s.recorder.Chronicle lo now) (a : Action) (w : Supplies) :
    (s.step a w).1.recorder.Chronicle lo
      (now + (s.offersBy a w).countP Offer.isNumbered) := by
  have hsound := sound_step h.sound a w
  cases hcall : a.call? with
  | some call =>
    rw [recorder_step_of_call hcall, offersBy_of_call hcall]
    exact h.strokes s.heap w.memory (call.strokes s.heap)
  | none =>
    obtain ⟨-, arena, closed, diagnostics, heq, harena⟩ := quiet_step (w := w) h.sound hcall
    rw [offersBy_of_no_call hcall]
    refine ⟨hsound, ?_, h.since, fun hbound => ?_⟩
    · rw [heq]
      exact h.clock
    · rw [heq]
      rcases harena with rfl | rfl
      · exact h.dated hbound
      · exact Registry.dated_of_empty rfl _ _

theorem chronicle_run (h : s.recorder.Chronicle lo now) (actions : List Action) (w : Supplies) :
    (s.run actions w).recorder.Chronicle lo (now + s.ticks actions w) := by
  induction actions generalizing s now with
  | nil => exact h
  | cons a rest ih =>
    rw [ticks_cons, ← Nat.add_assoc]
    exact ih (chronicle_step h a w)

/-- **What is delivered** has the present rows, and reads back as their trace.
Afterwards the recorder is closed, or it has no buffers. -/
theorem Outcome.delivered (hx : Outcome s w a x) (hq : portionOf s.recorder a x.2 = some q) :
    q.rows = s.recorder.presentRows ∧
    x.1.recorder.archive.read? x.1.files q.path = .ok (s.recorder.presentText s.heap) ∧
    (x.1.recorder.registry.closed = true ∨ x.1.recorder.registry.arena = {}) := by
  cases hx with
  | aside | registered | called =>
    rw [portionOf_eq_none (y := .none) _ _ nofun] at hq
    cases hq
  | saved reset elapsed hsave =>
    cases hsave with
    | turnedAway | failed =>
      rw [Answer.of, portionOf_eq_none (y := .failed _) _ _ nofun] at hq
      cases hq
    | saved _ hwrite =>
      cases reset with
      | false => cases hq
      | true =>
        cases hq
        exact ⟨rfl, Archive.read?_of_write hwrite, Or.inr rfl⟩
  | closed elapsed hclose =>
    have hafter := hclose.closed
    cases hclose with
    | again hclosed =>
      rw [Answer.of, portionOf, if_pos hclosed] at hq
      cases hq
    | failed =>
      rw [Answer.of, portionOf_eq_none (y := .failed _) _ _ nofun] at hq
      cases hq
    | written hopen hwrite =>
      rw [Answer.of, portionOf, if_neg (Bool.eq_false_iff.mp hopen)] at hq
      cases hq
      exact ⟨rfl, Archive.read?_of_write hwrite, Or.inl hafter⟩

/-- An action that delivers something makes no call. -/
theorem call?_of_portionOf {y : Answer} (hq : portionOf s.recorder a y = some q) :
    a.call? = none := by
  cases a with
  | recordValue | recordObject | recordArrayLoad | recordArrayStore | recordNewArray => cases hq
  | _ => rfl

/-- **After a portion** the recorder is closed, or its chronicle begins anew. -/
theorem renewed_step (h : s.recorder.Chronicle lo now)
    (hq : portionOf s.recorder a (s.step a w).2 = some q) :
    (s.step a w).1.recorder.registry.closed = true ∨
      (s.step a w).1.recorder.Chronicle now now := by
  obtain ⟨-, -, hclosed | hempty⟩ := (outcome_step h.sound a w).delivered hq
  · exact Or.inl hclosed
  · have hnext := chronicle_step h a w
    rw [offersBy_of_no_call (call?_of_portionOf hq)] at hnext
    exact Or.inr ⟨hnext.sound, hnext.clock, Nat.le_refl _,
      fun _ => Registry.dated_of_empty hempty _ _⟩

/-- **A save with a reset** leaves no buffers behind, and the ceiling as it was. -/
theorem Outcome.emptied {elapsed : Nat} {path : String}
    (hx : Outcome s w (.save true elapsed) x) (hp : x.2 = .path path) :
    x.1.recorder.registry.arena = {} ∧
      x.1.recorder.registry.ceiling = s.recorder.registry.ceiling := by
  cases hx with
  | aside h | registered _ h | called _ h => cases h
  | saved _ _ hsave =>
    cases hsave with
    | turnedAway | failed => cases hp
    | saved => exact ⟨rfl, rfl⟩

/-- A closed recorder delivers nothing. -/
theorem Outcome.portionOf_of_closed (hx : Outcome s w a x)
    (hclosed : s.recorder.registry.closed = true) : portionOf s.recorder a x.2 = none := by
  cases hx with
  | aside | registered | called => exact portionOf_eq_none _ _ nofun
  | saved _ _ hsave =>
    cases hsave.eq_of_closed hclosed
    exact portionOf_eq_none _ _ nofun
  | closed _ hclose =>
    cases hclose.eq_of_closed hclosed
    exact if_pos hclosed

theorem portions_of_closed (hs : s.recorder.Sound) (hclosed : s.recorder.registry.closed = true)
    (actions : List Action) (w : Supplies) : s.portions actions w = [] := by
  induction actions generalizing s with
  | nil => rfl
  | cons a rest ih =>
    have hout := outcome_step hs a w
    have hclosed' : (s.step a w).1.recorder.registry.closed = true := by
      rw [hout.closed_eq, hclosed, Bool.true_or]
    rw [portions, hout.portionOf_of_closed hclosed, ih (sound_step hs a w) hclosed']
    rfl

/-- **The portions of a run partition the numbers** from the beginning of its
chronicle on. -/
theorem partitioned_portions (h : s.recorder.Chronicle lo now) (actions : List Action)
    (w : Supplies) (hbound : now + s.ticks actions w ≤ wordSize) :
    Partitioned (s.portions actions w) lo := by
  induction actions generalizing s lo now with
  | nil => exact partitioned_nil lo
  | cons a rest ih =>
    have hsound := sound_step h.sound a w
    rw [ticks_cons, ← Nat.add_assoc] at hbound
    rw [portions]
    cases hq : portionOf s.recorder a (s.step a w).2 with
    | none => exact ih (chronicle_step h a w) hbound
    | some q =>
      rw [offersBy_of_no_call (call?_of_portionOf hq)] at hbound
      have hrest : Partitioned ((s.step a w).1.portions rest w) now := by
        rcases renewed_step h hq with hclosed | hrenewed
        · rw [portions_of_closed hsound hclosed]
          exact partitioned_nil _
        · exact ih hrenewed hbound
      obtain ⟨path, rows⟩ := q
      obtain rfl : rows = s.recorder.presentRows := ((outcome_step h.sound a w).delivered hq).1
      exact h.partitioned_cons (Nat.le_of_add_right_le hbound) path hrest

end Session

end Recorder

end FlightRecorder
