import FlightRecorder.Proofs.Recorder.Strokes
import FlightRecorder.Proofs.Registry.Numbering

/-!
# Offers

A recorder counts every event that is offered to it until it stops, and its clock moves
with every event that gets a sequence number. One event can be counted without getting a
number: the one over which the registry degrades before it has a buffer for it. This file
follows the events of a run, stroke by stroke, and compares the two counts. A call that
breaks off is counted and gets no number either, but that is no outcome of an event: such
runs are told apart.

* `FlightRecorder.Recorder.Offer`, `FlightRecorder.Recorder.Session.offers` – the events
  that a run offers, each with the recorder before and after it;
* `FlightRecorder.Recorder.Session.taken`, `FlightRecorder.Recorder.Session.ticks` – how
  many of them are counted (`FlightRecorder.Recorder.Session.eventsRecorded_run`), and how
  many are numbered;
* `FlightRecorder.Recorder.Session.fall?` – over what the registry degrades;
* `FlightRecorder.Recorder.Session.breaksOff_eq` – only the first event of an action can
  break off;
* `FlightRecorder.Recorder.Session.taken_eq` – **the two counts**.
-/

namespace FlightRecorder.Recorder

/-! ### Offers -/

/-- **An event that is offered**, with the recorder before and after it. -/
structure Offer where
  before : Recorder
  stroke : Stroke
  after : Recorder

namespace Offer

/-- Whether the recorder takes the event. -/
def isTaken (o : Offer) : Bool :=
  !o.before.isStopped

/-- Whether the event gets a number. -/
def isNumbered (o : Offer) : Bool :=
  o.after.registry.clock != o.before.registry.clock

/-- Whether the registry degrades over the event. -/
def degrades (o : Offer) : Bool :=
  !o.before.registry.degraded && o.after.registry.degraded

/-- Whether the site of the event has a buffer already. -/
def isBuffered (o : Offer) : Bool :=
  o.before.registry.isRecorded o.stroke.site

/-- Whether the call breaks off. -/
def breaksOff (m : Nat → Memory) (o : Offer) : Bool :=
  o.before.breaksOff o.stroke.site m

end Offer

/-- The events of some strokes. -/
def offersOf (h : Heap) (m : Nat → Memory) (r : Recorder) : List Stroke → List Offer
  | [] => []
  | st :: rest => ⟨r, st, r.stroke h st m⟩ :: (r.stroke h st m).offersOf h m rest

section Strokes

variable {h : Heap} {m : Nat → Memory} {r : Recorder} {st : Stroke} {strokes : List Stroke}
  {o : Offer}

/-- A recorder that takes an event counts it and passes it on. -/
theorem recordValue_cases (r : Recorder) (site : Nat) (value : Value) (thread : UInt32)
    (m : Nat → Memory) :
    (r.isStopped = true ∧
      (r.recordValue site value thread m).eventsRecorded = r.eventsRecorded ∧
      (r.recordValue site value thread m).registry = r.registry) ∨
    (r.isStopped = false ∧
      (r.recordValue site value thread m).eventsRecorded = r.eventsRecorded + 1 ∧
      ∃ value' thread', (r.recordValue site value thread m).registry =
        r.registry.record site value' thread' (m r.eventsRecorded)) := by
  cases hstopped : r.isStopped with
  | true =>
    rw [recordValue_of_stopped hstopped site value thread m]
    exact Or.inl ⟨rfl, rfl, rfl⟩
  | false =>
    rw [recordValue, if_neg (by simp [hstopped])]
    exact Or.inr ⟨rfl, rfl, value, thread, rfl⟩

/-- **What a stroke does**: nothing to a recorder that has stopped, and otherwise the event
is counted and passed on. -/
theorem stroke_cases (h : Heap) (m : Nat → Memory) (r : Recorder) (st : Stroke) :
    (r.isStopped = true ∧ (r.stroke h st m).eventsRecorded = r.eventsRecorded ∧
      (r.stroke h st m).registry = r.registry) ∨
    (r.isStopped = false ∧ (r.stroke h st m).eventsRecorded = r.eventsRecorded + 1 ∧
      ∃ value thread, (r.stroke h st m).registry =
        r.registry.record st.site value thread (m r.eventsRecorded)) := by
  cases st with
  | value site value thread => exact recordValue_cases r site value thread m
  | object site ref thread =>
    rw [stroke, recordObject]
    cases r.interner with
    | none => exact recordValue_cases r site (.object ref) thread m
    | some i =>
      obtain ⟨i', id, hi⟩ : ∃ i' id, i.intern h r.held ref = (i', id) := ⟨_, _, rfl⟩
      simp only [hi]
      exact recordValue_cases { r with interner := some i' } site (.objectId id) thread m

/-- A registry that records has neither been closed nor degraded. -/
theorem running_of_not_stopped (hr : r.isStopped = false) :
    r.registry.closed = false ∧ r.registry.degraded = false := by
  simpa [isStopped] using hr

theorem breaksOff_of_stopped (hr : r.isStopped = true) (site : Nat) (m : Nat → Memory) :
    r.breaksOff site m = false := by
  rw [breaksOff, hr]
  rfl

theorem breaksOff_of_running (hr : r.isStopped = false) (site : Nat) (m : Nat → Memory) :
    r.breaksOff site m = r.registry.breaksOff site (m r.eventsRecorded) := by
  rw [breaksOff, hr]
  rfl

/-- A recorder that has stopped, or has a buffer: no call of it breaks off. -/
def Settled (r : Recorder) : Prop :=
  r.isStopped = true ∨ r.registry.arena.buffers ≠ []

theorem Settled.breaksOff (hr : r.Settled) (site : Nat) (m : Nat → Memory) :
    r.breaksOff site m = false := by
  cases hstopped : r.isStopped with
  | true => exact breaksOff_of_stopped hstopped site m
  | false =>
    rw [breaksOff_of_running hstopped]
    refine Registry.breaksOff_of_buffers (hr.resolve_left ?_) _ _
    rw [hstopped]
    exact Bool.false_ne_true

/-- **A call that does not break off** settles the recorder. -/
theorem settled_stroke (hbreak : r.breaksOff st.site m = false) : (r.stroke h st m).Settled := by
  rcases stroke_cases h m r st with ⟨hstopped, -, heq⟩ | ⟨hrunning, -, value, thread, heq⟩
  · refine Or.inl ?_
    rw [isStopped, heq]
    exact hstopped
  · rw [breaksOff_of_running hrunning] at hbreak
    obtain ⟨hclosed, hdeg⟩ := running_of_not_stopped hrunning
    have hoccupied := Registry.occupied_record hclosed hdeg hbreak value thread
    rw [← heq] at hoccupied
    exact hoccupied.imp_left fun hdeg => by rw [isStopped, hdeg, Bool.or_true]

/-- Behind a settled recorder no stroke breaks off. -/
theorem breaksOff_of_settled (hr : r.Settled) :
    ∀ o ∈ r.offersOf h m strokes, o.breaksOff m = false := by
  induction strokes generalizing r with
  | nil => exact fun o ho => absurd ho List.not_mem_nil
  | cons st rest ih =>
    have hbreak := hr.breaksOff st.site m
    exact List.forall_mem_cons.mpr ⟨hbreak, ih (settled_stroke hbreak)⟩

/-- **Only the first of some strokes** can break off. -/
theorem any_breaksOff_offersOf (h : Heap) (m : Nat → Memory) (r : Recorder)
    (strokes : List Stroke) :
    (r.offersOf h m strokes).any (Offer.breaksOff m) =
      (strokes.head?.map Stroke.site).any (r.breaksOff · m) := by
  cases strokes with
  | nil => rfl
  | cons st rest =>
    rw [offersOf, List.any_cons, Offer.breaksOff, List.head?_cons, Option.map_some, Option.any_some]
    cases hbreak : r.breaksOff st.site m with
    | true => rfl
    | false =>
      rw [Bool.false_or, List.any_eq_false]
      intro o ho
      rw [breaksOff_of_settled (settled_stroke hbreak) o ho]
      exact Bool.false_ne_true

/-! ### One event -/

theorem offer_eq_of_mem (ho : o ∈ r.offersOf h m strokes) :
    o.after = o.before.stroke h o.stroke m := by
  induction strokes generalizing r with
  | nil => exact absurd ho List.not_mem_nil
  | cons st rest ih =>
    rcases List.mem_cons.mp ho with rfl | ho
    · rfl
    · exact ih ho

theorem tick_ne_self (c : Clock) : c.tick ≠ c := by
  intro hsame
  have hnext := congrArg (fun c => c.next.toNat) hsame
  simp only [Clock.tick, UInt64.toNat_add, UInt64.toNat_one] at hnext
  have := c.next.toNat_lt
  omega

/-- **The clock moves** with the events that are numbered; when it does not, the buffers
stay as they are or are dropped. -/
theorem clock_stroke (h : Heap) (m : Nat → Memory) (r : Recorder) (st : Stroke) :
    let r' := r.stroke h st m
    (Offer.isNumbered ⟨r, st, r'⟩ = false ∧ r'.registry.clock = r.registry.clock ∧
      (r'.registry = r.registry ∨ r'.registry.arena = {})) ∨
    (Offer.isNumbered ⟨r, st, r'⟩ = true ∧ r'.registry.clock = r.registry.clock.tick ∧
      ((∃ value thread, r'.registry = r.registry.record st.site value thread) ∨
        r'.registry.arena = {})) := by
  intro r'
  have hstill (hclock : r'.registry.clock = r.registry.clock) :
      Offer.isNumbered ⟨r, st, r'⟩ = false := by
    simp [Offer.isNumbered, hclock]
  have hmoved (hclock : r'.registry.clock = r.registry.clock.tick) :
      Offer.isNumbered ⟨r, st, r'⟩ = true := by
    simp [Offer.isNumbered, hclock, tick_ne_self]
  rcases stroke_cases h m r st with ⟨-, -, heq⟩ | ⟨-, -, value, thread, heq⟩
  · have hclock : r'.registry.clock = r.registry.clock := congrArg Registry.clock heq
    exact Or.inl ⟨hstill hclock, hclock, Or.inl heq⟩
  · have hcases := Registry.clock_record_of_memory r.registry st.site value thread
      (m r.eventsRecorded)
    dsimp only at hcases
    rw [← heq] at hcases
    rcases hcases with ⟨hclock, hframe⟩ | ⟨hclock, hframe⟩
    · exact Or.inl ⟨hstill hclock, hclock, hframe⟩
    · exact Or.inr ⟨hmoved hclock, hclock, hframe.imp_left fun hsame => ⟨value, thread, hsame⟩⟩

/-- **An event that is taken** is numbered, unless the registry degrades over it and its
site has no buffer; one that is not taken is neither. -/
theorem isNumbered_cases (hafter : o.after = o.before.stroke h o.stroke m)
    (hbreak : o.breaksOff m = false) :
    (o.isTaken = true ∧ o.isNumbered = true ∧ (o.degrades && !o.isBuffered) = false) ∨
    (o.isTaken = true ∧ o.isNumbered = false ∧ (o.degrades && !o.isBuffered) = true) ∨
    (o.isTaken = false ∧ o.isNumbered = false ∧ (o.degrades && !o.isBuffered) = false) := by
  simp only [Offer.isTaken, Offer.isNumbered, Offer.degrades, Offer.isBuffered,
    Registry.isRecorded, hafter]
  rcases stroke_cases h m o.before o.stroke with
    ⟨hstopped, -, heq⟩ | ⟨hrunning, -, value, thread, heq⟩
  · simp [heq, hstopped]
  · rw [Offer.breaksOff, breaksOff_of_running hrunning] at hbreak
    obtain ⟨hclosed, hdeg⟩ := running_of_not_stopped hrunning
    have htick := Registry.tick_record_of_memory hclosed hdeg hbreak value thread
    dsimp only at htick
    rw [← heq] at htick
    rcases htick with ⟨hdeg', hclock⟩ | ⟨hdeg', hfind, hclock⟩ | ⟨hdeg', hfind, hclock⟩
    · simp [hrunning, hclock, hdeg', tick_ne_self]
    · simp [hrunning, hclock, hdeg, hdeg', hfind]
    · simp [hrunning, hclock, hfind, tick_ne_self]

/-! ### Several events -/

/-- **Every event that is taken is counted.** -/
theorem eventsRecorded_strokes (h : Heap) (m : Nat → Memory) (r : Recorder)
    (strokes : List Stroke) :
    (strokes.foldl (fun r st => r.stroke h st m) r).eventsRecorded =
      r.eventsRecorded + (r.offersOf h m strokes).countP Offer.isTaken := by
  induction strokes generalizing r with
  | nil => rfl
  | cons st rest ih =>
    have hone : (r.stroke h st m).eventsRecorded =
        r.eventsRecorded + if Offer.isTaken ⟨r, st, r.stroke h st m⟩ then 1 else 0 := by
      rw [Offer.isTaken]
      rcases stroke_cases h m r st with ⟨hstopped, hevents, -⟩ | ⟨hrunning, hevents, -⟩
      · simp [hevents, hstopped]
      · simp [hevents, hrunning]
    rw [List.foldl_cons, ih, offersOf, List.countP_cons, hone, Nat.add_assoc]
    exact congrArg (r.eventsRecorded + ·) (Nat.add_comm _ _)

/-- **Events of which no call breaks off**: those that are taken are numbered, or the
registry degrades over them before they are. -/
theorem countP_isTaken {offers : List Offer}
    (hoffers : ∀ o ∈ offers, ∃ h, o.after = o.before.stroke h o.stroke m)
    (hreturns : ∀ o ∈ offers, o.breaksOff m = false) :
    offers.countP Offer.isTaken =
      offers.countP Offer.isNumbered + offers.countP fun o => o.degrades && !o.isBuffered := by
  induction offers with
  | nil => rfl
  | cons o rest ih =>
    obtain ⟨hfirst, hrest⟩ := List.forall_mem_cons.mp hoffers
    obtain ⟨h, hafter⟩ := hfirst
    obtain ⟨hreturn, hreturns⟩ := List.forall_mem_cons.mp hreturns
    rw [List.countP_cons, List.countP_cons, List.countP_cons, ih hrest hreturns]
    rcases isNumbered_cases hafter hreturn with ⟨htaken, hnumbered, hlost⟩ |
        ⟨htaken, hnumbered, hlost⟩ | ⟨htaken, hnumbered, hlost⟩
    · simp only [htaken, hnumbered, hlost, if_true, Bool.false_eq_true, if_false]
      omega
    · simp only [htaken, hnumbered, hlost, if_true, Bool.false_eq_true, if_false]
      omega
    · simp only [htaken, hnumbered, hlost, Bool.false_eq_true, if_false]
      omega

/-- What has degraded stays so. -/
theorem degraded_stroke (hr : r.registry.degraded = true) :
    (r.stroke h st m).registry.degraded = true := by
  rcases stroke_cases h m r st with ⟨-, -, heq⟩ | ⟨hrunning, -⟩
  · rw [heq]
    exact hr
  · rw [(running_of_not_stopped hrunning).2] at hr
    cases hr

theorem degraded_strokes (hr : r.registry.degraded = true) (strokes : List Stroke) :
    (strokes.foldl (fun r st => r.stroke h st m) r).registry.degraded = true := by
  induction strokes generalizing r with
  | nil => exact hr
  | cons st rest ih => exact ih (degraded_stroke hr)

/-- Strokes degrade the registry if one of them does. -/
theorem degraded_strokes_eq (h : Heap) (m : Nat → Memory) (r : Recorder) (strokes : List Stroke) :
    (strokes.foldl (fun r st => r.stroke h st m) r).registry.degraded =
      (r.registry.degraded || (r.offersOf h m strokes).any Offer.degrades) := by
  induction strokes generalizing r with
  | nil => exact (Bool.or_false _).symm
  | cons st rest ih =>
    rw [List.foldl_cons, ih, offersOf, List.any_cons, Offer.degrades]
    cases hdeg : r.registry.degraded with
    | true => rw [degraded_stroke hdeg, Bool.true_or, Bool.true_or]
    | false => rfl

/-- A degraded recorder is offered events in vain. -/
theorem degraded_of_mem_offersOf (hr : r.registry.degraded = true) :
    ∀ o ∈ r.offersOf h m strokes, o.before.registry.degraded = true := by
  induction strokes generalizing r with
  | nil => exact fun o ho => absurd ho List.not_mem_nil
  | cons st rest ih => exact List.forall_mem_cons.mpr ⟨hr, ih (degraded_stroke hr)⟩

/-- An event over which the registry degrades leaves it degraded. -/
theorem degraded_of_after (ho : o ∈ r.offersOf h m strokes)
    (hafter : o.after.registry.degraded = true) :
    (strokes.foldl (fun r st => r.stroke h st m) r).registry.degraded = true := by
  induction strokes generalizing r with
  | nil => exact absurd ho List.not_mem_nil
  | cons st rest ih =>
    rcases List.mem_cons.mp ho with rfl | ho
    · exact degraded_strokes hafter rest
    · exact ih ho

/-- **A registry degrades once**: later events find it degraded. -/
theorem pairwise_offersOf (h : Heap) (m : Nat → Memory) (r : Recorder) (strokes : List Stroke) :
    (r.offersOf h m strokes).Pairwise fun o o' =>
      o.after.registry.degraded = true → o'.before.registry.degraded = true := by
  induction strokes generalizing r with
  | nil => exact List.Pairwise.nil
  | cons st rest ih =>
    exact List.pairwise_cons.mpr
      ⟨fun o' ho' hafter => degraded_of_mem_offersOf hafter o' ho', ih _⟩

end Strokes

/-! ### Runs -/

namespace Session

/-- The events that an action offers. -/
def offersBy (s : Session) (a : Action) (w : Supplies := {}) : List Offer :=
  s.recorder.offersOf s.heap w.memory ((a.call?.map (Call.strokes s.heap)).getD [])

/-- **The events that a run offers.** -/
def offers (s : Session) (actions : List Action) (w : Supplies := {}) : List Offer :=
  match actions with
  | [] => []
  | a :: rest => s.offersBy a w ++ (s.step a w).1.offers rest w

/-- **The events that a run takes.** -/
def taken (s : Session) (actions : List Action) (w : Supplies := {}) : Nat :=
  (s.offers actions w).countP Offer.isTaken

/-- **How often the clock moves** in a run. -/
def ticks (s : Session) (actions : List Action) (w : Supplies := {}) : Nat :=
  (s.offers actions w).countP Offer.isNumbered

/-- **Over what the registry degrades** in a run, if it does: over an event whose site has
a buffer already, or over one whose site has none. -/
def fall? (s : Session) (actions : List Action) (w : Supplies := {}) : Option Bool :=
  ((s.offers actions w).find? Offer.degrades).map Offer.isBuffered

variable {s : Session} {w : Supplies} {a : Action} {actions : List Action} {o : Offer}

/-- **Only the first event of an action can break off.** -/
theorem breaksOff_eq (s : Session) (a : Action) (w : Supplies) :
    s.breaksOff a w = (s.offersBy a w).any (Offer.breaksOff w.memory) := by
  have hsite : (((a.call?.map (Call.strokes s.heap)).getD []).head?.map Stroke.site) = a.site? := by
    cases a <;> rfl
  rw [offersBy, any_breaksOff_offersOf, hsite]
  rfl

/-- An action whose site is not the last word does not break off. -/
theorem breaksOff_of_site (ha : ∀ site ∈ a.site?, site + 1 < wordSize) :
    s.breaksOff a w = false := by
  rw [Session.breaksOff]
  cases hsite : a.site? with
  | none => rfl
  | some site =>
    have hslot := Registry.lacksSlot_of_lt s.recorder.registry (ha site hsite)
    rw [Option.any_some, Recorder.breaksOff, Registry.breaksOff, hslot]
    simp only [Bool.and_false, Bool.false_and]

/-- **An action that makes no call** counts no event. Of the registry it changes what is
reported, and whether it is closed; and it keeps the buffers, or takes all of them out. -/
theorem quiet_step (hs : s.recorder.Sound) (hcall : a.call? = none) :
    let r := (s.step a w).1.recorder
    r.eventsRecorded = s.recorder.eventsRecorded ∧
    ∃ arena closed diagnostics,
      r.registry = { s.recorder.registry with arena, closed, diagnostics } ∧
      (arena = s.recorder.registry.arena ∨ arena = {}) := by
  cases a with
  | save reset elapsed =>
    have hout := outcome_save s.heap hs s.files reset elapsed (s.nextPacked w)
    rw [step_save s reset elapsed w]
    generalize s.recorder.save s.heap s.files reset elapsed (s.nextPacked w) = x at hout ⊢
    cases hout with
    | turnedAway | failed => exact ⟨rfl, _, _, _, rfl, Or.inl rfl⟩
    | saved =>
      cases reset with
      | false => exact ⟨rfl, _, _, _, rfl, Or.inl rfl⟩
      | true => exact ⟨rfl, _, _, _, rfl, Or.inr rfl⟩
  | close elapsed =>
    have hout := outcome_close s.heap s.recorder s.files elapsed (s.nextPacked w)
    rw [step_close s elapsed w]
    generalize s.recorder.close s.heap s.files elapsed (s.nextPacked w) = x at hout ⊢
    cases hout with
    | again | written | failed => exact ⟨rfl, _, _, _, rfl, Or.inl rfl⟩
  | register | create | release | makeDirectory | remove =>
    exact ⟨rfl, _, _, _, rfl, Or.inl rfl⟩
  | writeFile path text =>
    rw [step]
    split <;> exact ⟨rfl, _, _, _, rfl, Or.inl rfl⟩
  | recordValue | recordObject | recordArrayLoad | recordArrayStore | recordNewArray => cases hcall

theorem offersBy_of_no_call (hcall : a.call? = none) : s.offersBy a w = [] := by
  rw [offersBy, hcall]
  rfl

theorem offersBy_of_call {call : Call} (hcall : a.call? = some call) :
    s.offersBy a w = s.recorder.offersOf s.heap w.memory (call.strokes s.heap) := by
  rw [offersBy, hcall]
  rfl

theorem recorder_step_of_call {call : Call} (hcall : a.call? = some call) :
    (s.step a w).1.recorder =
      (call.strokes s.heap).foldl (fun r st => r.stroke s.heap st w.memory) s.recorder := by
  rw [step_of_call hcall w]
  exact perform_eq s.heap s.recorder call w.memory

theorem taken_cons (s : Session) (a : Action) (rest : List Action) (w : Supplies) :
    s.taken (a :: rest) w =
      (s.offersBy a w).countP Offer.isTaken + (s.step a w).1.taken rest w := by
  rw [taken, offers, List.countP_append]
  rfl

theorem ticks_cons (s : Session) (a : Action) (rest : List Action) (w : Supplies) :
    s.ticks (a :: rest) w =
      (s.offersBy a w).countP Offer.isNumbered + (s.step a w).1.ticks rest w := by
  rw [ticks, offers, List.countP_append]
  rfl

/-- **Every step counts the events that it takes.** -/
theorem eventsRecorded_step (hs : s.recorder.Sound) (a : Action) (w : Supplies) :
    (s.step a w).1.recorder.eventsRecorded =
      s.recorder.eventsRecorded + (s.offersBy a w).countP Offer.isTaken := by
  cases hcall : a.call? with
  | some call =>
    rw [recorder_step_of_call hcall, offersBy_of_call hcall]
    exact eventsRecorded_strokes s.heap w.memory s.recorder (call.strokes s.heap)
  | none =>
    rw [offersBy_of_no_call hcall]
    exact (quiet_step hs hcall).1

/-- **Every run counts the events that it takes.** -/
theorem eventsRecorded_run (hs : s.recorder.Sound) (actions : List Action) (w : Supplies) :
    (s.run actions w).recorder.eventsRecorded =
      s.recorder.eventsRecorded + s.taken actions w := by
  induction actions generalizing s with
  | nil => rfl
  | cons a rest ih =>
    rw [taken_cons, ← Nat.add_assoc, ← eventsRecorded_step hs]
    exact ih (sound_step hs a w)

/-! ### Degrading -/

/-- An action degrades the registry if one of its events does. -/
theorem degraded_step (hs : s.recorder.Sound) (a : Action) (w : Supplies) :
    (s.step a w).1.recorder.registry.degraded =
      (s.recorder.registry.degraded || (s.offersBy a w).any Offer.degrades) := by
  cases hcall : a.call? with
  | some call =>
    rw [recorder_step_of_call hcall, offersBy_of_call hcall]
    exact degraded_strokes_eq s.heap w.memory s.recorder (call.strokes s.heap)
  | none =>
    rw [offersBy_of_no_call hcall, List.any_nil, Bool.or_false]
    obtain ⟨-, arena, closed, diagnostics, heq, -⟩ := quiet_step (w := w) hs hcall
    rw [heq]

/-- The events of an action, and the recorder after it. -/
theorem degraded_of_after_offersBy (ho : o ∈ s.offersBy a w)
    (hafter : o.after.registry.degraded = true) :
    (s.step a w).1.recorder.registry.degraded = true := by
  cases hcall : a.call? with
  | some call =>
    rw [offersBy_of_call hcall] at ho
    rw [recorder_step_of_call hcall]
    exact degraded_of_after ho hafter
  | none =>
    rw [offersBy_of_no_call hcall] at ho
    exact absurd ho List.not_mem_nil

theorem degraded_of_mem_offers (hs : s.recorder.Sound)
    (hdeg : s.recorder.registry.degraded = true) :
    ∀ o ∈ s.offers actions w, o.before.registry.degraded = true := by
  induction actions generalizing s with
  | nil => exact fun o ho => absurd ho List.not_mem_nil
  | cons a rest ih =>
    rw [offers]
    exact List.forall_mem_append.mpr ⟨degraded_of_mem_offersOf hdeg,
      ih (sound_step hs a w) (by rw [degraded_step hs, hdeg, Bool.true_or])⟩

/-- In a run of which no action breaks off, no event does. -/
theorem forall_offers_of_breaksOff
    (h : ∀ before a, before ++ [a] <+: actions → (s.run before w).breaksOff a w = false) :
    ∀ o ∈ s.offers actions w, o.breaksOff w.memory = false := by
  induction actions generalizing s with
  | nil => exact fun o ho => absurd ho List.not_mem_nil
  | cons a rest ih =>
    rw [offers]
    refine List.forall_mem_append.mpr ⟨?_, ih fun before b hbefore => ?_⟩
    · have hfirst := h [] a (List.cons_prefix_cons.mpr ⟨rfl, List.nil_prefix⟩)
      rw [run, List.foldl_nil, breaksOff_eq, List.any_eq_false] at hfirst
      exact fun o ho => Bool.eq_false_iff.mpr (hfirst o ho)
    · exact h (a :: before) b (List.cons_prefix_cons.mpr ⟨rfl, hbefore⟩)

theorem offer_eq_of_mem_offers (actions : List Action) :
    ∀ o ∈ s.offers actions w, ∃ h, o.after = o.before.stroke h o.stroke w.memory := by
  induction actions generalizing s with
  | nil => exact fun o ho => absurd ho List.not_mem_nil
  | cons a rest ih =>
    rw [offers]
    exact List.forall_mem_append.mpr ⟨fun o ho => ⟨s.heap, offer_eq_of_mem ho⟩, ih⟩

/-- **A registry degrades once** in a run. -/
theorem pairwise_offers (hs : s.recorder.Sound) (actions : List Action) (w : Supplies) :
    (s.offers actions w).Pairwise fun o o' =>
      o.after.registry.degraded = true → o'.before.registry.degraded = true := by
  induction actions generalizing s with
  | nil => exact List.Pairwise.nil
  | cons a rest ih =>
    have hsound := sound_step hs a w
    rw [offers]
    refine List.pairwise_append.mpr ⟨pairwise_offersOf _ _ _ _, ih hsound, ?_⟩
    intro o ho o' ho' hafter
    exact degraded_of_mem_offers hsound (degraded_of_after_offersBy ho hafter) o' ho'

/-- **A run degrades the registry** over one of its events. -/
theorem degraded_run (hs : s.recorder.Sound) (actions : List Action) (w : Supplies) :
    (s.run actions w).recorder.registry.degraded =
      (s.recorder.registry.degraded || (s.fall? actions w).isSome) := by
  have hfall (s : Session) (actions : List Action) :
      (s.fall? actions w).isSome = (s.offers actions w).any Offer.degrades := by
    rw [fall?, Option.isSome_map, List.isSome_find?]
  induction actions generalizing s with
  | nil => exact (Bool.or_false _).symm
  | cons a rest ih =>
    rw [hfall, offers, List.any_append, ← Bool.or_assoc, ← degraded_step hs, ← hfall]
    exact ih (sound_step hs a w)

/-! ### The two counts -/

/-- Of events of which one at most has a property, one has it and another, or none. -/
theorem countP_and {α : Type} {p q : α → Bool} {l : List α}
    (hl : l.Pairwise fun x y => p x = true → p y = false) :
    l.countP (fun x => p x && q x) = if (l.find? p).any q then 1 else 0 := by
  induction l with
  | nil => rfl
  | cons x rest ih =>
    obtain ⟨hx, hrest⟩ := List.pairwise_cons.mp hl
    cases hp : p x with
    | false => simp [hp, ih hrest]
    | true =>
      have hnone : rest.countP (fun y => p y && q y) = 0 := by
        rw [List.countP_eq_zero]
        intro y hy
        simp [hx y hy hp]
      simp [hp, hnone, List.countP_cons]

/-- **The two counts.** In a run of which no call breaks off, every event that is taken is
numbered, but for the one over which the registry degrades if its site has no buffer. -/
theorem taken_eq (hs : s.recorder.Sound)
    (hreturns : ∀ o ∈ s.offers actions w, o.breaksOff w.memory = false) :
    s.taken actions w =
      s.ticks actions w + if s.fall? actions w = some false then 1 else 0 := by
  have hmade : ∀ o ∈ s.offers actions w, ∃ h, o.after = o.before.stroke h o.stroke w.memory :=
    offer_eq_of_mem_offers actions
  have honce : (s.offers actions w).Pairwise fun o o' =>
      o.degrades = true → o'.degrades = false := by
    refine (pairwise_offers hs actions w).imp fun hlater hdegrades => ?_
    rw [Offer.degrades, Bool.and_eq_true] at hdegrades
    rw [Offer.degrades, hlater hdegrades.2]
    rfl
  rw [taken, countP_isTaken hmade hreturns, countP_and honce, ticks, fall?]
  cases (s.offers actions w).find? Offer.degrades with
  | none => rfl
  | some o => cases hbuffered : o.isBuffered <;> simp [hbuffered]

end Session

end FlightRecorder.Recorder
