import FlightRecorder.Proofs.Recorder.Sharing
import FlightRecorder.Proofs.SiteBuffer.Renderings

/-!
# Whom the recorder keeps alive

Under the strong policy the recorder keeps alive what can be read back from it, and
nothing else: an object lives on because of the recorder exactly as long as some
event in a buffer refers to it, be it in the registry or in an arena taken out of
it. Under the weak policy it keeps nothing alive, nor under the `id` policy as long
as nobody records objects as such; then the objects live and die as if nothing were
recorded at all.

* `FlightRecorder.Arena.targets`, `FlightRecorder.Recorder.Shared.targets` – the
  objects that events refer to;
* `FlightRecorder.Recorder.Shared.All` – all buffers there are have a property, and
  `FlightRecorder.Recorder.Shared.All.run`;
* `FlightRecorder.Recorder.Shared.liveness_of_run` – **the living**, after any run.
-/

namespace FlightRecorder

/-! ### What events refer to -/

/-- The object that an event refers to, whichever way its slot holds it. -/
def Event.target? (e : Event) : Option Ref :=
  match e.cell with
  | .object (.strong r) | .object (.weak r) => some r
  | _ => none

/-- The objects that the events of a buffer refer to, with repetitions. -/
def SiteBuffer.targets (b : SiteBuffer) : List Ref :=
  b.events.filterMap (·.target?)

/-- The objects that the events of an arena refer to, with repetitions. -/
def Arena.targets (a : Arena) : List Ref :=
  a.buffers.flatMap fun (_, b) => b.targets

section Targets

variable {p : Retention} {kind : Kind} {e : Event} {b : SiteBuffer} {a : Arena} {r : Ref}

/-- Slots that do not hold weakly keep alive what they refer to. -/
theorem Event.StoredAs.held_eq_target? (he : e.StoredAs p kind) (hp : p ≠ .weak) :
    e.cell.held = e.target? := by
  obtain ⟨v, -, hcell⟩ := he
  rw [Event.target?, hcell]
  cases v with
  | object o =>
    cases o with
    | none => cases p <;> rfl
    | some r =>
      cases p with
      | strong | id => rfl
      | weak => exact absurd rfl hp
  | _ => rfl

theorem SiteBuffer.Tidy.mem_held_iff_mem_targets (ht : b.Tidy) (hb : b.WellFormed)
    (hf : b.Faithful p) (hp : p ≠ .weak) : r ∈ b.held ↔ r ∈ b.targets := by
  rw [mem_held_iff ht hb, targets, List.mem_filterMap]
  exact exists_congr fun e => and_congr_right fun he => by
    rw [(hf.storedAs he).held_eq_target? hp]

/-- **A tidy arena keeps alive what its events refer to**, and nothing else. -/
theorem Arena.All.mem_held_iff_mem_targets (ha : a.All p SiteBuffer.Tidy) (hp : p ≠ .weak) :
    r ∈ a.held ↔ r ∈ a.targets := by
  rw [held, Arena.targets, List.mem_flatMap, List.mem_flatMap]
  refine exists_congr fun q => and_congr_right fun hq => ?_
  obtain ⟨-, hfaithful, htidy⟩ := ha.every q hq
  exact htidy.mem_held_iff_mem_targets (ha.sound.wellFormed q hq) hfaithful hp

end Targets

/-! ### What collected objects render as -/

theorem identityDocument_ne_collectedMark (typeName token : String) (text : Option String) :
    identityDocument typeName token text ≠ .object [("id", .string collectedMark)] := by
  cases text <;> simp [identityDocument]

/-- **Objects that are not held weakly** never render as collected. -/
theorem Event.StoredAs.render_ne_collectedMark {p : Retention} {kind : Kind} {e : Event}
    (he : e.StoredAs p kind) (hp : p ≠ .weak) {slot : Slot} (hslot : e.cell = .object slot)
    (h : Heap) (c : Heap.Census) :
    (e.cell.read c).cellText h ≠ collectedMark ∧
      (e.cell.read c).document h ≠ .object [("id", .string collectedMark)] := by
  obtain ⟨v, -, hcell⟩ := he
  rw [hcell] at hslot ⊢
  cases v with
  | object o =>
    cases o with
    | none =>
      have hnull : "null" ≠ collectedMark := by decide
      cases p <;> exact ⟨hnull, nofun⟩
    | some r =>
      cases p with
      | strong | id =>
        exact ⟨identityText_ne_collectedMark _ _ _, identityDocument_ne_collectedMark _ _ _⟩
      | weak => exact absurd rfl hp
  | _ => cases hslot

namespace Recorder.Shared

/-! ### All buffers there are -/

variable {p : Retention} {P : Ref → Prop} {Q : SiteBuffer → Prop} {s : Shared}

/-- The objects that the events of all buffers refer to. -/
def targets (s : Shared) : List Ref :=
  s.arenas.flatMap Arena.targets

/-- **All buffers there are** have a property, those of the registry and those taken
out of it. -/
structure All (p : Retention) (Q : SiteBuffer → Prop) (s : Shared) : Prop where
  registry : s.recorder.registry.All p Q
  parked : ∀ q ∈ s.parked, q.2.All p Q

theorem All.arena (hs : s.All p Q) {a : Arena} (ha : a ∈ s.arenas) : a.All p Q := by
  rcases List.mem_append.mp ha with ha | ha
  · obtain ⟨q, hq, rfl⟩ := List.mem_map.mp ha
    exact hs.parked q hq
  · rw [List.mem_singleton.mp ha]
    exact hs.registry.arena

/-- What holds of all that is kept alive holds of all that is in slots. -/
theorem All.holdsOnly (hs : s.All p SiteBuffer.Tidy) (hP : ∀ r ∈ s.held, P r) :
    s.All p (SiteBuffer.HoldsOnly P) := by
  have harena : ∀ a ∈ s.arenas, a.All p (SiteBuffer.HoldsOnly P) := by
    refine fun a ha => ⟨(hs.arena ha).sound, fun q hq => ?_⟩
    obtain ⟨hsite, hfaithful, htidy⟩ := (hs.arena ha).every q hq
    exact ⟨hsite, hfaithful, htidy.holdsOnly fun r hr =>
      hP r (List.mem_flatMap.mpr ⟨a, ha, List.mem_flatMap.mpr ⟨q, hq, hr⟩⟩)⟩
  refine ⟨⟨harena _ ?_, hs.registry.ceiling_pos, hs.registry.retention⟩, fun q hq => harena _ ?_⟩
  · exact List.mem_append_right _ (List.mem_singleton_self _)
  · exact List.mem_append_left _ (List.mem_map_of_mem hq)

theorem All.forall_held (hs : s.All p (SiteBuffer.HoldsOnly P)) : ∀ r ∈ s.held, P r := by
  intro r hr
  obtain ⟨a, ha, hr⟩ := List.mem_flatMap.mp hr
  obtain ⟨q, hq, hr⟩ := List.mem_flatMap.mp hr
  exact ((hs.arena ha).every q hq).2.2.of_mem_held hr

theorem all_start (settings : Settings) (limits : RegistryLimits) (clock : Clock)
    (archive : Archive) (files : FileTree) (Q : SiteBuffer → Prop) :
    (start settings limits clock archive files).All limits.retention Q :=
  ⟨Registry.all_new limits clock Q, fun _ hq => absurd hq List.not_mem_nil⟩

/-- **What an action puts into slots**, given whether objects are numbered. -/
def Action.stored (numbers : Bool) (h : Heap) : Action → List Ref
  | .act a =>
    match a.call? with
    | some call => (call.strokes h).flatMap (Stroke.stored numbers)
    | none => []
  | .record _ v _ => refsOf v
  | _ => []

theorem All.step (hs : s.All p Q) (hQ : Lasting p P Q) (a : Action)
    (hP : p ≠ .weak → ∀ ref ∈ a.stored s.recorder.interner.isSome s.observed, P ref) :
    (s.step a).All p Q := by
  cases a with
  | act a =>
    refine ⟨Registry.All.step (s := ⟨s.observed, s.files, s.recorder⟩) hs.registry hQ a ?_, hs.parked⟩
    intro hp call hcall st hst ref href
    refine hP hp ref ?_
    rw [Action.stored, Option.mem_def.mp hcall]
    exact List.mem_flatMap.mpr ⟨st, hst, href⟩
  | record site value thread =>
    refine ⟨hs.registry.record hQ site (fun ref hheld => ?_) thread, hs.parked⟩
    obtain ⟨rfl, hp⟩ := eq_of_held_store hheld
    exact hP hp ref (List.mem_singleton_self ref)
  | getOrCreate site kind => exact ⟨hs.registry.getOrCreate hQ site kind, hs.parked⟩
  | detach name =>
    refine ⟨hs.registry.detach, fun q hq => ?_⟩
    rcases List.mem_cons.mp hq with rfl | hq
    · exact hs.registry.arena
    · exact hs.parked q (List.mem_of_mem_filter hq)
  | restore name =>
    rw [Shared.step]
    cases hlookup : s.parked.lookup name with
    | none => exact hs
    | some arena =>
      have harena := hs.parked _ (Registry.Session.mem_of_lookup_parked hlookup)
      exact ⟨hs.registry.restore hQ harena s.census,
        fun q hq => hs.parked q (List.mem_of_mem_filter hq)⟩
  | discard name => exact ⟨hs.registry, fun q hq => hs.parked q (List.mem_of_mem_filter hq)⟩
  | closeRegistry => exact ⟨hs.registry.close, hs.parked⟩
  | intern | purge => exact ⟨hs.registry, hs.parked⟩

/-- **What lasts holds along a run**, as long as what is put into slots is such. -/
theorem All.run (hs : s.All p Q) (hQ : Lasting p P Q) {actions : List Action}
    (hP : p ≠ .weak → ∀ a ∈ actions, ∀ h, ∀ ref ∈ a.stored s.recorder.interner.isSome h, P ref) :
    (s.run actions).All p Q := by
  induction actions generalizing s with
  | nil => exact hs
  | cons a rest ih =>
    refine ih (hs.step hQ a fun hp => hP hp a List.mem_cons_self _) fun hp b hb h => ?_
    rw [isSome_interner_step]
    exact hP hp b (List.mem_cons_of_mem a hb) h

/-! ### The strong policy -/

/-- **All that is kept alive can be read back.** -/
theorem All.isAlive_census_iff (hs : s.All p SiteBuffer.Tidy) (hp : p ≠ .weak)
    (hh : s.heap.WellFormed) {r : Ref} (hr : r.index < s.heap.objects.size) :
    s.census.isAlive r = true ↔ s.heap.Alive s.targets r := by
  have hmem : ∀ ref, ref ∈ s.held ↔ ref ∈ s.targets := by
    intro ref
    rw [held, targets, List.mem_flatMap, List.mem_flatMap]
    exact exists_congr fun a => and_congr_right fun ha =>
      (hs.arena ha).mem_held_iff_mem_targets hp
  rw [census, Heap.census_congr hmem]
  exact Heap.isAlive_census_iff hh hr

/-! ### The other policies -/

/-- Whether an action records an object as such, and not what identifies it. -/
def Action.recordsRaw : Action → Bool
  | .act (.recordValue _ v _) | .record _ v _ => !(refsOf v).isEmpty
  | _ => false

/-- Whether an action is the program's own: creating an object, or letting go of
one. -/
def Action.ofProgram : Action → Bool
  | .act (.create _) | .act (.release _) => true
  | _ => false

theorem Action.onHeap_of_not_ofProgram {a : Action} (ha : a.ofProgram = false) (h : Heap) :
    a.onHeap h = h := by
  cases a with
  | act a => cases a <;> first | rfl | cases ha
  | _ => rfl

theorem Stroke.stored_any (site : Nat) (v : Value) (thread : UInt32) :
    (Stroke.any site v thread).stored true = [] := by
  cases v <;> rfl

/-- Objects that are numbered are put into slots by those only who record them as
such. -/
theorem Action.stored_of_not_recordsRaw {a : Action} (ha : a.recordsRaw = false) (h : Heap) :
    a.stored true h = [] := by
  cases a with
  | act a =>
    cases a with
    | recordValue site v thread =>
      have hv : refsOf v = [] := by simpa [recordsRaw] using ha
      exact (List.append_nil _).trans hv
    | recordArrayStore site array index v thread =>
      exact (List.append_nil _).trans (Stroke.stored_any _ _ _)
    | recordNewArray site array thread =>
      refine List.flatMap_eq_nil_iff.mpr fun st hst => ?_
      obtain ⟨event, -, rfl⟩ := List.mem_map.mp hst
      rfl
    | _ => rfl
  | record site v thread =>
    have hv : refsOf v = [] := by simpa [recordsRaw] using ha
    exact hv
  | _ => rfl

/-- **Nobody keeps anything alive** under the weak policy, or where objects are
numbered if none is recorded as such. -/
theorem All.census_run (hs : s.All p (SiteBuffer.HoldsOnly fun _ => False)) {actions : List Action}
    (hactions : p = .weak ∨
      s.recorder.interner.isSome = true ∧ ∀ a ∈ actions, a.recordsRaw = false) :
    (s.run actions).census = (s.run actions).heap.census [] := by
  have hrun : (s.run actions).All p (SiteBuffer.HoldsOnly fun _ => False) := by
    refine hs.run (lasting_holdsOnly p _) fun hp a ha h ref href => ?_
    rcases hactions with hweak | ⟨hnumbers, hraw⟩
    · exact hp hweak
    · rw [hnumbers, Action.stored_of_not_recordsRaw (hraw a ha)] at href
      exact List.not_mem_nil href
  have hheld : (s.run actions).held = [] :=
    List.eq_nil_iff_forall_not_mem.mpr hrun.forall_held
  rw [census, hheld]

/-- What is not the program's own may be left out of a run, all of it or some, and
the objects are the same. -/
theorem heap_run_filter (s : Shared) (keep : Action → Bool) (actions : List Action) :
    (s.run (actions.filter fun a => a.ofProgram || keep a)).heap = (s.run actions).heap := by
  rw [heap_run, heap_run, List.foldl_filter]
  congr 1
  funext h a
  split_ifs with hkept
  · rfl
  · refine (Action.onHeap_of_not_ofProgram ?_ h).symm
    exact Bool.eq_false_iff.mpr fun hprogram => hkept (by rw [hprogram, Bool.true_or])

/-! ### Both -/

/-- **The living**, after any run of a program, its recorder and whoever shares the
registry and the interner.

Under the strong policy an object is alive if and only if a handle of the program, an
array that is alive itself, or an event that can be read back refers to it, the
buffers in the registry and in all arenas outside taken together. And no object
renders as collected.

Under the weak policy, and under the `id` policy if no object is recorded as such,
the same objects are alive as in the run without any of the actions that are not the
program's own, be it all of them or some: those, say, that record. -/
theorem liveness_of_run (settings : Settings) (limits : RegistryLimits) (clock : Clock)
    (archive : Archive) (files : FileTree) (actions : List Action) :
    let begin := start settings limits clock archive files
    let s := begin.run actions
    (limits.retention = .strong →
      (∀ r : Ref, r.index < s.heap.objects.size →
        (s.census.isAlive r = true ↔ s.heap.Alive s.targets r)) ∧
      ∀ a ∈ s.arenas, ∀ q ∈ a.buffers, ∀ e ∈ q.2.events, ∀ slot, e.cell = .object slot →
        ∀ (h : Heap) (c : Heap.Census), (e.cell.read c).cellText h ≠ collectedMark ∧
          (e.cell.read c).document h ≠ .object [("id", .string collectedMark)]) ∧
    (limits.retention = .weak ∨
        (limits.retention = .id ∧ ∀ a ∈ actions, a.recordsRaw = false) →
      ∀ keep : Action → Bool,
        let t := begin.run (actions.filter fun a => a.ofProgram || keep a)
        t.heap = s.heap ∧ t.census = s.census) := by
  intro begin s
  refine ⟨fun hstrong => ?_, fun hnothing keep => ?_⟩
  · have hp : limits.retention ≠ .weak := by
      rw [hstrong]
      nofun
    have htidy : s.All limits.retention SiteBuffer.Tidy :=
      (all_start settings limits clock archive files _).run (lasting_tidy _)
        fun _ _ _ _ _ _ => trivial
    have hheap : s.heap.WellFormed := wellFormed_run Heap.wellFormed_empty actions
    refine ⟨fun r hr => htidy.isAlive_census_iff hp hheap hr, ?_⟩
    intro a ha q hq e he slot hslot h c
    obtain ⟨-, hfaithful, -⟩ := (htidy.arena ha).every q hq
    exact (hfaithful.storedAs he).render_ne_collectedMark hp hslot h c
  · intro t
    have hheap : t.heap = s.heap := heap_run_filter begin keep actions
    have hstart : begin.All limits.retention (SiteBuffer.HoldsOnly fun _ => False) :=
      all_start settings limits clock archive files _
    have hcensus : ∀ actions' : List Action, (∀ a ∈ actions', a ∈ actions) →
        (begin.run actions').census = (begin.run actions').heap.census [] := by
      intro actions' hsub
      exact hstart.census_run (hnothing.imp_right fun ⟨hid, hraw⟩ =>
        ⟨isSome_interner_start settings hid clock archive files, fun a ha => hraw a (hsub a ha)⟩)
    refine ⟨hheap, ?_⟩
    rw [hcensus actions fun _ ha => ha, hcensus _ fun _ ha => List.mem_of_mem_filter ha, hheap]

/-- Under the strong policy, an object that the program let go of is kept alive by its
event in an arena outside, while the object of an overwritten event is gone. Under
the `id` policy neither is kept alive, as if there had been no calls. -/
theorem liveness_of_run_released :
    let program : List Action :=
      [.act (.create ⟨"x", "Object", none, none, false⟩),
        .act (.create ⟨"y", "Object", none, none, false⟩)]
    let calls : List Action :=
      [.act (.recordObject 3 (some ⟨0⟩) 1), .act (.recordObject 3 (some ⟨1⟩) 1), .detach "outside"]
    let letting : List Action := [.act (.release "x"), .act (.release "y")]
    let begin := fun retention => start {} { bufferSize := 1, retention } (.startingAt 1)
      (.new "trace.json" none) {}
    let s := (begin .strong).run (program ++ calls ++ letting)
    let t := (begin .id).run (program ++ calls ++ letting)
    s.census.isAlive ⟨1⟩ = true ∧ s.heap.Alive s.targets ⟨1⟩ ∧ ¬s.heap.Alive s.targets ⟨0⟩ ∧
      t.census = ((begin .id).run (program ++ letting)).census := by
  intro program calls letting begin s t
  have hstrong := (liveness_of_run {} { bufferSize := 1, retention := .strong } (.startingAt 1)
    (.new "trace.json" none) {} (program ++ calls ++ letting)).1 rfl
  have hid := (liveness_of_run {} { bufferSize := 1, retention := .id } (.startingAt 1)
    (.new "trace.json" none) {} (program ++ calls ++ letting)).2
      (Or.inr ⟨rfl, by decide +kernel⟩) fun _ => false
  have hlast : s.census.isAlive ⟨1⟩ = true := by decide +kernel
  have hfirst : s.census.isAlive ⟨0⟩ = false := by decide +kernel
  have hsize : s.heap.objects.size = 2 := by decide +kernel
  refine ⟨hlast, (hstrong.1 ⟨1⟩ (by rw [hsize]; decide)).mp hlast, fun halive => ?_, hid.2.symm⟩
  rw [← hstrong.1 ⟨0⟩ (by rw [hsize]; decide), hfirst] at halive
  cases halive

end Recorder.Shared

end FlightRecorder
