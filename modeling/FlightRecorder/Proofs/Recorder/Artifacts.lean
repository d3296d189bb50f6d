import FlightRecorder.Proofs.Archive.Naming
import FlightRecorder.Proofs.Recorder.Stopped

/-!
# Artifacts stay

A recorder writes one artifact for every save that succeeds, and one when it is
closed. None of them is written over by another: the numbers of saves only grow, a
save that fails uses its number up as well, and names with different numbers, and
that of the final trace, end differently. So whatever a recorder does after a trace
was written, the trace can be read back, unless someone else writes or removes
files.

The final trace is an artifact only if it was written by the first close. Later
closes answer with its path too, but write nothing.

* `FlightRecorder.FileTree.Holds.write?` – a file is left alone by writing to a path
  that ends differently;
* `FlightRecorder.Recorder.Session.Keeps` – the artifact at a path is in place, and
  nothing will be written there (`FlightRecorder.Recorder.Session.Keeps.step`,
  `FlightRecorder.Recorder.Session.Keeps.run`);
* `FlightRecorder.Recorder.Session.savedPaths` – the paths of the saves of a run;
* `FlightRecorder.Recorder.Session.artifacts_of_run` – **the artifacts of a run**.
-/

namespace FlightRecorder

/-! ### Files that are left alone -/

section Files

variable {t t' : FileTree} {path other text : String} {content content' : Content}

theorem FileTree.Holds.grown (h : t.Holds path content) (hgrown : t.Grown t') :
    t'.Holds path content := by
  obtain ⟨dir, name, htarget, hnode⟩ := h
  exact ⟨dir, name, target?_of_directories hgrown.directories htarget,
    (hgrown.files _ _).mpr hnode⟩

/-- **A file is left alone** by writing to a path that ends differently. -/
theorem FileTree.Holds.write? (h : t.Holds path content)
    (hwrite : t.write? other content' = .ok t')
    (hne : Path.lastStretch other.toList ≠ Path.lastStretch path.toList) :
    t'.Holds path content := by
  have hdirs := fun q => directories_of_write? (q := q) hwrite
  obtain ⟨dir, name, htarget, hnode⟩ := h
  obtain ⟨dir', name', htarget', -, rfl⟩ := write?_eq_ok_iff.mp hwrite
  refine ⟨dir, name, target?_of_directories hdirs htarget, ?_⟩
  have hplace : dir ++ [name] ≠ dir' ++ [name'] := by
    intro heq
    have hname : name = name' := by simpa using (List.append_inj' heq rfl).2
    rw [← name_eq_lastStretch htarget, ← name_eq_lastStretch htarget', hname] at hne
    exact hne rfl
  rw [node?_set t _ (List.append_ne_nil_of_right_ne_nil dir' (List.cons_ne_nil _ _)),
    if_neg hplace, hnode]

variable {a a' : Archive} {packed : Option Nat} {written : Except Failure Nat} {n : Nat}

/-- An artifact that is written, or refused, leaves the other ones alone. -/
theorem Archive.holds_of_write (h : t.Holds path content)
    (hwrite : a.write t other text packed = (a', t', written))
    (hne : Path.lastStretch other.toList ≠ Path.lastStretch path.toList) :
    t'.Holds path content := by
  obtain ⟨made, hgrown, ⟨f, hrefused⟩ | ⟨t'', n, hfile, -, hok⟩⟩ :=
    a.write_cases t other text packed
  · rw [hrefused] at hwrite
    cases hwrite
    exact h.grown hgrown
  · rw [hok] at hwrite
    cases hwrite
    exact (h.grown hgrown).write? hfile hne

/-- An artifact that is written is in place. -/
theorem Archive.holds_of_write_ok (hwrite : a.write t path text packed = (a', t', .ok n)) :
    t'.Holds path (.of a.compression text) := by
  obtain ⟨made, -, ⟨f, hrefused⟩ | ⟨t'', n, hfile, -, hok⟩⟩ := a.write_cases t path text packed
  · rw [hrefused] at hwrite
    cases hwrite
  · rw [hok] at hwrite
    cases hwrite
    exact FileTree.holds_of_write? hfile

/-- Writing changes no names. -/
theorem Archive.names_of_write (hwrite : a.write t path text packed = (a', t', written)) :
    a'.names = a.names := by
  obtain ⟨made, -, ⟨f, hrefused⟩ | ⟨t'', n, -, -, hok⟩⟩ := a.write_cases t path text packed
  · rw [hrefused] at hwrite
    cases hwrite
    rfl
  · rw [hok] at hwrite
    cases hwrite
    rfl

end Files

namespace Recorder

/-- Taking a number changes nothing about what is written, and in which form. -/
theorem presentText_numbered (h : Heap) (r : Recorder) :
    r.numbered.presentText h = r.presentText h := by
  simp only [presentText, traceText, census, held, numbered]

theorem compression_numbered (r : Recorder) :
    r.numbered.archive.compression = r.archive.compression := by
  simp only [numbered, Archive.nextPath]

namespace Session

variable {s : Session} {w : Supplies} {a : Action} {x : Session × Answer} {path : String}
  {content : Content}

/-! ### Names that are used up -/

/-- Whether an action saves, if the recorder is not closed. -/
def Action.saves : Action → Bool
  | .save _ _ => true
  | _ => false

theorem archive_perform (h : Heap) (r : Recorder) (call : Call) (m : Nat → Memory) :
    (r.perform h call m).archive = r.archive := by
  refine perform_ind (P := fun r' => r'.archive = r.archive) ?_ ?_ rfl call
  · rintro r' site value thread hr'
    rw [← hr', recordValue]
    split_ifs <;> rfl
  · rintro r' i i' - hr'
    exact hr'

/-- **A save takes the next name**, whether it fails or not, and answers with it if it
does not; nothing else takes a name. -/
theorem Outcome.names (hx : Outcome s w a x) :
    (x.1.recorder.archive.names = s.recorder.archive.names ∧
      (a.saves = true → ∀ p, x.2 ≠ .path p)) ∨
    (a.saves = true ∧ x.1.recorder.archive.names = s.recorder.archive.names.next.2 ∧
      ∀ p, x.2 = .path p → p = s.recorder.archive.names.next.1) := by
  cases hx with
  | aside _ hsame => exact Or.inl ⟨by rw [hsame], fun _ _ => nofun⟩
  | registered => exact Or.inl ⟨rfl, fun _ _ => nofun⟩
  | called call => exact Or.inl ⟨by rw [archive_perform], fun _ _ => nofun⟩
  | saved reset elapsed hsave =>
    cases hsave with
    | turnedAway => exact Or.inl ⟨rfl, fun _ _ => nofun⟩
    | saved _ hwrite =>
      refine Or.inr ⟨rfl, ?_, fun p hp => (Answer.path.inj hp).symm⟩
      have hnames := Archive.names_of_write hwrite
      cases reset <;> exact hnames
    | failed _ hwrite =>
      exact Or.inr ⟨rfl, Archive.names_of_write hwrite, fun p => nofun⟩
  | closed elapsed hclose =>
    cases hclose with
    | again => exact Or.inl ⟨rfl, nofun⟩
    | written _ hwrite | failed _ hwrite =>
      exact Or.inl ⟨Archive.names_of_write hwrite, nofun⟩

theorem Outcome.finalPath_eq (hx : Outcome s w a x) :
    x.1.recorder.archive.finalPath = s.recorder.archive.finalPath :=
  finalPath_of_rules hx.rules_eq

/-- The paths of the names stay the same. -/
theorem Outcome.path_names (hx : Outcome s w a x) (n : UInt32) :
    x.1.recorder.archive.names.path n = s.recorder.archive.names.path n := by
  rcases hx.names with ⟨hnames, -⟩ | ⟨-, hnames, -⟩
  · rw [hnames]
  · rw [hnames]
    rfl

theorem Outcome.distinct (hx : Outcome s w a x) (hd : s.recorder.archive.Distinct) :
    x.1.recorder.archive.Distinct where
  numbered m n heq := by
    rw [hx.path_names, hx.path_names] at heq
    exact hd.numbered m n heq
  final n := by
    rw [hx.path_names, hx.finalPath_eq]
    exact hd.final n

theorem distinct_run (hs : s.recorder.Sound) (hd : s.recorder.archive.Distinct)
    (actions : List Action) (w : Supplies) : (s.run actions w).recorder.archive.Distinct := by
  induction actions generalizing s with
  | nil => exact hd
  | cons a rest ih => exact ih (sound_step hs a w) ((outcome_step hs a w).distinct hd)

/-- How many numbers are used up: at most one for each save. -/
theorem Outcome.last_le (hx : Outcome s w a x) :
    x.1.recorder.archive.names.last.toNat ≤
      s.recorder.archive.names.last.toNat + if a.saves then 1 else 0 := by
  rcases hx.names with ⟨hnames, -⟩ | ⟨hsaves, hnames, -⟩
  · rw [hnames]
    exact Nat.le_add_right _ _
  · rw [hnames, if_pos hsaves, NameSequence.next, UInt32.toNat_add]
    exact Nat.mod_le _ _

/-- Numbers that suffice for the saves of a run suffice for its first action, and for
what comes after it. -/
theorem Outcome.room (hx : Outcome s w a x) {rest : List Action}
    (hroom : s.recorder.archive.names.last.toNat + (a :: rest).countP Action.saves <
      UInt32.size) :
    s.recorder.archive.names.last.toNat + (if a.saves then 1 else 0) < UInt32.size ∧
      x.1.recorder.archive.names.last.toNat + rest.countP Action.saves < UInt32.size := by
  have hlast := hx.last_le
  rw [List.countP_cons] at hroom
  generalize x.1.recorder.archive.names.last.toNat = next at hlast ⊢
  omega

theorem last_run_le (hs : s.recorder.Sound) (actions : List Action) (w : Supplies) :
    (s.run actions w).recorder.archive.names.last.toNat ≤
      s.recorder.archive.names.last.toNat + actions.countP Action.saves := by
  induction actions generalizing s with
  | nil => exact Nat.le_refl _
  | cons a rest ih =>
    have hstep := (outcome_step hs a w).last_le
    have hrest := ih (sound_step hs a w)
    rw [List.countP_cons]
    exact hrest.trans (by omega)

/-- The next number is larger, as long as there is a larger one. -/
theorem lt_next {last : UInt32} (hroom : last.toNat + 1 < UInt32.size) : last < last + 1 := by
  rw [UInt32.lt_iff_toNat_lt, UInt32.toNat_add]
  exact (Nat.lt_succ_self _).trans_eq (Nat.mod_eq_of_lt hroom).symm

/-! ### Artifacts that stay -/

/-- Whether an action is someone else's who writes or removes files. -/
def Action.meddles : Action → Bool
  | .writeFile _ _ | .remove _ => true
  | _ => false

/-- **An artifact that stays**: it is in place, and whatever may still be written ends
otherwise. -/
structure Keeps (s : Session) (path : String) (content : Content) : Prop where
  holds : s.files.Holds path content
  numbered : ∀ n, s.recorder.archive.names.last < n →
    Path.lastStretch (s.recorder.archive.names.path n).toList ≠ Path.lastStretch path.toList
  final : s.recorder.registry.closed = false →
    Path.lastStretch s.recorder.archive.finalPath.toList ≠ Path.lastStretch path.toList

/-- What the recorder does not write, and no one meddles with, can only be new
directories. -/
theorem grown_step (hwrites : a.writesTrace = false) (hquiet : a.meddles = false) :
    s.files.Grown (s.step a w).1.files := by
  cases a with
  | save | close => cases hwrites
  | writeFile | remove => cases hquiet
  | makeDirectory path => exact s.files.grown_makeDirectories path
  | _ => exact .refl _

/-- **A file stays in place** if nothing is written to a path that ends like its
own. -/
theorem Keeps.holds_of_outcome (h : s.Keeps path content) (hx : Outcome s w a x)
    (hgrown : a.writesTrace = false → s.files.Grown x.1.files)
    (hroom : s.recorder.archive.names.last.toNat + (if a.saves then 1 else 0) < UInt32.size) :
    x.1.files.Holds path content := by
  cases hx with
  | aside ha | registered _ ha | called _ ha => exact h.holds.grown (hgrown ha)
  | saved reset elapsed hsave =>
    have hnext := h.numbered _ (lt_next hroom)
    cases hsave with
    | turnedAway => exact h.holds
    | saved _ hwrite | failed _ hwrite => exact Archive.holds_of_write h.holds hwrite hnext
  | closed elapsed hclose =>
    cases hclose with
    | again => exact h.holds
    | written hopen hwrite | failed hopen hwrite =>
      exact Archive.holds_of_write h.holds hwrite (h.final hopen)

/-- **An artifact stays** with every action, as long as there is a next number. -/
theorem Keeps.step (h : s.Keeps path content) (hs : s.recorder.Sound)
    (hquiet : a.meddles = false)
    (hroom : s.recorder.archive.names.last.toNat + (if a.saves then 1 else 0) < UInt32.size) :
    (s.step a w).1.Keeps path content where
  holds := h.holds_of_outcome (outcome_step hs a w) (fun ha => grown_step ha hquiet) hroom
  numbered n hn := by
    have hout := outcome_step hs a w
    rw [hout.path_names]
    refine h.numbered n ?_
    rcases hout.names with ⟨hnames, -⟩ | ⟨hsaves, hnames, -⟩
    · rw [hnames] at hn
      exact hn
    · rw [hnames] at hn
      rw [if_pos hsaves] at hroom
      exact UInt32.lt_trans (lt_next hroom) hn
  final hopen := by
    have hout := outcome_step hs a w
    rw [hout.closed_eq, Bool.or_eq_false_iff] at hopen
    rw [hout.finalPath_eq]
    exact h.final hopen.1

/-- **An artifact stays** with every run, as long as there are numbers for its
saves. -/
theorem Keeps.run (h : s.Keeps path content) (hs : s.recorder.Sound) {actions : List Action}
    (hquiet : actions.any Action.meddles = false)
    (hroom : s.recorder.archive.names.last.toNat + actions.countP Action.saves < UInt32.size) :
    (s.run actions w).Keeps path content := by
  induction actions generalizing s with
  | nil => exact h
  | cons a rest ih =>
    rw [List.any_cons, Bool.or_eq_false_iff] at hquiet
    obtain ⟨hnow, hlater⟩ := (outcome_step hs a w).room hroom
    exact ih (h.step hs hquiet.1 hnow) (sound_step hs a w) hquiet.2 hlater

/-- **What was just written stays.** -/
theorem Outcome.keeps_of_path (hx : Outcome s w a x) (hd : s.recorder.archive.Distinct)
    (hopen : s.recorder.registry.closed = false) (hpath : x.2 = .path path) :
    x.1.Keeps path (.of s.recorder.archive.compression (s.recorder.presentText s.heap)) := by
  have hclosed := hx.closed_eq
  have hnext := hx.names
  have hnames := hx.path_names
  have hfinal := hx.finalPath_eq
  cases hx with
  | aside | registered | called => cases hpath
  | saved reset elapsed hsave =>
    cases hsave with
    | turnedAway | failed => cases hpath
    | saved _ hwrite =>
      obtain rfl := Answer.path.inj hpath
      have hholds := Archive.holds_of_write_ok hwrite
      rw [presentText_numbered, compression_numbered] at hholds
      refine ⟨hholds, fun n hn heq => ?_, fun _ heq => ?_⟩
      -- only this number makes this path, and it is not larger than itself
      · rw [hnames] at heq
        have hnumber : n = s.recorder.archive.names.last + 1 := hd.numbered _ _ heq
        rcases hnext with ⟨-, hno⟩ | ⟨-, hnext, -⟩
        · exact hno rfl _ rfl
        · rw [hnext, hnumber] at hn
          exact UInt32.lt_irrefl _ hn
      · rw [hfinal] at heq
        exact hd.final _ heq.symm
  | closed elapsed hclose =>
    cases hclose with
    | again hagain =>
      rw [hopen] at hagain
      cases hagain
    | failed => cases hpath
    | written _ hwrite =>
      obtain rfl := Answer.path.inj hpath
      refine ⟨Archive.holds_of_write_ok hwrite, fun n _ heq => ?_, fun hopen' => ?_⟩
      · rw [hnames] at heq
        exact hd.final n heq
      · rw [hclosed, Action.closes, Bool.or_true] at hopen'
        cases hopen'

/-- What is answered with a path by a closed recorder is another close, which changes
nothing. -/
theorem Outcome.of_closed (hx : Outcome s w a x) (hclosed : s.recorder.registry.closed = true)
    (hpath : x.2 = .path path) : path = s.recorder.archive.finalPath ∧ x.1 = s := by
  cases hx with
  | aside | registered | called => cases hpath
  | saved reset elapsed hsave =>
    cases hsave.eq_of_closed hclosed
    cases hpath
  | closed elapsed hclose =>
    cases hclose.eq_of_closed hclosed
    cases hpath
    exact ⟨rfl, rfl⟩

/-! ### The paths of a run -/

/-- The path that an action saved to. -/
def savedPath? : Action → Answer → Option String
  | .save _ _, .path path => some path
  | _, _ => none

/-- **The paths of the saves of a run** that were successful, in order. -/
def savedPaths (s : Session) (actions : List Action) (w : Supplies := {}) : List String :=
  match actions with
  | [] => []
  | a :: rest => (savedPath? a (s.step a w).2).toList ++ (s.step a w).1.savedPaths rest w

/-- A successful save is one to the next name. -/
theorem Outcome.of_savedPath? (hx : Outcome s w a x) (hp : savedPath? a x.2 = some path) :
    a.saves = true ∧ path = s.recorder.archive.names.path (s.recorder.archive.names.last + 1) ∧
      x.1.recorder.archive.names.last = s.recorder.archive.names.last + 1 := by
  obtain ⟨hsaves, hanswer⟩ : a.saves = true ∧ x.2 = .path path := by
    cases a with
    | save reset elapsed =>
      cases hy : x.2 with
      | path p =>
        rw [hy] at hp
        exact ⟨rfl, congrArg Answer.path (Option.some.inj hp)⟩
      | none | failed =>
        rw [hy] at hp
        cases hp
    | _ => cases hp
  rcases hx.names with ⟨-, hno⟩ | ⟨-, hnames, hnext⟩
  · exact absurd hanswer (hno hsaves path)
  · exact ⟨hsaves, hnext path hanswer, by rw [hnames]; rfl⟩

/-- **Saves of a run take larger and larger numbers.** -/
theorem exists_number_of_mem (hs : s.recorder.Sound) {actions : List Action}
    (hroom : s.recorder.archive.names.last.toNat + actions.countP Action.saves < UInt32.size)
    (hp : path ∈ s.savedPaths actions w) :
    ∃ n, s.recorder.archive.names.last < n ∧ path = s.recorder.archive.names.path n := by
  induction actions generalizing s with
  | nil => exact absurd hp List.not_mem_nil
  | cons a rest ih =>
    have hout := outcome_step hs a w
    obtain ⟨hroom, hrest⟩ := hout.room hroom
    rw [savedPaths, List.mem_append, Option.mem_toList] at hp
    rcases hp with hnow | hlater
    · obtain ⟨hsaves, hpath, -⟩ := hout.of_savedPath? hnow
      rw [if_pos hsaves] at hroom
      exact ⟨_, lt_next hroom, hpath⟩
    · obtain ⟨n, hn, hpath⟩ := ih (sound_step hs a w) hrest hlater
      refine ⟨n, ?_, hpath.trans (hout.path_names n)⟩
      rcases hout.names with ⟨hnames, -⟩ | ⟨hsaves, hnames, -⟩
      · rwa [hnames] at hn
      · rw [if_pos hsaves] at hroom
        rw [hnames] at hn
        exact UInt32.lt_trans (lt_next hroom) hn

/-- **No path is used twice.** -/
theorem nodup_savedPaths (hs : s.recorder.Sound) (hd : s.recorder.archive.Distinct)
    {actions : List Action}
    (hroom : s.recorder.archive.names.last.toNat + actions.countP Action.saves < UInt32.size) :
    (s.savedPaths actions w).Nodup := by
  induction actions generalizing s with
  | nil => exact List.nodup_nil
  | cons a rest ih =>
    have hout := outcome_step hs a w
    obtain ⟨-, hroom⟩ := hout.room hroom
    -- a later path with the number of this one would have a larger number
    have hrest := ih (sound_step hs a w) (hout.distinct hd) hroom
    rw [savedPaths]
    cases hnow : savedPath? a (s.step a w).2 with
    | none => exact hrest
    | some path =>
      obtain ⟨-, hpath, hnext⟩ := hout.of_savedPath? hnow
      rw [Option.toList_some, List.singleton_append, List.nodup_cons]
      refine ⟨fun hlater => ?_, hrest⟩
      obtain ⟨n, hn, heq⟩ := exists_number_of_mem (sound_step hs a w) hroom hlater
      rw [hout.path_names, hpath] at heq
      have hnumber := hd.numbered _ n (by rw [heq])
      rw [hnext, hnumber] at hn
      exact absurd hn (UInt32.lt_irrefl n)

/-- **The path of the final trace is not used by saves.** -/
theorem finalPath_not_mem_savedPaths (hs : s.recorder.Sound) (hd : s.recorder.archive.Distinct)
    {actions : List Action}
    (hroom : s.recorder.archive.names.last.toNat + actions.countP Action.saves < UInt32.size) :
    s.recorder.archive.finalPath ∉ s.savedPaths actions w := by
  intro hfinal
  obtain ⟨n, -, hpath⟩ := exists_number_of_mem hs hroom hfinal
  exact hd.final n (by rw [hpath])

/-- **Artifacts stay.** In a run with saves for which there are numbers, the paths that
successful saves answer with are different from each other, and from the path of the
final trace. Whenever a save or the first close answered with a path, the trace of the
buffers of that moment reads back from there ever after, whatever was recorded, saved
or closed meanwhile and whatever was refused, so long as no one else writes or removes
files. A close that comes after the first writes nothing; the path it answers with is
that of the final trace. -/
theorem artifacts_of_run {settings : Settings} {clock : Clock} {start : Recorder}
    (hstart : new? settings clock = .ok start) (heap : Heap) (files : FileTree)
    (actions : List Action) (w : Supplies)
    (hcount : actions.countP Action.saves < UInt32.size - 1) :
    let initial : Session := ⟨heap, files, start⟩
    (initial.savedPaths actions w).Nodup ∧
    start.archive.finalPath ∉ initial.savedPaths actions w ∧
    ∀ before a after, actions = before ++ a :: after → after.any Action.meddles = false →
      let s := initial.run before w
      let t := initial.run actions w
      ∀ path, (s.step a w).2 = .path path →
        (s.recorder.registry.closed = false →
          t.recorder.archive.read? t.files path = .ok (s.recorder.presentText s.heap)) ∧
        (s.recorder.registry.closed = true →
          path = start.archive.finalPath ∧ (s.step a w).1 = s) := by
  intro initial
  have hs : initial.recorder.Sound := sound_of_new? hstart
  obtain ⟨hd, hlast⟩ : initial.recorder.archive.Distinct ∧
      initial.recorder.archive.names.last = 0 := by
    show start.archive.Distinct ∧ start.archive.names.last = 0
    rw [eq_of_new? hstart]
    exact ⟨Archive.distinct_new _ _, rfl⟩
  have hroom : initial.recorder.archive.names.last.toNat + actions.countP Action.saves <
      UInt32.size := by
    rw [hlast, UInt32.toNat_zero]
    omega
  refine ⟨nodup_savedPaths hs hd hroom, finalPath_not_mem_savedPaths hs hd hroom, ?_⟩
  rintro before a after rfl hquiet s t path hpath
  have hsound : s.recorder.Sound := sound_run hs before w
  have hout := outcome_step hsound a w
  have ht : t = (s.step a w).1.run after w := List.foldl_append
  refine ⟨fun hopen => ?_, fun hclosed => ?_⟩
  · -- the numbers suffice for the saves before, for this one, and for those after it
    have hbefore : s.recorder.archive.names.last.toNat ≤ _ := last_run_le hs before w
    have hlater : (s.step a w).1.recorder.archive.names.last.toNat + after.countP Action.saves <
        UInt32.size := by
      refine (hout.room ?_).2
      rw [List.countP_append] at hroom
      omega
    have hkeeps := (hout.keeps_of_path (distinct_run hs hd before w) hopen hpath).run (w := w)
      (sound_step hsound a w) hquiet hlater
    have hcompression : t.recorder.archive.compression = s.recorder.archive.compression := by
      rw [ht]
      exact compression_of_rules ((rules_run (sound_step hsound a w) after w).trans hout.rules_eq)
    rw [Archive.read?, hcompression, ht, hkeeps.holds.read?]
    exact Content.text?_of _ _
  · have hfinal : s.recorder.archive.finalPath = start.archive.finalPath :=
      finalPath_of_rules (rules_run hs before w)
    rw [← hfinal]
    exact hout.of_closed hclosed hpath

/-- Two artifacts with a save between them that fails, beside a path without
extension that ends in a dot. -/
theorem artifacts_of_run_interspersed :
    ∃ start, new? { traceFile := some "out/./run." } (.startingAt 1) = .ok start ∧
      let initial : Session := ⟨{}, {}, start⟩
      let before : List Action := [.recordValue 4 (.int 7) 1]
      let after : List Action :=
        [.recordValue 3 (.int 8) 1, .makeDirectory "out/run00002.", .save true 0, .save false 0,
          .close 0]
      let actions := before ++ .save true 0 :: after
      let s := initial.run before
      let t := initial.run actions
      actions.countP Action.saves < UInt32.size - 1 ∧ after.any Action.meddles = false ∧
      s.recorder.registry.closed = false ∧
      (s.step (.save true 0)).2 = .path "out/run00001." ∧
      initial.savedPaths actions = ["out/run00001.", "out/run00003."] ∧
      (initial.savedPaths actions).Nodup ∧
      t.recorder.archive.read? t.files "out/run00001." = .ok (s.recorder.presentText s.heap) := by
  have hstart : new? { traceFile := some "out/./run." } (.startingAt 1) = .ok _ := rfl
  refine ⟨_, hstart, ?_⟩
  intro initial before after actions s t
  have hcount : actions.countP Action.saves < UInt32.size - 1 := by decide +kernel
  have hquiet : after.any Action.meddles = false := by decide +kernel
  have hopen : s.recorder.registry.closed = false := by decide +kernel
  have hpath : (s.step (.save true 0)).2 = .path "out/run00001." := by decide +kernel
  obtain ⟨hnodup, -, hread⟩ := artifacts_of_run hstart {} {} actions {} hcount
  have hpaths : initial.savedPaths actions = ["out/run00001.", "out/run00003."] := by
    decide +kernel
  have hstays := (hread before (.save true 0) after rfl hquiet "out/run00001." hpath).1 hopen
  subst s t initial
  exact ⟨hcount, hquiet, hopen, hpath, hpaths, hnodup, hstays⟩

/-- **The path that a close answers with need not read back**: the first close could not
write the final trace, as there is a directory in its place, and the second one does
not try to. -/
theorem read?_of_second_close :
    ∃ start, new? {} (.startingAt 1) = .ok start ∧
      let s := run ⟨{}, {}, start⟩
        [.makeDirectory "trace.json", .recordValue 0 (.int 1) 1, .close 0]
      (s.step (.close 0)).2 = .path "trace.json" ∧
      (s.step (.close 0)).1.recorder.archive.read? (s.step (.close 0)).1.files "trace.json" =
        .error (.storage .readTrace "trace.json" .isDirectory) :=
  ⟨_, rfl, by decide +kernel⟩

end Session

end Recorder

end FlightRecorder
