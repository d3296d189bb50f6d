import Mathlib.Data.List.Basic
import FlightRecorder.Archive

/-!
# Writing artifacts and reading them back

An artifact is written in two strokes: the directories it is in are made, then
the file is. Either may be refused. What was made before stays, so a refused
write can leave directories behind, but it never touches a file; and what was
written can be read back from the same path.

* `FlightRecorder.FileTree.Grown` – one file tree is another with directories
  added to it (`FlightRecorder.FileTree.grown_makeDirectories`);
* `FlightRecorder.FileTree.target?_of_directories` – a path that leads somewhere
  leads there still, so long as no directory is lost;
* `FlightRecorder.FileTree.Holds` – a file is in place;
* `FlightRecorder.FileTree.read?_of_write?` – **a file reads back as it was
  written**;
* `FlightRecorder.Archive.grown_of_write_error`,
  `FlightRecorder.Archive.read?_of_write` – the two ways of writing an artifact.
-/

namespace FlightRecorder

namespace FileTree

variable {t t' t'' : FileTree} {place q : List String} {path : String} {content : Content}

/-! ### Places -/

theorem lookup_filter_ne {α : Type} (l : List (List String × α)) (h : q ≠ place) :
    (l.filter (·.1 != place)).lookup q = l.lookup q := by
  induction l with
  | nil => rfl
  | cons x rest ih =>
    obtain ⟨p, a⟩ := x
    by_cases hp : p = place
    · rw [List.filter_cons_of_neg (by simp [hp]), ih, List.lookup_cons,
        beq_eq_false_iff_ne.mpr (hp ▸ h)]
    · rw [List.filter_cons_of_pos (by simp [hp]), List.lookup_cons, List.lookup_cons, ih]

/-- Putting something at a place changes that place alone. -/
theorem node?_set (t : FileTree) (n : FileNode) (hplace : place ≠ []) (q : List String) :
    (t.set place n).node? q = if q = place then some n else t.node? q := by
  by_cases hq : q = place
  · have hne : q.isEmpty = false := by simpa [hq] using hplace
    rw [if_pos hq, node?, if_neg (by simp [hne]), set, hq, List.lookup_cons_self]
  · have hlookup : (t.set place n).nodes.lookup q = t.nodes.lookup q := by
      rw [set, List.lookup_cons, beq_eq_false_iff_ne.mpr hq]
      exact lookup_filter_ne t.nodes hq
    rw [if_neg hq, node?, node?, hlookup]

/-! ### Walking through a tree that keeps its directories -/

section Walking

variable (hdirs : ∀ q, t.node? q = some .directory → t'.node? q = some .directory)

include hdirs

theorem enter_of_directories {dir dir' : List String} {component : String}
    (h : t.enter dir component = .ok dir') : t'.enter dir component = .ok dir' := by
  unfold enter at h ⊢
  split_ifs at h ⊢ with hdot hup hlong
  · exact h
  · exact h
  · split at h
    · rename_i hnode
      rw [hdirs _ hnode]
      exact h
    · cases h
    · cases h

theorem foldlM_enter_of_directories {components dir dir' : List String}
    (h : components.foldlM t.enter dir = .ok dir') :
    components.foldlM t'.enter dir = .ok dir' := by
  induction components generalizing dir with
  | nil => exact h
  | cons c rest ih =>
    rw [List.foldlM_cons] at h ⊢
    cases hc : t.enter dir c with
    | error f =>
      rw [hc] at h
      cases h
    | ok next =>
      rw [hc] at h
      rw [enter_of_directories hdirs hc]
      exact ih h

/-- **A path that leads somewhere leads there still.** -/
theorem target?_of_directories {x : Target} (h : t.target? path = .ok x) :
    t'.target? path = .ok x := by
  simp only [target?] at h ⊢
  split_ifs at h ⊢ with hempty hnul hlong
  split at h
  · exact h
  · rename_i last hlast
    cases hdir : List.foldlM t.enter [] (((Path.split path.toList).filter
        (!·.isEmpty)).map String.ofList).dropLast with
    | error f =>
      rw [hdir] at h
      cases h
    | ok dir =>
      rw [hdir] at h
      rw [foldlM_enter_of_directories hdirs hdir]
      exact h

end Walking

/-! ### Writing a file -/

/-- **A file is written** if its path leads to a name that is not the name of a
directory. -/
theorem write?_eq_ok_iff :
    t.write? path content = .ok t' ↔
      ∃ dir name, t.target? path = .ok (.named dir name false) ∧
        t.node? (dir ++ [name]) ≠ some .directory ∧
        t' = t.set (dir ++ [name]) (.file content) := by
  unfold write?
  cases htarget : t.target? path with
  | error f => simp [bind, Except.bind]
  | ok x =>
    cases x with
    | directory => simp [bind, Except.bind, throw, throwThe, MonadExceptOf.throw]
    | named dir name slash =>
      cases slash with
      | true => simp [bind, Except.bind, throw, throwThe, MonadExceptOf.throw]
      | false =>
        cases hnode : t.node? (dir ++ [name]) with
        | none => simp [bind, Except.bind, pure, Except.pure, hnode, eq_comm]
        | some n =>
          cases n with
          | directory =>
            simp [bind, Except.bind, throw, throwThe, MonadExceptOf.throw, hnode]
          | file c => simp [bind, Except.bind, pure, Except.pure, hnode, eq_comm]

/-- Writing a file loses no directory. -/
theorem directories_of_write? (h : t.write? path content = .ok t') {q : List String}
    (hq : t.node? q = some .directory) : t'.node? q = some .directory := by
  obtain ⟨dir, name, -, hnode, rfl⟩ := write?_eq_ok_iff.mp h
  rw [node?_set t _ (List.append_ne_nil_of_right_ne_nil dir (List.cons_ne_nil _ _)),
    if_neg (fun heq : q = dir ++ [name] => hnode (heq ▸ hq)), hq]

/-- **A file is in place**: the path leads to a name, and there it is. -/
def Holds (t : FileTree) (path : String) (content : Content) : Prop :=
  ∃ dir name, t.target? path = .ok (.named dir name false) ∧
    t.node? (dir ++ [name]) = some (.file content)

theorem holds_of_write? (h : t.write? path content = .ok t') : t'.Holds path content := by
  -- the walk goes through directories, and the name written to was none
  have hdirs := fun q => directories_of_write? (q := q) h
  obtain ⟨dir, name, htarget, -, rfl⟩ := write?_eq_ok_iff.mp h
  refine ⟨dir, name, target?_of_directories hdirs htarget, ?_⟩
  rw [node?_set t _ (List.append_ne_nil_of_right_ne_nil dir (List.cons_ne_nil _ _)), if_pos rfl]

theorem Holds.read? (h : t.Holds path content) : t.read? path = .ok content := by
  obtain ⟨dir, name, htarget, hnode⟩ := h
  rw [FileTree.read?, htarget]
  simp only [bind, Except.bind]
  rw [hnode]
  rfl

/-- **A file reads back as it was written.** -/
theorem read?_of_write? (h : t.write? path content = .ok t') : t'.read? path = .ok content :=
  (holds_of_write? h).read?

/-! ### Making directories -/

/-- **A tree with more directories**: whatever was there is there, and no file
came, went or changed. -/
structure Grown (t t' : FileTree) : Prop where
  directories : ∀ q, t.node? q = some .directory → t'.node? q = some .directory
  files : ∀ q content, t'.node? q = some (.file content) ↔ t.node? q = some (.file content)

theorem Grown.refl (t : FileTree) : t.Grown t :=
  ⟨fun _ h => h, fun _ _ => Iff.rfl⟩

theorem Grown.trans (h : t.Grown t') (h' : t'.Grown t'') : t.Grown t'' :=
  ⟨fun q hq => h'.directories q (h.directories q hq),
    fun q content => (h'.files q content).trans (h.files q content)⟩

/-- A directory is made at a place where there was nothing. -/
theorem grown_makeDirectory? (h : t.makeDirectory? path = .ok t') : t.Grown t' := by
  unfold makeDirectory? at h
  cases htarget : t.target? path with
  | error f => simp [htarget, bind, Except.bind] at h
  | ok x =>
    cases x with
    | directory => simp [htarget, bind, Except.bind, throw, throwThe, MonadExceptOf.throw] at h
    | named dir name slash =>
      have hplace : dir ++ [name] ≠ [] :=
        List.append_ne_nil_of_right_ne_nil dir (List.cons_ne_nil _ _)
      cases hnode : t.node? (dir ++ [name]) with
      | some n => simp [htarget, hnode, bind, Except.bind, throw, throwThe, MonadExceptOf.throw] at h
      | none =>
        simp only [htarget, hnode, bind, Except.bind, pure, Except.pure, Except.ok.injEq] at h
        subst h
        refine ⟨fun q hq => ?_, fun q content => ?_⟩
        · rw [node?_set t _ hplace]
          split_ifs
          · rfl
          · exact hq
        · rw [node?_set t _ hplace]
          split_ifs with hq
          · simp [hq, hnode]
          · rfl

theorem grown_ensureDirectory (t : FileTree) (path : String) :
    t.Grown (t.ensureDirectory path).1 := by
  rw [ensureDirectory]
  by_cases hempty : path.isEmpty
  · rw [if_pos hempty]
    exact .refl t
  · rw [if_neg hempty]
    cases hmade : t.makeDirectory? path with
    | ok t' => exact grown_makeDirectory? hmade
    | error f => exact .refl t

/-- By induction on the number of parents that may be missing. -/
theorem grown_makeParents (t : FileTree) (depth : Nat) (path : String) :
    t.Grown (t.makeParents depth path).1 := by
  induction depth generalizing path with
  | zero => exact grown_ensureDirectory t path
  | succ depth ih =>
    rw [makeParents]
    split
    · rename_i parent _ _
      have hparents := ih parent
      split
      · rename_i hmade
        rw [hmade] at hparents
        exact hparents.trans (grown_ensureDirectory _ path)
      · exact hparents
    · exact grown_ensureDirectory t path

/-- **Making directories makes nothing but directories**, whether it succeeds or
not. -/
theorem grown_makeDirectories (t : FileTree) (path : String) :
    t.Grown (t.makeDirectories path).1 :=
  grown_makeParents t path.length path

end FileTree

/-! ### Artifacts -/

/-- What is stored stands for the text it was made of. -/
theorem Content.text?_of (compression : Option Compression) (text : String) :
    (Content.of compression text).text? compression = .ok text := by
  cases compression <;> rfl

namespace Archive

variable {a a' : Archive} {t t' : FileTree} {path text : String} {packed : Option Nat} {n : Nat}
  {f : Failure}

/-- The archive after a text was written whose stored form has so many bytes. -/
def credited (a : Archive) (bytes : Nat) : Archive :=
  { a with
    artifactsWritten := a.artifactsWritten + 1
    bytesWritten := a.bytesWritten + bytes }

/-- **The two ways of writing an artifact**: it is refused, and all that may have
changed is that directories were made; or it is written after them. -/
theorem write_cases (a : Archive) (t : FileTree) (path text : String) (packed : Option Nat) :
    ∃ made, t.Grown made ∧
      ((∃ f, a.write t path text packed = (a, made, .error f)) ∨
        ∃ t' n, made.write? path (.of a.compression text) = .ok t' ∧
          a.storedSize? text packed = some n ∧
          a.write t path text packed = (a.credited n, t', .ok n)) := by
  have hgrown := t.grown_makeDirectories ((Path.parent? path).getD "")
  unfold write
  dsimp only
  rcases hmade : t.makeDirectories ((Path.parent? path).getD "") with ⟨made, f | ⟨⟩⟩
  · rw [hmade] at hgrown
    exact ⟨made, hgrown, Or.inl ⟨_, rfl⟩⟩
  · rw [hmade] at hgrown
    refine ⟨made, hgrown, ?_⟩
    cases hsize : a.storedSize? text packed with
    | none => exact Or.inl ⟨.decompression, rfl⟩
    | some n =>
      cases hwritten : made.write? path (.of a.compression text) with
      | error f => exact Or.inl ⟨.storage .writeTrace path f, by simp only [hwritten]⟩
      | ok t' =>
        refine Or.inr ⟨t', n, rfl, rfl, ?_⟩
        simp only [hwritten]
        rfl

/-- **A refused artifact** leaves the archive alone, and every file. -/
theorem grown_of_write_error (h : a.write t path text packed = (a', t', .error f)) :
    a' = a ∧ t.Grown t' := by
  obtain ⟨made, hgrown, ⟨f', hrefused⟩ | ⟨t'', n, -, -, hwritten⟩⟩ :=
    a.write_cases t path text packed
  · rw [hrefused] at h
    obtain ⟨rfl, rfl, -⟩ := by simpa using h
    exact ⟨rfl, hgrown⟩
  · rw [hwritten] at h
    cases h

/-- **A written artifact** is counted with its bytes. -/
theorem credited_of_write (h : a.write t path text packed = (a', t', .ok n)) :
    a' = a.credited n ∧ a.storedSize? text packed = some n := by
  obtain ⟨made, -, ⟨f', hrefused⟩ | ⟨t'', n', -, hsize, hwritten⟩⟩ :=
    a.write_cases t path text packed
  · rw [hrefused] at h
    cases h
  · rw [hwritten] at h
    obtain ⟨rfl, -, rfl⟩ := by simpa using h
    exact ⟨rfl, hsize⟩

/-- It can be read back. -/
theorem read?_of_write (h : a.write t path text packed = (a', t', .ok n)) :
    a'.read? t' path = .ok text := by
  obtain ⟨made, -, ⟨f', hrefused⟩ | ⟨t'', n', hfile, -, hwritten⟩⟩ :=
    a.write_cases t path text packed
  · rw [hrefused] at h
    cases h
  · rw [hwritten] at h
    obtain ⟨rfl, rfl, -⟩ := by simpa using h
    rw [read?, FileTree.read?_of_write? hfile]
    exact Content.text?_of a.compression text

/-- **What an artifact is refused for**: the file system refuses a request, or the
compressor fails. -/
theorem failure_of_write (h : a.write t path text packed = (a', t', .error f)) :
    (∃ request path fault, f = .storage request path fault) ∨
      f = .decompression ∧ a.compression.isSome = true ∧ packed = none := by
  unfold write at h
  dsimp only at h
  rcases hmade : t.makeDirectories ((Path.parent? path).getD "") with ⟨made, f' | ⟨⟩⟩
  · rw [hmade] at h
    obtain ⟨-, -, rfl⟩ := by simpa using h
    exact Or.inl ⟨_, _, _, rfl⟩
  · rw [hmade] at h
    cases hsize : a.storedSize? text packed with
    | none =>
      rw [hsize] at h
      obtain ⟨-, -, rfl⟩ := by simpa using h
      rw [storedSize?] at hsize
      split_ifs at hsize with hcompression
      exact Or.inr ⟨rfl, hcompression, hsize⟩
    | some n =>
      rw [hsize] at h
      cases hwritten : made.write? path (.of a.compression text) with
      | error f' =>
        simp only [hwritten] at h
        obtain ⟨-, -, rfl⟩ := by simpa using h
        exact Or.inl ⟨_, _, _, rfl⟩
      | ok t'' =>
        simp only [hwritten] at h
        cases h

end Archive

end FlightRecorder
