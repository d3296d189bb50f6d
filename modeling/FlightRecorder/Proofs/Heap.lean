import Mathlib.Data.List.Rotate
import FlightRecorder.Heap

/-!
# Who is alive

The rule of life is closed under references and says nothing about how to find out;
the census finds out in one pass over the objects, from the youngest to the oldest.
This file proves that the pass is enough, because no array is older than one of its
elements, and settles what the program can do to the living: it can give life to new
objects only, so whoever is dead stays dead.

* `FlightRecorder.Heap.WellFormed` – handles are on allocated objects, and arrays
  are younger than their elements; what the program does keeps heaps like that;
* `FlightRecorder.Heap.Alive.trans` – a reference to the living brings nobody to life;
* `FlightRecorder.Heap.isAlive_census_iff` – **the census counts the living**;
* `FlightRecorder.Heap.alive_of_create`, `FlightRecorder.Heap.alive_of_release` – no
  dead object comes back;
* `FlightRecorder.Heap.holding` – a heap whose program holds some more references.
-/

namespace FlightRecorder.Heap

variable {h : Heap} {held held' refs : List Ref} {r a : Ref}

/-- **Well-formed heaps.** -/
structure WellFormed (h : Heap) : Prop where
  /-- Every handle is on an allocated object. -/
  roots : ∀ r ∈ h.roots, r.index < h.objects.size
  /-- An array is younger than its elements. -/
  children : ∀ a r : Ref, r ∈ (h.info a).children → r.index < a.index

/-- An object that was not allocated has no elements. -/
theorem children_eq_nil (ha : h.objects.size ≤ a.index) : (h.info a).children = [] := by
  rw [info, Array.getD_eq_getD_getElem?, Array.getElem?_eq_none ha]
  rfl

/-! ### What the program does -/

section Program

variable {spec : ObjectSpec} {name : String}

theorem info_create_of_lt (ha : a.index < h.objects.size) : (h.create spec).info a = h.info a := by
  rw [info, info, create, Array.getD_eq_getD_getElem?, Array.getD_eq_getD_getElem?,
    Array.getElem?_push_lt ha, Array.getElem?_eq_getElem ha]

theorem mem_roots_of_find? {name : String} (hfind : h.find? name = some r) : r ∈ h.roots := by
  obtain ⟨before, after, hhandles, -⟩ := List.lookup_eq_some_iff.mp hfind
  rw [roots, hhandles]
  simp

/-- The elements of a new array are objects that the program has handles on. -/
theorem children_create_new (hr : r ∈ ((h.create spec).info ⟨h.objects.size⟩).children) :
    r ∈ h.roots := by
  rw [info, create, Array.getD_eq_getD_getElem?, Array.getElem?_push_size] at hr
  simp only [Option.getD_some, ObjectInfo.children, List.mem_filterMap, id] at hr
  obtain ⟨o, ho, rfl⟩ := hr
  cases helements : spec.elements with
  | none =>
    rw [helements] at ho
    exact absurd ho List.not_mem_nil
  | some names =>
    rw [helements] at ho
    simp only [Option.map_some, Option.getD_some, List.mem_map] at ho
    obtain ⟨name, -, hname⟩ := ho
    obtain ⟨element, -, hfind⟩ := Option.bind_eq_some_iff.mp hname
    exact mem_roots_of_find? hfind

/-- An object after a creation has the elements it had, or it is the new one. -/
theorem mem_children_create (hr : r ∈ ((h.create spec).info a).children) :
    (a.index < h.objects.size ∧ r ∈ (h.info a).children) ∨
      (a = ⟨h.objects.size⟩ ∧ r ∈ h.roots) := by
  rcases Nat.lt_trichotomy a.index h.objects.size with hlt | heq | hgt
  · rw [info_create_of_lt hlt] at hr
    exact Or.inl ⟨hlt, hr⟩
  · obtain ⟨index⟩ := a
    subst heq
    exact Or.inr ⟨rfl, children_create_new hr⟩
  · have hsize : (h.create spec).objects.size = h.objects.size + 1 := Array.size_push _
    rw [children_eq_nil (by omega)] at hr
    exact absurd hr List.not_mem_nil

theorem mem_roots_create (hr : r ∈ (h.create spec).roots) :
    r = ⟨h.objects.size⟩ ∨ r ∈ h.roots := by
  simp only [roots, create, List.map_cons, List.mem_cons] at hr
  refine hr.imp_right fun hr => ?_
  obtain ⟨handle, hhandle, rfl⟩ := List.mem_map.mp hr
  exact List.mem_map_of_mem (List.mem_of_mem_filter hhandle)

theorem mem_roots_release (hr : r ∈ (h.release name).roots) : r ∈ h.roots := by
  obtain ⟨handle, hhandle, rfl⟩ := List.mem_map.mp hr
  exact List.mem_map_of_mem (List.mem_of_mem_filter hhandle)

theorem wellFormed_empty : WellFormed {} where
  roots r hr := absurd hr List.not_mem_nil
  children a r hr := by
    rw [children_eq_nil (Nat.zero_le _)] at hr
    exact absurd hr List.not_mem_nil

theorem WellFormed.create (hh : h.WellFormed) (spec : ObjectSpec) : (h.create spec).WellFormed := by
  have hsize : (h.create spec).objects.size = h.objects.size + 1 := Array.size_push _
  refine ⟨fun r hr => ?_, fun a r hr => ?_⟩
  · rw [hsize]
    rcases mem_roots_create hr with rfl | hr
    · exact Nat.lt_succ_self _
    · exact (hh.roots r hr).trans (Nat.lt_succ_self _)
  · rcases mem_children_create hr with ⟨-, hchild⟩ | ⟨rfl, hroot⟩
    · exact hh.children a r hchild
    · exact hh.roots r hroot

theorem WellFormed.release (hh : h.WellFormed) (name : String) : (h.release name).WellFormed :=
  ⟨fun r hr => hh.roots r (mem_roots_release hr), hh.children⟩

end Program

/-! ### The rule of life -/

/-- **A reference to the living brings nobody to life.** -/
theorem Alive.trans (hr : h.Alive held r) (hheld : ∀ x ∈ held, h.Alive held' x) :
    h.Alive held' r := by
  induction hr with
  | handle hroot => exact .handle hroot
  | held hmem => exact hheld _ hmem
  | element _ hchild ih => exact .element ih hchild

theorem Alive.mono (hr : h.Alive held r) (hheld : held ⊆ held') : h.Alive held' r :=
  hr.trans fun _ hx => .held (hheld hx)

/-- Whoever is alive is allocated, if those are who are held. -/
theorem Alive.lt_size (hr : h.Alive held r) (hh : h.WellFormed)
    (hheld : ∀ x ∈ held, x.index < h.objects.size) : r.index < h.objects.size := by
  induction hr with
  | handle hroot => exact hh.roots _ hroot
  | held hmem => exact hheld _ hmem
  | element _ hchild ih => exact (hh.children _ _ hchild).trans ih

/-- **Creating an object** brings nobody else to life. -/
theorem alive_of_create {spec : ObjectSpec} (hr : (h.create spec).Alive held r) :
    r = ⟨h.objects.size⟩ ∨ h.Alive held r := by
  induction hr with
  | handle hroot => exact (mem_roots_create hroot).imp_right .handle
  | held hmem => exact Or.inr (.held hmem)
  | element _ hchild ih =>
    rcases mem_children_create hchild with ⟨hlt, hchild⟩ | ⟨-, hroot⟩
    · rcases ih with rfl | halive
      · exact absurd hlt (Nat.lt_irrefl _)
      · exact Or.inr (.element halive hchild)
    · exact Or.inr (.handle hroot)

/-- **Releasing a handle** brings nobody to life. -/
theorem alive_of_release {name : String} (hr : (h.release name).Alive held r) :
    h.Alive held r := by
  induction hr with
  | handle hroot => exact .handle (mem_roots_release hroot)
  | held hmem => exact .held hmem
  | element _ hchild ih => exact .element ih hchild

/-! ### Marking -/

section Marks

variable {marks : Array Bool} {n : Nat}

@[simp] theorem size_mark (refs : List Ref) (marks : Array Bool) :
    (mark refs marks).size = marks.size := by
  induction refs generalizing marks with
  | nil => rfl
  | cons x rest ih => exact (ih _).trans Array.size_setIfInBounds

/-- Marking marks what is listed. -/
theorem isAlive_mark (hr : r.index < marks.size) :
    Census.isAlive ⟨mark refs marks⟩ r = true ↔ r ∈ refs ∨ Census.isAlive ⟨marks⟩ r = true := by
  induction refs generalizing marks with
  | nil => simp [mark]
  | cons x rest ih =>
    have hset : Census.isAlive ⟨marks.setIfInBounds x.index true⟩ r = true ↔
        r = x ∨ Census.isAlive ⟨marks⟩ r = true := by
      obtain ⟨i⟩ := r
      obtain ⟨j⟩ := x
      simp only [Census.isAlive, Array.getD_eq_getD_getElem?, Array.getElem?_setIfInBounds,
        Ref.mk.injEq]
      by_cases hij : j = i
      · subst hij
        have hj : j < marks.size := hr
        simp [hj]
      · simp [hij, Ne.symm hij]
    have hsize : r.index < (marks.setIfInBounds x.index true).size := by
      rw [Array.size_setIfInBounds]
      exact hr
    have hrest := ih hsize
    rw [mark, List.foldl_cons]
    rw [mark] at hrest
    rw [hrest, hset, List.mem_cons]
    tauto

/-- Marking does not depend on the order, nor on how often an object is listed. -/
theorem mark_congr {refs' : List Ref} (hmem : ∀ r, r ∈ refs ↔ r ∈ refs') (marks : Array Bool) :
    mark refs marks = mark refs' marks := by
  refine Array.ext (by rw [size_mark, size_mark]) fun i hi hi' => ?_
  have hmarks : i < marks.size := by rwa [size_mark] at hi
  have hiff : Census.isAlive ⟨mark refs marks⟩ ⟨i⟩ = true ↔
      Census.isAlive ⟨mark refs' marks⟩ ⟨i⟩ = true := by
    rw [isAlive_mark (r := ⟨i⟩) hmarks, isAlive_mark (r := ⟨i⟩) hmarks, hmem]
  simp only [Census.isAlive, Array.getD_eq_getD_getElem?, Array.getElem?_eq_getElem hi,
    Array.getElem?_eq_getElem hi', Option.getD_some] at hiff
  exact Bool.eq_iff_iff.mpr hiff

/-- The marks that a visit of an object leaves. -/
def visit (h : Heap) (n : Nat) (marks : Array Bool) : Array Bool :=
  if marks.getD n false then mark (h.info ⟨n⟩).children marks else marks

theorem spread_succ (h : Heap) (n : Nat) (marks : Array Bool) :
    h.spread (n + 1) marks = h.spread n (h.visit n marks) := rfl

@[simp] theorem size_visit (h : Heap) (n : Nat) (marks : Array Bool) :
    (h.visit n marks).size = marks.size := by
  rw [visit]
  split_ifs
  · exact size_mark _ _
  · rfl

/-- A visit marks the elements of an object that is marked. -/
theorem isAlive_visit (hr : r.index < marks.size) :
    Census.isAlive ⟨h.visit n marks⟩ r = true ↔
      (Census.isAlive ⟨marks⟩ ⟨n⟩ = true ∧ r ∈ (h.info ⟨n⟩).children) ∨
        Census.isAlive ⟨marks⟩ r = true := by
  rw [visit]
  split_ifs with hmarked
  · rw [isAlive_mark hr]
    simp [Census.isAlive, hmarked]
  · simp [Census.isAlive, hmarked]

/-- No mark is ever taken away. -/
theorem isAlive_spread_of_isAlive (hr : r.index < marks.size)
    (hmarked : Census.isAlive ⟨marks⟩ r = true) :
    Census.isAlive ⟨h.spread n marks⟩ r = true := by
  induction n generalizing marks with
  | zero => exact hmarked
  | succ n ih =>
    rw [spread_succ]
    exact ih (by rwa [size_visit]) ((isAlive_visit hr).mpr (Or.inr hmarked))

/-- Objects that are not visited any more have got all their marks: those to be
visited are older, and their elements older still. -/
theorem isAlive_of_isAlive_spread (hh : h.WellFormed) (hr : r.index < marks.size)
    (hle : n ≤ r.index) (hmarked : Census.isAlive ⟨h.spread n marks⟩ r = true) :
    Census.isAlive ⟨marks⟩ r = true := by
  induction n generalizing marks with
  | zero => exact hmarked
  | succ n ih =>
    rw [spread_succ] at hmarked
    have hvisited := ih (by rwa [size_visit]) (Nat.le_of_succ_le hle) hmarked
    rcases (isAlive_visit hr).mp hvisited with ⟨-, hchild⟩ | hmarked
    · have hlt : r.index < n := hh.children _ _ hchild
      omega
    · exact hmarked

/-- **The pass spreads marks to elements**, by induction on the objects still to be
visited. -/
theorem isAlive_spread_of_mem_children (hh : h.WellFormed) (hsize : n ≤ marks.size)
    (ha : a.index < n) (hmarked : Census.isAlive ⟨h.spread n marks⟩ a = true)
    (hr : r ∈ (h.info a).children) : Census.isAlive ⟨h.spread n marks⟩ r = true := by
  induction n generalizing marks with
  | zero => exact absurd ha (Nat.not_lt_zero _)
  | succ n ih =>
    have hlt : r.index < a.index := hh.children _ _ hr
    rw [spread_succ] at hmarked ⊢
    rcases Nat.lt_succ_iff_lt_or_eq.mp ha with ha | ha
    · exact ih (by rw [size_visit]; omega) ha hmarked
    · -- the object visited now was marked before, since no older one has it for an element
      have hvisited := isAlive_of_isAlive_spread hh (by rw [size_visit]; omega) ha.ge hmarked
      rcases (isAlive_visit (by omega)).mp hvisited with ⟨-, hchild⟩ | hbefore
      · have hself : a.index < n := hh.children _ _ hchild
        omega
      · obtain ⟨index⟩ := a
        obtain rfl : index = n := ha
        exact isAlive_spread_of_isAlive (by rw [size_visit]; omega)
          ((isAlive_visit (by omega)).mpr (Or.inl ⟨hbefore, hr⟩))

/-- The pass marks the living only. -/
theorem alive_of_isAlive_spread (hsize : marks.size = h.objects.size)
    (hmarks : ∀ x : Ref, x.index < marks.size → Census.isAlive ⟨marks⟩ x = true → h.Alive held x)
    (hr : r.index < marks.size) (hmarked : Census.isAlive ⟨h.spread n marks⟩ r = true) :
    h.Alive held r := by
  induction n generalizing marks with
  | zero => exact hmarks r hr hmarked
  | succ n ih =>
    rw [spread_succ] at hmarked
    refine ih (by rwa [size_visit]) (fun x hx hvisited => ?_) (by rwa [size_visit]) hmarked
    rw [size_visit] at hx
    rcases (isAlive_visit hx).mp hvisited with ⟨hparent, hchild⟩ | hbefore
    · have hn : n < marks.size := by
        by_contra hge
        rw [children_eq_nil (by simp only; omega)] at hchild
        exact absurd hchild List.not_mem_nil
      exact .element (hmarks ⟨n⟩ hn hparent) hchild
    · exact hmarks x hx hbefore

end Marks

/-! ### The census -/

/-- The marks that a census begins with. -/
theorem isAlive_initial (hr : r.index < h.objects.size) :
    Census.isAlive ⟨mark held (mark h.roots (Array.replicate h.objects.size false))⟩ r = true ↔
      r ∈ held ∨ r ∈ h.roots := by
  have hsize : r.index < (Array.replicate h.objects.size false).size := by
    rwa [Array.size_replicate]
  rw [isAlive_mark (by rwa [size_mark]), isAlive_mark hsize]
  simp [Census.isAlive, hr]

/-- **The census counts the living**, and nobody else. -/
theorem isAlive_census_iff (hh : h.WellFormed) (hr : r.index < h.objects.size) :
    (h.census held).isAlive r = true ↔ h.Alive held r := by
  obtain ⟨marks, hmarks⟩ :
      ∃ marks, mark held (mark h.roots (Array.replicate h.objects.size false)) = marks := ⟨_, rfl⟩
  have hsize : marks.size = h.objects.size := by
    rw [← hmarks, size_mark, size_mark, Array.size_replicate]
  have hinitial : ∀ x : Ref, x.index < h.objects.size →
      (Census.isAlive ⟨marks⟩ x = true ↔ x ∈ held ∨ x ∈ h.roots) := by
    rw [← hmarks]
    exact fun x hx => isAlive_initial hx
  rw [census, hmarks]
  constructor
  · refine alive_of_isAlive_spread hsize (fun x hx hmarked => ?_) (hsize ▸ hr)
    rcases (hinitial x (hsize ▸ hx)).mp hmarked with hheld | hroot
    · exact .held hheld
    · exact .handle hroot
  · intro halive
    induction halive with
    | handle hroot =>
      exact isAlive_spread_of_isAlive (hsize ▸ hr) ((hinitial _ hr).mpr (Or.inr hroot))
    | held hheld =>
      exact isAlive_spread_of_isAlive (hsize ▸ hr) ((hinitial _ hr).mpr (Or.inl hheld))
    | @element a r _ hchild ih =>
      have ha : a.index < h.objects.size := by
        by_contra hge
        rw [children_eq_nil (Nat.le_of_not_lt hge)] at hchild
        exact absurd hchild List.not_mem_nil
      exact isAlive_spread_of_mem_children hh hsize.ge ha (ih ha) hchild

/-- Objects that were not allocated are not counted. -/
theorem lt_size_of_isAlive (halive : (h.census held).isAlive r = true) :
    r.index < h.objects.size := by
  have hsize : ∀ (n : Nat) (marks : Array Bool), (h.spread n marks).size = marks.size := by
    intro n
    induction n with
    | zero => exact fun _ => rfl
    | succ n ih => exact fun marks => (ih _).trans (size_visit h n marks)
  by_contra hge
  rw [census, Census.isAlive, Array.getD_eq_getD_getElem?, Array.getElem?_eq_none] at halive
  · cases halive
  · rw [hsize, size_mark, size_mark, Array.size_replicate]
    exact Nat.le_of_not_lt hge

/-- A census does not depend on how the references are listed. -/
theorem census_congr (hmem : ∀ r, r ∈ held ↔ r ∈ held') : h.census held = h.census held' := by
  rw [census, census, mark_congr hmem]

/-! ### Holding more -/

/-- The heap of a program that holds some more references. -/
def holding (h : Heap) (refs : List Ref) : Heap :=
  { h with handles := h.handles ++ refs.map fun r => ("", r) }

@[simp] theorem objects_holding (h : Heap) (refs : List Ref) :
    (h.holding refs).objects = h.objects := rfl

theorem roots_holding (h : Heap) (refs : List Ref) : (h.holding refs).roots = h.roots ++ refs := by
  rw [roots, holding, List.map_append, List.map_map]
  exact congrArg (h.roots ++ ·) (List.map_id refs)

theorem spread_holding (h : Heap) (refs : List Ref) (n : Nat) (marks : Array Bool) :
    (h.holding refs).spread n marks = h.spread n marks := by
  induction n generalizing marks with
  | zero => rfl
  | succ n ih => exact ih _

/-- **Holding references is the same for the census**, whoever holds them. -/
theorem census_holding (h : Heap) (refs held : List Ref) :
    (h.holding refs).census held = h.census (refs ++ held) := by
  have hmarks : ∀ marks, mark held (mark (h.roots ++ refs) marks) =
      mark (refs ++ held) (mark h.roots marks) := by
    intro marks
    simp only [mark, List.foldl_append]
  rw [census, census, spread_holding, roots_holding, objects_holding, hmarks]

end FlightRecorder.Heap
