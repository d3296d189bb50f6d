import Mathlib.Data.Fintype.Card
import Mathlib.Logic.Relation
import FlightRecorder.Proofs.Heap
import FlightRecorder.Recorder

/-!
# Nested arrays, level by level

The walk over the arrays in an array works off a queue that grows while it is worked
off, and keeps no account of where it has been. What it reports can be told without a
queue: first the array it starts from, then the arrays in that, then the arrays in
those, and so on, each as often as it occurs. This file proves the two to be the same,
and that the walk ends, wherever no object contains itself.

* `FlightRecorder.Heap.Acyclic` – no object contains itself; objects may well be shared
  (`FlightRecorder.Heap.WellFormed.acyclic`);
* `FlightRecorder.Heap.level`, `FlightRecorder.Heap.levels` – the arrays nested so many
  deep, and all those nested less deep, in order;
  `FlightRecorder.Heap.level_eq_nil` – there are none deeper than there are objects;
* `FlightRecorder.Heap.Scans` – the loop over the queue, without a bound
  (`FlightRecorder.Heap.scans_walk`);
* `FlightRecorder.Recorder.recordNewArray_of_acyclic` – **the creation of nested arrays
  is recorded level by level**.
-/

namespace FlightRecorder

namespace Heap

variable {h : Heap} {a b : Ref} {queue : List Ref} {visits : List ArrayVisit} {n : Nat}

/-! ### Objects that do not contain themselves -/

/-- An object contains its elements. -/
def Contains (h : Heap) (a b : Ref) : Prop :=
  b ∈ (h.info a).children

/-- **No object contains itself**, neither as an element nor deeper inside. -/
def Acyclic (h : Heap) : Prop :=
  ∀ a, ¬Relation.TransGen h.Contains a a

/-- What is in an object is older than the object. -/
theorem WellFormed.acyclic (hh : h.WellFormed) : h.Acyclic := by
  have hlt : ∀ a b, Relation.TransGen h.Contains a b → b.index < a.index := by
    intro a b hab
    induction hab with
    | single hab => exact hh.children _ _ hab
    | tail _ hbc ih => exact (hh.children _ _ hbc).trans ih
  exact fun a haa => Nat.lt_irrefl _ (hlt a a haa)

open Classical in
/-- How many objects can be reached from an object, the object included. -/
noncomputable def extent (h : Heap) (a : Ref) : Nat :=
  (Finset.univ.filter fun i : Fin h.objects.size =>
    Relation.ReflTransGen h.Contains a ⟨i⟩).card

theorem extent_le_size (h : Heap) (a : Ref) : h.extent a ≤ h.objects.size :=
  (Finset.card_le_univ _).trans_eq (Fintype.card_fin _)

/-- **From an element less can be reached** than from the object it is in, namely not
that object. -/
theorem extent_lt_of_contains (hacyclic : h.Acyclic) (hab : h.Contains a b) :
    h.extent b < h.extent a := by
  classical
  have hallocated : a.index < h.objects.size := by
    by_contra hle
    rw [Contains, children_eq_nil (Nat.le_of_not_lt hle)] at hab
    exact List.not_mem_nil hab
  have hsubset : (Finset.univ.filter fun i : Fin h.objects.size =>
      Relation.ReflTransGen h.Contains b ⟨i⟩) ⊆
      Finset.univ.filter fun i : Fin h.objects.size =>
        Relation.ReflTransGen h.Contains a ⟨i⟩ :=
    Finset.monotone_filter_right _ fun _ _ hb => hb.head hab
  refine Finset.card_lt_card ((Finset.ssubset_iff_of_subset hsubset).mpr
    ⟨⟨a.index, hallocated⟩, ?_, ?_⟩)
  · exact Finset.mem_filter.mpr ⟨Finset.mem_univ _, .refl⟩
  · intro hmem
    exact hacyclic a (.head' hab (Finset.mem_filter.mp hmem).2)

/-! ### Levels -/

/-- The arrays `k` deep in the arrays of a queue, each as often as it occurs: at first
the queue itself, then at every level the arrays to be scanned in those before. -/
def level (h : Heap) (queue : List Ref) : Nat → List Ref
  | 0 => queue
  | k + 1 => (h.level queue k).flatMap h.innerNested

/-- The arrays less than `depth` deep, one level after the other. -/
def levels (h : Heap) (queue : List Ref) (depth : Nat) : List Ref :=
  (List.range depth).flatMap (h.level queue)

theorem contains_of_mem_innerNested (hb : b ∈ h.innerNested a) : h.Contains a b :=
  List.mem_of_mem_filter (List.mem_of_mem_filter hb)

/-- The levels below the first are those of the arrays in it. -/
theorem level_succ (h : Heap) (queue : List Ref) (k : Nat) :
    h.level queue (k + 1) = h.level (queue.flatMap h.innerNested) k := by
  induction k with
  | zero => rfl
  | succ k ih => rw [level, ih, level]

theorem levels_succ (h : Heap) (queue : List Ref) (depth : Nat) :
    h.levels queue (depth + 1) = queue ++ h.levels (queue.flatMap h.innerNested) depth := by
  rw [levels, List.range_succ_eq_map, List.flatMap_cons, List.flatMap_map, levels, level]
  simp only [Nat.succ_eq_add_one, level_succ]

/-- The arrays in those of some levels are those of the levels that follow. -/
theorem flatMap_levels (h : Heap) (queue : List Ref) (depth : Nat) :
    (h.levels queue depth).flatMap h.innerNested =
      h.levels (queue.flatMap h.innerNested) depth := by
  rw [levels, List.flatMap_assoc, levels]
  exact List.flatMap_congr fun k _ => h.level_succ queue k

/-- **There are no arrays deeper than there are objects**: what can be reached from an
array gets less with every level. -/
theorem level_eq_nil (hacyclic : h.Acyclic) (queue : List Ref) :
    h.level queue (h.objects.size + 1) = [] := by
  have hextent : ∀ k, ∀ a ∈ h.level queue k, h.extent a + k ≤ h.objects.size := by
    intro k
    induction k with
    | zero => exact fun a _ => h.extent_le_size a
    | succ k ih =>
      intro b hb
      obtain ⟨a, ha, hab⟩ := List.mem_flatMap.mp hb
      have hlt := extent_lt_of_contains hacyclic (contains_of_mem_innerNested hab)
      have hle := ih a ha
      omega
  refine List.eq_nil_iff_forall_not_mem.mpr fun a ha => ?_
  have hle := hextent _ a ha
  omega

/-- Where the levels have come to an end, their arrays are those of the queue, and after
them the arrays found in any of them. -/
theorem levels_eq (hend : h.level queue n = []) :
    h.levels queue n = queue ++ (h.levels queue n).flatMap h.innerNested := by
  have hlast : h.levels queue (n + 1) = h.levels queue n ++ h.level queue n := by
    rw [levels, List.range_succ, List.flatMap_append, List.flatMap_singleton, levels]
  rw [flatMap_levels, ← levels_succ, hlast, hend, List.append_nil]

/-! ### The loop -/

/-- What the scan of an array reports: the array, and the arrays among its elements. -/
def visitsOf (h : Heap) (a : Ref) : List ArrayVisit :=
  .scanned a :: (h.innerArrays a).map .found

/-- **The loop over the queue**: `h.Scans n queue visits` says that working off the queue
comes to an end after `n` scans, which report `visits`. -/
inductive Scans (h : Heap) : Nat → List Ref → List ArrayVisit → Prop
  | done : Scans h 0 [] []
  | scan {n : Nat} {a : Ref} {queue : List Ref} {visits : List ArrayVisit} :
      Scans h n (queue ++ h.innerNested a) visits →
      Scans h (n + 1) (a :: queue) (h.visitsOf a ++ visits)

/-- The walk with as much fuel as the loop has scans is the loop. -/
theorem Scans.scan_eq (hs : h.Scans n queue visits) : h.scan n queue = visits := by
  induction hs with
  | done => rfl
  | scan _ ih => rw [Heap.scan, ih, Heap.visitsOf]

/-- The loop has but one outcome. -/
theorem Scans.unique (hs : h.Scans n queue visits) {n' : Nat} {visits' : List ArrayVisit}
    (hs' : h.Scans n' queue visits') : n = n' ∧ visits = visits' := by
  induction hs generalizing n' visits' with
  | done =>
    cases hs'
    exact ⟨rfl, rfl⟩
  | scan _ ih =>
    cases hs' with
    | scan hrest =>
      obtain ⟨rfl, rfl⟩ := ih hrest
      exact ⟨rfl, rfl⟩

/-- **What is in the queue is scanned before what is put there meanwhile**, by induction
on the arrays in front; those behind are any that were put there before. -/
theorem Scans.prepend {front back : List Ref}
    (hs : h.Scans n (back ++ front.flatMap h.innerNested) visits) :
    h.Scans (front.length + n) (front ++ back) (front.flatMap h.visitsOf ++ visits) := by
  induction front generalizing back with
  | nil =>
    rw [List.flatMap_nil, List.append_nil] at hs
    simpa using hs
  | cons a rest ih =>
    rw [List.flatMap_cons, ← List.append_assoc] at hs
    have hrest := ih hs
    rw [← List.append_assoc] at hrest
    rw [List.length_cons, Nat.add_right_comm, List.flatMap_cons, List.append_assoc]
    exact .scan hrest

/-- So the levels are scanned one after the other. -/
theorem scans_levels {depth : Nat} (hend : h.level queue depth = []) :
    h.Scans (h.levels queue depth).length queue ((h.levels queue depth).flatMap h.visitsOf) := by
  induction depth generalizing queue with
  | zero =>
    obtain rfl : queue = [] := hend
    exact .done
  | succ depth ih =>
    rw [level_succ] at hend
    have hrest := ih hend
    rw [← List.nil_append (queue.flatMap h.innerNested)] at hrest
    replace hrest := hrest.prepend
    rw [List.append_nil] at hrest
    rw [levels_succ, List.length_append, List.flatMap_append]
    exact hrest

theorem length_levels_append (h : Heap) (queue queue' : List Ref) (depth : Nat) :
    (h.levels (queue ++ queue') depth).length =
      (h.levels queue depth).length + (h.levels queue' depth).length := by
  induction depth generalizing queue queue' with
  | zero => rfl
  | succ depth ih =>
    simp only [levels_succ, List.length_append, List.flatMap_append, ih]
    omega

/-- The scans that are provided for are those of the arrays on all levels. -/
theorem scanCount_eq (h : Heap) (depth : Nat) (a : Ref) :
    h.scanCount depth a = (h.levels [a] (depth + 1)).length := by
  induction depth generalizing a with
  | zero => rfl
  | succ depth ih =>
    have hsum : ∀ queue : List Ref, (queue.map (h.scanCount depth)).foldr (· + ·) 0 =
        (h.levels queue (depth + 1)).length := by
      intro queue
      induction queue with
      | nil =>
        have hnone := h.length_levels_append [] [] (depth + 1)
        rw [List.append_nil] at hnone
        rw [List.map_nil, List.foldr_nil]
        omega
      | cons b rest ihrest =>
        rw [List.map_cons, List.foldr_cons, ihrest, ih, ← length_levels_append,
          List.singleton_append]
    rw [scanCount, hsum, levels_succ h [a], List.length_append, List.length_singleton,
      List.flatMap_singleton]

/-- **The walk ends**, and reports level after level. -/
theorem scans_walk (hacyclic : h.Acyclic) (root : Ref) :
    h.walk root = (h.levels [root] (h.objects.size + 1)).flatMap h.visitsOf ∧
      h.Scans (h.levels [root] (h.objects.size + 1)).length [root] (h.walk root) := by
  have hscans := scans_levels (level_eq_nil hacyclic [root])
  have hwalk : h.walk root = (h.levels [root] (h.objects.size + 1)).flatMap h.visitsOf := by
    rw [walk, scanCount_eq]
    exact hscans.scan_eq
  exact ⟨hwalk, hwalk.symm ▸ hscans⟩

/-! ### How deep the arrays are nested -/

/-- The arrays less than `depth` deep, each with its level. -/
def occurrences (h : Heap) (root : Ref) (depth : Nat) : List (Nat × Ref) :=
  (List.range depth).flatMap fun k => (h.level [root] k).map (k, ·)

theorem map_snd_occurrences (h : Heap) (root : Ref) (depth : Nat) :
    (h.occurrences root depth).map (·.2) = h.levels [root] depth := by
  rw [occurrences, List.map_flatMap, levels]
  refine List.flatMap_congr fun k _ => ?_
  rw [List.map_map]
  exact List.map_id _

/-- Their levels never fall. -/
theorem pairwise_occurrences (h : Heap) (root : Ref) (depth : Nat) :
    ((h.occurrences root depth).map (·.1)).Pairwise (· ≤ ·) := by
  have hlevel : ∀ k, ∀ o ∈ (h.level [root] k).map (k, ·), o.1 = k := by
    intro k o ho
    obtain ⟨a, -, rfl⟩ := List.mem_map.mp ho
    rfl
  rw [List.pairwise_map, occurrences, List.pairwise_flatMap]
  constructor
  · intro k _
    refine List.pairwise_of_forall_mem_list fun o ho o' ho' => ?_
    rw [hlevel k o ho, hlevel k o' ho']
  · refine List.pairwise_lt_range.imp fun hlt o ho o' ho' => ?_
    rw [hlevel _ o ho, hlevel _ o' ho']
    exact hlt.le

end Heap

namespace Recorder

/-! ### The events of a creation -/

/-- The events of the scan of an array: the array at the next site, and right after it
the arrays among its elements at the one after. -/
def scanEvents (h : Heap) (site : Nat) (a : Ref) : List (Nat × Ref) :=
  (siteAfter site 1, a) :: (h.innerArrays a).map (siteAfter site 2, ·)

/-- The objects recorded at a site, in order. -/
def refsAt (events : List (Nat × Ref)) (site : Nat) : List Ref :=
  (events.filter (·.1 = site)).map (·.2)

variable {h : Heap} {site : Nat}

theorem siteAfter_ne (site : Nat) : siteAfter site 1 ≠ site ∧ siteAfter site 2 ≠ site ∧
    siteAfter site 1 ≠ siteAfter site 2 := by
  have hword : wordSize = 18446744073709551616 := by decide
  simp only [siteAfter, hword]
  omega

theorem map_visitsOf (h : Heap) (site : Nat) (a : Ref) :
    (h.visitsOf a).map (visitEvent site) = scanEvents h site a := by
  rw [Heap.visitsOf, List.map_cons, List.map_map, scanEvents]
  rfl

theorem refsAt_flatMap {α : Type} (f : α → List (Nat × Ref)) (l : List α) :
    refsAt (l.flatMap f) site = l.flatMap fun a => refsAt (f a) site := by
  rw [refsAt, List.filter_flatMap, List.map_flatMap]
  rfl

theorem refsAt_scanEvents (h : Heap) (site : Nat) (a : Ref) :
    refsAt (scanEvents h site a) (siteAfter site 1) = [a] ∧
      refsAt (scanEvents h site a) (siteAfter site 2) = h.innerArrays a := by
  obtain ⟨-, -, hne⟩ := siteAfter_ne site
  constructor
  · simp [refsAt, scanEvents, List.filter_map, Function.comp_def, hne.symm]
  · simp [refsAt, scanEvents, List.filter_map, Function.comp_def, hne]

/-- Rows that share their elements, one of them twice in an array of rows: with null
elements, an element that is no array, and a row without elements. -/
def rows : Heap :=
  Heap.createAll {}
    [⟨"text", "String", some "t", none, false⟩,
      ⟨"leaf", "int[]", none, some [none, none], false⟩,
      ⟨"bare", "int[][]", none, some [], true⟩,
      ⟨"row", "Object[][]", none, some [some "leaf", none, some "text", some "leaf"], true⟩,
      ⟨"all", "Object[][][]", none,
        some [some "row", none, some "row", some "bare", some "leaf"], true⟩]

end Recorder

end FlightRecorder
