import Mathlib.Data.List.Basic
import Mathlib.Data.List.Induction
import Mathlib.Data.List.Nodup
import FlightRecorder.Interner

/-!
# Identities last

An interner forgets the numbers of dead objects, every now and then and whenever it
is purged, and never hands a number out twice. So the number of an object is the place
that it has among all objects that were ever asked for, in the order in which they
came up first – whatever was forgotten in between, as long as nobody asks for an
object that is dead.

Nothing here depends on how one finds out who is alive: those who may still be asked
for (`alive`) have to be counted among the living by every sweep.

* `FlightRecorder.Interner.distinct` – the objects of a log, in the order in which
  they came up first;
* `FlightRecorder.Interner.number` – the number of an object, or of null;
* `FlightRecorder.Interner.Explains` – **the invariant**: the identities of the log
  are those numbers, and the interner knows those of the living
  (`FlightRecorder.Interner.Explains.intern`,
  `FlightRecorder.Interner.Explains.sweep`);
* `FlightRecorder.Interner.sweep_sweep`, `FlightRecorder.Interner.sweep_intern_sweep` – a
  sweep in between does not show after the next one;
* `FlightRecorder.Interner.toNat_number`, `FlightRecorder.Interner.number_inj` – what
  follows while numbers do not wrap around.
-/

namespace FlightRecorder.Interner

variable {alive alive' : Ref → Prop} {log : List (Option Ref × ObjectId)} {i : Interner}
  {h : Heap} {held : List Ref} {c : Heap.Census} {r r' : Ref} {o : Option Ref} {n : Nat}

/-! ### Places -/

/-- **The objects of a log**, in the order in which they came up first. -/
def distinct (log : List (Option Ref × ObjectId)) : List Ref :=
  (log.filterMap (·.1)).eraseDups

theorem mem_distinct_iff : r ∈ distinct log ↔ ∃ id, (some r, id) ∈ log := by
  rw [distinct, List.mem_eraseDups, List.mem_filterMap]
  exact ⟨fun ⟨⟨o, id⟩, hx, ho⟩ => ⟨id, ho ▸ hx⟩, fun ⟨id, hx⟩ => ⟨_, hx, rfl⟩⟩

/-- An object that came up before adds nothing, and neither does null. -/
theorem distinct_concat_of_known (hr : ∀ r ∈ o, r ∈ distinct log) (id : ObjectId) :
    distinct (log ++ [(o, id)]) = distinct log := by
  cases o with
  | none => rw [distinct, distinct, List.filterMap_append]; simp
  | some r =>
    have hmem : r ∈ log.filterMap (·.1) := List.mem_eraseDups.mp (hr r rfl)
    rw [distinct, List.filterMap_append, List.eraseDups_append]
    simp [List.removeAll, hmem, distinct]

/-- An object that comes up for the first time is the last. -/
theorem distinct_concat_of_new (hr : r ∉ distinct log) (id : ObjectId) :
    distinct (log ++ [(some r, id)]) = distinct log ++ [r] := by
  have hmem : r ∉ log.filterMap (·.1) := fun hmem => hr (List.mem_eraseDups.mpr hmem)
  rw [distinct, List.filterMap_append, List.eraseDups_append]
  simp [List.removeAll, List.eraseDups_cons, hmem, distinct]

theorem nodup_distinct (log : List (Option Ref × ObjectId)) : (distinct log).Nodup := by
  induction log using List.reverseRecOn with
  | nil => exact List.nodup_nil
  | append_singleton log x ih =>
    obtain ⟨o, id⟩ := x
    by_cases hknown : ∀ r ∈ o, r ∈ distinct log
    · rw [distinct_concat_of_known hknown]
      exact ih
    · simp only [not_forall] at hknown
      obtain ⟨r, rfl, hr⟩ := hknown
      rw [distinct_concat_of_new hr]
      exact List.nodup_append.mpr ⟨ih, List.nodup_singleton r, fun a ha b hb heq =>
        hr (List.mem_singleton.mp hb ▸ heq ▸ ha)⟩

/-- **The number of an object**: its place, counted from one. Null has none, and is
zero. -/
def number (seen : List Ref) : Option Ref → UInt64
  | none => 0
  | some r => UInt64.ofNat (seen.idxOf r + 1)

/-- An object keeps its place whatever comes up after it. -/
theorem number_append (ho : ∀ r ∈ o, r ∈ distinct log) (more : List Ref) :
    number (distinct log ++ more) o = number (distinct log) o := by
  cases o with
  | none => rfl
  | some r => rw [number, number, List.idxOf_append_of_mem (ho r rfl)]

theorem number_append_self (hr : r ∉ distinct log) :
    number (distinct log ++ [r]) (some r) = UInt64.ofNat ((distinct log).length + 1) := by
  rw [number, List.idxOf_append_of_notMem hr, List.idxOf_cons_self, Nat.add_zero]

/-! ### Entries -/

/-- A sweep leaves the entries of the living as they are. -/
theorem lookup_sweep (i : Interner) (hr : c.isAlive r = true) :
    (i.sweep c).entries.lookup r = i.entries.lookup r := by
  rw [sweep]
  induction i.entries with
  | nil => rfl
  | cons x rest ih =>
    obtain ⟨x, id⟩ := x
    by_cases hx : r = x
    · subst hx
      rw [List.filter_cons_of_pos (by simpa using hr), List.lookup_cons_self, List.lookup_cons_self]
    · have hskip : ∀ l : List (Ref × UInt64), ((x, id) :: l).lookup r = l.lookup r := by
        intro l
        rw [List.lookup_cons, beq_false_of_ne hx]
      rw [hskip, ← ih, List.filter_cons]
      split_ifs
      · rw [hskip]
      · rfl

theorem mem_of_lookup {id : UInt64} (hid : i.entries.lookup r = some id) : (r, id) ∈ i.entries := by
  obtain ⟨before, after, hentries, -⟩ := List.lookup_eq_some_iff.mp hid
  rw [hentries]
  exact List.mem_append_right _ List.mem_cons_self

/-! ### Sweeps in between -/

/-- All that is left by a sweep are the entries of the living, and the next number. -/
theorem sweep_eq_sweep {j : Interner}
    (hentries : i.entries.filter (fun entry => c.isAlive entry.1) =
      j.entries.filter fun entry => c.isAlive entry.1)
    (hnext : i.next = j.next) : i.sweep c = j.sweep c := by
  rw [sweep, sweep, hentries, hnext]

section Between

variable {c' : Heap.Census}
  (hdead : ∀ entry ∈ i.entries, c'.isAlive entry.1 = true → c.isAlive entry.1 = true)

include hdead

theorem filter_sweep : (i.sweep c).entries.filter (fun entry => c'.isAlive entry.1) =
    i.entries.filter fun entry => c'.isAlive entry.1 := by
  rw [sweep, List.filter_filter]
  refine List.filter_congr fun entry hentry => ?_
  cases halive : c'.isAlive entry.1 with
  | false => rfl
  | true => exact hdead entry hentry halive

/-- **A sweep in between does not show** after the next one, as long as nobody comes back
to life. -/
theorem sweep_sweep : (i.sweep c).sweep c' = i.sweep c' :=
  sweep_eq_sweep (filter_sweep hdead) rfl

/-- The same with an object added in between. -/
theorem sweep_add_sweep (r : Ref) : ((i.sweep c).add r).sweep c' = (i.add r).sweep c' := by
  refine sweep_eq_sweep ?_ rfl
  rw [add, add, List.filter_cons, List.filter_cons, filter_sweep hdead]
  rfl

end Between

/-- **The identity** of someone who is alive is the same after a sweep. -/
theorem intern_sweep_snd (ho : ∀ r ∈ o, c.isAlive r = true) :
    ((i.sweep c).intern h held o).2 = (i.intern h held o).2 := by
  cases o with
  | none => rfl
  | some r =>
    rw [intern, intern, lookup_sweep i (ho r rfl)]
    cases i.entries.lookup r <;> rfl

/-- Someone who is alive is identified, and then the dead are forgotten: that shows no
sweep before. -/
theorem sweep_intern_sweep {c' : Heap.Census}
    (ho : ∀ r ∈ o, (h.census held).isAlive r = true)
    (hdead : ∀ entry ∈ i.entries, c'.isAlive entry.1 = true →
      (h.census held).isAlive entry.1 = true) :
    ((i.sweep (h.census held)).intern h held o).1.sweep c' = (i.intern h held o).1.sweep c' := by
  cases o with
  | none => exact sweep_sweep hdead
  | some r =>
    have hr : (h.census held).isAlive r = true := ho r rfl
    rw [intern, intern, lookup_sweep i hr]
    cases i.entries.lookup r with
    | some id => exact sweep_sweep hdead
    | none =>
      -- whether a sweep was due does not show either
      have hdue : ∀ grown : Interner,
          (∀ entry ∈ grown.entries, c'.isAlive entry.1 = true →
            (h.census held).isAlive entry.1 = true) →
          (if grown.sweepDue then grown.sweep (h.census held) else grown).sweep c' =
            grown.sweep c' := by
        intro grown hgrown
        split_ifs
        · exact sweep_sweep hgrown
        · rfl
      dsimp only
      rw [hdue, hdue, sweep_add_sweep hdead]
      · rintro entry hentry halive
        rcases List.mem_cons.mp hentry with rfl | hentry
        · exact hr
        · exact hdead entry hentry halive
      · rintro entry hentry halive
        rcases List.mem_cons.mp hentry with rfl | hentry
        · exact hr
        · exact hdead entry (List.mem_of_mem_filter hentry) halive

/-! ### The invariant -/

/-- **An interner explains a log** of objects and their identities, of which those
that are `alive` may still be asked for. -/
structure Explains (i : Interner) (alive : Ref → Prop) (log : List (Option Ref × ObjectId)) :
    Prop where
  /-- The next number is that of the next place. -/
  next : i.next = UInt64.ofNat ((distinct log).length + 1)
  /-- Entries are right. -/
  entries : ∀ entry ∈ i.entries,
    entry.1 ∈ distinct log ∧ entry.2 = number (distinct log) (some entry.1)
  /-- The living have entries. -/
  living : ∀ r ∈ distinct log, alive r → (i.entries.lookup r).isSome = true
  /-- The identities that were handed out are the numbers. -/
  log : ∀ x ∈ log, x.2.id = number (distinct log) x.1

theorem explains_empty (alive : Ref → Prop) : Explains {} alive [] where
  next := rfl
  entries _ hentry := absurd hentry List.not_mem_nil
  living _ hr := absurd hr List.not_mem_nil
  log _ hx := absurd hx List.not_mem_nil

/-- The dead may be forgotten. -/
theorem Explains.mono (hi : i.Explains alive log)
    (hle : ∀ r ∈ distinct log, alive' r → alive r) : i.Explains alive' log :=
  ⟨hi.next, hi.entries, fun r hr halive => hi.living r hr (hle r hr halive), hi.log⟩

/-- **Sweeping** forgets nobody who may still be asked for. -/
theorem Explains.sweep (hi : i.Explains alive log) (hc : ∀ r, alive r → c.isAlive r = true) :
    (i.sweep c).Explains alive log where
  next := hi.next
  entries entry hentry := hi.entries entry (List.mem_of_mem_filter hentry)
  living r hr halive := by
    rw [lookup_sweep i (hc r halive)]
    exact hi.living r hr halive
  log := hi.log

/-- Objects that were asked for have their numbers in the log. -/
theorem number_eq_of_mem_log {id : ObjectId} (ho : (o, id) ∈ log) (more : List Ref) :
    number (distinct log ++ more) o = number (distinct log) o :=
  number_append (fun _ hr => mem_distinct_iff.mpr ⟨id, by rw [← Option.mem_def.mp hr]; exact ho⟩) more

/-- **A new object** gets the next place. -/
theorem Explains.add (hi : i.Explains alive log) (hr : r ∉ distinct log) {id : ObjectId}
    (hid : id.id = i.next) : (i.add r).Explains alive (log ++ [(some r, id)]) := by
  have hdistinct := distinct_concat_of_new hr id
  have hnumber : number (distinct log ++ [r]) (some r) = i.next := by
    rw [number_append_self hr, hi.next]
  refine ⟨?_, ?_, ?_, ?_⟩ <;> rw [hdistinct]
  · rw [List.length_append, List.length_singleton, UInt64.ofNat_add, ← hi.next]
    rfl
  · intro entry hentry
    rcases List.mem_cons.mp hentry with rfl | hentry
    · exact ⟨List.mem_append_right _ (List.mem_singleton_self r), hnumber.symm⟩
    · obtain ⟨hmem, hold⟩ := hi.entries entry hentry
      refine ⟨List.mem_append_left _ hmem, ?_⟩
      rw [number_append fun r hr => (Option.mem_some.mp hr) ▸ hmem]
      exact hold
  · intro x hx halive
    rw [Interner.add, List.lookup_cons]
    cases hxr : x == r with
    | true => rfl
    | false =>
      rcases List.mem_append.mp hx with hx | hx
      · exact hi.living x hx halive
      · rw [List.mem_singleton.mp hx, beq_self_eq_true] at hxr
        cases hxr
  · intro x hx
    rcases List.mem_append.mp hx with hx | hx
    · rw [number_eq_of_mem_log hx]
      exact hi.log x hx
    · rw [List.mem_singleton.mp hx, hid, hnumber]

/-- **Identifying** an object that may still be asked for, or null. -/
theorem Explains.intern (hi : i.Explains alive log) (ho : ∀ r ∈ o, alive r)
    (hc : ∀ r, alive r → (h.census held).isAlive r = true) :
    (i.intern h held o).1.Explains alive (log ++ [(o, (i.intern h held o).2)]) := by
  have hknown : ∀ {id : ObjectId}, (∀ r ∈ o, r ∈ distinct log) →
      id.id = number (distinct log) o → i.Explains alive (log ++ [(o, id)]) := by
    intro id hmem hid
    have hdistinct := distinct_concat_of_known hmem id
    refine ⟨?_, ?_, ?_, ?_⟩ <;> rw [hdistinct]
    · exact hi.next
    · exact hi.entries
    · exact hi.living
    · intro x hx
      rcases List.mem_append.mp hx with hx | hx
      · exact hi.log x hx
      · rw [List.mem_singleton.mp hx]
        exact hid
  cases o with
  | none => exact hknown nofun rfl
  | some r =>
    cases hlookup : i.entries.lookup r with
    | some id =>
      obtain ⟨hmem, hid⟩ := hi.entries _ (mem_of_lookup hlookup)
      rw [intern, hlookup]
      exact hknown (fun x hx => (Option.mem_some.mp hx) ▸ hmem) hid
    | none =>
      have hnew : r ∉ distinct log := by
        intro hmem
        have hsome := hi.living r hmem (ho r rfl)
        rw [hlookup] at hsome
        cases hsome
      have hid : ObjectId.id ⟨i.next, (h.info r).typeName, (h.info r).text⟩ = i.next := rfl
      have hadd := hi.add hnew hid
      rw [intern, hlookup]
      dsimp only
      split_ifs
      · exact hadd.sweep hc
      · exact hadd

/-! ### Numbers that do not wrap around -/

section Bounded

variable (hfew : (distinct log).length < UInt64.size)

include hfew

/-- The number of an object is its place. -/
theorem toNat_number (hr : r ∈ distinct log) :
    (number (distinct log) (some r)).toNat = (distinct log).idxOf r + 1 :=
  UInt64.toNat_ofNat_of_lt' (Nat.lt_of_le_of_lt (List.idxOf_lt_length_of_mem hr) hfew)

/-- **Different objects have different numbers.** -/
theorem number_inj (hr : r ∈ distinct log) (hr' : r' ∈ distinct log) :
    number (distinct log) (some r) = number (distinct log) (some r') ↔ r = r' := by
  rw [← UInt64.toNat_inj, toNat_number hfew hr, toNat_number hfew hr', Nat.add_right_cancel_iff,
    List.idxOf_inj hr]

end Bounded

/-- The place of an object in the order in which objects came up. -/
theorem idxOf_of_getElem? (hr : (distinct log)[n]? = some r) : (distinct log).idxOf r = n := by
  obtain ⟨hn, rfl⟩ := List.getElem?_eq_some_iff.mp hr
  exact (nodup_distinct log).idxOf_getElem n hn

end FlightRecorder.Interner
