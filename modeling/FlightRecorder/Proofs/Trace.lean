import FlightRecorder.Proofs.Arena
import FlightRecorder.Trace

/-!
# The rows of a trace

A trace joins two ordered lists, the catalogue and the buffers of a moment. This
file proves that the join is complete and adds nothing: every site that is known
or has a buffer has exactly one row, and the row has the buffer of its site.

* `FlightRecorder.Catalog.Ordered` – known sites in increasing order, which
  registering keeps (`FlightRecorder.Catalog.ordered_registerAll`);
* `FlightRecorder.RowsOrdered` – rows in increasing order of their sites
  (`FlightRecorder.ordered_placeAll`);
* `FlightRecorder.buffersOf`, `FlightRecorder.buffersOf_rowsOf` – **the rows have
  the buffers**, in order; so each buffer is on the row of its site
  (`FlightRecorder.find?_eq_some_iff_row`).
-/

namespace FlightRecorder

/-! ### The catalogue -/

namespace Catalog

/-- The known sites increase. -/
def Ordered (c : Catalog) : Prop :=
  c.sites.Pairwise fun i j => i.site < j.site

theorem eq_or_mem_of_mem_place {i j : SiteInfo} {l : List SiteInfo} (h : j ∈ place i l) :
    j = i ∨ j ∈ l := by
  induction l with
  | nil => exact Or.inl (List.mem_singleton.mp h)
  | cons x rest ih =>
    rw [place] at h
    split_ifs at h
    · rcases List.mem_cons.mp h with rfl | h
      · exact Or.inr List.mem_cons_self
      · exact (ih h).imp_right (List.mem_cons_of_mem x)
    · exact (List.mem_cons.mp h).imp_right (List.mem_cons_of_mem x)
    · exact List.mem_cons.mp h

theorem ordered_register {c : Catalog} (h : c.Ordered) (i : SiteInfo) : (c.register i).Ordered := by
  suffices hplace : ∀ l : List SiteInfo, l.Pairwise (fun i j => i.site < j.site) →
      (place i l).Pairwise fun i j => i.site < j.site from hplace c.sites h
  intro l hl
  induction l with
  | nil => exact List.pairwise_singleton _ _
  | cons x rest ih =>
    obtain ⟨hlt, hrest⟩ := List.pairwise_cons.mp hl
    rw [place]
    split_ifs with hx hx'
    · refine List.pairwise_cons.mpr ⟨fun j hj => ?_, ih hrest⟩
      rcases eq_or_mem_of_mem_place hj with rfl | hj
      · exact hx
      · exact hlt j hj
    · exact List.pairwise_cons.mpr ⟨fun j hj => hx' ▸ hlt j hj, hrest⟩
    · have hgt : i.site < x.site := by omega
      refine List.pairwise_cons.mpr ⟨fun j hj => ?_, hl⟩
      rcases List.mem_cons.mp hj with rfl | hj
      · exact hgt
      · exact hgt.trans (hlt j hj)

theorem ordered_registerAll {c : Catalog} (h : c.Ordered) (sites : List SiteInfo) :
    (c.registerAll sites).Ordered := by
  induction sites generalizing c with
  | nil => exact h
  | cons i rest ih =>
    rw [registerAll, afterBreak]
    split_ifs
    · exact ih (ordered_register h i)
    · exact List.Pairwise.nil
    · exact h

end Catalog

/-! ### Putting buffers on rows -/

/-- Rows in increasing order of their sites. -/
def RowsOrdered (rows : List TraceRow) : Prop :=
  rows.Pairwise fun x y => x.info.site < y.info.site

variable {rows : List TraceRow} {buffers : List (Nat × SiteBuffer)}

/-- The rows are those that were there, and one for every buffer. -/
theorem mem_sites_placeAll {s : Nat} :
    s ∈ (placeAll rows buffers).map (·.info.site) ↔
      s ∈ rows.map (·.info.site) ∨ s ∈ buffers.map (·.1) := by
  induction rows, buffers using placeAll.induct with
  | case1 rows => simp [placeAll]
  | case2 site b buffers ih =>
    rw [placeAll, ih]
    simp [SiteInfo.unknown]
  | case3 r rows site b buffers hlt ih =>
    rw [placeAll, if_pos hlt, List.map_cons, List.mem_cons, ih]
    simp [or_assoc]
  | case4 r rows b buffers hlt ih =>
    rw [placeAll, if_neg hlt, if_pos rfl, ih]
    simp only [List.map_cons, List.mem_cons]
    tauto
  | case5 r rows site b buffers hlt hne ih =>
    rw [placeAll, if_neg hlt, if_neg hne, ih]
    simp only [List.map_cons, List.mem_cons, SiteInfo.unknown]
    tauto

/-- **Every site has one row.** -/
theorem ordered_placeAll (hrows : RowsOrdered rows) (hbuffers : Arena.Ordered buffers) :
    RowsOrdered (placeAll rows buffers) := by
  induction rows, buffers using placeAll.induct with
  | case1 rows =>
    rw [placeAll]
    exact hrows
  | case2 site b buffers ih =>
    rw [placeAll]
    exact ih (List.pairwise_singleton _ _) (List.pairwise_cons.mp hbuffers).2
  | case3 r rows site b buffers hlt ih =>
    obtain ⟨hfirst, hrest⟩ := List.pairwise_cons.mp hrows
    rw [placeAll, if_pos hlt]
    refine List.pairwise_cons.mpr ⟨fun row hrow => ?_, ih hrest hbuffers⟩
    rcases mem_sites_placeAll.mp (List.mem_map_of_mem hrow) with hknown | hbuffer
    · obtain ⟨x, hx, hsite⟩ := List.mem_map.mp hknown
      rw [← hsite]
      exact hfirst x hx
    · obtain ⟨p, hp, hsite⟩ := List.mem_map.mp hbuffer
      rw [← hsite]
      rcases List.mem_cons.mp hp with rfl | hp
      · exact hlt
      · exact hlt.trans ((List.pairwise_cons.mp hbuffers).1 p hp)
  | case4 r rows b buffers hlt ih =>
    rw [placeAll, if_neg hlt, if_pos rfl]
    exact ih (List.pairwise_cons.mpr (List.pairwise_cons.mp hrows))
      (List.pairwise_cons.mp hbuffers).2
  | case5 r rows site b buffers hlt hne ih =>
    have hgt : site < r.info.site := by omega
    rw [placeAll, if_neg hlt, if_neg hne]
    refine ih (List.pairwise_cons.mpr ⟨fun x hx => ?_, hrows⟩) (List.pairwise_cons.mp hbuffers).2
    rcases List.mem_cons.mp hx with rfl | hx
    · exact hgt
    · exact hgt.trans ((List.pairwise_cons.mp hrows).1 x hx)

/-- The buffers on the rows, with the sites of the rows. -/
def buffersOf (rows : List TraceRow) : List (Nat × SiteBuffer) :=
  rows.filterMap fun row => row.buffer.map (row.info.site, ·)

theorem mem_buffersOf {site : Nat} {b : SiteBuffer} :
    (site, b) ∈ buffersOf rows ↔ ∃ row ∈ rows, row.info.site = site ∧ row.buffer = some b := by
  simp only [buffersOf, List.mem_filterMap, Option.map_eq_some_iff, Prod.mk.injEq]
  constructor
  · rintro ⟨row, hrow, _, hb, hsite, rfl⟩
    exact ⟨row, hrow, hsite, hb⟩
  · rintro ⟨row, hrow, hsite, hb⟩
    exact ⟨row, hrow, b, hb, hsite, rfl⟩

theorem buffersOf_cons (row : TraceRow) (rows : List TraceRow) :
    buffersOf (row :: rows) = buffersOf [row] ++ buffersOf rows :=
  List.filterMap_append (l := [row])

theorem buffersOf_eq_nil (h : ∀ row ∈ rows, row.buffer = none) : buffersOf rows = [] := by
  refine List.filterMap_eq_nil_iff.mpr fun row hrow => ?_
  rw [h row hrow, Option.map_none]

/-- Rows that have buffers are behind the buffers to be put on rows. -/
def Behind (rows : List TraceRow) (buffers : List (Nat × SiteBuffer)) : Prop :=
  ∀ row ∈ rows, row.buffer ≠ none → ∀ p ∈ buffers, row.info.site < p.1

/-- So a row that is not behind has no buffer. -/
theorem Behind.buffer_eq_none (h : Behind rows buffers) {row : TraceRow} (hrow : row ∈ rows)
    {p : Nat × SiteBuffer} (hp : p ∈ buffers) (hle : p.1 ≤ row.info.site) : row.buffer = none := by
  by_contra hb
  exact absurd (h row hrow hb p hp) (Nat.not_lt.mpr hle)

/-- A row that has just got its buffer is behind the next ones. -/
theorem behind_cons {row : TraceRow} (hrow : ∀ p ∈ buffers, row.info.site < p.1)
    (hnone : ∀ row ∈ rows, row.buffer = none) : Behind (row :: rows) buffers := by
  intro row' hrow' hb
  rcases List.mem_cons.mp hrow' with rfl | hrow'
  · exact hrow
  · exact absurd (hnone row' hrow') hb

/-- **Every buffer is put on a row**, and the rows get no others. -/
theorem buffersOf_placeAll (hrows : RowsOrdered rows) (hbuffers : Arena.Ordered buffers)
    (hbehind : Behind rows buffers) :
    buffersOf (placeAll rows buffers) = buffersOf rows ++ buffers := by
  induction rows, buffers using placeAll.induct with
  | case1 rows => rw [placeAll, List.append_nil]
  | case2 site b buffers ih =>
    obtain ⟨hlt, hrest⟩ := List.pairwise_cons.mp hbuffers
    rw [placeAll, ih (List.pairwise_singleton _ _) hrest (behind_cons hlt (by simp))]
    rfl
  | case3 r rows site b buffers hlt ih =>
    rw [placeAll, if_pos hlt, buffersOf_cons, buffersOf_cons r rows, List.append_assoc]
    rw [ih (List.pairwise_cons.mp hrows).2 hbuffers
      fun row hrow => hbehind row (List.mem_cons_of_mem r hrow)]
  | case4 r rows b buffers hlt ih =>
    obtain ⟨hfirst, hrest⟩ := List.pairwise_cons.mp hrows
    obtain ⟨hnext, hbuffers'⟩ := List.pairwise_cons.mp hbuffers
    have hnone : ∀ row ∈ rows, row.buffer = none := fun row hrow =>
      hbehind.buffer_eq_none (List.mem_cons_of_mem r hrow) List.mem_cons_self (hfirst row hrow).le
    have hr : r.buffer = none := hbehind.buffer_eq_none List.mem_cons_self List.mem_cons_self le_rfl
    rw [placeAll, if_neg hlt, if_pos rfl,
      ih (List.pairwise_cons.mpr ⟨hfirst, hrest⟩) hbuffers' (behind_cons hnext hnone),
      buffersOf_cons, buffersOf_eq_nil hnone, buffersOf_eq_nil (List.forall_mem_cons.mpr ⟨hr, hnone⟩)]
    rfl
  | case5 r rows site b buffers hlt hne ih =>
    obtain ⟨hfirst, hrest⟩ := List.pairwise_cons.mp hrows
    obtain ⟨hnext, hbuffers'⟩ := List.pairwise_cons.mp hbuffers
    have hbeyond : ∀ row ∈ r :: rows, site < row.info.site := by
      have hr : site < r.info.site := by omega
      exact List.forall_mem_cons.mpr ⟨hr, fun row hrow => hr.trans (hfirst row hrow)⟩
    have hnone : ∀ row ∈ r :: rows, row.buffer = none := fun row hrow =>
      hbehind.buffer_eq_none hrow List.mem_cons_self (hbeyond row hrow).le
    rw [placeAll, if_neg hlt, if_neg hne,
      ih (List.pairwise_cons.mpr ⟨hbeyond, hrows⟩) hbuffers' (behind_cons hnext hnone),
      buffersOf_cons, buffersOf_eq_nil hnone]
    rfl

/-! ### The rows of known sites and buffers -/

section Rows

variable {known : List SiteInfo}

theorem rowsOf_eq (known : List SiteInfo) (hbuffers : Arena.Ordered buffers) :
    rowsOf known buffers = placeAll (known.map fun i => ⟨i, none⟩) buffers := by
  rw [rowsOf, List.mergeSort_of_pairwise]
  exact hbuffers.imp fun hlt => decide_eq_true hlt.le

theorem rowsOrdered_map (hknown : known.Pairwise fun i j => i.site < j.site) :
    RowsOrdered (known.map fun i => ⟨i, none⟩) :=
  List.pairwise_map.mpr hknown

theorem ordered_rowsOf (hknown : known.Pairwise fun i j => i.site < j.site)
    (hbuffers : Arena.Ordered buffers) : RowsOrdered (rowsOf known buffers) := by
  rw [rowsOf_eq known hbuffers]
  exact ordered_placeAll (rowsOrdered_map hknown) hbuffers

/-- **The rows of a trace have the buffers**, in order. -/
theorem buffersOf_rowsOf (hknown : known.Pairwise fun i j => i.site < j.site)
    (hbuffers : Arena.Ordered buffers) : buffersOf (rowsOf known buffers) = buffers := by
  have hnone : ∀ row ∈ known.map fun i => (⟨i, none⟩ : TraceRow), row.buffer = none := by simp
  rw [rowsOf_eq known hbuffers, buffersOf_placeAll (rowsOrdered_map hknown) hbuffers
    fun row hrow hb => absurd (hnone row hrow) hb, buffersOf_eq_nil hnone, List.nil_append]

/-- A site has a buffer exactly if that buffer is on its row. -/
theorem find?_eq_some_iff_row (hknown : known.Pairwise fun i j => i.site < j.site) {a : Arena}
    (ha : Arena.Ordered a.buffers) {site : Nat} {b : SiteBuffer} :
    a.find? site = some b ↔
      ∃ row ∈ rowsOf known a.buffers, row.info.site = site ∧ row.buffer = some b := by
  rw [← mem_buffersOf, buffersOf_rowsOf hknown ha]
  exact Arena.lookup_eq_some_iff ha

end Rows

end FlightRecorder
