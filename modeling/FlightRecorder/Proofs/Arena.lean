import FlightRecorder.Arena
import FlightRecorder.Proofs.SiteBuffer.Events

/-!
# Sites and their buffers

An arena lists its buffers in increasing order of their sites. So long as it
does, every site has at most one buffer, and putting a buffer at a site or
changing the buffer there touches that site alone. This file settles what the two
do to the buffer of a site, to the list as a whole and to the number of events.

* `FlightRecorder.Arena.Ordered` – sites in increasing order;
* `FlightRecorder.Arena.tally` – a sum over the buffers, such as the number of their
  events;
* `FlightRecorder.Arena.adjust` – changing the buffer of one site;
* `FlightRecorder.Arena.Sound` – the invariant of arenas: ordered, every buffer
  well-formed, and the number of retained events **exact**.
-/

namespace FlightRecorder.Arena

variable {l : List (Nat × SiteBuffer)} {site : Nat} {b : SiteBuffer}

/-- The sites of a list of buffers increase. -/
def Ordered (l : List (Nat × SiteBuffer)) : Prop :=
  l.Pairwise fun p q => p.1 < q.1

/-- The sum of a number over a list of buffers. -/
def tally (f : SiteBuffer → Nat) (l : List (Nat × SiteBuffer)) : Nat :=
  (l.map fun (_, b) => f b).foldr (· + ·) 0

@[simp] theorem tally_nil (f : SiteBuffer → Nat) : tally f [] = 0 := rfl

@[simp] theorem tally_cons (f : SiteBuffer → Nat) (p : Nat × SiteBuffer)
    (l : List (Nat × SiteBuffer)) : tally f (p :: l) = f p.2 + tally f l := by
  simp [tally]

/-- The number of events in a list of buffers. -/
def eventCount (l : List (Nat × SiteBuffer)) : Nat :=
  (l.map fun (_, b) => b.size).foldr (· + ·) 0

theorem totalSize_eq (a : Arena) : a.totalSize = eventCount a.buffers := rfl

@[simp] theorem eventCount_nil : eventCount [] = 0 := rfl

@[simp] theorem eventCount_cons (p : Nat × SiteBuffer) (l : List (Nat × SiteBuffer)) :
    eventCount (p :: l) = p.2.size + eventCount l :=
  tally_cons SiteBuffer.size p l

/-- A buffer holds no more events than there are. -/
theorem size_le_eventCount {p : Nat × SiteBuffer} (hp : p ∈ l) : p.2.size ≤ eventCount l := by
  induction l with
  | nil => cases hp
  | cons q rest ih =>
    rw [eventCount_cons]
    rcases List.mem_cons.mp hp with rfl | hp
    · exact Nat.le_add_right _ _
    · exact (ih hp).trans (Nat.le_add_left _ _)

theorem eventCount_le {n : Nat} (h : ∀ p ∈ l, p.2.size ≤ n) : eventCount l ≤ l.length * n := by
  induction l with
  | nil => exact Nat.zero_le _
  | cons q rest ih =>
    have hq := h q List.mem_cons_self
    have hrest := ih fun p hp => h p (List.mem_cons_of_mem q hp)
    rw [eventCount_cons, List.length_cons, Nat.succ_mul]
    omega

theorem lookup_cons_of_ne {s site : Nat} (hne : s ≠ site) (b : SiteBuffer) :
    ((site, b) :: l).lookup s = l.lookup s := by
  rw [List.lookup_cons, beq_eq_false_iff_ne.mpr hne]

/-- In an ordered list a site has the buffer that is listed with it. -/
theorem lookup_eq_some_iff (h : Ordered l) : l.lookup site = some b ↔ (site, b) ∈ l := by
  induction l with
  | nil => simp
  | cons p rest ih =>
    obtain ⟨s, x⟩ := p
    obtain ⟨hlt, hrest⟩ := List.pairwise_cons.mp h
    rcases eq_or_ne site s with rfl | hne
    · rw [List.lookup_cons_self, List.mem_cons]
      constructor
      · rintro hx
        exact Or.inl (by rw [Option.some.inj hx])
      · rintro (hp | hp)
        · rw [(Prod.mk.inj hp).2]
        · exact absurd (hlt _ hp) (lt_irrefl _)
    · rw [lookup_cons_of_ne hne, List.mem_cons, ih hrest]
      exact ⟨Or.inr, fun hp => hp.resolve_left fun he => hne (Prod.mk.inj he).1⟩

/-! ### Putting a buffer at a site -/

theorem eq_or_mem_of_mem_place {p : Nat × SiteBuffer} (hp : p ∈ place site b l) :
    p = (site, b) ∨ p ∈ l := by
  induction l with
  | nil => exact Or.inl (List.mem_singleton.mp hp)
  | cons q rest ih =>
    rw [place] at hp
    split_ifs at hp
    · rcases List.mem_cons.mp hp with rfl | hp
      · exact Or.inr List.mem_cons_self
      · exact (ih hp).imp_right (List.mem_cons_of_mem q)
    · exact (List.mem_cons.mp hp).imp_right (List.mem_cons_of_mem q)
    · exact List.mem_cons.mp hp

theorem ordered_place (h : Ordered l) (site : Nat) (b : SiteBuffer) : Ordered (place site b l) := by
  induction l with
  | nil => exact List.pairwise_singleton _ _
  | cons q rest ih =>
    obtain ⟨s, x⟩ := q
    obtain ⟨hlt, hrest⟩ := List.pairwise_cons.mp h
    rw [place]
    split_ifs with hs hs'
    · refine List.pairwise_cons.mpr ⟨fun p hp => ?_, ih hrest⟩
      rcases eq_or_mem_of_mem_place hp with rfl | hp
      · exact hs
      · exact hlt p hp
    · exact List.pairwise_cons.mpr ⟨fun p hp => hs' ▸ hlt p hp, hrest⟩
    · have hgt : site < s := by omega
      refine List.pairwise_cons.mpr ⟨fun p hp => ?_, h⟩
      rcases List.mem_cons.mp hp with rfl | hp
      · exact hgt
      · exact hgt.trans (hlt p hp)

/-- **Putting a buffer at a site** changes the buffer of that site alone. -/
theorem lookup_place (site : Nat) (b : SiteBuffer) (l : List (Nat × SiteBuffer)) (s : Nat) :
    (place site b l).lookup s = if s = site then some b else l.lookup s := by
  have hhere : ∀ rest : List (Nat × SiteBuffer),
      ((site, b) :: rest).lookup s = if s = site then some b else rest.lookup s := by
    intro rest
    split_ifs with hsite
    · rw [hsite, List.lookup_cons_self]
    · exact lookup_cons_of_ne hsite b
  induction l with
  | nil => exact hhere []
  | cons q rest ih =>
    obtain ⟨s', x⟩ := q
    rw [place]
    by_cases hlt : s' < site
    · rw [if_pos hlt, List.lookup_cons, List.lookup_cons, ih]
      by_cases hsite : s = site
      · rw [if_pos hsite, if_pos hsite, beq_eq_false_iff_ne.mpr (hsite ▸ hlt.ne')]
      · rw [if_neg hsite, if_neg hsite]
    · rw [if_neg hlt]
      by_cases heq : s' = site
      · rw [if_pos heq, hhere, heq]
        split_ifs with hsite
        · rfl
        · rw [lookup_cons_of_ne hsite]
      · rw [if_neg heq, hhere]

theorem mem_place_iff (h : Ordered l) {p : Nat × SiteBuffer} :
    p ∈ place site b l ↔ p = (site, b) ∨ (p ∈ l ∧ p.1 ≠ site) := by
  obtain ⟨s, x⟩ := p
  rw [← lookup_eq_some_iff (ordered_place h site b), lookup_place, ← lookup_eq_some_iff h]
  rcases eq_or_ne s site with rfl | hne
  · rw [if_pos rfl]
    simp [eq_comm]
  · rw [if_neg hne]
    simp [hne]

theorem mem_map_fst_place {s : Nat} :
    s ∈ (place site b l).map (·.1) ↔ s = site ∨ s ∈ l.map (·.1) := by
  induction l with
  | nil => simp [place]
  | cons q rest ih =>
    rw [place]
    split_ifs with hlt heq
    · rw [List.map_cons, List.mem_cons, ih, List.map_cons, List.mem_cons, or_left_comm]
    · simp only [List.map_cons, List.mem_cons, heq, or_self_left]
    · rw [List.map_cons, List.mem_cons]

/-- Replacing the buffer of a site replaces what it counts for. -/
theorem tally_place (f : SiteBuffer → Nat) (h : Ordered l) {old : SiteBuffer}
    (hold : l.lookup site = some old) :
    tally f (place site b l) + f old = tally f l + f b := by
  induction l with
  | nil => simp at hold
  | cons q rest ih =>
    obtain ⟨s, x⟩ := q
    obtain ⟨hlt, hrest⟩ := List.pairwise_cons.mp h
    rw [place]
    split_ifs with hs hs'
    · rw [lookup_cons_of_ne hs.ne'] at hold
      have := ih hrest hold
      simp only [tally_cons]
      omega
    · rw [hs', List.lookup_cons_self] at hold
      rw [Option.some.inj hold]
      simp only [tally_cons]
      omega
    · -- the list goes on above the site, so the site has no buffer
      have hmem : (site, old) ∈ (s, x) :: rest := (lookup_eq_some_iff h).mp hold
      rcases List.mem_cons.mp hmem with he | hmem
      · exact absurd (Prod.mk.inj he).1 (Ne.symm hs')
      · have := hlt _ hmem
        simp only at this
        omega

/-- A site that had no buffer adds what its buffer counts for. -/
theorem tally_place_new (f : SiteBuffer → Nat) (hnew : l.lookup site = none) :
    tally f (place site b l) = tally f l + f b := by
  induction l with
  | nil => simp [place]
  | cons q rest ih =>
    obtain ⟨s, x⟩ := q
    rw [place]
    split_ifs with hs hs'
    · rw [lookup_cons_of_ne hs.ne'] at hnew
      simp only [tally_cons, ih hnew]
      omega
    · rw [hs', List.lookup_cons_self] at hnew
      cases hnew
    · simp only [tally_cons]
      omega

/-- Replacing the buffer of a site replaces its events. -/
theorem eventCount_place (h : Ordered l) {old : SiteBuffer} (hold : l.lookup site = some old) :
    eventCount (place site b l) + old.size = eventCount l + b.size :=
  tally_place SiteBuffer.size h hold

/-- A site that had no buffer adds the events of its buffer. -/
theorem eventCount_place_new (hnew : l.lookup site = none) :
    eventCount (place site b l) = eventCount l + b.size :=
  tally_place_new SiteBuffer.size hnew

/-- Lists whose sites have no more events than those of another have no more events
in all, by induction on the sites: the first of them takes its events out of the
other list. -/
theorem eventCount_le_eventCount {l l' : List (Nat × SiteBuffer)} (h : Ordered l)
    (h' : Ordered l') (hle : ∀ s b, l.lookup s = some b → 0 < b.size →
      ∃ b', l'.lookup s = some b' ∧ b.size ≤ b'.size) : eventCount l ≤ eventCount l' := by
  induction l generalizing l' with
  | nil => exact Nat.zero_le _
  | cons q rest ih =>
    obtain ⟨site, b⟩ := q
    obtain ⟨hlt, hrest⟩ := List.pairwise_cons.mp h
    have hnot : ∀ s x, rest.lookup s = some x → s ≠ site := by
      intro s x hx heq
      have := hlt _ ((lookup_eq_some_iff hrest).mp hx)
      simp only at this
      omega
    have hrest' : ∀ s x, rest.lookup s = some x → 0 < x.size →
        ∃ b', l'.lookup s = some b' ∧ x.size ≤ b'.size := by
      intro s x hx hpos
      exact hle s x (by rw [lookup_cons_of_ne (hnot s x hx), hx]) hpos
    rw [eventCount_cons]
    rcases Nat.eq_zero_or_pos b.size with hzero | hpos
    · rw [hzero, Nat.zero_add]
      exact ih hrest h' hrest'
    · obtain ⟨b', hb', hsize⟩ := hle site b List.lookup_cons_self hpos
      -- an empty buffer in the place of that of the first site
      let l'' := place site (b'.dropOldest b'.size) l'
      have hcount : eventCount l'' + b'.size = eventCount l' + (b'.dropOldest b'.size).size :=
        eventCount_place h' hb'
      have hempty : (b'.dropOldest b'.size).size = 0 := by
        rw [SiteBuffer.size_dropOldest]
        omega
      have hle'' : eventCount rest ≤ eventCount l'' := by
        refine ih hrest (ordered_place h' _ _) fun s x hx hposx => ?_
        rw [lookup_place, if_neg (hnot s x hx)]
        exact hrest' s x hx hposx
      simp only
      omega

/-! ### Changing the buffer of a site -/

/-- Change the buffer of a site, if it has one. -/
def adjust (site : Nat) (f : SiteBuffer → SiteBuffer) (l : List (Nat × SiteBuffer)) :
    List (Nat × SiteBuffer) :=
  l.map fun (s, x) => if s = site then (s, f x) else (s, x)

section Adjust

variable {f : SiteBuffer → SiteBuffer}

theorem adjust_cons (q : Nat × SiteBuffer) (l : List (Nat × SiteBuffer)) :
    adjust site f (q :: l) = (q.1, if q.1 = site then f q.2 else q.2) :: adjust site f l := by
  obtain ⟨s, x⟩ := q
  simp only [adjust, List.map_cons]
  split_ifs <;> rfl

/-- Every buffer is the changed or the unchanged buffer of the same site. -/
theorem mem_adjust_iff {p : Nat × SiteBuffer} :
    p ∈ adjust site f l ↔ ∃ x, (p.1, x) ∈ l ∧ p.2 = if p.1 = site then f x else x := by
  induction l with
  | nil => simp [adjust]
  | cons q rest ih =>
    rw [adjust_cons, List.mem_cons, ih]
    constructor
    · rintro (rfl | ⟨x, hx, hp⟩)
      · exact ⟨q.2, List.mem_cons_self, rfl⟩
      · exact ⟨x, List.mem_cons_of_mem q hx, hp⟩
    · rintro ⟨x, hx, hp⟩
      rcases List.mem_cons.mp hx with rfl | hx
      · exact Or.inl (Prod.ext rfl hp)
      · exact Or.inr ⟨x, hx, hp⟩

theorem map_fst_adjust (site : Nat) (f : SiteBuffer → SiteBuffer) (l : List (Nat × SiteBuffer)) :
    (adjust site f l).map (·.1) = l.map (·.1) := by
  induction l with
  | nil => rfl
  | cons q rest ih => rw [adjust_cons, List.map_cons, List.map_cons, ih]

theorem ordered_iff : Ordered l ↔ (l.map (·.1)).Pairwise (· < ·) :=
  List.pairwise_map.symm

theorem ordered_adjust (h : Ordered l) : Ordered (adjust site f l) := by
  rw [ordered_iff, map_fst_adjust, ← ordered_iff]
  exact h

theorem lookup_adjust (s : Nat) :
    (adjust site f l).lookup s = if s = site then (l.lookup s).map f else l.lookup s := by
  induction l with
  | nil => simp [adjust]
  | cons q rest ih =>
    obtain ⟨s', x⟩ := q
    rw [adjust_cons]
    rcases eq_or_ne s s' with rfl | hne
    · rw [List.lookup_cons_self, List.lookup_cons_self]
      split_ifs <;> rfl
    · rw [lookup_cons_of_ne hne, lookup_cons_of_ne hne, ih]

/-- Changing the buffer of a site changes a sum by as much as that buffer gains or
loses. -/
theorem tally_adjust (g : SiteBuffer → Nat) (h : Ordered l) (hb : l.lookup site = some b) :
    tally g (adjust site f l) + g b = tally g l + g (f b) := by
  induction l with
  | nil => simp at hb
  | cons q rest ih =>
    obtain ⟨s, x⟩ := q
    obtain ⟨hlt, hrest⟩ := List.pairwise_cons.mp h
    rw [adjust_cons]
    by_cases hs : s = site
    · have hx : x = b := by
        rw [hs, List.lookup_cons_self] at hb
        exact Option.some.inj hb
      -- the sites that follow are above, so their buffers stay as they are
      have hsame : adjust site f rest = rest := by
        refine (List.map_congr_left fun p hp => ?_).trans (List.map_id rest)
        have := hlt p hp
        simp only at this
        exact if_neg (by omega)
      simp only [tally_cons, if_pos hs, hsame, hx]
      omega
    · rw [lookup_cons_of_ne (Ne.symm hs)] at hb
      have := ih hrest hb
      simp only [tally_cons, if_neg hs]
      omega

/-- It changes the number of events by as many as that buffer gains or loses. -/
theorem eventCount_adjust (h : Ordered l) (hb : l.lookup site = some b) :
    eventCount (adjust site f l) + b.size = eventCount l + (f b).size :=
  tally_adjust SiteBuffer.size h hb

end Adjust

/-! ### The invariant -/

/-- **Sound arenas**: in order, all buffers well-formed, and the number of
retained events is the number of events there are. -/
structure Sound (a : Arena) : Prop where
  ordered : Ordered a.buffers
  wellFormed : ∀ p ∈ a.buffers, p.2.WellFormed
  retained : a.retained = a.totalSize

theorem sound_empty : Sound {} :=
  ⟨List.Pairwise.nil, fun _ hp => absurd hp List.not_mem_nil, rfl⟩

section Sound

variable {a : Arena}

/-- The buffer of a site is the one listed with it. -/
theorem Sound.find?_eq_some_iff (h : a.Sound) : a.find? site = some b ↔ (site, b) ∈ a.buffers :=
  lookup_eq_some_iff h.ordered

theorem Sound.wellFormed_of_find? (h : a.Sound) (hb : a.find? site = some b) : b.WellFormed :=
  h.wellFormed _ (h.find?_eq_some_iff.mp hb)

theorem Sound.size_le (h : a.Sound) (hb : a.find? site = some b) : b.size ≤ a.retained := by
  rw [h.retained]
  exact size_le_eventCount (h.find?_eq_some_iff.mp hb)

/-- Putting another buffer at a site that has one. -/
theorem Sound.replace (h : a.Sound) {old : SiteBuffer} (hold : a.find? site = some old)
    (hb : b.WellFormed) {retained : Nat} (hretained : retained + old.size = a.retained + b.size) :
    Sound { buffers := place site b a.buffers, retained } where
  ordered := ordered_place h.ordered site b
  wellFormed p hp := by
    rcases eq_or_mem_of_mem_place hp with rfl | hp
    · exact hb
    · exact h.wellFormed p hp
  retained := by
    have hcount := eventCount_place (b := b) h.ordered hold
    have hbefore := h.retained
    rw [totalSize_eq] at hbefore ⊢
    simp only
    omega

/-- Changing the buffer of a site. -/
theorem Sound.adjust (h : a.Sound) {f : SiteBuffer → SiteBuffer} (hb : a.find? site = some b)
    (hf : ∀ x : SiteBuffer, x.WellFormed → (f x).WellFormed) {retained : Nat}
    (hretained : retained + b.size = a.retained + (f b).size) :
    Sound { buffers := adjust site f a.buffers, retained } where
  ordered := ordered_adjust h.ordered
  wellFormed p hp := by
    obtain ⟨x, hx, hp⟩ := mem_adjust_iff.mp hp
    have hwf : x.WellFormed := h.wellFormed (p.1, x) hx
    rw [hp]
    split_ifs
    · exact hf x hwf
    · exact hwf
  retained := by
    have hcount := eventCount_adjust (f := f) h.ordered hb
    have hbefore := h.retained
    rw [totalSize_eq] at hbefore ⊢
    simp only
    omega

/-- Putting an empty buffer at a site that has none. -/
theorem Sound.put_new (h : a.Sound) (hnew : a.find? site = none) (hb : b.WellFormed)
    (hempty : b.size = 0) : Sound (a.put site b) where
  ordered := ordered_place h.ordered site b
  wellFormed p hp := by
    rcases eq_or_mem_of_mem_place hp with rfl | hp
    · exact hb
    · exact h.wellFormed p hp
  retained := by
    have hcount := eventCount_place_new (b := b) hnew
    have hbefore := h.retained
    rw [totalSize_eq] at hbefore ⊢
    rw [put]
    simp only
    omega

end Sound

end FlightRecorder.Arena
