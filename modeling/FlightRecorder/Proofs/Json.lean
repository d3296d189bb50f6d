import FlightRecorder.Json.Reader
import FlightRecorder.Proofs.Text.Digits
import FlightRecorder.Proofs.Text.Escaped

/-!
# Documents read back

The writer of documents uses no blanks, and what follows a document inside another is a
comma or a closing bracket. So the reader, which may not look further than to the
next token, stops where the document ends. Numbers are the only ones that need this:
everything else ends with a token of its own.

* `FlightRecorder.Json.Readable` – the documents that come back: with numbers of a given
  sort, nested less deep than a bound;
* `FlightRecorder.Json.Ends` – what may follow a document;
* `FlightRecorder.Json.IsWord`, `FlightRecorder.Json.number?_toString` – the numbers that
  come back as they are, integers of 64 bits and no others;
* `FlightRecorder.Json.items?_itemChars`, `FlightRecorder.Json.members?_memberChars` – what
  is inside arrays and objects;
* `FlightRecorder.Json.value?_chars`, `FlightRecorder.Json.readBy?_render` – **any readable
  document**, and `FlightRecorder.Json.read?_render` – any whose numbers are such integers.
-/

namespace FlightRecorder.Json

/-- **Readable documents**, with numbers of some sort, nested less than `depth` deep. -/
inductive Readable (sort : Json → Prop) : Nat → Json → Prop
  | null {depth : Nat} : Readable sort (depth + 1) .null
  | bool {depth : Nat} (b : Bool) : Readable sort (depth + 1) (.bool b)
  | number {depth : Nat} {j : Json} : sort j → Readable sort (depth + 1) j
  | string {depth : Nat} (s : String) : Readable sort (depth + 1) (.string s)
  | array {depth : Nat} {items : List Json} : (∀ item ∈ items, Readable sort (depth + 1) item) →
      Readable sort (depth + 2) (.array items)
  | object {depth : Nat} {members : List (String × Json)} :
      (∀ member ∈ members, Readable sort (depth + 1) member.2) →
      Readable sort (depth + 2) (.object members)

/-- Integers of signed or unsigned words of 64 bits. -/
def IsWord : Json → Prop
  | .int x => -Int.pow 2 63 ≤ x ∧ x < Int.pow 2 64
  | _ => False

/-- What may follow a document: nothing, or a token that separates or closes. -/
def Ends (rest : List Char) : Prop :=
  ∀ c ∈ rest.head?, c = ',' ∨ c = ']' ∨ c = '\x7d'

variable {depth fuel : Nat} {j : Json} {rest tail : List Char} {worth : Numeral}
  {sort : Json → Prop} {item : List Char → Option (Json × List Char)}

theorem ends_nil : Ends [] := nofun

theorem ends_comma (rest : List Char) : Ends (',' :: rest) := by
  rintro c ⟨⟩
  exact Or.inl rfl

theorem ends_bracket (rest : List Char) : Ends (']' :: rest) := by
  rintro c ⟨⟩
  exact Or.inr (Or.inl rfl)

theorem ends_brace (rest : List Char) : Ends ('\x7d' :: rest) := by
  rintro c ⟨⟩
  exact Or.inr (Or.inr rfl)

/-! ### Numbers -/

/-- A text that does not go on with a digit. -/
def NoDigit (rest : List Char) : Prop :=
  ∀ c ∈ rest.head?, c.isDigit = false

theorem Ends.noDigit (h : Ends rest) : NoDigit rest := by
  intro c hc
  rcases h c hc with rfl | rfl | rfl <;> rfl

/-- Digits are read up to their end. -/
theorem span_digits {digits : List Char} (hdigits : ∀ c ∈ digits, c.isDigit = true)
    (hrest : NoDigit rest) :
    (digits ++ rest).takeWhile Char.isDigit = digits ∧
      (digits ++ rest).dropWhile Char.isDigit = rest := by
  rw [List.takeWhile_append_of_pos hdigits, List.dropWhile_append_of_pos hdigits]
  cases rest with
  | nil => exact ⟨List.append_nil _, rfl⟩
  | cons c cs =>
    have hc : c.isDigit = false := hrest c rfl
    rw [List.takeWhile_cons_of_neg (by simp [hc]), List.dropWhile_cons_of_neg (by simp [hc]),
      List.append_nil]
    exact ⟨rfl, rfl⟩

/-- Neither fraction nor exponent follows. -/
theorem fraction?_of_ends (hrest : Ends rest) : fraction? rest = some (none, rest) := by
  cases rest with
  | nil => rfl
  | cons c cs => rcases hrest c rfl with rfl | rfl | rfl <;> rfl

theorem exponent?_of_ends (hrest : Ends rest) : exponent? rest = some (none, rest) := by
  cases rest with
  | nil => rfl
  | cons c cs => rcases hrest c rfl with rfl | rfl | rfl <;> rfl

/-- Digits that stand before a point, or alone: there is one, and the first of several is
no zero. -/
structure Whole (digits : List Char) : Prop where
  isDigit : ∀ c ∈ digits, c.isDigit = true
  ne_nil : digits ≠ []
  canonical : digits.head? = some '0' → digits.length = 1

theorem whole_toDigits (n : Nat) : Whole (Nat.toDigits 10 n) where
  isDigit := fun _ hc => Nat.isDigit_of_mem_toDigits (by decide) (by decide) hc
  ne_nil := Nat.toDigits_ne_nil
  canonical := fun hzero => by
    rw [Text.head?_toDigits hzero]
    rfl

/-- Digits do not begin with a sign. -/
theorem Whole.append_ne {digits : List Char} (h : Whole digits) (rest cs : List Char) :
    digits ++ rest ≠ '-' :: cs := by
  obtain ⟨d, ds, rfl⟩ := List.exists_cons_of_ne_nil h.ne_nil
  have hdigit := h.isDigit d List.mem_cons_self
  rw [List.cons_append]
  rintro ⟨⟩
  exact absurd hdigit (by decide)

/-- **A number** is read part by part: its sign, the digits before the point, and what
follows them. -/
theorem number?_parts (negative : Bool) {whole : List Char} (hwhole : Whole whole)
    (htail : NoDigit tail) {fraction : Option (List Char)} {tail' : List Char}
    (hfraction : fraction? tail = some (fraction, tail')) {exponent : Option Int}
    (hexponent : exponent? tail' = some (exponent, rest)) :
    number? worth ((if negative then ['-'] else []) ++ (whole ++ tail)) =
      (worth negative whole fraction exponent).map fun j => (j, rest) := by
  obtain ⟨htake, hdrop⟩ := span_digits hwhole.isDigit htail
  have hread : (whole.isEmpty || (whole.head? == some '0' && whole.length != 1)) = false := by
    have hempty : whole.isEmpty = false := List.isEmpty_eq_false_iff.mpr hwhole.ne_nil
    rw [hempty, Bool.false_or, Bool.and_eq_false_imp]
    intro hzero
    rw [hwhole.canonical (beq_iff_eq.mp hzero)]
    rfl
  cases negative with
  | true =>
    rw [if_pos rfl, List.singleton_append, number?, htake, hdrop, hread]
    simp only [if_neg Bool.false_ne_true, hfraction, hexponent,
      Option.bind_eq_bind, Option.bind_some, Option.pure_def, Option.map_eq_bind]
    rfl
  | false =>
    rw [if_neg Bool.false_ne_true, List.nil_append, number?, htake, hdrop, hread]
    · simp only [if_neg Bool.false_ne_true, hfraction, hexponent,
        Option.bind_eq_bind, Option.bind_some, Option.pure_def, Option.map_eq_bind]
      rfl
    · exact hwhole.append_ne tail

/-- **Digits, with a sign or without**, are read as the number they make. -/
theorem number?_digits (worth : Numeral) (negative : Bool) (n : Nat) (hrest : Ends rest) :
    number? worth ((if negative then ['-'] else []) ++ (Nat.toDigits 10 n ++ rest)) =
      (worth negative (Nat.toDigits 10 n) none none).map fun j => (j, rest) :=
  number?_parts negative (whole_toDigits n) hrest.noDigit (fraction?_of_ends hrest)
    (exponent?_of_ends hrest)

theorem toList_toString_ofNat (n : Nat) :
    (toString (Int.ofNat n)).toList = Nat.toDigits 10 n :=
  Nat.toList_repr

theorem toList_toString_negSucc (m : Nat) :
    (toString (Int.negSucc m)).toList = '-' :: Nat.toDigits 10 (m + 1) := by
  rw [← Nat.toList_repr]
  exact String.toList_append

/-- **Integers** are read as what their digits are worth. -/
theorem number?_toString {x : Int} (hx : worth (decide (x < 0)) (Nat.toDigits 10 x.natAbs)
      none none = some (.int x)) (hrest : Ends rest) :
    number? worth ((toString x).toList ++ rest) = some (.int x, rest) := by
  cases x with
  | ofNat n =>
    have hread := number?_digits worth false n hrest
    have hsign : decide (Int.ofNat n < 0) = false :=
      decide_eq_false (Int.not_lt.mpr (Int.natCast_nonneg n))
    have habs : (Int.ofNat n).natAbs = n := rfl
    rw [hsign, habs] at hx
    rw [hx, Option.map_some] at hread
    rw [toList_toString_ofNat]
    exact hread
  | negSucc m =>
    have hread := number?_digits worth true (m + 1) hrest
    have hsign : decide (Int.negSucc m < 0) = true := decide_eq_true (Int.negSucc_lt_zero m)
    rw [hsign, Int.natAbs_negSucc] at hx
    rw [hx, Option.map_some] at hread
    rw [toList_toString_negSucc]
    exact hread

/-- Integers of 64 bits are worth themselves. -/
theorem numberOf?_word {x : Int} (hlow : -Int.pow 2 63 ≤ x) (hhigh : x < Int.pow 2 64) :
    numberOf? (decide (x < 0)) (Nat.toDigits 10 x.natAbs) none none = some (.int x) := by
  have hpow63 : Int.pow 2 63 = 9223372036854775808 := rfl
  have hpow64 : Int.pow 2 64 = 18446744073709551616 := rfl
  have hword : Nat.pow 2 64 = 18446744073709551616 := rfl
  have hhalf : Nat.pow 2 63 = 9223372036854775808 := rfl
  rw [numberOf?, Text.digitsValue_toDigits]
  by_cases hneg : x < 0
  · rw [decide_eq_true hneg, if_neg fun h => h.2.2.1 rfl,
      if_pos ⟨rfl, rfl, rfl, by omega, by omega⟩]
    exact congrArg (some ∘ Json.int) (by omega)
  · rw [decide_eq_false hneg, if_pos ⟨rfl, rfl, Bool.false_ne_true, by omega⟩]
    exact congrArg (some ∘ Json.int) (by omega)

/-! ### How documents begin -/

/-- There are no blanks to skip. -/
theorem skip_cons {c : Char} (h : isSpace c = false) (cs : List Char) :
    skip (c :: cs) = c :: cs :=
  List.dropWhile_cons_of_neg (by simp [h])

/-- A text that begins like a document or a key: with no blank, and with no bracket or
brace that would close an array or an object before there is anything in it. -/
def Begins (cs : List Char) : Prop :=
  ∃ c tail, cs = c :: tail ∧ isSpace c = false ∧ c ≠ ']' ∧ c ≠ '\x7d'

theorem Begins.skip_eq {cs : List Char} (h : Begins cs) : skip cs = cs := by
  obtain ⟨c, tail, rfl, hspace, -⟩ := h
  exact skip_cons hspace tail

theorem Begins.append {cs : List Char} (h : Begins cs) (rest : List Char) :
    Begins (cs ++ rest) := by
  obtain ⟨c, tail, rfl, hc⟩ := h
  exact ⟨c, tail ++ rest, rfl, hc⟩

/-- Numbers begin with a digit or a sign. -/
theorem toList_toString_eq_cons (x : Int) :
    ∃ c cs, (toString x).toList = c :: cs ∧ (c.isDigit = true ∨ c = '-') := by
  cases x with
  | ofNat n =>
    obtain ⟨d, ds, hn, hdigit⟩ := Text.toDigits_eq_cons n
    exact ⟨d, ds, (toList_toString_ofNat n).trans hn, Or.inl hdigit⟩
  | negSucc m => exact ⟨'-', _, toList_toString_negSucc m, Or.inr rfl⟩

theorem ne_of_number {c d : Char} (hc : c.isDigit = true ∨ c = '-') (hdigit : d.isDigit = false)
    (hminus : d ≠ '-') : c ≠ d := by
  rintro rfl
  rcases hc with hc | hc
  · exact absurd (hdigit.symm.trans hc) Bool.false_ne_true
  · exact hminus hc

theorem begins_of_number {c : Char} (hc : c.isDigit = true ∨ c = '-') (cs : List Char) :
    Begins (c :: cs) := by
  refine ⟨c, cs, rfl, ?_, ne_of_number hc rfl (by decide), ne_of_number hc rfl (by decide)⟩
  simp only [isSpace, Bool.or_eq_false_iff, beq_eq_false_iff_ne]
  refine ⟨⟨⟨?_, ?_⟩, ?_⟩, ?_⟩ <;> exact ne_of_number hc rfl (by decide)

theorem begins_quote (s : String) : Begins (quote s) :=
  ⟨'"', _, rfl, rfl, by decide, by decide⟩

/-- A reader that reads a document back, whatever may follow it. -/
def ReadsBack (item : List Char → Option (Json × List Char)) (j : Json) : Prop :=
  ∀ rest, Ends rest → item (chars j ++ rest) = some (j, rest)

/-- **Numbers that come back** if they are worth so much. -/
structure ComesBack (worth : Numeral) (j : Json) : Prop where
  begins : ∃ c cs, chars j = c :: cs ∧ (c.isDigit = true ∨ c = '-')
  readsBack : ReadsBack (number? worth) j

/-- Integers do, if they are worth themselves. -/
theorem comesBack_int {x : Int} (hx : worth (decide (x < 0)) (Nat.toDigits 10 x.natAbs)
      none none = some (.int x)) : ComesBack worth (.int x) where
  begins := by
    rw [chars]
    exact toList_toString_eq_cons x
  readsBack := fun rest hrest => by
    rw [chars]
    exact number?_toString hx hrest

theorem comesBack_word (hj : IsWord j) : ComesBack numberOf? j := by
  cases j with
  | int x => exact comesBack_int (numberOf?_word hj.1 hj.2)
  | _ => exact hj.elim

theorem Readable.begins (h : Readable sort depth j) (hsort : ∀ j, sort j → ComesBack worth j) :
    Begins (chars j) := by
  cases h with
  | null => exact ⟨'n', _, rfl, rfl, by decide, by decide⟩
  | bool b =>
    cases b with
    | true => exact ⟨'t', _, rfl, rfl, by decide, by decide⟩
    | false => exact ⟨'f', _, rfl, rfl, by decide, by decide⟩
  | number hj =>
    obtain ⟨c, cs, hchars, hc⟩ := (hsort _ hj).begins
    rw [hchars]
    exact begins_of_number hc cs
  | string s => rw [chars]; exact begins_quote s
  | array _ => exact ⟨'[', _, by rw [chars]; rfl, rfl, by decide, by decide⟩
  | object _ => exact ⟨'\x7b', _, by rw [chars]; rfl, rfl, by decide, by decide⟩

/-- The items of an array begin like the first of them. -/
theorem begins_itemChars (h : Begins (chars j)) (items : List Json) :
    Begins (itemChars (j :: items)) := by
  cases items with
  | nil => rwa [itemChars]
  | cons next items =>
    rw [itemChars]
    exact h.append _

/-- The members of an object begin with a key. -/
theorem begins_memberChars (m : String × Json) (members : List (String × Json)) :
    Begins (memberChars (m :: members)) := by
  cases members with
  | nil =>
    rw [memberChars]
    exact (begins_quote m.1).append _
  | cons next members =>
    rw [memberChars]
    exact (begins_quote m.1).append _

/-! ### What is inside arrays and objects -/

/-- There are no more items than characters: every item but the last has a comma, and
the last has the character behind it. -/
theorem length_le_itemChars (c : Char) (rest : List Char) :
    ∀ items : List Json, items.length ≤ (itemChars items ++ c :: rest).length
  | [] => Nat.zero_le _
  | [_] => by
    simp only [List.length_append, List.length_cons, List.length_nil]
    omega
  | item :: next :: items => by
    have ih := length_le_itemChars c rest (next :: items)
    simp only [itemChars, List.length_append, List.length_cons] at ih ⊢
    omega

/-- There are no more members than characters, for the same reason. -/
theorem length_le_memberChars (c : Char) (rest : List Char) :
    ∀ members : List (String × Json), members.length ≤ (memberChars members ++ c :: rest).length
  | [] => Nat.zero_le _
  | [_] => by
    simp only [List.length_append, List.length_cons, List.length_nil]
    omega
  | (key, item) :: next :: members => by
    have ih := length_le_memberChars c rest (next :: members)
    simp only [memberChars, List.length_append, List.length_cons] at ih ⊢
    omega

/-- **The items of an array**, up to its closing bracket. -/
theorem items?_itemChars {items : List Json} (hne : items ≠ [])
    (hitem : ∀ j ∈ items, ReadsBack item j) (hfuel : items.length ≤ fuel) (rest : List Char) :
    items? item fuel (itemChars items ++ ']' :: rest) = some (items, rest) := by
  induction items generalizing fuel with
  | nil => exact absurd rfl hne
  | cons j items ih =>
    obtain ⟨k, rfl⟩ := Nat.exists_eq_add_of_lt hfuel
    have hj := hitem j List.mem_cons_self
    cases items with
    | nil =>
      rw [itemChars, items?, hj _ (ends_bracket rest)]
      rfl
    | cons next items =>
      have hnext := ih (List.cons_ne_nil _ _) (fun j hj => hitem j (List.mem_cons_of_mem _ hj))
        (Nat.le_add_right _ k)
      rw [itemChars, List.append_assoc, List.cons_append, items?, hj _ (ends_comma _)]
      simp only [skip_cons (c := ',') rfl, hnext, Option.map_some]

/-- A key and its document. -/
theorem member?_quote {key : String} (hj : ReadsBack item j) (hrest : Ends rest) :
    member? item (quote key ++ ':' :: (chars j ++ rest)) = some ((key, j), rest) := by
  have hquote : quote key ++ ':' :: (chars j ++ rest) =
      '"' :: (Text.escapeList key.toList ++ '"' :: ':' :: (chars j ++ rest)) := by
    simp only [quote, List.cons_append, List.append_assoc, List.nil_append]
  simp only [member?, hquote, skip_cons (c := '"') rfl, Text.unescapeUntilQuote_escapeList,
    skip_cons (c := ':') rfl, hj rest hrest, Option.map_some, String.ofList_toList]

/-- **The members of an object**, up to its closing brace. -/
theorem members?_memberChars {members : List (String × Json)} (hne : members ≠ [])
    (hitem : ∀ m ∈ members, ReadsBack item m.2) (hfuel : members.length ≤ fuel)
    (rest : List Char) :
    members? item fuel (memberChars members ++ '\x7d' :: rest) = some (members, rest) := by
  induction members generalizing fuel with
  | nil => exact absurd rfl hne
  | cons m members ih =>
    obtain ⟨key, j⟩ := m
    obtain ⟨k, rfl⟩ := Nat.exists_eq_add_of_lt hfuel
    have hj := hitem (key, j) List.mem_cons_self
    cases members with
    | nil =>
      rw [memberChars, List.append_assoc, List.cons_append, members?,
        member?_quote hj (ends_brace rest)]
      rfl
    | cons next members =>
      have hnext := ih (List.cons_ne_nil _ _) (fun m hm => hitem m (List.mem_cons_of_mem _ hm))
        (Nat.le_add_right _ k)
      rw [memberChars, List.append_assoc, List.cons_append, List.append_assoc, List.cons_append,
        members?, member?_quote hj (ends_comma _)]
      simp only [skip_cons (c := ',') rfl, hnext, Option.map_some]

/-! ### Documents -/

/-- A number is what is left when nothing else begins as the text does. -/
theorem value?_number {c : Char} (hc : c.isDigit = true ∨ c = '-') (cs : List Char) :
    value? worth (depth + 1) (c :: cs) = number? worth (c :: cs) := by
  rw [value?, (begins_of_number hc cs).skip_eq]
  split
  -- six other beginnings, none of them a digit or a sign
  iterate 6
    · rename_i heq
      exact absurd (List.cons.inj heq).1 (ne_of_number hc rfl (by decide))
  · rfl

theorem value?_array {cs : List Char} (h : Begins cs) :
    value? worth (depth + 2) ('[' :: cs) =
      (items? (value? worth (depth + 1)) cs.length cs).map fun (js, rest) => (.array js, rest) := by
  have hskip := h.skip_eq
  obtain ⟨c, tail, rfl, -, hc, -⟩ := h
  rw [value?, skip_cons (c := '[') rfl]
  simp only [Nat.add_one_ne_zero, if_false, hskip]
  split
  · rename_i heq
    exact absurd (List.cons.inj heq).1 hc
  · rfl

theorem value?_object {cs : List Char} (h : Begins cs) :
    value? worth (depth + 2) ('\x7b' :: cs) =
      (members? (value? worth (depth + 1)) cs.length cs).map
        fun (ms, rest) => (.object ms, rest) := by
  have hskip := h.skip_eq
  obtain ⟨c, tail, rfl, -, -, hc⟩ := h
  rw [value?, skip_cons (c := '\x7b') rfl]
  simp only [Nat.add_one_ne_zero, if_false, hskip]
  split
  · rename_i heq
    exact absurd (List.cons.inj heq).1 hc
  · rfl

/-- **Any readable document**, whatever may follow it. By induction on what makes it
readable. -/
theorem value?_chars (hsort : ∀ j, sort j → ComesBack worth j) (h : Readable sort depth j) :
    ReadsBack (value? worth depth) j := by
  intro rest hrest
  -- what follows an item is a comma or the bracket, so the leftover is not fixed
  induction h generalizing rest with
  | null => rfl
  | bool b => cases b <;> rfl
  | number hj =>
    obtain ⟨⟨c, cs, hchars, hc⟩, hreads⟩ := hsort _ hj
    have hnumber := hreads rest hrest
    rw [hchars, List.cons_append] at hnumber ⊢
    rw [value?_number hc, hnumber]
  | @string depth s =>
    simp only [chars, quote, List.cons_append, List.append_assoc, List.nil_append, value?,
      skip_cons (c := '"') rfl, Text.unescapeUntilQuote_escapeList, Option.map_some,
      String.ofList_toList]
  | @array depth items hitems ih =>
    rw [chars, List.append_assoc, List.cons_append, List.singleton_append]
    cases items with
    | nil => rfl
    | cons first items =>
      have hbegins := begins_itemChars ((hitems first List.mem_cons_self).begins hsort) items
      rw [value?_array (hbegins.append _),
        items?_itemChars (List.cons_ne_nil _ _) ih (length_le_itemChars _ _ _)]
      rfl
  | @object depth members hmembers ih =>
    rw [chars, List.append_assoc, List.cons_append, List.singleton_append]
    cases members with
    | nil => rfl
    | cons first members =>
      rw [value?_object ((begins_memberChars first members).append _),
        members?_memberChars (List.cons_ne_nil _ _) ih (length_le_memberChars _ _ _)]
      rfl

/-- **A readable document is read back from its text.** -/
theorem readBy?_render (hsort : ∀ j, sort j → ComesBack worth j)
    (h : Readable sort maxDepth j) : readBy? worth j.render = some j := by
  have hread := value?_chars hsort h [] ends_nil
  rw [List.append_nil] at hread
  rw [readBy?, render, String.toList_ofList, hread]
  rfl

theorem read?_render (h : Readable IsWord maxDepth j) : read? j.render = some j :=
  readBy?_render (fun _ => comesBack_word) h

end FlightRecorder.Json
