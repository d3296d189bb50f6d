import FlightRecorder.Proofs.Decimal
import FlightRecorder.Proofs.Json

/-!
# Documents read back with all their numbers

The text of a floating-point number is a decimal, and the decimal is all that a reader can
get from it. A reader that keeps decimals as they are, and integers of any size, gets back
every document whose decimals have no zeros at their end, as those have that are written
for floating-point numbers.

* `FlightRecorder.Json.exactOf?`, `FlightRecorder.Json.readExact?` – the reader;
* `FlightRecorder.Json.IsExact` – the numbers that come back, among them all that stand
  for floating-point numbers (`FlightRecorder.Json.readable_ofBits`);
* `FlightRecorder.Json.readExact?_render` – **any document with such numbers**.
-/

namespace FlightRecorder.Json

/-- Numbers are worth what is written. -/
def exactOf? : Numeral := fun negative whole fraction exponent =>
  if fraction.isNone ∧ exponent.isNone then
    let n : Int := Text.digitsValue whole
    some (.int (if negative then -n else n))
  else
    let fraction := fraction.getD []
    some (.real (.canonical negative (Text.digitsValue (whole ++ fraction))
      (exponent.getD 0 - fraction.length)))

/-- **The document** that a whole text stands for, with its numbers as they are written. -/
def readExact? (s : String) : Option Json :=
  readBy? exactOf? s

/-- Integers, and decimals without zeros at their end. -/
def IsExact : Json → Prop
  | .int _ => True
  | .real d => d.Canonical
  | _ => False

variable {d : Decimal} {rest tail : List Char}

/-! ### Parts of a number -/

/-- The sign of a number. -/
def sign (negative : Bool) : List Char :=
  if negative then ['-'] else []

/-- A point and digits are read as a fraction. -/
theorem fraction?_point {digits : List Char} (hdigits : ∀ c ∈ digits, c.isDigit = true)
    (hne : digits ≠ []) (hrest : NoDigit rest) :
    fraction? ('.' :: (digits ++ rest)) = some (some digits, rest) := by
  obtain ⟨htake, hdrop⟩ := span_digits hdigits hrest
  rw [fraction?, htake, hdrop, if_neg]
  rwa [List.isEmpty_iff]

theorem noDigit_point (cs : List Char) : NoDigit ('.' :: cs) := by
  rintro c ⟨⟩
  rfl

/-- The letter of an exponent is no digit, and no point. -/
theorem noDigit_e (cs : List Char) : NoDigit ('e' :: cs) := by
  rintro c ⟨⟩
  rfl

/-- An exponent of which a sign is written in any case. -/
def exponentChars (e : Int) : List Char :=
  'e' :: ((if 0 ≤ e then ['+'] else []) ++ (toString e).toList)

theorem exponent?_chars (e : Int) (hrest : Ends rest) :
    exponent? (exponentChars e ++ rest) = some (some e, rest) := by
  have hread (n : Nat) : (Nat.toDigits 10 n ++ rest).takeWhile Char.isDigit = Nat.toDigits 10 n ∧
      (Nat.toDigits 10 n ++ rest).dropWhile Char.isDigit = rest :=
    span_digits (whole_toDigits n).isDigit hrest.noDigit
  have hempty (n : Nat) : (Nat.toDigits 10 n).isEmpty = false :=
    List.isEmpty_eq_false_iff.mpr Nat.toDigits_ne_nil
  cases e with
  | ofNat n =>
    have hpos : (0 : Int) ≤ Int.ofNat n := Int.natCast_nonneg n
    rw [exponentChars, if_pos hpos, toList_toString_ofNat]
    simp only [List.cons_append, List.nil_append, exponent?, true_or, if_true, (hread n).1,
      (hread n).2, hempty n, Bool.false_eq_true, if_false, Text.digitsValue_toDigits]
    rfl
  | negSucc m =>
    have hneg : ¬ (0 : Int) ≤ Int.negSucc m := Int.not_le.mpr (Int.negSucc_lt_zero m)
    rw [exponentChars, if_neg hneg, toList_toString_negSucc]
    simp only [List.cons_append, List.nil_append, exponent?, true_or, if_true, (hread (m + 1)).1,
      (hread (m + 1)).2, hempty (m + 1), Bool.false_eq_true, if_false, Text.digitsValue_toDigits]
    rfl

/-! ### Decimals with a point -/

/-- The digits before the point of a decimal and those behind it, of which there is one at
least. -/
def pointed (d : Decimal) : List Char × List Char :=
  let (whole, fraction) := Notation.place (Nat.toDigits 10 d.digits) (d.magnitude + 1)
  (whole, if d.digits = 0 ∨ fraction = [] then ['0'] else fraction)

theorem toList_renderDecimal_of_pointed (hlow : -5 ≤ d.magnitude) (hhigh : d.magnitude ≤ 15) :
    (documentNotation.renderDecimal d).toList =
      sign d.negative ++ ((pointed d).1 ++ '.' :: (pointed d).2) := by
  have hpositional : (decide (-5 ≤ d.magnitude) && decide (d.magnitude ≤ 15)) = true := by
    rw [decide_eq_true hlow, decide_eq_true hhigh]
    rfl
  simp only [Notation.renderDecimal, documentNotation, hpositional, if_true, pointed]
  obtain ⟨whole, fraction⟩ := Notation.place (Nat.toDigits 10 d.digits) (d.magnitude + 1)
  by_cases hzero : d.digits = 0
  · simp [hzero, sign, apply_ite String.toList]
  · cases fraction with
    | nil => simp [hzero, sign, apply_ite String.toList]
    | cons c cs => simp [hzero, sign, apply_ite String.toList]

theorem isDigit_of_mem_replicate {k : Nat} : ∀ c ∈ List.replicate k '0', c.isDigit = true := by
  intro c hc
  rw [(List.mem_replicate.mp hc).2]
  rfl

/-- What is read from digits on either side of a point is the decimal. -/
structure Reads (d : Decimal) (whole fraction : List Char) : Prop where
  leading : Whole whole
  isDigit : ∀ c ∈ fraction, c.isDigit = true
  ne_nil : fraction ≠ []
  canonical_eq : Decimal.canonical d.negative (Text.digitsValue (whole ++ fraction))
    (0 - fraction.length) = d

section Reads

variable {k n : Nat} (hd : d.Canonical)

include hd

/-- The leading digit stands at the place of the magnitude. -/
theorem magnitude_add_one : d.magnitude + 1 = d.exponent + (Nat.toDigits 10 d.digits).length := by
  rw [Decimal.magnitude]
  split_ifs with hzero
  · rw [hd.exponent_eq hzero, hzero]
    rfl
  · rw [Decimal.digitCount, Int.sub_add_cancel]

/-- A decimal below one has zeros behind the point. -/
theorem reads_below (hk : d.exponent + (Nat.toDigits 10 d.digits).length = -k) :
    Reads d ['0'] (List.replicate k '0' ++ Nat.toDigits 10 d.digits) where
  leading := ⟨List.forall_mem_singleton.mpr rfl, List.cons_ne_nil _ _, fun _ => rfl⟩
  isDigit := List.forall_mem_append.mpr ⟨isDigit_of_mem_replicate, (whole_toDigits _).isDigit⟩
  ne_nil := by simp [Nat.toDigits_ne_nil]
  canonical_eq := by
    have hvalue : Text.digitsValue
        (['0'] ++ (List.replicate k '0' ++ Nat.toDigits 10 d.digits)) = d.digits * 10 ^ 0 := by
      rw [← List.append_assoc, List.singleton_append, ← List.replicate_succ,
        Text.digitsValue_replicate_append, Text.digitsValue_toDigits, Nat.pow_zero, Nat.mul_one]
    rw [hvalue]
    refine Decimal.canonical_mul_pow hd 0 ?_
    rw [List.length_append, List.length_replicate]
    omega

/-- A decimal without a fraction has zeros before the point, and one behind it. -/
theorem reads_integer (hn : d.exponent + (Nat.toDigits 10 d.digits).length = n)
    (hle : (Nat.toDigits 10 d.digits).length ≤ n) :
    Reads d (Nat.toDigits 10 d.digits ++
      List.replicate (n - (Nat.toDigits 10 d.digits).length) '0') ['0'] where
  leading := by
    refine ⟨List.forall_mem_append.mpr ⟨(whole_toDigits _).isDigit, isDigit_of_mem_replicate⟩,
      by simp [Nat.toDigits_ne_nil], fun hhead => ?_⟩
    rw [List.head?_append_of_ne_nil _ Nat.toDigits_ne_nil] at hhead
    have hzero := Text.head?_toDigits hhead
    have hone : (Nat.toDigits 10 d.digits).length = 1 := by
      rw [hzero]
      rfl
    have hexponent := hd.exponent_eq hzero
    rw [List.length_append, List.length_replicate]
    omega
  isDigit := List.forall_mem_singleton.mpr rfl
  ne_nil := List.cons_ne_nil _ _
  canonical_eq := by
    rw [List.append_assoc, ← List.replicate_succ', Text.digitsValue_append_replicate,
      Text.digitsValue_toDigits]
    refine Decimal.canonical_mul_pow hd _ ?_
    rw [List.length_singleton]
    omega

/-- Any other has its point between its digits. -/
theorem reads_between (hn : d.exponent + (Nat.toDigits 10 d.digits).length = n) (hpos : 0 < n)
    (hlt : n < (Nat.toDigits 10 d.digits).length) :
    Reads d ((Nat.toDigits 10 d.digits).take n) ((Nat.toDigits 10 d.digits).drop n) where
  leading := by
    refine ⟨fun c hc => (whole_toDigits _).isDigit c (List.mem_of_mem_take hc), ?_, fun hhead => ?_⟩
    · rw [← List.length_pos_iff, List.length_take]
      omega
    · rw [List.head?_take, if_neg hpos.ne'] at hhead
      rw [List.length_take, Text.head?_toDigits hhead]
      have hone : (Nat.toDigits 10 0).length = 1 := rfl
      omega
  isDigit := fun c hc => (whole_toDigits _).isDigit c (List.mem_of_mem_drop hc)
  ne_nil := by
    rw [← List.length_pos_iff, List.length_drop]
    omega
  canonical_eq := by
    have hvalue : Text.digitsValue ((Nat.toDigits 10 d.digits).take n ++
        (Nat.toDigits 10 d.digits).drop n) = d.digits * 10 ^ 0 := by
      rw [List.take_append_drop, Text.digitsValue_toDigits, Nat.pow_zero, Nat.mul_one]
    rw [hvalue]
    refine Decimal.canonical_mul_pow hd 0 ?_
    rw [List.length_drop]
    omega

/-- **The digits on either side of the point** are read as the decimal. -/
theorem reads_pointed : Reads d (pointed d).1 (pointed d).2 := by
  have hmagnitude := magnitude_add_one hd
  by_cases hbelow : d.exponent + (Nat.toDigits 10 d.digits).length ≤ 0
  · have hdigits : d.digits ≠ 0 := by
      intro hzero
      rw [hd.exponent_eq hzero] at hbelow
      have := Nat.length_toDigits_pos (b := 10) (n := d.digits)
      omega
    have hparts : pointed d = (['0'], List.replicate
        (-(d.exponent + (Nat.toDigits 10 d.digits).length)).toNat '0' ++
          Nat.toDigits 10 d.digits) := by
      simp [pointed, Notation.place, hmagnitude, hbelow, hdigits, Nat.toDigits_ne_nil]
    rw [hparts]
    exact reads_below hd (by omega)
  · obtain ⟨n, hn⟩ := Int.eq_ofNat_of_zero_le (Int.le_of_lt (Int.not_le.mp hbelow))
    have hplace : Notation.place (Nat.toDigits 10 d.digits) (d.magnitude + 1) =
        ((Nat.toDigits 10 d.digits).take n ++
          List.replicate (n - (Nat.toDigits 10 d.digits).length) '0',
          (Nat.toDigits 10 d.digits).drop n) := by
      rw [Notation.place, hmagnitude, if_neg hbelow, hn, Int.toNat_natCast]
    rcases Nat.lt_or_ge n (Nat.toDigits 10 d.digits).length with hlt | hle
    · have hdigits : d.digits ≠ 0 := by
        intro hzero
        have hone : (Nat.toDigits 10 d.digits).length = 1 := by
          rw [hzero]
          rfl
        omega
      have hdrop : (Nat.toDigits 10 d.digits).drop n ≠ [] := by
        rw [← List.length_pos_iff, List.length_drop]
        omega
      have hparts : pointed d =
          ((Nat.toDigits 10 d.digits).take n, (Nat.toDigits 10 d.digits).drop n) := by
        simp only [pointed, hplace, Nat.sub_eq_zero_of_le hlt.le, List.replicate_zero,
          List.append_nil, hdigits, hdrop, or_self, if_false]
      rw [hparts]
      exact reads_between hd hn (by omega) hlt
    · have hparts : pointed d = (Nat.toDigits 10 d.digits ++
          List.replicate (n - (Nat.toDigits 10 d.digits).length) '0', ['0']) := by
        simp only [pointed, hplace, List.take_of_length_le hle, List.drop_of_length_le hle,
          or_true, if_true]
      rw [hparts]
      exact reads_integer hd hn hle

end Reads

/-! ### Decimals with an exponent -/

theorem toList_renderDecimal_of_exponent (h : ¬ (-5 ≤ d.magnitude ∧ d.magnitude ≤ 15)) :
    (documentNotation.renderDecimal d).toList =
      sign d.negative ++ ((Nat.toDigits 10 d.digits).take 1 ++
        ((if (Nat.toDigits 10 d.digits).drop 1 = [] then []
          else '.' :: (Nat.toDigits 10 d.digits).drop 1) ++ exponentChars d.magnitude)) := by
  have hpositional : (decide (-5 ≤ d.magnitude) && decide (d.magnitude ≤ 15)) = false := by
    rw [← Bool.not_eq_true, Bool.and_eq_true, decide_eq_true_eq, decide_eq_true_eq]
    exact h
  simp only [Notation.renderDecimal, documentNotation, hpositional, Bool.false_eq_true, if_false,
    exponentChars, sign]
  cases (Nat.toDigits 10 d.digits).drop 1 with
  | nil =>  by_cases he : 0 ≤ d.magnitude <;> simp [he, apply_ite String.toList]
  | cons c cs => by_cases he : 0 ≤ d.magnitude <;> simp [he, apply_ite String.toList]

/-- The parts of a decimal with an exponent, and what is read from them. -/
theorem reads_exponent (hd : d.Canonical) :
    Whole ((Nat.toDigits 10 d.digits).take 1) ∧
      Decimal.canonical d.negative
        (Text.digitsValue ((Nat.toDigits 10 d.digits).take 1 ++ (Nat.toDigits 10 d.digits).drop 1))
        (d.magnitude - ((Nat.toDigits 10 d.digits).drop 1).length) = d := by
  have hmagnitude := magnitude_add_one hd
  have hpos := Nat.length_toDigits_pos (b := 10) (n := d.digits)
  refine ⟨⟨fun c hc => (whole_toDigits _).isDigit c (List.mem_of_mem_take hc), ?_, fun _ => ?_⟩, ?_⟩
  · rw [← List.length_pos_iff, List.length_take]
    omega
  · rw [List.length_take]
    omega
  · have hvalue : Text.digitsValue ((Nat.toDigits 10 d.digits).take 1 ++
        (Nat.toDigits 10 d.digits).drop 1) = d.digits * 10 ^ 0 := by
      rw [List.take_append_drop, Text.digitsValue_toDigits, Nat.pow_zero, Nat.mul_one]
    rw [hvalue]
    refine Decimal.canonical_mul_pow hd 0 ?_
    rw [List.length_drop]
    omega

/-- **Decimals come back.** -/
theorem number?_real (hd : d.Canonical) (hrest : Ends rest) :
    number? exactOf? ((documentNotation.renderDecimal d).toList ++ rest) =
      some (.real d, rest) := by
  by_cases hpointed : -5 ≤ d.magnitude ∧ d.magnitude ≤ 15
  · have hreads := reads_pointed hd
    have hfraction := fraction?_point hreads.isDigit hreads.ne_nil hrest.noDigit
    rw [toList_renderDecimal_of_pointed hpointed.1 hpointed.2, List.append_assoc,
      List.append_assoc, List.cons_append]
    refine (number?_parts d.negative hreads.leading (noDigit_point _) hfraction
      (exponent?_of_ends hrest)).trans ?_
    simp only [exactOf?, Option.isNone_some, Bool.false_eq_true, false_and, if_false,
      Option.getD_some, Option.getD_none, hreads.canonical_eq, Option.map_some]
  · obtain ⟨hwhole, hvalue⟩ := reads_exponent hd
    have hexponent := exponent?_chars d.magnitude hrest
    rw [toList_renderDecimal_of_exponent hpointed, List.append_assoc, List.append_assoc,
      List.append_assoc]
    cases hdrop : (Nat.toDigits 10 d.digits).drop 1 with
    | nil =>
      rw [hdrop] at hvalue
      rw [if_pos rfl, List.nil_append]
      refine (number?_parts d.negative hwhole (noDigit_e _) rfl hexponent).trans ?_
      simp only [exactOf?, Option.isNone_some, Bool.false_eq_true, and_false, if_false,
        Option.getD_some, Option.getD_none, hvalue, Option.map_some]
    | cons c cs =>
      have hdigits : ∀ x ∈ c :: cs, x.isDigit = true := fun x hx =>
        (whole_toDigits d.digits).isDigit x (List.mem_of_mem_drop (hdrop ▸ hx))
      have hfraction := fraction?_point hdigits (List.cons_ne_nil c cs)
        (noDigit_e (_ ++ rest) : NoDigit (exponentChars d.magnitude ++ rest))
      rw [hdrop] at hvalue
      rw [if_neg (List.cons_ne_nil c cs), List.cons_append]
      refine (number?_parts d.negative hwhole (noDigit_point _) hfraction hexponent).trans ?_
      simp only [exactOf?, Option.isNone_some, Bool.false_eq_true, false_and, if_false,
        Option.getD_some, hvalue, Option.map_some]

/-! ### Documents -/

/-- A decimal begins with its sign or a digit. -/
theorem toList_renderDecimal_eq_cons (hd : d.Canonical) :
    ∃ c cs, (documentNotation.renderDecimal d).toList = c :: cs ∧
      (c.isDigit = true ∨ c = '-') := by
  have hbegins {whole : List Char} (hwhole : Whole whole) (tail : List Char) :
      ∃ c cs, sign d.negative ++ (whole ++ tail) = c :: cs ∧ (c.isDigit = true ∨ c = '-') := by
    obtain ⟨c, cs, rfl⟩ := List.exists_cons_of_ne_nil hwhole.ne_nil
    cases d.negative with
    | true => exact ⟨'-', _, rfl, Or.inr rfl⟩
    | false => exact ⟨c, _, rfl, Or.inl (hwhole.isDigit c List.mem_cons_self)⟩
  by_cases hpointed : -5 ≤ d.magnitude ∧ d.magnitude ≤ 15
  · rw [toList_renderDecimal_of_pointed hpointed.1 hpointed.2]
    exact hbegins (reads_pointed hd).leading _
  · rw [toList_renderDecimal_of_exponent hpointed]
    exact hbegins (reads_exponent hd).1 _

/-- **Exact numbers come back.** -/
theorem comesBack_exact {j : Json} (hj : IsExact j) : ComesBack exactOf? j := by
  cases j with
  | int x =>
    refine comesBack_int ?_
    rw [exactOf?, if_pos ⟨rfl, rfl⟩, Text.digitsValue_toDigits]
    by_cases hneg : x < 0
    · rw [decide_eq_true hneg]
      exact congrArg (some ∘ Json.int) (by rw [if_pos rfl]; omega)
    · rw [decide_eq_false hneg]
      exact congrArg (some ∘ Json.int) (by rw [if_neg Bool.false_ne_true]; omega)
  | real d =>
    refine ⟨?_, fun rest hrest => ?_⟩
    · rw [chars]
      exact toList_renderDecimal_eq_cons hj
    · rw [chars]
      exact number?_real hj hrest
  | _ => exact hj.elim

/-- **A document with exact numbers is read back from its text.** -/
theorem readExact?_render {j : Json} (h : Readable IsExact maxDepth j) :
    readExact? j.render = some j :=
  readBy?_render (fun _ => comesBack_exact) h

/-- Integers of 64 bits are exact. -/
theorem IsWord.isExact {j : Json} (hj : IsWord j) : IsExact j := by
  cases j with
  | int x => exact trivial
  | _ => exact hj.elim

/-- **Floating-point numbers are written as exact numbers**, or as null. -/
theorem readable_ofBits {depth : Nat} (bits : UInt64) :
    Readable IsExact (depth + 1) (ofBits bits) := by
  rw [ofBits]
  split
  · exact .number (Decimal.canonical_shortest _ _ _ _ _)
  · exact .null

end FlightRecorder.Json
