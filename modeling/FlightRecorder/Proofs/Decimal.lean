import Mathlib.Tactic.Ring
import FlightRecorder.Decimal

/-!
# Decimals without zeros at their end

One number has many decimals, which differ in the zeros at the end of their digits. The
shortest decimal of a binary number is the one that has none, and from any other it is got
back by moving the zeros into the exponent.

* `FlightRecorder.Decimal.Canonical` – digits that do not end in a zero;
* `FlightRecorder.Decimal.canonical` – the same number with such digits
  (`FlightRecorder.Decimal.canonical_mul_pow`);
* `FlightRecorder.Decimal.canonical_shortest` – **the shortest decimal has such digits**.
-/

namespace FlightRecorder.Decimal

/-- **Decimals without zeros at their end.** Zero itself has no exponent. -/
structure Canonical (d : Decimal) : Prop where
  exponent_eq : d.digits = 0 → d.exponent = 0
  last_ne : d.digits ≠ 0 → d.digits % 10 ≠ 0

/-- The number with given digits and exponent, without zeros at its end. -/
def canonical (negative : Bool) (digits : Nat) (exponent : Int) : Decimal :=
  if digits = 0 then ⟨negative, 0, 0⟩
  else
    let (digits, exponent) := stripZeros (digitCount digits) digits exponent
    ⟨negative, digits, exponent⟩

variable {n k steps : Nat} {e : Int} {d : Decimal}

/-- A number has less than ten to the number of its digits. -/
theorem lt_pow_digitCount (n : Nat) : n < 10 ^ digitCount n :=
  (Nat.length_toDigits_le_iff (by decide) Nat.length_toDigits_pos).mp (Nat.le_refl _)

/-- All zeros are moved, however many steps more there might be. -/
theorem stripZeros_mul_pow (hn : n % 10 ≠ 0) (hk : k ≤ steps) (e : Int) :
    stripZeros steps (n * 10 ^ k) e = (n, e + k) := by
  induction steps generalizing k e with
  | zero =>
    obtain rfl : k = 0 := Nat.le_zero.mp hk
    simp [stripZeros]
  | succ steps ih =>
    rw [stripZeros]
    cases k with
    | zero => simp [hn]
    | succ k =>
      have hsplit : n * 10 ^ (k + 1) = n * 10 ^ k * 10 := by ring
      have hpos : n * 10 ^ k ≠ 0 :=
        Nat.mul_ne_zero (fun hzero => hn (by rw [hzero])) (Nat.pow_pos (by decide)).ne'
      rw [hsplit, if_pos ⟨by omega, Nat.mul_mod_left _ _⟩, Nat.mul_div_cancel _ (by decide),
        ih (Nat.le_of_succ_le_succ hk)]
      exact congrArg (n, ·) (by push_cast; ring)

/-- None is left behind. -/
theorem stripZeros_mod (hn : n ≠ 0) (hlt : n < 10 ^ steps) (e : Int) :
    (stripZeros steps n e).1 % 10 ≠ 0 := by
  induction steps generalizing n e with
  | zero => omega
  | succ steps ih =>
    rw [stripZeros]
    split_ifs with hlast
    · exact ih (by omega) (by rw [pow_succ] at hlt; omega) (e + 1)
    · exact fun hzero => hlast ⟨hn, hzero⟩

/-- **Zeros at the end do not matter.** -/
theorem canonical_mul_pow (hd : d.Canonical) (k : Nat) (he : e + k = d.exponent) :
    canonical d.negative (d.digits * 10 ^ k) e = d := by
  obtain ⟨negative, digits, exponent⟩ := d
  rw [canonical]
  split_ifs with hzero
  · have hdigits : digits = 0 :=
      (Nat.mul_eq_zero.mp hzero).resolve_right (Nat.pow_pos (by decide)).ne'
    have hexponent : exponent = 0 := hd.exponent_eq hdigits
    rw [hdigits, hexponent]
  · have hdigits : digits ≠ 0 := fun h => hzero (by simp [h])
    have hlast : digits % 10 ≠ 0 := hd.last_ne hdigits
    have hk : k ≤ digitCount (digits * 10 ^ k) := by
      have hlt := lt_pow_digitCount (digits * 10 ^ k)
      have hle : 10 ^ k ≤ digits * 10 ^ k := Nat.le_mul_of_pos_left _ (Nat.pos_of_ne_zero hdigits)
      exact ((Nat.pow_lt_pow_iff_right (a := 10) (by decide)).mp (hle.trans_lt hlt)).le
    dsimp only at he ⊢
    rw [stripZeros_mul_pow hlast hk, he]

/-! ### The shortest decimal -/

theorem candidate_ne_zero {tie : TieRule} {ends : Bool} {low num high den x : Nat} {k : Int}
    (h : candidate tie ends low num high den k = some x) : x ≠ 0 := by
  unfold candidate at h
  dsimp only at h
  split at h
  · cases h
  · rename_i hfloor _
    obtain rfl := Option.some.inj h
    simp only [Bool.and_eq_true, bne_iff_ne] at hfloor
    exact hfloor.2
  · obtain rfl := Option.some.inj h
    exact Nat.succ_ne_zero _
  · rename_i hfloor _
    simp only [Bool.and_eq_true, bne_iff_ne] at hfloor
    have hne := hfloor.2
    split at h
    · obtain rfl := Option.some.inj h
      exact hne
    · split at h
      · obtain rfl := Option.some.inj h
        exact Nat.succ_ne_zero _
      · -- in the middle
        cases tie with
        | away =>
          obtain rfl := Option.some.inj h
          exact Nat.succ_ne_zero _
        | even =>
          obtain rfl := Option.some.inj h
          split_ifs
          · exact hne
          · exact Nat.succ_ne_zero _

theorem search_ne_zero {tie : TieRule} {ends : Bool} {low num high den : Nat} (hnum : num ≠ 0)
    (steps : Nat) (k : Int) : (search tie ends low num high den steps k).1 ≠ 0 := by
  induction steps generalizing k with
  | zero => exact hnum
  | succ steps ih =>
    rw [search]
    cases hcandidate : candidate tie ends low num high den k with
    | none => exact ih (k - 1)
    | some x => exact candidate_ne_zero hcandidate

/-- **The shortest decimal has no zeros at its end.** -/
theorem canonical_shortest (tie : TieRule) (negative : Bool) (significand : Nat) (exponent : Int)
    (narrowBelow : Bool) : (shortest tie negative significand exponent narrowBelow).Canonical := by
  rw [shortest]
  by_cases hzero : significand = 0
  · rw [if_pos hzero]
    exact ⟨fun _ => rfl, fun h => absurd rfl h⟩
  · rw [if_neg hzero]
    dsimp only
    generalize hfound : search _ _ _ _ _ _ _ _ = found
    have hne : found.1 ≠ 0 := by
      rw [← hfound]
      refine search_ne_zero ?_ _ _
      have hpow : 0 < Nat.pow 2 exponent.toNat := Nat.pow_pos Nat.zero_lt_two
      exact Nat.mul_ne_zero (Nat.mul_ne_zero (by decide) hzero) hpow.ne'
    have hlast := stripZeros_mod hne (lt_pow_digitCount found.1) found.2
    refine ⟨fun hdigits => absurd ?_ hlast, fun _ => hlast⟩
    dsimp only at hdigits
    rw [hdigits]

end FlightRecorder.Decimal
