import Mathlib.Algebra.Ring.Nat
import Mathlib.Data.List.Basic
import FlightRecorder.Text.Digits

/-!
# Digits and the numbers they stand for

* `FlightRecorder.Text.digitsValue_toDigits` – the digits of a number stand for it
  (`FlightRecorder.Text.toString_injective`);
* `FlightRecorder.Text.digitsValue_replicate_append`,
  `FlightRecorder.Text.digitsValue_append_replicate` – zeros in front of digits do
  not matter, and zeros behind them do;
* `FlightRecorder.Text.head?_toDigits` – no number but zero is written with one.
-/

namespace FlightRecorder.Text

theorem digitsValue_eq_ofDigitChars (cs : List Char) :
    digitsValue cs = Nat.ofDigitChars 10 cs 0 := by
  simp only [digitsValue, Nat.ofDigitChars, Nat.mul_comm]

/-- **The digits of a number stand for it.** -/
theorem digitsValue_toDigits (n : Nat) : digitsValue (Nat.toDigits 10 n) = n := by
  rw [digitsValue_eq_ofDigitChars, Nat.ofDigitChars_ten_toDigits]

/-- So different numbers are written differently. -/
theorem toString_injective : Function.Injective (toString : Nat → String) := by
  intro m n heq
  have hdigits : Nat.toDigits 10 m = Nat.toDigits 10 n := by
    rw [← Nat.toList_repr, ← Nat.toList_repr]
    exact congrArg String.toList heq
  rw [← digitsValue_toDigits m, hdigits, digitsValue_toDigits]

/-- A number is written with at least one digit. -/
theorem toDigits_eq_cons (n : Nat) :
    ∃ d ds, Nat.toDigits 10 n = d :: ds ∧ d.isDigit = true := by
  cases hn : Nat.toDigits 10 n with
  | nil => exact absurd hn Nat.toDigits_ne_nil
  | cons d ds =>
    have hmem : d ∈ Nat.toDigits 10 n := hn ▸ List.mem_cons_self
    exact ⟨d, ds, rfl, Nat.isDigit_of_mem_toDigits (by decide) (by decide) hmem⟩

/-- Zeros in front do not matter. -/
theorem digitsValue_replicate_append (k : Nat) (cs : List Char) :
    digitsValue (List.replicate k '0' ++ cs) = digitsValue cs := by
  induction k with
  | zero => rfl
  | succ k ih => exact ih

/-- Each zero behind digits counts ten times. -/
theorem digitsValue_append_replicate (cs : List Char) (k : Nat) :
    digitsValue (cs ++ List.replicate k '0') = digitsValue cs * 10 ^ k := by
  induction k with
  | zero => simp
  | succ k ih =>
    rw [List.replicate_succ', ← List.append_assoc, digitsValue, List.foldl_append,
      ← digitsValue, ih, Nat.pow_succ, ← Nat.mul_assoc]
    rfl

/-- **No zero in front**: the digits of a number begin with another one, unless it is
zero. By induction on the number without its last digit. -/
theorem head?_toDigits {n : Nat} (h : (Nat.toDigits 10 n).head? = some '0') : n = 0 := by
  induction n using Nat.strongRecOn with
  | ind n ih =>
    rcases Nat.lt_or_ge n 10 with hlt | hge
    · have hsmall : ∀ d < 10, d.digitChar = '0' → d = 0 := by decide
      rw [Nat.toDigits_of_lt_base hlt, List.head?_cons] at h
      exact hsmall n hlt (Option.some.inj h)
    · rw [Nat.toDigits_of_base_le (by decide) hge,
        List.head?_append_of_ne_nil _ Nat.toDigits_ne_nil] at h
      have hzero := ih (n / 10) (by omega) h
      omega

end FlightRecorder.Text
