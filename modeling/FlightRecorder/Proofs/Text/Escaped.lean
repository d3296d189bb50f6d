import Mathlib.Data.List.Basic
import FlightRecorder.Text.Escaped

/-!
# Escaped text reads back

The escaped form of a text has no quote in it that is not preceded by a backslash, and
no backslash that does not begin an escape, so a reader of it finds the end of the
text where it is and nothing else on the way.

* `FlightRecorder.Text.unescapeUntilQuote_escapeChar` – one character;
* `FlightRecorder.Text.unescapeUntilQuote_escapeList` – **any text**, up to its closing
  quote, with what follows it (`FlightRecorder.Text.escapeList_injective`).
-/

namespace FlightRecorder.Text

/-- Four hexadecimal digits of a control character stand for its number. -/
theorem hexQuad?_fourHex : ∀ n < 0x20,
    hexQuad? (n / 4096 % 16).digitChar (n / 256 % 16).digitChar (n / 16 % 16).digitChar
      (n % 16).digitChar = some n := by
  decide

/-- **One character** comes back from its escaped form. -/
theorem unescapeUntilQuote_escapeChar (c : Char) (rest : List Char) :
    unescapeUntilQuote (escapeChar c ++ rest) =
      (unescapeUntilQuote rest).map fun (cs, left) => (c :: cs, left) := by
  rw [escapeChar]
  split_ifs with hquote hbackslash h h h h h hcontrol
  -- the escapes of one letter
  iterate 7
    · subst_vars
      rfl
  · -- a control character by its number, which is no half of a pair
    have hnumber := hexQuad?_fourHex c.toNat hcontrol
    have hlow : ¬(0xd800 ≤ c.toNat ∧ c.toNat < 0xdc00) := by omega
    have hhigh : ¬(0xdc00 ≤ c.toNat ∧ c.toNat < 0xe000) := by omega
    simp only [fourHex, List.map_cons, List.map_nil, List.cons_append, List.nil_append,
      unescapeUntilQuote, hnumber, if_neg hlow, if_neg hhigh, Char.ofNat_toNat]
  · have hplain : ¬(c.toNat < 0x20 ∨ c = '\\') := by
      rintro (hlt | heq)
      · exact hcontrol hlt
      · exact hbackslash heq
    rw [List.singleton_append, unescapeUntilQuote, if_neg hplain]
    · exact hquote
    · exact fun _ _ _ _ _ heq => absurd heq hbackslash
    · exact fun _ _ heq => absurd heq hbackslash

/-- **Any text** comes back from its escaped form, and what follows the closing quote is
left. -/
theorem unescapeUntilQuote_escapeList (cs rest : List Char) :
    unescapeUntilQuote (escapeList cs ++ '"' :: rest) = some (cs, rest) := by
  induction cs with
  | nil => rfl
  | cons c cs ih =>
    rw [escapeList, List.flatMap_cons, List.append_assoc, unescapeUntilQuote_escapeChar]
    rw [escapeList] at ih
    rw [ih, Option.map_some]

/-- So different texts have different escaped forms. -/
theorem escapeList_injective : Function.Injective escapeList := by
  intro cs cs' heq
  have hread := unescapeUntilQuote_escapeList cs []
  rw [heq, unescapeUntilQuote_escapeList] at hread
  exact (Prod.ext_iff.mp (Option.some.inj hread)).1.symm

end FlightRecorder.Text
