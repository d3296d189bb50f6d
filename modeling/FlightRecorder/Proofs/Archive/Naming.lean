import FlightRecorder.Archive
import FlightRecorder.Proofs.Path
import FlightRecorder.Proofs.Text.Digits

/-!
# The names of artifacts

The numbered artifacts of a recorder stand beside its final one, and take stem and
extension from it, whatever its path looks like. What keeps them apart is the number
and nothing else: it can be read off the name, however many digits it has, and its
five digits or more make the name longer than what the path of the final trace ends
with.

* `FlightRecorder.NameSequence.fiveDigits_injective` – different numbers are written
  differently, beyond five digits too;
* `FlightRecorder.NameSequence.lastStretch_path` – a numbered path ends with its file
  name;
* `FlightRecorder.Archive.Distinct` – no two artifacts are written to paths with the
  same end (`FlightRecorder.Archive.distinct_new`).
-/

namespace FlightRecorder

namespace NameSequence

/-! ### Numbers in names -/

theorem toList_fiveDigits (n : Nat) :
    (fiveDigits n).toList =
      List.replicate (5 - (Nat.toDigits 10 n).length) '0' ++ Nat.toDigits 10 n := by
  rw [fiveDigits, String.toList_ofList]

/-- **A number can be read off its digits**, however many zeros are put in front. -/
theorem fiveDigits_injective : Function.Injective fiveDigits := by
  intro m n heq
  have hvalue : ∀ k, Text.digitsValue (fiveDigits k).toList = k := by
    intro k
    rw [toList_fiveDigits, Text.digitsValue_replicate_append, Text.digitsValue_toDigits]
  calc
    m = Text.digitsValue (fiveDigits m).toList := (hvalue m).symm
    _ = Text.digitsValue (fiveDigits n).toList := by rw [heq]
    _ = n := hvalue n

theorem five_le_length_fiveDigits (n : Nat) : 5 ≤ (fiveDigits n).toList.length := by
  rw [toList_fiveDigits, List.length_append, List.length_replicate]
  omega

theorem slash_not_mem_fiveDigits (n : Nat) : '/' ∉ (fiveDigits n).toList := by
  rw [toList_fiveDigits, List.mem_append, not_or]
  refine ⟨fun hmem => absurd (List.eq_of_mem_replicate hmem) (by decide), fun hmem => ?_⟩
  exact absurd (Nat.isDigit_of_mem_toDigits (by decide) (by decide) hmem) (by decide)

/-! ### Names in a directory -/

/-- The name with a number, without its directory. -/
def file (s : NameSequence) (number : UInt32) : String :=
  s.stem ++ fiveDigits number.toNat ++ s.tail

section Plain

variable {s : NameSequence} (hstem : '/' ∉ s.stem.toList) (htail : '/' ∉ s.tail.toList)

include hstem htail

/-- **A numbered path ends with its file name.** -/
theorem lastStretch_path (number : UInt32) :
    Path.lastStretch (s.path number).toList = (s.file number).toList := by
  refine Path.lastStretch_join s.dir ?_
  simp only [String.toList_append, List.mem_append, not_or]
  exact ⟨⟨hstem, slash_not_mem_fiveDigits _⟩, htail⟩

/-- Different numbers make different ends. -/
theorem eq_of_lastStretch_path_eq {m n : UInt32}
    (heq : Path.lastStretch (s.path m).toList = Path.lastStretch (s.path n).toList) : m = n := by
  rw [lastStretch_path hstem htail, lastStretch_path hstem htail, file, file, String.toList_append,
    String.toList_append, String.toList_append, String.toList_append] at heq
  have hdigits := List.append_cancel_left (List.append_cancel_right heq)
  exact UInt32.toNat.inj (fiveDigits_injective (String.toList_inj.mp hdigits))

theorem length_lastStretch_path (number : UInt32) :
    s.stem.toList.length + 5 + s.tail.toList.length ≤
      (Path.lastStretch (s.path number).toList).length := by
  have hfive := five_le_length_fiveDigits number.toNat
  rw [lastStretch_path hstem htail, file, String.toList_append, String.toList_append,
    List.length_append, List.length_append]
  omega

end Plain

end NameSequence

namespace Archive

/-! ### Stem and extension of the final trace -/

/-- What comes before and behind the numbers when nothing is compressed. The path the
two are taken from ends with something shorter than they are with a number between
them. -/
theorem stem_and_extension (path : String) :
    let stem := (Path.stem? path).getD "trace"
    let tail := match Path.extension? path with
      | some e => "." ++ e
      | none => ""
    '/' ∉ stem.toList ∧ '/' ∉ tail.toList ∧
      (Path.lastStretch path.toList).length < stem.toList.length + 5 + tail.toList.length := by
  rw [Path.stem?, Path.extension?]
  rcases Path.fileName?_cases path with ⟨hnone, hlength⟩ | ⟨name, hname, hslash, hlength⟩
  · rw [hnone]
    exact ⟨by decide, by decide, hlength.trans_lt (by decide)⟩
  · rw [hname, Option.map_some, Option.getD_some, Option.bind_some]
    cases hparts : Path.dotSplit? name.toList with
    | none =>
      -- without a dot in it, the name is the stem
      refine ⟨hslash, by decide, hlength.trans_lt ?_⟩
      exact (Nat.add_lt_add_left (by decide) _).trans_le (Nat.le_add_right _ _)
    | some parts =>
      obtain ⟨before, after⟩ := parts
      obtain ⟨hbefore, hafter, htotal⟩ := Path.dotSplit?_parts hparts
      dsimp only [Option.map_some]
      refine ⟨?_, ?_, ?_⟩
      · rw [String.toList_ofList]
        exact fun hmem => hslash (hbefore hmem)
      · simp only [String.toList_append, String.toList_ofList, List.mem_append, not_or]
        exact ⟨by decide, fun hmem => hslash (hafter hmem)⟩
      · have hdot : ".".toList.length = 1 := rfl
        simp only [String.toList_append, String.toList_ofList, List.length_append]
        omega

/-- **Distinct names**: paths of artifacts with the same end have the same number, and
the path of the final trace ends otherwise. -/
structure Distinct (a : Archive) : Prop where
  numbered : ∀ m n, Path.lastStretch (a.names.path m).toList =
    Path.lastStretch (a.names.path n).toList → m = n
  final : ∀ n, Path.lastStretch (a.names.path n).toList ≠ Path.lastStretch a.finalPath.toList

/-- Names are distinct if there is no slash in them and the path of the final trace ends
with something shorter. -/
theorem distinct_of_length_lt {a : Archive} (hstem : '/' ∉ a.names.stem.toList)
    (htail : '/' ∉ a.names.tail.toList)
    (hlength : (Path.lastStretch a.finalPath.toList).length <
      a.names.stem.toList.length + 5 + a.names.tail.toList.length) : a.Distinct where
  numbered _ _ heq := NameSequence.eq_of_lastStretch_path_eq hstem htail heq
  final n heq := by
    have hlong := NameSequence.length_lastStretch_path hstem htail n
    rw [heq] at hlong
    omega

/-- **Archives have distinct names**, whatever the path of the final trace is. -/
theorem distinct_new (traceFile : String) (compression : Option Compression) :
    (new traceFile compression).Distinct := by
  obtain ⟨hstem, htail, hlength⟩ := stem_and_extension traceFile
  -- compressing makes all names longer alike
  obtain ⟨packed, hpacked, hslash⟩ : ∃ packed,
      (if compression.isSome then packedExtension else "") = packed ∧ '/' ∉ packed.toList :=
    ⟨_, rfl, by split_ifs <;> decide⟩
  refine distinct_of_length_lt hstem ?_ ?_
  · rw [new, hpacked, String.toList_append, List.mem_append, not_or]
    exact ⟨htail, hslash⟩
  · rw [new, hpacked, String.toList_append, Path.lastStretch_append _ hslash, List.length_append,
      String.toList_append, List.length_append, ← Nat.add_assoc]
    exact Nat.add_lt_add_right hlength _

end Archive

end FlightRecorder
