import Mathlib.Data.List.Basic
import FlightRecorder.Csv

/-!
# Records read back as they were written

A field is written in one of two ways, and the reader tells them apart by the
first character: a field without quotes has none of the characters that end it,
and in a field with quotes every quote is doubled, so a single one can only be its
end. Either way the reader has the field when the comma or the line feed behind it
comes, whatever the field contains. From there it is one induction over the fields
of a record and one over the records.

* `FlightRecorder.Csv.Place.Ends` – where the reader is behind a field;
* `FlightRecorder.Csv.foldlM_fieldChars` – **one field**, with any characters;
* `FlightRecorder.Csv.read?_render` – **any records** but empty ones, of which
  nothing could be seen.
-/

namespace FlightRecorder.Csv

/-- The reader is at a place where a comma or a line feed ends the field. -/
def Place.Ends (place : Place) : Prop :=
  place = .start ∨ place = .plain ∨ place = .closing

variable (records : List (List String)) (fields : List String) (acc : List Char)

/-! ### One field -/

/-- A character that calls for no quotes is taken as it is. -/
theorem step_plain {place : Place} (hplace : place = .start ∨ place = .plain) {c : Char}
    (hc : needsQuotes [c] = false) :
    Reading.step ⟨records, fields, acc, place⟩ c = some ⟨records, fields, c :: acc, .plain⟩ := by
  simp only [needsQuotes, List.any_cons, List.any_nil, Bool.or_eq_false_iff, beq_eq_false_iff_ne]
    at hc
  obtain ⟨⟨⟨⟨hcomma, hquote⟩, hfeed⟩, hreturn⟩, -⟩ := hc
  rcases hplace with rfl | rfl <;> simp [Reading.step, Reading.add, *]

/-- **A field without quotes**, or what is left of one. -/
theorem foldlM_plain {place : Place} (hplace : place = .start ∨ place = .plain)
    {field : List Char} (hfield : needsQuotes field = false) :
    ∃ place', (place' = .start ∨ place' = .plain) ∧
      field.foldlM Reading.step ⟨records, fields, acc, place⟩ =
        some ⟨records, fields, field.reverse ++ acc, place'⟩ := by
  -- the first character may leave the start of the field, so the place is not fixed
  induction field generalizing acc place with
  | nil => exact ⟨place, hplace, rfl⟩
  | cons c rest ih =>
    rw [needsQuotes, List.any_cons, Bool.or_eq_false_iff] at hfield
    have hc : needsQuotes [c] = false := by
      rw [needsQuotes, List.any_cons, List.any_nil, Bool.or_false]
      exact hfield.1
    obtain ⟨place', hplace', hrest⟩ := ih (c :: acc) (Or.inr rfl) hfield.2
    refine ⟨place', hplace', ?_⟩
    rw [List.foldlM_cons, step_plain _ _ _ hplace hc, List.reverse_cons, List.append_assoc]
    exact hrest

/-- **Inside quotes** every character is taken, and a doubled quote for one. -/
theorem foldlM_doubleQuotes (field : List Char) :
    (doubleQuotes field).foldlM Reading.step ⟨records, fields, acc, .quoted⟩ =
      some ⟨records, fields, field.reverse ++ acc, .quoted⟩ := by
  induction field generalizing acc with
  | nil => rfl
  | cons c rest ih =>
    rw [doubleQuotes, List.flatMap_cons, List.foldlM_append, List.reverse_cons,
      List.append_assoc]
    by_cases hc : c = '"'
    · rw [if_pos hc, hc]
      exact ih ('"' :: acc)
    · have hstep : Reading.step ⟨records, fields, acc, .quoted⟩ c =
          some ⟨records, fields, c :: acc, .quoted⟩ := by
        simp [Reading.step, Reading.add]
      rw [if_neg hc, List.foldlM_cons, hstep]
      exact ih (c :: acc)

/-- **A field**, whatever its characters are. -/
theorem foldlM_fieldChars (field : List Char) :
    ∃ place, place.Ends ∧ (fieldChars field).foldlM Reading.step ⟨records, fields, [], .start⟩ =
      some ⟨records, fields, field.reverse, place⟩ := by
  rw [fieldChars]
  cases hquotes : needsQuotes field with
  | false =>
    obtain ⟨place, hplace, hread⟩ := foldlM_plain records fields [] (Or.inl rfl) hquotes
    rw [List.append_nil] at hread
    exact ⟨place, hplace.imp_right Or.inl, hread⟩
  | true =>
    have hopen : Reading.step ⟨records, fields, [], .start⟩ '"' =
        some ⟨records, fields, [], .quoted⟩ := rfl
    have hinside := foldlM_doubleQuotes records fields [] field
    rw [List.append_nil] at hinside
    refine ⟨.closing, Or.inr (Or.inr rfl), ?_⟩
    rw [if_pos rfl, List.cons_append, List.foldlM_cons, hopen, Option.bind_eq_bind,
      Option.bind_some, List.foldlM_append, hinside]
    rfl

/-! ### Fields and records -/

section Rest

variable (rest : List Char)

/-- A comma ends the field. -/
theorem foldlM_field_comma (field : String) :
    (fieldChars field.toList ++ ',' :: rest).foldlM Reading.step ⟨records, fields, [], .start⟩ =
      rest.foldlM Reading.step ⟨records, field :: fields, [], .start⟩ := by
  obtain ⟨place, hplace, hread⟩ := foldlM_fieldChars records fields field.toList
  rw [List.foldlM_append, hread, Option.bind_eq_bind, Option.bind_some, List.foldlM_cons]
  rcases hplace with rfl | rfl | rfl <;>
    simp [Reading.step, Reading.endField]

/-- A line feed ends the field, and the record with it. -/
theorem foldlM_field_lineFeed (field : String) :
    (fieldChars field.toList ++ '\n' :: rest).foldlM Reading.step ⟨records, fields, [], .start⟩ =
      rest.foldlM Reading.step ⟨(field :: fields).reverse :: records, [], [], .start⟩ := by
  obtain ⟨place, hplace, hread⟩ := foldlM_fieldChars records fields field.toList
  rw [List.foldlM_append, hread, Option.bind_eq_bind, Option.bind_some, List.foldlM_cons]
  rcases hplace with rfl | rfl | rfl <;>
    simp [Reading.step, Reading.endRecord, Reading.endField]

/-- **A record**, from its first field that is still to be read. -/
theorem foldlM_recordChars {record : List String} (hrecord : record ≠ []) :
    (recordChars record ++ '\n' :: rest).foldlM Reading.step ⟨records, fields, [], .start⟩ =
      rest.foldlM Reading.step ⟨(fields.reverse ++ record) :: records, [], [], .start⟩ := by
  induction record generalizing fields with
  | nil => exact absurd rfl hrecord
  | cons field next ih =>
    cases next with
    | nil =>
      rw [recordChars, foldlM_field_lineFeed, List.reverse_cons]
    | cons field' next =>
      rw [recordChars, List.append_assoc, List.cons_append, foldlM_field_comma,
        ih _ (List.cons_ne_nil _ _), List.reverse_cons, List.append_assoc, List.singleton_append]

end Rest

theorem foldlM_records {written : List (List String)} (hwritten : ∀ r ∈ written, r ≠ []) :
    (written.flatMap fun r => recordChars r ++ ['\n']).foldlM Reading.step
        ⟨records, [], [], .start⟩ =
      some ⟨written.reverse ++ records, [], [], .start⟩ := by
  induction written generalizing records with
  | nil => rfl
  | cons record rest ih =>
    obtain ⟨hrecord, hrest⟩ := List.forall_mem_cons.mp hwritten
    rw [List.flatMap_cons, List.append_assoc, List.singleton_append,
      foldlM_recordChars _ _ _ hrecord, ih _ hrest, List.reverse_cons, List.append_assoc]
    rfl

/-- **Records read back as they were written**, whatever their fields contain. -/
theorem read?_render {records : List (List String)} (h : ∀ r ∈ records, r ≠ []) :
    read? (render records) = some records := by
  rw [read?, render, String.toList_ofList, foldlM_records _ h, Option.bind_some, Reading.finish?]
  simp

/-- An empty record cannot be told from one with an empty field. -/
example : read? (render [[]]) = some [[""]] := by decide

end FlightRecorder.Csv
