import FlightRecorder.Toml.Scalar

/-!
# Moments in disguise

A table whose first key is a reserved one is no table but a date, a time of day
or both: the value of that key is a string that spells it, and whatever else is
in the table counts for nothing. Such a string is read more leniently than the
same characters without quotes.

* `FlightRecorder.Toml.momentOf?` – the moment that a string spells;
* `FlightRecorder.Toml.unmask?` – a document with its disguised moments as such.
-/

namespace FlightRecorder.Toml

/-- The reserved key. -/
def momentKey : String := "$__toml_private_datetime"

/-- The minutes of a day. -/
def dayMinutes : Nat := 24 * 60

/-- A number of two digits or more. -/
def twoDigits (n : Nat) : List Char :=
  let digits := Nat.toDigits 10 n
  List.replicate (2 - digits.length) '0' ++ digits

/-- An offset from universal time that is all that is left, if there is one. It
may be up to a whole day, and its minutes may exceed an hour. -/
def offset? : List Char → Option (List Char)
  | [] => some []
  | c :: cs =>
    if c = 'Z' ∨ c = 'z' then if cs.isEmpty then some ['Z'] else none
    else if c = '+' ∨ c = '-' then do
      let (hour, rest) ← field? 2 0 99 cs
      let (minute, rest) ← field? 2 0 99 (← mark? ':' rest)
      let total := hour * 60 + minute
      if rest.isEmpty ∧ total ≤ dayMinutes then
        -- There is no negative zero among the offsets.
        let sign := if total = 0 then '+' else c
        some (sign :: twoDigits (total / 60) ++ ':' :: twoDigits (total % 60))
      else none
    else none

/-- **The moment** that a string spells. The day may have a twenty-fifth hour. -/
def momentOf? (s : String) : Option String :=
  let cs := s.toList
  let text : Option (List Char) :=
    match date? cs with
    | none => do
      let (time, rest) ← timeOfDay? 24 cs
      if rest.isEmpty then some time else none
    | some (date, []) => some date
    | some (date, c :: rest) =>
      if c = 'T' ∨ c = 't' ∨ c = ' ' then do
        let (time, rest) ← timeOfDay? 24 rest
        return date ++ 'T' :: time ++ (← offset? rest)
      else none
  text.map String.ofList

mutual

/-- **A value with its moments as such.** A table in disguise has to spell a
moment. -/
def unmask? : Toml → Option Toml
  | .table ((key, v) :: rest) =>
    if key = momentKey then
      match v with
      | .string s => (momentOf? s).map .moment
      | _ => none
    else (unmaskMembers? ((key, v) :: rest)).map .table
  | .array items => (unmaskItems? items).map .array
  | v => some v

/-- The members of a table with their moments as such. -/
def unmaskMembers? : List (String × Toml) → Option (List (String × Toml))
  | [] => some []
  | (key, v) :: rest => do return (key, ← unmask? v) :: (← unmaskMembers? rest)

/-- The items of an array with their moments as such. -/
def unmaskItems? : List Toml → Option (List Toml)
  | [] => some []
  | v :: rest => do return (← unmask? v) :: (← unmaskItems? rest)

end

end FlightRecorder.Toml
