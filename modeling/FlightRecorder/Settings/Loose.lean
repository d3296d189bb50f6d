import FlightRecorder.Json
import FlightRecorder.Settings.Options
import FlightRecorder.Toml

/-!
# Loose values

Where settings come from files and environment variables, one is not strict
about the type of a value: a number may be written as a string, a truth value as
a number, a path as whatever reads like one. A loose value is what such a source
gives, and a reader for each type of setting takes what it can from it.

| setting | takes |
|---|---|
| number | numbers that are not negative, truth values, words for them, digits |
| truth value | truth values, words for them, numbers |
| path | strings, numbers and truth values as they are written, null |
| choice | its name in any letter case, alone or as the only key of a table |

* `FlightRecorder.LooseValue` – the values, with those of the two file formats in
  it (`FlightRecorder.LooseValue.ofJson`, `FlightRecorder.LooseValue.ofToml`) and
  those of environment variables (`FlightRecorder.LooseValue.ofText`);
* `FlightRecorder.looseReader` – the readers.
-/

namespace FlightRecorder

/-- A value of some source of settings. -/
inductive LooseValue where
  | null
  | bool (b : Bool)
  | int (x : Int)
  | float (bits : UInt64)
  | string (s : String)
  /-- An array. No setting takes one, so its items are left out. -/
  | array
  | table (members : List (String × LooseValue))
  deriving Repr, Inhabited

namespace LooseValue

/-! ### Sources -/

mutual

/-- The value of a structured document; an integer that is no signed word of 64
bits counts as a floating-point number. -/
def ofJson : Json → LooseValue
  | .null => .null
  | .bool b => .bool b
  | .int x =>
    if -Int.pow 2 63 ≤ x ∧ x < Int.pow 2 63 then .int x else .float (binary64.ofInt x).toUInt64
  | .real d => .float d.toBits.toUInt64
  | .string s => .string s
  | .array _ => .array
  | .object members => .table (ofJsonMembers members)

/-- The values of the members of an object; of several with one key, the last one
counts. -/
def ofJsonMembers : List (String × Json) → List (String × LooseValue)
  | [] => []
  | (key, j) :: rest =>
    if rest.any (·.1 == key) then ofJsonMembers rest else (key, ofJson j) :: ofJsonMembers rest

end

mutual

/-- The value of a settings document; times are strings. -/
def ofToml : Toml → LooseValue
  | .string s => .string s
  | .integer x => .int x
  | .float bits => .float bits
  | .boolean b => .bool b
  | .moment text => .string text
  | .array _ => .array
  | .table members => .table (ofTomlMembers members)

/-- The values of the members of a table. -/
def ofTomlMembers : List (String × Toml) → List (String × LooseValue)
  | [] => []
  | (key, v) :: rest => (key, ofToml v) :: ofTomlMembers rest

end

/-- A sign before digits, if there is one, and what is behind it. -/
def splitSign : List Char → Bool × List Char
  | '-' :: rest => (true, rest)
  | '+' :: rest => (false, rest)
  | cs => (false, cs)

/-- The signed word of 64 bits that a text stands for: digits, perhaps after a
sign. -/
def readInteger? (s : String) : Option Int :=
  let (negative, digits) := splitSign s.toList
  if digits.isEmpty || !digits.all Char.isDigit then none
  else
    let n : Int := Text.digitsValue digits
    let x := if negative then -n else n
    if -Int.pow 2 63 ≤ x ∧ x < Int.pow 2 63 then some x else none

/-- The exponent that stands at the end of a number; zero where there is none. -/
def readExponent? : List Char → Option Int
  | [] => some 0
  | c :: rest =>
    let (negative, digits) := splitSign rest
    if (c = 'e' ∨ c = 'E') ∧ !digits.isEmpty ∧ digits.all Char.isDigit then
      let n : Int := Text.digitsValue digits
      some (if negative then -n else n)
    else none

/-- The bits of the floating-point number that a text stands for: digits with a
point before, between or behind them and perhaps an exponent, or a word for what
is not finite. -/
def readFloat? (s : String) : Option UInt64 :=
  let (negative, cs) := splitSign s.toList
  match Text.lowerAscii (String.ofList cs) with
  | "inf" | "infinity" => some (binary64.infinity negative).toUInt64
  | "nan" => some (binary64.notANumber negative).toUInt64
  | _ =>
    let whole := cs.takeWhile Char.isDigit
    let rest := cs.dropWhile Char.isDigit
    let (fraction, rest) := match rest with
      | '.' :: rest => (rest.takeWhile Char.isDigit, rest.dropWhile Char.isDigit)
      | rest => ([], rest)
    if whole.isEmpty && fraction.isEmpty then none
    else (readExponent? rest).map fun exponent =>
      let d : Decimal :=
        { negative, digits := Text.digitsValue (whole ++ fraction)
          exponent := exponent - fraction.length }
      d.toBits.toUInt64

/-- The value of an environment variable: a truth value or a number if it reads
like one, and a string otherwise. -/
def ofText (s : String) : LooseValue :=
  match Text.lowerAscii s with
  | "true" => .bool true
  | "false" => .bool false
  | _ =>
    match readInteger? s, readFloat? s with
    | some x, _ => .int x
    | none, some bits => .float bits
    | none, none => .string s

/-! ### Readers -/

/-- The truth value that a word stands for. -/
def truthWord? (s : String) : Option Bool :=
  match Text.lowerAscii s with
  | "true" | "on" | "yes" => some true
  | "false" | "off" | "no" => some false
  | _ => none

/-- The nearest word of 64 bits; a number halfway between two goes up. What is
not a number counts as zero. -/
def roundToWord (bits : UInt64) : Nat :=
  match binary64.decode bits.toNat with
  | .notANumber => 0
  | .infinite negative => if negative then 0 else wordSize - 1
  | .finite negative m e _ =>
    if negative then 0
    else
      let unit := Nat.pow 2 (-e).toNat
      min ((2 * (m * Nat.pow 2 e.toNat) + unit) / (2 * unit)) (wordSize - 1)

/-- A number. -/
def word? : LooseValue → Option Nat
  | .int x => if 0 ≤ x then some x.toNat else none
  | .bool b => some b.toNat
  | .float bits => some (roundToWord bits)
  | .string s =>
    match truthWord? s with
    | some b => some b.toNat
    | none => (readWord s).toOption
  | .null | .array | .table _ => none

/-- A truth value. -/
def bool? : LooseValue → Option Bool
  | .bool b => some b
  | .int x => some (x != 0)
  | .float bits =>
    some (match binary64.decode bits.toNat with
      | .finite _ m _ _ => m != 0
      | _ => true)
  | .string s =>
    match s with
    | "1" => some true
    | "0" => some false
    | s => truthWord? s
  | .null | .array | .table _ => none

/-- A path, or null. -/
def string? : LooseValue → Option (Option String)
  | .null => some none
  | .string s => some (some s)
  | .bool b => some (some (toString b))
  | .int x => some (some (toString x))
  | .float bits => some (some (settingNotation.render (binary64.decode bits.toNat)))
  | .array | .table _ => none

/-- A choice by its name. -/
def choice? {α : Type} (name : α → String) (all : List α) (v : LooseValue) : Option α :=
  let named (s : String) : Option α := all.find? fun a => Text.foldCase s == name a
  match v with
  | .string s => named s
  | .table [(key, _)] => named key
  | _ => none

end LooseValue

/-- The readers of loose values. -/
def looseReader : Settings.FieldReader LooseValue where
  word? := LooseValue.word?
  bool? := LooseValue.bool?
  string? := LooseValue.string?
  choice? := LooseValue.choice?

end FlightRecorder
