import FlightRecorder.Calendar
import FlightRecorder.Failure

/-!
# Time patterns

File names may contain the time. A time pattern is text in which a percent sign
and a letter, sometimes with a mark in between, stand for a part of a moment.

* `FlightRecorder.TimePattern.Item` – a piece of text, a number with its padding,
  or a named part;
* `FlightRecorder.TimePattern.parse?` – the items of a pattern; one unknown
  specifier spoils the whole of it;
* `FlightRecorder.TimePattern.render` – the text of items at a moment;
* `FlightRecorder.fillTime` – a path with the time filled in.
-/

namespace FlightRecorder

namespace TimePattern

/-- How a number is brought to its width. -/
inductive Pad where
  | none
  | zero
  | space
  deriving DecidableEq, Repr

/-- The parts of a moment that are numbers. -/
inductive NumberPart where
  | year
  | century
  | yearOfCentury
  | isoYear
  | isoYearOfCentury
  | quarter
  | month
  | day
  | weekFromSunday
  | weekFromMonday
  | isoWeek
  | daysFromSunday
  | weekday
  | ordinal
  | hour
  | hour12
  | minute
  | second
  | nanosecond
  | timestamp
  deriving DecidableEq, Repr

/-- The parts of a moment that are not. -/
inductive TextPart where
  | shortMonth
  | longMonth
  | shortWeekday
  | longWeekday
  | lowerHalf
  | upperHalf
  | zone
  /-- The offset from universal time, with so many colons. -/
  | offset (colons : Nat)
  /-- So many digits of the fraction of the second, perhaps after a point. -/
  | digits (n : Nat) (point : Bool)
  /-- The fraction of the second after a point, in three, six or nine digits as
  needed, and nothing if it is zero. -/
  | fraction
  /-- Date and time in one word. -/
  | instant
  deriving DecidableEq, Repr

/-- A piece of a pattern. -/
inductive Item where
  | text (cs : List Char)
  | number (part : NumberPart) (pad : Pad)
  | part (part : TextPart)
  deriving DecidableEq, Repr

/-! ### Reading patterns -/

/-- Parts with a character between each two of them. -/
def spaced (c : Char) : List Item → List Item
  | [] => []
  | [i] => [i]
  | i :: j :: rest => i :: .text [c] :: spaced c (j :: rest)

/-- Hours, minutes and seconds. -/
def clockItems : List Item :=
  spaced ':' [.number .hour .zero, .number .minute .zero, .number .second .zero]

/-- Month, day and year, in two digits each. -/
def shortDateItems : List Item :=
  spaced '/' [.number .month .zero, .number .day .zero, .number .yearOfCentury .zero]

/-- What a letter stands for. -/
def letter? : Char → Option (List Item)
  | 'A' => some [.part .longWeekday]
  | 'B' => some [.part .longMonth]
  | 'C' => some [.number .century .zero]
  | 'D' => some shortDateItems
  | 'F' => some (spaced '-' [.number .year .zero, .number .month .zero, .number .day .zero])
  | 'G' => some [.number .isoYear .zero]
  | 'H' => some [.number .hour .zero]
  | 'I' => some [.number .hour12 .zero]
  | 'M' => some [.number .minute .zero]
  | 'P' => some [.part .lowerHalf]
  | 'R' => some (spaced ':' [.number .hour .zero, .number .minute .zero])
  | 'S' => some [.number .second .zero]
  | 'T' => some clockItems
  | 'U' => some [.number .weekFromSunday .zero]
  | 'V' => some [.number .isoWeek .zero]
  | 'W' => some [.number .weekFromMonday .zero]
  | 'X' => some clockItems
  | 'Y' => some [.number .year .zero]
  | 'Z' => some [.part .zone]
  | 'a' => some [.part .shortWeekday]
  | 'b' => some [.part .shortMonth]
  | 'c' =>
    some ([.part .shortWeekday, .text [' '], .part .shortMonth, .text [' '], .number .day .space,
      .text [' ']] ++ clockItems ++ [.text [' '], .number .year .zero])
  | 'd' => some [.number .day .zero]
  | 'e' => some [.number .day .space]
  | 'f' => some [.number .nanosecond .zero]
  | 'g' => some [.number .isoYearOfCentury .zero]
  | 'h' => some [.part .shortMonth]
  | 'j' => some [.number .ordinal .zero]
  | 'k' => some [.number .hour .space]
  | 'l' => some [.number .hour12 .space]
  | 'm' => some [.number .month .zero]
  | 'n' => some [.text ['\n']]
  | 'p' => some [.part .upperHalf]
  | 'q' => some [.number .quarter .none]
  | 'r' =>
    some (spaced ':' [.number .hour12 .zero, .number .minute .zero, .number .second .zero] ++
      [.text [' '], .part .upperHalf])
  | 's' => some [.number .timestamp .none]
  | 't' => some [.text ['\t']]
  | 'u' => some [.number .weekday .none]
  | 'v' => some (spaced '-' [.number .day .space, .part .shortMonth, .number .year .zero])
  | 'w' => some [.number .daysFromSunday .none]
  | 'x' => some shortDateItems
  | 'y' => some [.number .yearOfCentury .zero]
  | 'z' => some [.part (.offset 0)]
  | '+' => some [.part .instant]
  | '%' => some [.text ['%']]
  | _ => none

/-- What the characters after a percent sign stand for, and what follows them,
where no padding is asked for. -/
def specifier? : List Char → Option (List Item × List Char)
  | ':' :: ':' :: ':' :: 'z' :: rest => some ([.part (.offset 3)], rest)
  | ':' :: ':' :: 'z' :: rest => some ([.part (.offset 2)], rest)
  | ':' :: 'z' :: rest => some ([.part (.offset 1)], rest)
  | '.' :: 'f' :: rest => some ([.part .fraction], rest)
  | '.' :: '3' :: 'f' :: rest => some ([.part (.digits 3 true)], rest)
  | '.' :: '6' :: 'f' :: rest => some ([.part (.digits 6 true)], rest)
  | '.' :: '9' :: 'f' :: rest => some ([.part (.digits 9 true)], rest)
  | '3' :: 'f' :: rest => some ([.part (.digits 3 false)], rest)
  | '6' :: 'f' :: rest => some ([.part (.digits 6 false)], rest)
  | '9' :: 'f' :: rest => some ([.part (.digits 9 false)], rest)
  | c :: rest => (letter? c).map (·, rest)
  | [] => none

/-- The padding that a mark asks for. -/
def padOf? : Char → Option Pad
  | '-' => some .none
  | '0' => some .zero
  | '_' => some .space
  | _ => none

/-- What the characters after a percent sign stand for. Only a single number can
be padded otherwise than it is. -/
def marked? : List Char → Option (List Item × List Char)
  | [] => none
  | c :: rest =>
    match padOf? c with
    | none => specifier? (c :: rest)
    | some pad =>
      match specifier? rest with
      | some ([.number part _], rest) => some ([.number part pad], rest)
      | _ => none

/-- The items of a pattern of at most so many characters. -/
def items? : Nat → List Char → Option (List Item)
  | _, [] => some []
  | 0, _ => none
  | fuel + 1, c :: rest =>
    if c = '%' then do
      let (head, rest) ← marked? rest
      return head ++ (← items? fuel rest)
    else do return .text [c] :: (← items? fuel rest)

/-- **The items** of a pattern, unless it uses a specifier that does not exist. -/
def parse? (pattern : List Char) : Option (List Item) :=
  items? pattern.length pattern

/-! ### Writing moments -/

/-- A number in at least `width` places; a sign is written if it is negative or if
it has to be, and takes one of them. -/
def padded (pad : Pad) (width : Nat) (signed : Bool) (n : Int) : List Char :=
  let sign := if n < 0 then ['-'] else if signed then ['+'] else []
  let digits := Nat.toDigits 10 n.natAbs
  let missing := width - sign.length - digits.length
  match pad with
  | .none => sign ++ digits
  | .zero => sign ++ List.replicate missing '0' ++ digits
  | .space => List.replicate missing ' ' ++ sign ++ digits

/-- A number of one or two digits. -/
def twoDigits (pad : Pad) (n : Nat) : List Char :=
  -- A byte is shown by its tens and its ones, even where there are more than nine tens.
  let tens := n % 256 / 10
  let ones := Char.ofNat ('0'.toNat + n % 256 % 10)
  if tens = 0 then
    match pad with
    | .none => [ones]
    | .zero => ['0', ones]
    | .space => [' ', ones]
  else [Char.ofNat ('0'.toNat + tens), ones]

/-- A year: four digits, and a sign and more digits where four are not enough. -/
def yearDigits (pad : Pad) (year : Int) : List Char :=
  if 0 ≤ year ∧ year < 10000 then padded pad 4 false year else padded pad 5 true year

/-- The text of a number. -/
def renderNumber (m : Moment) (pad : Pad) : NumberPart → List Char
  | .year => yearDigits pad m.year
  | .century => twoDigits pad (Int.fdiv m.year 100 % 256).toNat
  | .yearOfCentury => twoDigits pad (m.year % 100).toNat
  | .isoYear => yearDigits pad m.isoWeek.1
  | .isoYearOfCentury => twoDigits pad (m.isoWeek.1 % 100).toNat
  | .quarter => padded .none 1 false m.quarter
  | .month => twoDigits pad m.month
  | .day => twoDigits pad m.day
  | .weekFromSunday => twoDigits pad m.weekFromSunday
  | .weekFromMonday => twoDigits pad m.weekFromMonday
  | .isoWeek => twoDigits pad m.isoWeek.2
  | .daysFromSunday => padded .none 1 false m.daysFromSunday
  | .weekday => padded .none 1 false (m.daysFromMonday + 1)
  | .ordinal => padded pad 3 false m.ordinal
  | .hour => twoDigits pad m.hour
  | .hour12 => twoDigits pad m.hour12
  | .minute => twoDigits pad m.minute
  | .second => twoDigits pad m.shownSecond
  | .nanosecond => padded pad 9 false m.subsecond
  | .timestamp => padded pad 9 false m.timestamp

/-- The first `n` digits of the fraction of the second. -/
def fractionDigits (m : Moment) (n : Nat) : List Char :=
  padded .zero n false (m.subsecond / Nat.pow 10 (9 - n) : Nat)

/-- The fraction of the second after a point, in as many digits as needed. -/
def fraction (m : Moment) : List Char :=
  if m.subsecond = 0 then []
  else if m.subsecond % 1000000 = 0 then '.' :: fractionDigits m 3
  else if m.subsecond % 1000 = 0 then '.' :: fractionDigits m 6
  else '.' :: fractionDigits m 9

/-- The offset of universal time from itself. -/
def offsetText : Nat → List Char
  | 0 => "+0000".toList
  | 1 => "+00:00".toList
  | 2 => "+00:00:00".toList
  | _ => "+00".toList

/-- The text of a number in an instant. -/
def two (n : Nat) : List Char :=
  twoDigits .zero n

/-- The text of a named part. -/
def renderPart (m : Moment) : TextPart → List Char
  | .shortMonth => m.monthName.toList.take 3
  | .longMonth => m.monthName.toList
  | .shortWeekday => m.weekdayName.toList.take 3
  | .longWeekday => m.weekdayName.toList
  | .lowerHalf => (if m.isAfternoon then "pm" else "am").toList
  | .upperHalf => (if m.isAfternoon then "PM" else "AM").toList
  | .zone => offsetText 1
  | .offset colons => offsetText colons
  | .digits n point => (if point then ['.'] else []) ++ fractionDigits m n
  | .fraction => fraction m
  | .instant =>
    yearDigits .zero m.year ++ '-' :: two m.month ++ '-' :: two m.day ++ 'T' :: two m.hour ++
      ':' :: two m.minute ++ ':' :: two m.shownSecond ++ fraction m ++ offsetText 1

/-- The text of an item. -/
def renderItem (m : Moment) : Item → List Char
  | .text cs => cs
  | .number part pad => renderNumber m pad part
  | .part part => renderPart m part

/-- **The text** of items at a moment. -/
def render (m : Moment) (items : List Item) : List Char :=
  items.flatMap (renderItem m)

/-! ### Filling in -/

/-- The characters before and behind the first occurrence of `mark`. -/
def cut? (mark : List Char) : List Char → Option (List Char × List Char)
  | [] => if mark.isEmpty then some ([], []) else none
  | c :: rest =>
    if mark.isPrefixOf (c :: rest) then some ([], (c :: rest).drop mark.length)
    else (cut? mark rest).map fun (before, after) => (c :: before, after)

/-- Put `text` for every occurrence of `mark`; `fuel` bounds their number. -/
def replaceAll (mark text : List Char) : Nat → List Char → List Char
  | 0, cs => cs
  | fuel + 1, cs =>
    match cut? mark cs with
    | none => cs
    | some (before, after) => before ++ text ++ replaceAll mark text fuel after

/-- The mark that stands for the time in its usual form. -/
def plainMark : List Char := "\x7btime\x7d".toList

/-- The mark that begins a pattern. -/
def openMark : List Char := "\x7btime:".toList

/-- The usual form of the time: date, time of day, milliseconds. -/
def usual : List Char := "%Y%m%d-%H%M%S%3f".toList

end TimePattern

open TimePattern in
/-- **Filling in the time.** Every plain mark is replaced by the time in its usual
form. Where there is none, the first mark with a pattern is replaced by the time
in the form of that pattern. -/
def fillTime (m : Moment) (s : String) : Except Failure String :=
  let cs := s.toList
  if (cut? plainMark cs).isSome then
    .ok (String.ofList (replaceAll plainMark (render m ((parse? usual).getD [])) cs.length cs))
  else match cut? openMark cs with
    | none => .ok s
    | some (before, behind) =>
      match cut? ['\x7d'] behind with
      | none => .ok s
      | some (pattern, after) =>
        match parse? pattern with
        | some items => .ok (String.ofList (before ++ render m items ++ after))
        | none => .error .timePattern

end FlightRecorder
