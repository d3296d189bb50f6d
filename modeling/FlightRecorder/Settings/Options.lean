import FlightRecorder.Calendar.Pattern
import FlightRecorder.Settings
import FlightRecorder.Text.Blank
import FlightRecorder.Text.Digits

/-!
# Settings as a string of options

A recorder that is started along with the traced program takes its settings from
one string: options separated by commas, each a key, an equals sign and a value.
White space around an option and empty options count for nothing, and so do
options with an unknown key. Of several options with the same key the last one
decides, except that a retention policy nobody knows decides nothing.

* `FlightRecorder.Settings.options` – the options of a string;
* `FlightRecorder.Settings.apply` – what one option does;
* `FlightRecorder.Settings.ofOptions` – the settings a string stands for. The
  first option that cannot be read is reported; acceptance comes last.
-/

namespace FlightRecorder

/-- The retention policy that a word stands for, in any letter case. -/
def Retention.parse? (word : String) : Option Retention :=
  match Text.lowerAscii word with
  | "true" | "strong" => some .strong
  | "false" | "weak" => some .weak
  | "id" => some .id
  | _ => none

/-- When a word asks for partial saves, in any letter case. -/
def PartialSave.parse (word : String) : PartialSave :=
  match Text.lowerAscii word with
  | "partial" => .writeAndReset
  | "snapshot" => .writeSnapshot
  | _ => .no

/-- The unsigned word of 64 bits that a text stands for: decimal digits, perhaps
after a plus sign. -/
def readWord (s : String) : Except NumberFault Nat :=
  let digits := match s.toList with
    | '+' :: c :: rest => c :: rest
    | cs => cs
  if digits.isEmpty then .error .empty
  else if digits.all Char.isDigit then
    let n := Text.digitsValue digits
    if n < wordSize then .ok n else .error .tooLarge
  else
    -- Digits are taken one by one, so too many of them before the first wrong one come first.
    let n := Text.digitsValue (digits.takeWhile Char.isDigit)
    if n < wordSize then .error .invalidDigit else .error .tooLarge

namespace Settings

/-- An option without the equals sign has an empty value. -/
def keyValue (option : List Char) : String × String :=
  let key := option.takeWhile (· != '=')
  (String.ofList key, String.ofList ((option.drop key.length).drop 1))

/-- **The options** of a string, in order. -/
def options (args : String) : List (String × String) :=
  ((args.toList.splitOn ',').map Text.trimList).filter (!·.isEmpty) |>.map keyValue

/-- The number that an option gives. -/
def number (key value : String) : Except Failure Nat :=
  match readWord value with
  | .ok n => .ok n
  | .error fault => .error (.settings (.badNumber key value fault))

/-- Whether an option says yes. -/
def saysTrue (value : String) : Bool :=
  Text.eqIgnoreCase value "true"

/-- **What one option does** to the settings, at a moment. -/
def apply (now : Moment) (s : Settings) (option : String × String) : Except Failure Settings :=
  let (key, value) := option
  match key with
  | "size" => return { s with bufferSize := max (← number key value) minBufferSize }
  | "trim" => return { s with evictionUnit := max (← number key value) 1 }
  | "capacity" => return { s with globalCapacity := max (← number key value) 1 }
  | "json" => return { s with format := if saysTrue value then .json else .text }
  | "keepobj" => return { s with retention := (Retention.parse? value).getD s.retention }
  | "logsave" => return { s with partialSave := PartialSave.parse value }
  | "saveinterval" => return { s with saveInterval := ← number key value }
  | "showbuffersize" => return { s with showBufferSize := saysTrue value }
  | "compress" => return { s with compress := saysTrue value }
  | "output" => return { s with outputDir := some (← fillTime now value) }
  | "trace" => return { s with traceFile := some (← fillTime now value) }
  | _ => return s

/-- **The settings** that a string of options stands for, at a moment. -/
def ofOptions (now : Moment) (args : String) : Except Failure Settings := do
  let s ← (options args).foldlM (apply now) {}
  s.check
  return s

end Settings

end FlightRecorder
