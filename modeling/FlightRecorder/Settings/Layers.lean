import FlightRecorder.Json.Reader
import FlightRecorder.Settings.Loose
import FlightRecorder.Toml.Reader

/-!
# Settings in layers

Settings are put together from three layers, a later one overriding an earlier
one setting by setting: the choices made when nothing is said, a file, and
environment variables.

A layer gives values to keys. Letter case counts for nothing in a key, and a key
may be a path into a value: with a point and a name, into a table; with a number
between brackets, into an array. A value that a path leads into becomes a table
or an array if it was none.

* `FlightRecorder.Layer.put` – giving a value to a key;
* `FlightRecorder.Layer.ofFile`, `FlightRecorder.Layer.ofEnvironment` – the two
  layers;
* `FlightRecorder.Settings.load` – the settings of a file and an environment.
-/

namespace FlightRecorder

/-- Values by their keys. -/
abbrev Layer := List (String × LooseValue)

/-! ### Keys -/

/-- A step of a key behind its name. -/
inductive KeyStep where
  /-- To what a table has under a name. -/
  | child (name : String)
  /-- To an item of an array. -/
  | item
  deriving DecidableEq, Repr

namespace KeyStep

/-- The characters that names in paths are made of. -/
def isNameChar (c : Char) : Bool :=
  c.isAlphanum || c == ' ' || c == '_' || c == '-'

/-- What is left behind the number of an item, a signed word of 64 bits, and its
bracket. -/
def afterIndex? (cs : List Char) : Option (List Char) :=
  let cs := Toml.skipSpace cs
  let (negative, cs) := if cs.head? = some '-' then (true, cs.drop 1) else (false, cs)
  let n := Text.digitsValue (cs.takeWhile Char.isDigit)
  if cs.head?.any Char.isDigit && decide (n < Nat.pow 2 63 + (if negative then 1 else 0)) then
    match Toml.skipSpace (cs.dropWhile Char.isDigit) with
    | ']' :: rest => some rest
    | _ => none
  else none

/-- At most so many steps. -/
def steps? : Nat → List Char → Option (List KeyStep)
  | _, [] => some []
  | 0, _ :: _ => none
  | fuel + 1, c :: cs =>
    if c = '.' then
      let name := cs.takeWhile isNameChar
      if name.isEmpty then none
      else (steps? fuel (cs.dropWhile isNameChar)).map (.child (String.ofList name) :: ·)
    else if c = '[' then do
      let rest ← afterIndex? cs
      return .item :: (← steps? fuel rest)
    else none

end KeyStep

/-- The name and the steps of a key. A key that is no path is a name as a
whole. -/
def keyPath (key : String) : String × List KeyStep :=
  let cs := key.toList
  let name := cs.takeWhile KeyStep.isNameChar
  match KeyStep.steps? cs.length (cs.dropWhile KeyStep.isNameChar) with
  | some steps => if name.isEmpty then (key, []) else (String.ofList name, steps)
  | none => (key, [])

namespace Layer

/-- Change the value of a key. -/
def alter (key : String) (change : Option LooseValue → LooseValue) : Layer → Layer
  | [] => [(key, change none)]
  | (k, v) :: rest =>
    if k = key then (k, change (some v)) :: rest else (k, v) :: alter key change rest

/-- The members of a value that is about to be a table. -/
def membersOf : Option LooseValue → Layer
  | some (.table members) => members
  | _ => []

mutual

/-- What becomes of a value when it is given a new one: a table takes the members
of the new one over, and everything else is replaced. -/
def merge (old : Option LooseValue) : LooseValue → LooseValue
  | .table [] => old.getD (.table [])
  | .table (m :: rest) => .table (mergeMembers (membersOf old) (m :: rest))
  | v => v

/-- Give several values to names. -/
def mergeMembers (old : Layer) : List (String × LooseValue) → Layer
  | [] => old
  | (key, v) :: rest =>
    mergeMembers (old.alter (Text.foldCase key) fun x => merge x v) rest

end

/-- What becomes of a value when something is put under it. -/
def putUnder (v : LooseValue) : List KeyStep → Option LooseValue → LooseValue
  | [], old => merge old v
  | .item :: _, _ => .array
  | .child name :: steps, old =>
    .table ((membersOf old).alter (Text.foldCase name) (putUnder v steps))

/-- **Give a value to a key.** -/
def put (l : Layer) (key : String) (v : LooseValue) : Layer :=
  let (name, steps) := keyPath key
  l.alter (Text.foldCase name) (putUnder v steps)

/-- Give the values of one layer to the keys of another. -/
def putAll (l : Layer) (values : List (String × LooseValue)) : Layer :=
  values.foldl (fun l (key, v) => l.put key v) l

/-! ### Files -/

/-- The values of a settings file, by the extension of its name. -/
def ofText? (extension text : String) : Option Layer :=
  match extension with
  | "toml" =>
    match Toml.read? text with
    | some (.table members) => some (LooseValue.ofTomlMembers members)
    | _ => none
  | "json" =>
    match Json.read? text with
    | some (.object members) => some (LooseValue.ofJsonMembers members)
    | _ => none
  | _ => none

/-- The extensions of settings files. -/
def extensions : List String := ["toml", "json"]

/-- A path whose file name is completed by an extension. -/
def completed? (path extension : String) : Option String :=
  (Path.fileName? path).map fun name =>
    Path.join ((Path.parent? path).getD "") (name ++ "." ++ extension)

/-- The settings file that a path names, with its extension: the file there, if
its extension is known, or the first one whose name is completed by a known
extension. -/
def findFile? (t : FileTree) (path : String) : Option (String × String) :=
  if t.isFile path then
    ((Path.extension? path).filter extensions.contains).map fun e => (path, e)
  else extensions.findSome? fun e =>
    ((completed? path e).filter t.isFile).map fun completed => (completed, e)

/-- The name that a settings file has if no path is given. -/
def usualName : String := "latest-trace"

/-- **The layer of a file.** A file that is named has to be there, and whatever
file there is has to be readable. -/
def ofFile? (t : FileTree) (path : Option String) : Option Layer :=
  match findFile? t (path.getD usualName) with
  | some (found, extension) =>
    match t.read? found with
    | .ok (.plain text) => ofText? extension text
    | _ => none
  | none => if path.isSome then none else some []

/-! ### Environment variables -/

/-- What the names of the variables begin with. -/
def variableStem : String := "latest_trace_"

/-- The key that a variable gives a value to. -/
def variableKey? (name : String) : Option String :=
  let cs := (Text.foldCase name).toList
  if variableStem.toList.isPrefixOf cs then some (String.ofList (cs.drop variableStem.length))
  else none

/-- **The layer of an environment**; of several variables for one key, the last
one counts. -/
def ofEnvironment (environment : List (String × String)) : Layer :=
  environment.filterMap fun (name, text) =>
    (variableKey? name).map fun key => (key, LooseValue.ofText text)

end Layer

namespace Settings

/-- The settings that a layer stands for, before acceptance. -/
def ofLayer? (l : Layer) : Option Settings :=
  ofFields? looseReader fun name => List.lookup name l

/-- **Loading**: the settings of a file and an environment. What the two come to
is put together once more, so that a key that became a path when its letters were
folded is followed too. -/
def load (t : FileTree) (path : Option String) (environment : List (String × String)) :
    Except Failure Settings :=
  let layer : Option Layer := (Layer.ofFile? t path).map fun l =>
    Layer.putAll [] ((Layer.putAll [] l).putAll (Layer.ofEnvironment environment))
  match layer.bind ofLayer? with
  | none => .error (.settings .unreadable)
  | some s => do
    s.check
    return s

end Settings

end FlightRecorder
