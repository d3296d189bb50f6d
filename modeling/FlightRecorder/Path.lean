/-!
# Paths

Paths are texts with slashes in them, and the functions of this file read them
by their *components*. A leading slash is the root; a leading `.` is the working
directory; behind that, empty stretches and further `.` count for nothing, and
every other stretch is a component.

* `FlightRecorder.Path.parent?`, `FlightRecorder.Path.fileName?` – a path without
  its last component, and that component;
* `FlightRecorder.Path.stem?`, `FlightRecorder.Path.extension?` – the two parts
  of a file name, at its last dot; a dot at the very start is part of the stem;
* `FlightRecorder.Path.join` – a path below another; an absolute one stays as it
  is.
-/

namespace FlightRecorder.Path

/-- The stretches of a text between its slashes. -/
def split (cs : List Char) : List (List Char) :=
  cs.splitOn '/'

/-- The stretches with slashes between them. -/
def unsplit : List (List Char) → List Char
  | [] => []
  | [s] => s
  | s :: t :: rest => s ++ '/' :: unsplit (t :: rest)

/-- Whether a stretch counts for nothing. -/
def isIdle (s : List Char) : Bool :=
  s.isEmpty || s == ['.']

/-- Stretches without the idle ones at the end. -/
def dropIdle (ss : List (List Char)) : List (List Char) :=
  (ss.reverse.dropWhile isIdle).reverse

/-- Whether a path begins at the root. -/
def isAbsolute (cs : List Char) : Bool :=
  cs.head? == some '/'

/-- Whether a path begins with the working directory, written out. -/
def startsHere (cs : List Char) : Bool :=
  (split cs).head? == some ['.']

/-- The first character of a path that begins at the root or with the working
directory, and the stretches behind it. -/
def parts (cs : List Char) : List Char × List (List Char) :=
  if isAbsolute cs || startsHere cs then (cs.take 1, dropIdle (split (cs.drop 1)))
  else ([], dropIdle (split cs))

/-- **A path without its last component.** The root and the empty path have no
parent. -/
def parent? (path : String) : Option String :=
  match parts path.toList with
  | ([], []) => none
  | (['/'], []) => none
  | (_, []) => some ""
  | (start, body) => some (String.ofList (start ++ unsplit (dropIdle body.dropLast)))

/-- **The last component** of a path, if it names something in its parent. -/
def fileName? (path : String) : Option String :=
  match (parts path.toList).2.getLast? with
  | some name => if name = ['.', '.'] then none else some (String.ofList name)
  | none => none

/-- The parts of a file name before and after its last dot, if there is a dot
that is not its first character. -/
def dotSplit? (name : List Char) : Option (List Char × List Char) :=
  if name.contains '.' then
    let after := (name.reverse.takeWhile (· != '.')).reverse
    let before := name.take (name.length - after.length - 1)
    if before.isEmpty then none else some (before, after)
  else none

/-- The file name of a path up to its last dot. -/
def stem? (path : String) : Option String :=
  (fileName? path).map fun name =>
    match dotSplit? name.toList with
    | some (before, _) => String.ofList before
    | none => name

/-- The file name of a path behind its last dot. -/
def extension? (path : String) : Option String :=
  (fileName? path).bind fun name =>
    (dotSplit? name.toList).map fun (_, after) => String.ofList after

/-- **A path below a directory.** -/
def join (dir path : String) : String :=
  if isAbsolute path.toList then path
  else match dir.toList.getLast? with
    | none => path
    | some '/' => dir ++ path
    | some _ => dir ++ "/" ++ path

end FlightRecorder.Path
