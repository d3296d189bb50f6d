import FlightRecorder.Failure
import FlightRecorder.Path

/-!
# File trees

The files that traces are written to and settings are read from: a tree of
directories below a working directory, which is its root. Requests name their
target by a path, walk to it component by component, and are refused as a file
system refuses them.

* `FlightRecorder.FileTree.read?`, `FlightRecorder.FileTree.write?` – the content
  of a file;
* `FlightRecorder.FileTree.makeDirectories` – a directory with all its parents;
* `FlightRecorder.FileTree.remove`, `FlightRecorder.FileTree.list` – taking a
  file or directory away, and the paths of all files.

A compressed file is not modelled by its bytes but by what decompressing it
yields (`FlightRecorder.Content.packed`).

A request is refused for the shape of the tree and of the path, before anything
is touched: a parent that is no directory, a directory where a file should be, a
name or a path that is too long, and the like. What else a file system may refuse,
and a write that it cuts short, are not modelled; such a write can leave part of a
file behind.
-/

namespace FlightRecorder

/-- What a file holds. -/
inductive Content where
  /-- The text itself. -/
  | plain (text : String)
  /-- The text in compressed form. -/
  | packed (text : String)
  deriving DecidableEq, Repr, Inhabited

/-- A file or a directory. -/
inductive FileNode where
  | directory
  | file (content : Content)
  deriving DecidableEq, Repr, Inhabited

/-- Everything below the working directory, by the components that lead to it. -/
structure FileTree where
  nodes : List (List String × FileNode) := []
  deriving DecidableEq, Repr, Inhabited

namespace FileTree

/-- The longest name a file can have, in bytes. -/
def maxNameLength : Nat := 255

/-- The number of bytes from which on a path is too long. -/
def pathBound : Nat := 4096

/-- What is at a place; the root is a directory. -/
def node? (t : FileTree) (place : List String) : Option FileNode :=
  if place.isEmpty then some .directory else t.nodes.lookup place

/-- Put something at a place. -/
def set (t : FileTree) (place : List String) (n : FileNode) : FileTree :=
  ⟨(place, n) :: t.nodes.filter (·.1 != place)⟩

/-! ### Walking -/

/-- Step from a directory to the directory that a component leads to. -/
def enter (t : FileTree) (dir : List String) (component : String) :
    Except FileFault (List String) :=
  if component = "." then .ok dir
  else if component = ".." then .ok dir.dropLast
  else if maxNameLength < component.utf8ByteSize then .error .nameTooLong
  else match t.node? (dir ++ [component]) with
    | some .directory => .ok (dir ++ [component])
    | some (.file _) => .error .notDirectory
    | none => .error .notFound

/-- Where a path leads: to a name in a directory, or back to a directory. -/
inductive Target where
  /-- `slash` tells that the path ends in a slash. -/
  | named (dir : List String) (name : String) (slash : Bool)
  | directory
  deriving DecidableEq, Repr

/-- The target of a path. All components but the last have to be directories. -/
def target? (t : FileTree) (path : String) : Except FileFault Target :=
  let cs := path.toList
  if cs.isEmpty then .error .notFound
  else if cs.contains '\x00' then .error .nulInName
  else if pathBound ≤ path.utf8ByteSize then .error .nameTooLong
  else
    let components := ((Path.split cs).filter (!·.isEmpty)).map String.ofList
    match components.getLast? with
    | none => .ok .directory
    | some last => do
      let dir ← components.dropLast.foldlM t.enter []
      if last = "." ∨ last = ".." then return .directory
      if maxNameLength < last.utf8ByteSize then throw .nameTooLong
      return .named dir last (cs.getLast? == some '/')

/-! ### Requests -/

/-- **The content** of the file at a path. -/
def read? (t : FileTree) (path : String) : Except FileFault Content := do
  match ← t.target? path with
  | .directory => throw .isDirectory
  | .named dir name slash =>
    match t.node? (dir ++ [name]) with
    | none => throw .notFound
    | some .directory => throw .isDirectory
    | some (.file content) => if slash then throw .notDirectory else return content

/-- **Write a file**, creating it or replacing its content. -/
def write? (t : FileTree) (path : String) (content : Content) : Except FileFault FileTree := do
  match ← t.target? path with
  | .directory => throw .isDirectory
  | .named dir name slash =>
    if slash then throw .isDirectory
    match t.node? (dir ++ [name]) with
    | some .directory => throw .isDirectory
    | _ => return t.set (dir ++ [name]) (.file content)

/-- Make one directory. -/
def makeDirectory? (t : FileTree) (path : String) : Except FileFault FileTree := do
  match ← t.target? path with
  | .directory => throw .alreadyExists
  | .named dir name _ =>
    match t.node? (dir ++ [name]) with
    | some _ => throw .alreadyExists
    | none => return t.set (dir ++ [name]) .directory

/-- Whether there is a directory at a path. -/
def isDirectory (t : FileTree) (path : String) : Bool :=
  match t.target? path with
  | .ok .directory => true
  | .ok (.named dir name _) => t.node? (dir ++ [name]) == some .directory
  | .error _ => false

/-- Whether there is a file at a path. -/
def isFile (t : FileTree) (path : String) : Bool :=
  match t.read? path with
  | .ok _ => true
  | .error _ => false

/-- Make one directory where there is none yet. The empty path needs none. -/
def ensureDirectory (t : FileTree) (path : String) : FileTree × Except FileFault Unit :=
  if path.isEmpty then (t, .ok ())
  else match t.makeDirectory? path with
    | .ok t => (t, .ok ())
    | .error f => (t, if t.isDirectory path then .ok () else .error f)

/-- Make a directory, after its parents where they are missing; `depth` bounds
their number. What was made stays even if the rest is refused. -/
def makeParents (t : FileTree) : Nat → String → FileTree × Except FileFault Unit
  | 0, path => t.ensureDirectory path
  | depth + 1, path =>
    match t.makeDirectory? path, Path.parent? path with
    | .error .notFound, some parent =>
      match t.makeParents depth parent with
      | (t, .ok ()) => t.ensureDirectory path
      | refused => refused
    | _, _ => t.ensureDirectory path

/-- **Make a directory** with all its parents. -/
def makeDirectories (t : FileTree) (path : String) : FileTree × Except FileFault Unit :=
  t.makeParents path.length path

/-- **Take away** the file or directory at a path, with all that is below it. -/
def remove (t : FileTree) (path : String) : FileTree :=
  match t.target? path with
  | .ok (.named dir name _) =>
    ⟨t.nodes.filter fun (place, _) => !(dir ++ [name]).isPrefixOf place⟩
  | _ => t

/-- **The paths of all files**, in increasing order. -/
def list (t : FileTree) : List String :=
  let paths := t.nodes.filterMap fun (place, n) =>
    match n with
    | .file _ => some ("/".intercalate place)
    | .directory => none
  paths.mergeSort fun a b => decide (a ≤ b)

end FileTree

end FlightRecorder
