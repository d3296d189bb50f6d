/-!
# Objects of the traced program

The recorder observes objects it does not own. This file is the account of them
that the rest of the library needs: what is known about an object, which
*handles* the program itself still holds, and who is alive.

* `FlightRecorder.ObjectInfo` – the token an object's identity is printed as,
  its type, its text if it has one, its elements if it is an array;
* `FlightRecorder.Heap` – every object ever allocated, in order, and the
  program's handles on them by name;
* `FlightRecorder.Heap.Alive` – the rule of life: an object is alive while a
  handle, a strong reference held elsewhere, or an array that is alive itself
  refers to it;
* `FlightRecorder.Heap.census` – the same, computed: one pass from the youngest
  object to the oldest, which is enough because an array is always younger than
  its elements.

Allocation is never undone. A dead object keeps its entry, and no later object
takes its place, so a reference names one object for ever.
-/

namespace FlightRecorder

/-- A reference to an allocated object: its place in the order of allocation. -/
structure Ref where
  index : Nat
  deriving DecidableEq, Repr, Inhabited

/-- What is known about one object. -/
structure ObjectInfo where
  /-- The token that the identity of the object is printed as. -/
  token : String
  typeName : String
  /-- Text captured with the identity. -/
  text : Option String
  /-- The elements, if the object is an array; a missing one is a null element. -/
  elements : Option (List (Option Ref))
  /-- Whether the declared element type is itself an array type. This is a fact
  about the type: it may hold of an array without elements. -/
  nested : Bool
  deriving DecidableEq, Repr, Inhabited

/-- Whether the object is an array. -/
def ObjectInfo.isArray (o : ObjectInfo) : Bool :=
  o.elements.isSome

/-- The objects that an object refers to, with repetitions. -/
def ObjectInfo.children (o : ObjectInfo) : List Ref :=
  (o.elements.getD []).filterMap id

/-- All objects ever allocated, and the named handles the program holds. -/
structure Heap where
  objects : Array ObjectInfo := #[]
  handles : List (String × Ref) := []
  deriving Repr, Inhabited

/-- The description of an object to be created; elements are named by the
handles on them. -/
structure ObjectSpec where
  name : String
  typeName : String
  text : Option String
  elements : Option (List (Option String))
  nested : Bool
  deriving Repr, Inhabited

namespace Heap

/-- The object behind a reference. -/
def info (h : Heap) (r : Ref) : ObjectInfo :=
  h.objects.getD r.index default

/-- The object that the handle `name` is on. -/
def find? (h : Heap) (name : String) : Option Ref :=
  h.handles.lookup name

/-- Take the handle `name` away from whatever it is on. -/
def release (h : Heap) (name : String) : Heap :=
  { h with handles := h.handles.filter (·.1 != name) }

/-- Take every handle away. -/
def releaseAll (h : Heap) : Heap :=
  { h with handles := [] }

/-- Allocate the object that a description names and put its handle on it,
releasing what the handle was on before. -/
def create (h : Heap) (spec : ObjectSpec) : Heap :=
  let object : ObjectInfo :=
    { token := spec.name
      typeName := spec.typeName
      text := spec.text
      elements := spec.elements.map fun names => names.map fun name => name.bind h.find?
      nested := spec.nested }
  { objects := h.objects.push object
    handles := (spec.name, ⟨h.objects.size⟩) :: (h.release spec.name).handles }

/-- Create several objects in order. -/
def createAll (h : Heap) (specs : List ObjectSpec) : Heap :=
  specs.foldl create h

/-- The references that the program's handles hold. -/
def roots (h : Heap) : List Ref :=
  h.handles.map (·.2)

/-! ### Life -/

/-- **The rule of life.** `h.Alive held r` says that `r` is alive when, besides
the program's handles, the references `held` are held strongly somewhere. -/
inductive Alive (h : Heap) (held : List Ref) : Ref → Prop where
  | handle {r : Ref} : r ∈ h.roots → Alive h held r
  | held {r : Ref} : r ∈ held → Alive h held r
  | element {a r : Ref} : Alive h held a → r ∈ (h.info a).children → Alive h held r

/-- A record of which objects are alive at one moment. -/
structure Census where
  marks : Array Bool
  deriving Repr, Inhabited

/-- Whether the census counted an object among the living. -/
def Census.isAlive (c : Census) (r : Ref) : Bool :=
  c.marks.getD r.index false

/-- Mark each of the objects listed. -/
def mark (refs : List Ref) (marks : Array Bool) : Array Bool :=
  refs.foldl (fun marks r => marks.setIfInBounds r.index true) marks

/-- Visit the objects below `n` from the youngest to the oldest; an object found
marked marks the objects it refers to. -/
def spread (h : Heap) : Nat → Array Bool → Array Bool
  | 0, marks => marks
  | n + 1, marks =>
    h.spread n (if marks.getD n false then mark (h.info ⟨n⟩).children marks else marks)

/-- Who is alive while the references `held` are held strongly. -/
def census (h : Heap) (held : List Ref) : Census :=
  ⟨h.spread h.objects.size
    (mark held (mark h.roots (Array.replicate h.objects.size false)))⟩

/-- How many strong references there are on an object: handles, references held
elsewhere, and elements of arrays that are alive, each as often as it occurs. -/
def strongCount (h : Heap) (held : List Ref) (r : Ref) : Nat :=
  let c := h.census held
  let fromArrays := (List.range h.objects.size).map fun i =>
    if c.isAlive ⟨i⟩ then (h.info ⟨i⟩).children.count r else 0
  h.roots.count r + held.count r + fromArrays.foldr (· + ·) 0

end Heap

end FlightRecorder
