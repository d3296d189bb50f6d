import FlightRecorder.Kind
import FlightRecorder.Heap

/-!
# Values, and the cells that hold them

A value reaches the recorder with a reference to an object in it; in a buffer
that reference sits in a *slot*, which holds the object strongly, weakly or not
at all; when the buffer is read, the slot *resolves* to what is left of it. The
three forms differ in nothing but the object, so there is one type,
`FlightRecorder.Datum`, with the object as its parameter:

| form | type | object |
|---|---|---|
| observed | `FlightRecorder.Value` | a reference or null |
| stored | `FlightRecorder.Cell` | a `FlightRecorder.Slot` |
| read | `Datum Resolved` | a `FlightRecorder.Resolved` |

Floating-point values are kept as their bits, so two of them are equal exactly
when their bits are.
-/

namespace FlightRecorder

/-- The interned identity of an object: a number standing for the object, and
what was known of it when it was interned. -/
structure ObjectId where
  id : UInt64
  typeName : String
  content : Option String
  deriving DecidableEq, Repr, Inhabited

/-- The identity of the null reference. -/
def ObjectId.null : ObjectId :=
  ⟨0, "null", none⟩

/-- One scalar of a fixed width, an object, or an interned identity. -/
inductive Datum (ο : Type) where
  | boolean (b : Bool)
  | byte (x : Int8)
  | char (x : UInt16)
  | short (x : Int16)
  | int (x : Int32)
  | long (x : Int64)
  | float (bits : UInt32)
  | double (bits : UInt64)
  | object (o : ο)
  | objectId (id : ObjectId)
  deriving DecidableEq, Repr

namespace Datum

variable {α β : Type}

/-- The kind of a datum. -/
def kind : Datum α → Kind
  | .boolean _ => .boolean
  | .byte _ => .byte
  | .char _ => .char
  | .short _ => .short
  | .int _ => .int
  | .long _ => .long
  | .float _ => .float
  | .double _ => .double
  | .object _ => .object
  | .objectId _ => .objectId

/-- Change what stands for the object and leave everything else alone. -/
def map (f : α → β) : Datum α → Datum β
  | .boolean b => .boolean b
  | .byte x => .byte x
  | .char x => .char x
  | .short x => .short x
  | .int x => .int x
  | .long x => .long x
  | .float bits => .float bits
  | .double bits => .double bits
  | .object o => .object (f o)
  | .objectId id => .objectId id

@[simp] theorem kind_map (f : α → β) (d : Datum α) : (d.map f).kind = d.kind := by
  cases d <;> rfl

/-- The zero of a kind, with `o` for the object: what a slot without an event
holds. -/
def zero (o : α) : Kind → Datum α
  | .boolean => .boolean false
  | .byte => .byte 0
  | .char => .char 0
  | .short => .short 0
  | .int => .int 0
  | .long => .long 0
  | .float => .float 0
  | .double => .double 0
  | .object => .object o
  | .objectId => .objectId ⟨0, "", none⟩

@[simp] theorem kind_zero (o : α) (k : Kind) : (zero o k).kind = k := by
  cases k <;> rfl

end Datum

/-- An observed value; an object is given by reference, or is null. -/
abbrev Value := Datum (Option Ref)

/-! ### Retention -/

/-- How values that are objects are held by the buffers of a session. -/
inductive Retention where
  /-- Buffers keep the objects alive. -/
  | strong
  /-- Buffers refer to objects without keeping them alive. -/
  | weak
  /-- Buffers hold interned identities instead of references. -/
  | id
  deriving DecidableEq, Repr, Inhabited

/-- How a slot holds its object. -/
inductive Slot where
  | null
  | strong (r : Ref)
  | weak (r : Ref)
  deriving DecidableEq, Repr, Inhabited

/-- What a slot resolves to when it is read. -/
inductive Resolved where
  | null
  /-- The object was held weakly and is alive no more. -/
  | collected
  | live (r : Ref)
  deriving DecidableEq, Repr, Inhabited

/-- A stored value. -/
abbrev Cell := Datum Slot

/-- Put a reference into a slot. Under `id` a reference should not get here; one
that does is held strongly. -/
def Retention.hold : Retention → Option Ref → Slot
  | _, none => .null
  | .weak, some r => .weak r
  | .strong, some r | .id, some r => .strong r

/-- The written name of a retention policy. -/
def Retention.name : Retention → String
  | .strong => "Strong"
  | .weak => "Weak"
  | .id => "Id"

namespace Slot

/-- The written name of the way a slot holds its object. -/
def name : Slot → String
  | .null => "Null"
  | .strong _ => "Strong"
  | .weak _ => "Weak"

/-- What the slot resolves to, given who is alive. -/
def resolve (c : Heap.Census) : Slot → Resolved
  | .null => .null
  | .strong r => .live r
  | .weak r => if c.isAlive r then .live r else .collected

/-- The reference that the slot keeps alive, if any. -/
def held : Slot → Option Ref
  | .strong r => some r
  | .null | .weak _ => none

end Slot

/-- The reference that is left of a slot: a collected object reads as null. -/
def Resolved.ref? : Resolved → Option Ref
  | .live r => some r
  | .null | .collected => none

/-- Store a value under a retention policy. -/
def Retention.store (p : Retention) (v : Value) : Cell :=
  v.map p.hold

/-- The reference that a cell keeps alive, if any. -/
def Datum.held : Cell → Option Ref
  | .object s => s.held
  | _ => none

/-- Read a cell, given who is alive. -/
def Datum.read (c : Heap.Census) (cell : Cell) : Datum Resolved :=
  cell.map (·.resolve c)

/-- The value that a cell reads back as; a collected object reads as null. -/
def Datum.load (c : Heap.Census) (cell : Cell) : Value :=
  (cell.read c).map Resolved.ref?

end FlightRecorder
