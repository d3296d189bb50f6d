/-!
# Kinds of values

Every event site carries values of one kind, fixed when the site is created. The
two types of this file separate what a site *declares* from what its buffer
*stores*:

* `FlightRecorder.Kind` – the ten kinds of stored values;
* `FlightRecorder.SiteKind` – what a site declares: one of those kinds, or no
  value at all;
* `FlightRecorder.SiteKind.stored` – the kind a buffer of such a site stores: a
  site without values stores the integer zero for each of its events.
-/

namespace FlightRecorder

/-- The kinds of stored values: the eight scalar kinds, references to objects,
and interned identities of objects. -/
inductive Kind where
  | boolean
  | byte
  | char
  | short
  | int
  | long
  | float
  | double
  | object
  | objectId
  deriving DecidableEq, Repr, Inhabited

namespace Kind

/-- All kinds, in the order of their declaration. -/
def all : List Kind :=
  [.boolean, .byte, .char, .short, .int, .long, .float, .double, .object, .objectId]

/-- The written name of a kind. -/
def name : Kind → String
  | .boolean => "Boolean"
  | .byte => "Byte"
  | .char => "Char"
  | .short => "Short"
  | .int => "Int"
  | .long => "Long"
  | .float => "Float"
  | .double => "Double"
  | .object => "Object"
  | .objectId => "ObjectId"

/-- The kinds whose values stand for objects of the traced program. -/
def isObject : Kind → Bool
  | .object | .objectId => true
  | _ => false

end Kind

/-- What a site declares about its events: values of one kind, or none. -/
inductive SiteKind where
  | of (kind : Kind)
  | void
  deriving DecidableEq, Repr, Inhabited

namespace SiteKind

/-- The kind stored in the buffer of a site; an event without a value is stored
as the integer zero. -/
def stored : SiteKind → Kind
  | .of kind => kind
  | .void => .int

/-- The written name of a declared kind. -/
def name : SiteKind → String
  | .of kind => kind.name
  | .void => "Void"

/-- The declared kinds, in the order of their declaration. -/
def all : List SiteKind :=
  Kind.all.map .of ++ [.void]

/-- The declared kind that a name stands for, letter for letter. -/
def ofName? (s : String) : Option SiteKind :=
  all.find? (·.name == s)

/-- Whether the declared kind stands for objects of the traced program. -/
def isObject : SiteKind → Bool
  | .of kind => kind.isObject
  | .void => false

end SiteKind

end FlightRecorder
