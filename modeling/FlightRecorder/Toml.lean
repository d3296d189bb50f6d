/-!
# Tables of settings

The document type of hand-written settings: tables of named values, with
integers, floating-point numbers, times, arrays and tables inside them.

The text of such a document assigns values one after the other, under headers
and with dotted names, and a table must not be described twice. While a document
is read, each table therefore remembers how it came about:

| origin | example | may still get |
|---|---|---|
| `header` | `[a]` | values under that header, tables under other headers |
| `implied` | `a` in `[a.b]` | a header of its own, once |
| `dotted` | `a` in `a.b = 1` | more dotted names, tables under other headers |

A value, which an inline table is too, gets nothing more.

* `FlightRecorder.Toml` – documents;
* `FlightRecorder.Toml.Draft` – a document while it is read;
* `FlightRecorder.Toml.Draft.open?`, `FlightRecorder.Toml.Draft.openItem?`,
  `FlightRecorder.Toml.Draft.assign?` – the three kinds of lines.
-/

namespace FlightRecorder

/-- A value of a document. -/
inductive Toml where
  | string (s : String)
  | integer (x : Int)
  | float (bits : UInt64)
  | boolean (b : Bool)
  /-- A date, a time of day or both, as text. -/
  | moment (text : String)
  | array (items : List Toml)
  | table (members : List (String × Toml))
  deriving Repr, Inhabited

namespace Toml

/-- How a table came about. -/
inductive Origin where
  /-- It has a header, or is an item of an array of tables. -/
  | header
  /-- A longer header named it. -/
  | implied
  /-- A dotted name made it. -/
  | dotted
  deriving DecidableEq, Repr

/-- What is known under a name while a document is read. -/
inductive Entry where
  | value (v : Toml)
  | table (origin : Origin) (members : List (String × Entry))
  /-- Tables that share one header, the latest first. -/
  | tables (items : List (List (String × Entry)))
  deriving Repr

/-- The members of a table while a document is read. -/
abbrev Members := List (String × Entry)

mutual

/-- The value of a finished entry. -/
def Entry.finish : Entry → Toml
  | .value v => v
  | .table _ members => .table (finishMembers members)
  | .tables items => .array (finishTables items).reverse

/-- The finished members of a table. -/
def finishMembers : Members → List (String × Toml)
  | [] => []
  | (key, e) :: rest => (key, e.finish) :: finishMembers rest

/-- The finished tables of an array. -/
def finishTables : List Members → List Toml
  | [] => []
  | ms :: rest => .table (finishMembers ms) :: finishTables rest

end

namespace Members

/-- Replace what is under a key, or add it as the last member. -/
def put (key : String) (e : Entry) : Members → Members
  | [] => [(key, e)]
  | (k, x) :: rest => if k = key then (key, e) :: rest else (k, x) :: put key e rest

/-- Change what is under a key, if the change is allowed. -/
def alter? (key : String) (change : Option Entry → Option Entry) (ms : Members) :
    Option Members :=
  (change (ms.lookup key)).map fun e => ms.put key e

/-- Walk down a path, making the tables that are missing, and change the table at
its end. A path of dotted names must not lead into a table that has a header. -/
def descend? (made : Origin) (change : Origin → Members → Option Members) :
    List String → Origin → Members → Option Members
  | [], origin, ms => change origin ms
  | key :: path, _, ms =>
    ms.alter? key fun
      | none => (descend? made change path made []).map (.table made)
      | some (.table origin inner) =>
        if made = .dotted ∧ origin = .header then none
        else (descend? made change path origin inner).map (.table origin)
      | some (.tables (latest :: older)) =>
        (descend? made change path .header latest).map fun t => .tables (t :: older)
      | some (.tables []) | some (.value _) => none

/-- Assign a value to a dotted name, given by its parts. -/
def assign? (name : List String) (v : Toml) (ms : Members) : Option Members :=
  match name.getLast? with
  | none => none
  | some key =>
    let set (origin : Origin) (ms : Members) : Option Members :=
      if name.length = 1 ∨ origin = .dotted then
        ms.alter? key fun
          | none => some (.value v)
          | some _ => none
      else none
    descend? .dotted set name.dropLast .header ms

end Members

/-- A document while it is read: what is known of it, and the path of the header
that the next lines stand under. -/
structure Draft where
  root : Members := []
  current : List String := []
  deriving Repr

namespace Draft

/-- Change the table that has, or is to get, the last part of a header as a key. -/
def alterHeader? (d : Draft) (path : List String) (change : String → Members → Option Members) :
    Option Draft := do
  let key ← path.getLast?
  let root ← d.root.descend? .implied (fun _ ms => change key ms) path.dropLast .header
  return { root, current := path }

/-- A header opens a table. One that was only implied so far moves behind what is
known under other keys. -/
def open? (d : Draft) (path : List String) : Option Draft :=
  d.alterHeader? path fun key ms =>
    match ms.lookup key with
    | none => some (ms ++ [(key, .table .header [])])
    | some (.table .implied inner) => some (ms.filter (·.1 != key) ++ [(key, .table .header inner)])
    | some _ => none

/-- A header opens the next table of an array. -/
def openItem? (d : Draft) (path : List String) : Option Draft :=
  d.alterHeader? path fun key => Members.alter? key fun
    | none => some (.tables [[]])
    | some (.tables items) => some (.tables ([] :: items))
    | some _ => none

/-- A line assigns a value under the present header. -/
def assign? (d : Draft) (name : List String) (v : Toml) : Option Draft := do
  let root ← d.root.descend? .implied (fun _ ms => ms.assign? name v) d.current .header
  return { d with root }

end Draft

end Toml

end FlightRecorder
