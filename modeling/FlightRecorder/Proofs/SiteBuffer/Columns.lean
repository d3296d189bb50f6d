import FlightRecorder.Budget
import FlightRecorder.Proofs.SiteBuffer.Events

/-!
# Columns, and what must not happen to them

In memory the slots of a buffer are three columns: one for the values, whose items are
as wide as the kind of the buffer, one for the sequence numbers and one for the threads.
The numbers beside them are words of 64 bits, and nothing in such a word tells a sum from
one that has run over. So every step on columns and words is *checked* here: a sum that
is no word, a difference below zero, a remainder by zero, a slot, a rotation or a cut
beyond the end of a column, and a value of the wrong width are faults, and a fault ends
everything.

* `FlightRecorder.SiteBuffer.Fault`, `FlightRecorder.SiteBuffer.Checked` – faults, and
  what is computed without one;
* `FlightRecorder.Kind.Item`, `FlightRecorder.Kind.cell`, `FlightRecorder.Kind.item?` –
  what a slot for values of a kind holds, what it stands for, and what of it a value
  makes;
* `FlightRecorder.SiteBuffer.ColumnOf` – a column that shows one part of each slot; each
  step on it that stays within the slots goes through, and shows what the same step
  makes of the slots (`FlightRecorder.SiteBuffer.ColumnOf.rotate`,
  `FlightRecorder.SiteBuffer.ColumnOf.grow`,
  `FlightRecorder.SiteBuffer.ColumnOf.compact`,
  `FlightRecorder.SiteBuffer.ColumnOf.write`).
-/

namespace FlightRecorder

/-! ### Checked steps -/

namespace SiteBuffer

/-- What a step of an operation must not do. -/
inductive Fault where
  /-- A sum or a product that is no word. -/
  | overflow
  /-- A difference below zero. -/
  | underflow
  /-- A remainder by zero. -/
  | zeroDivisor
  /-- A slot, a rotation or a cut beyond the end of a column. -/
  | outOfRange
  /-- A value of another kind than the items of the column. -/
  | wrongKind
  deriving DecidableEq, Repr

/-- What is computed if there is no fault on the way. -/
abbrev Checked := Except Fault

namespace Checked

/-- A number, if it is a word. -/
def word (n : Nat) : Checked Nat :=
  if n < wordSize then .ok n else .error .overflow

def difference (m n : Nat) : Checked Nat :=
  if n ≤ m then .ok (m - n) else .error .underflow

def remainder (m n : Nat) : Checked Nat :=
  if n = 0 then .error .zeroDivisor else .ok (m % n)

variable {τ : Type}

/-- Rotate a column to the left. -/
def rotate (v : Array τ) (n : Nat) : Checked (Array τ) :=
  if n ≤ v.size then .ok (v.extract n v.size ++ v.extract 0 n) else .error .outOfRange

/-- Cut the first slots of a column off. -/
def cut (v : Array τ) (n : Nat) : Checked (Array τ) :=
  if n ≤ v.size then .ok (v.extract n v.size) else .error .outOfRange

def write (v : Array τ) (i : Nat) (a : τ) : Checked (Array τ) :=
  if i < v.size then .ok (v.setIfInBounds i a) else .error .outOfRange

def read (v : Array τ) (i : Nat) : Checked τ :=
  match v[i]? with
  | some a => .ok a
  | none => .error .outOfRange

/-- Rotate the slots to begin at the head, and bring the column to `capacity` slots:
what is missing is filled up, what is beyond is given back. -/
def grow (v : Array τ) (head capacity : Nat) (fill : τ) : Checked (Array τ) := do
  let v ← rotate v head
  return v.extract 0 capacity ++ Array.replicate (capacity - v.size) fill

/-- Rotate the slots to begin at the head, skip some and keep some of those that
follow. -/
def compact (v : Array τ) (head skip keep : Nat) : Checked (Array τ) := do
  let v ← cut (← rotate v head) skip
  return v.extract 0 keep

end Checked

end SiteBuffer

/-! ### The items of columns -/

namespace Kind

/-- What a slot for values of a kind holds. -/
def Item : Kind → Type
  | .boolean => Bool
  | .byte => Int8
  | .char => UInt16
  | .short => Int16
  | .int => Int32
  | .long => Int64
  | .float => UInt32
  | .double => UInt64
  | .object => Slot
  | .objectId => ObjectId

/-- What a slot without an event holds. -/
def fill : (kind : Kind) → kind.Item
  | .boolean => false
  | .byte => (0 : Int8)
  | .char => (0 : UInt16)
  | .short => (0 : Int16)
  | .int => (0 : Int32)
  | .long => (0 : Int64)
  | .float => (0 : UInt32)
  | .double => (0 : UInt64)
  | .object => Slot.null
  | .objectId => (⟨0, "", none⟩ : ObjectId)

/-- The stored value that an item stands for. -/
def cell : (kind : Kind) → kind.Item → Cell
  | .boolean, b => .boolean b
  | .byte, x => .byte x
  | .char, x => .char x
  | .short, x => .short x
  | .int, x => .int x
  | .long, x => .long x
  | .float, bits => .float bits
  | .double, bits => .double bits
  | .object, o => .object o
  | .objectId, id => .objectId id

/-- The item for a value, if the value is of that kind. -/
def item? (p : Retention) : (kind : Kind) → Value → Option kind.Item
  | .boolean, .boolean b => some b
  | .byte, .byte x => some x
  | .char, .char x => some x
  | .short, .short x => some x
  | .int, .int x => some x
  | .long, .long x => some x
  | .float, .float bits => some bits
  | .double, .double bits => some bits
  | .object, .object o => some (p.hold o)
  | .objectId, .objectId id => some id
  | _, _ => none

/-- An unused slot holds the blank of its kind. -/
theorem cell_fill (kind : Kind) : kind.cell kind.fill = (Event.blank kind).cell := by
  cases kind <;> rfl

/-- Different items stand for different values. -/
theorem cell_injective (kind : Kind) : Function.Injective kind.cell := by
  intro x y h
  cases kind <;> injection h

/-- **A value of the kind has an item**, and it stands for the value as it is
stored. -/
theorem exists_item? (p : Retention) {kind : Kind} {v : Value} (h : v.kind = kind) :
    ∃ x, kind.item? p v = some x ∧ kind.cell x = p.store v := by
  subst h
  cases v <;> exact ⟨_, rfl, rfl⟩

end Kind

namespace SiteBuffer

open Checked

/-! ### Steps that go through -/

namespace Checked

theorem ok_bind {α β : Type} (a : α) (f : α → Checked β) : (Except.ok a >>= f) = f a := rfl

theorem word_of_lt {n : Nat} (h : n < wordSize) : word n = .ok n :=
  if_pos h

theorem difference_of_le {m n : Nat} (h : n ≤ m) : difference m n = .ok (m - n) :=
  if_pos h

theorem remainder_of_pos {m n : Nat} (h : 0 < n) : remainder m n = .ok (m % n) :=
  if_neg h.ne'

theorem read_of_getElem? {τ : Type} {v : Array τ} {i : Nat} {a : τ} (h : v[i]? = some a) :
    read v i = .ok a := by
  rw [read, h]

end Checked

section Columns

variable {α τ γ : Type}

/-- **A column of slots**: slot by slot, its items stand for what `part` takes of the
slots. -/
def ColumnOf (form : τ → γ) (part : α → γ) (w : Array τ) (slots : Array α) : Prop :=
  w.map form = slots.map part

variable {form : τ → γ} {part : α → γ} {w : Array τ} {slots : Array α} {head : Nat}

namespace ColumnOf

theorem size_eq (h : ColumnOf form part w slots) : w.size = slots.size := by
  simpa using congrArg Array.size h

theorem extract (h : ColumnOf form part w slots) (i j : Nat) :
    ColumnOf form part (w.extract i j) (slots.extract i j) := by
  rw [ColumnOf, Array.map_extract, Array.map_extract, h]

theorem append {w' : Array τ} {slots' : Array α} (h : ColumnOf form part w slots)
    (h' : ColumnOf form part w' slots') : ColumnOf form part (w ++ w') (slots ++ slots') := by
  rw [ColumnOf, Array.map_append, Array.map_append, h, h']

theorem replicate {fill : τ} {blank : α} (h : form fill = part blank) (n : Nat) :
    ColumnOf form part (Array.replicate n fill) (Array.replicate n blank) := by
  rw [ColumnOf, Array.map_replicate, Array.map_replicate, h]

/-- A rotation as far as the head is a rotation of the slots. -/
theorem rotate (h : ColumnOf form part w slots) (hhead : head ≤ slots.size) :
    ∃ w', Checked.rotate w head = .ok w' ∧
      ColumnOf form part w' (slots.extract head slots.size ++ slots.extract 0 head) := by
  refine ⟨_, if_pos (h.size_eq ▸ hhead), ?_⟩
  rw [h.size_eq]
  exact (h.extract _ _).append (h.extract _ _)

theorem grow (h : ColumnOf form part w slots) (hhead : head ≤ slots.size) {capacity : Nat}
    (hle : slots.size ≤ capacity) {fill : τ} {blank : α} (hfill : form fill = part blank) :
    ∃ w', Checked.grow w head capacity fill = .ok w' ∧
      ColumnOf form part w' (slots.extract head slots.size ++ slots.extract 0 head ++
        Array.replicate (capacity - slots.size) blank) := by
  obtain ⟨v, hv, hcolumn⟩ := h.rotate hhead
  have hsize : v.size = slots.size := by
    rw [hcolumn.size_eq, Array.size_append, Array.size_extract, Array.size_extract]
    omega
  -- there are no slots to give back
  have hall : v.extract 0 capacity = v := Array.extract_eq_self_of_le (hsize.trans_le hle)
  refine ⟨v ++ Array.replicate (capacity - slots.size) fill, ?_, hcolumn.append (replicate hfill _)⟩
  rw [Checked.grow, hv, ok_bind, hall, hsize]
  rfl

theorem compact (h : ColumnOf form part w slots) (hhead : head ≤ slots.size) {skip : Nat}
    (hskip : skip ≤ slots.size) (keep : Nat) :
    ∃ w', Checked.compact w head skip keep = .ok w' ∧
      ColumnOf form part w' ((slots.extract head slots.size ++ slots.extract 0 head).extract skip
        (skip + keep)) := by
  obtain ⟨v, hv, hcolumn⟩ := h.rotate hhead
  have hsize : v.size = slots.size := by
    rw [hcolumn.size_eq, Array.size_append, Array.size_extract, Array.size_extract]
    omega
  have hcut : (v.extract skip v.size).extract 0 keep = v.extract skip (skip + keep) := by
    rw [Array.extract_extract, Nat.add_zero, Array.extract_eq_extract_right]
    omega
  refine ⟨v.extract skip (skip + keep), ?_, hcolumn.extract _ _⟩
  rw [Checked.compact, hv, ok_bind, cut, if_pos (hsize ▸ hskip), ok_bind, hcut]
  rfl

theorem write (h : ColumnOf form part w slots) {i : Nat} (hi : i < slots.size) {x : τ} {a : α}
    (hx : form x = part a) :
    ∃ w', Checked.write w i x = .ok w' ∧ ColumnOf form part w' (slots.setIfInBounds i a) := by
  refine ⟨w.setIfInBounds i x, if_pos (h.size_eq ▸ hi), ?_⟩
  rw [ColumnOf, Array.map_setIfInBounds, Array.map_setIfInBounds, h, hx]

theorem getElem? (h : ColumnOf form part w slots) {i : Nat} (hi : i < slots.size) :
    ∃ x, w[i]? = some x ∧ form x = part slots[i] := by
  have hiw : i < w.size := h.size_eq ▸ hi
  have hat : (w.map form)[i]? = (slots.map part)[i]? := congrArg (·[i]?) h
  rw [Array.getElem?_map, Array.getElem?_map, Array.getElem?_eq_getElem hiw,
    Array.getElem?_eq_getElem hi] at hat
  exact ⟨w[i], Array.getElem?_eq_getElem hiw, Option.some.inj hat⟩

end ColumnOf

end Columns

end SiteBuffer

end FlightRecorder
