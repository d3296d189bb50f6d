import FlightRecorder.FileTree

/-!
# Archives of trace artifacts

An archive writes the traces of one recorder. The final trace goes to a file of
a given path; every trace saved before it goes to a file beside that one, whose
name has a number in it, counting from one. Artifacts may be compressed, which
appends an extension to every name.

* `FlightRecorder.NameSequence` – the numbered names;
* `FlightRecorder.Archive.write`, `FlightRecorder.Archive.read?` – one artifact.

What the compressor makes of a text is not modelled, but its size is, and that it
may fail: both are told where an artifact is written.
-/

namespace FlightRecorder

/-- How hard artifacts are compressed. -/
inductive Compression where
  | fast
  | balanced
  | best
  deriving DecidableEq, Repr, Inhabited

/-- The level that a compression stands for. -/
def Compression.level : Compression → Nat
  | .fast => 1
  | .balanced => 3
  | .best => 19

/-- The written name of a compression. -/
def Compression.name : Compression → String
  | .fast => "Fast"
  | .balanced => "Balanced"
  | .best => "Best"

/-- The form in which a text is stored. -/
def Content.of (compression : Option Compression) (text : String) : Content :=
  match compression with
  | some _ => .packed text
  | none => .plain text

/-! ### Passed-over frames

The compressed format has frames that a reader passes over: a sign of four bytes,
of which the first is one of sixteen, the number of bytes that follow, in four
bytes with the lowest first, and these bytes. They are the only frames that a
plain text can spell.
-/

/-- What is left behind a frame that is passed over. -/
def passFrame? : List UInt8 → Option (List UInt8)
  | first :: 0x2a :: 0x4d :: 0x18 :: a :: b :: c :: d :: rest =>
    let size := a.toNat + 0x100 * b.toNat + 0x10000 * c.toNat + 0x1000000 * d.toNat
    if 0x50 ≤ first ∧ first ≤ 0x5f ∧ size ≤ rest.length then some (rest.drop size) else none
  | _ => none

/-- Whether bytes are frames to pass over, at least one and at most so many. -/
def passesOver : Nat → List UInt8 → Bool
  | 0, _ => false
  | fuel + 1, bytes =>
    match passFrame? bytes with
    | some [] => true
    | some rest => passesOver fuel rest
    | none => false

/-- The text that a stored form stands for, as one who compresses or does not
reads it. A plain file can be decompressed only if nothing in it counts. The bytes
of a compressed file are not modelled, so reading them as they are is refused. -/
def Content.text? (compression : Option Compression) : Content → Except Failure String
  | .plain text =>
    if compression.isNone then .ok text
    else if passesOver text.utf8ByteSize text.toUTF8.toList then .ok ""
    else .error .decompression
  | .packed text => if compression.isSome then .ok text else .error .decompression

/-- Names in a directory that differ in a number. The number is a word of 32
bits. -/
structure NameSequence where
  dir : String
  /-- What comes before the number. -/
  stem : String
  /-- What comes behind the number. -/
  tail : String
  /-- The number last used. -/
  last : UInt32 := 0
  deriving DecidableEq, Repr, Inhabited

namespace NameSequence

/-- A number with at least five digits. -/
def fiveDigits (n : Nat) : String :=
  let digits := Nat.toDigits 10 n
  String.ofList (List.replicate (5 - digits.length) '0' ++ digits)

/-- Leave the next `n` names out. -/
def skip (s : NameSequence) (n : Nat) : NameSequence :=
  { s with last := s.last + n.toUInt32 }

/-- The path of the name with a number. -/
def path (s : NameSequence) (number : UInt32) : String :=
  Path.join s.dir (s.stem ++ fiveDigits number.toNat ++ s.tail)

/-- The path of the next name, and the sequence behind it. -/
def next (s : NameSequence) : String × NameSequence :=
  (s.path (s.last + 1), { s with last := s.last + 1 })

/-- The paths of the next `n` names. -/
def take (s : NameSequence) : Nat → List String
  | 0 => []
  | n + 1 => s.next.1 :: s.next.2.take n

end NameSequence

/-- The place that the traces of a recorder are written to. -/
structure Archive where
  /-- The path of the final trace. -/
  finalPath : String
  names : NameSequence
  compression : Option Compression
  artifactsWritten : Nat := 0
  /-- Bytes of the artifacts in the form in which they are stored. -/
  bytesWritten : Nat := 0
  deriving DecidableEq, Repr, Inhabited

namespace Archive

/-- The extension of compressed files, with its dot. -/
def packedExtension : String := ".zst"

/-- The archive whose final trace has the given path. Numbered names take their
directory, their stem and their extension from it. -/
def new (traceFile : String) (compression : Option Compression) : Archive :=
  let tail := match Path.extension? traceFile with
    | some e => "." ++ e
    | none => ""
  let packed := if compression.isSome then packedExtension else ""
  { finalPath := traceFile ++ packed
    names :=
      { dir := (Path.parent? traceFile).getD ""
        stem := (Path.stem? traceFile).getD "trace"
        tail := tail ++ packed }
    compression }

/-- The path of the next numbered artifact. -/
def nextPath (a : Archive) : String × Archive :=
  let (path, names) := a.names.next
  (path, { a with names })

/-- The size of the stored form of a text. What the compressor makes of it has
`packed` bytes, if the compressor does not fail. -/
def storedSize? (a : Archive) (text : String) (packed : Option Nat) : Option Nat :=
  if a.compression.isSome then packed else some text.utf8ByteSize

/-- **Write an artifact**, after the directories it is in. It is compressed before
the file is touched, so a failure of the compressor leaves no file behind. The
result is the number of bytes. -/
def write (a : Archive) (t : FileTree) (path text : String) (packed : Option Nat := some 0) :
    Archive × FileTree × Except Failure Nat :=
  let dir := (Path.parent? path).getD ""
  match t.makeDirectories dir with
  | (t, .error f) => (a, t, .error (.storage .createDirectory dir f))
  | (t, .ok ()) =>
    match a.storedSize? text packed with
    | none => (a, t, .error .decompression)
    | some bytes =>
      match t.write? path (.of a.compression text) with
      | .error f => (a, t, .error (.storage .writeTrace path f))
      | .ok t =>
        ({ a with
            artifactsWritten := a.artifactsWritten + 1
            bytesWritten := a.bytesWritten + bytes },
          t, .ok bytes)

/-- **Read an artifact** back. -/
def read? (a : Archive) (t : FileTree) (path : String) : Except Failure String :=
  match t.read? path with
  | .error f => .error (.storage .readTrace path f)
  | .ok content => content.text? a.compression

end Archive

end FlightRecorder
