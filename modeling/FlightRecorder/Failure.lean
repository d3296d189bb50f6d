import FlightRecorder.Kind
import FlightRecorder.Text.Quoted

/-!
# Failures

What can go wrong, as causes: a type of failures with the data each of them is
about. The wording is a function of the cause, `FlightRecorder.Failure.message`.
-/

namespace FlightRecorder

/-- Why the file system refused a request. -/
inductive FileFault where
  | notFound
  | alreadyExists
  | notDirectory
  | isDirectory
  | nameTooLong
  | nulInName
  deriving DecidableEq, Repr, Inhabited

/-- The wording of a refusal. -/
def FileFault.message : FileFault → String
  | .notFound => "No such file or directory (os error 2)"
  | .alreadyExists => "File exists (os error 17)"
  | .notDirectory => "Not a directory (os error 20)"
  | .isDirectory => "Is a directory (os error 21)"
  | .nameTooLong => "File name too long (os error 36)"
  | .nulInName => "file name contained an unexpected NUL byte"

/-- What was being done with a path when the file system refused. -/
inductive FileRequest where
  | createDirectory
  | writeTrace
  | readTrace
  deriving DecidableEq, Repr, Inhabited

/-- The wording of a request that failed. -/
def FileRequest.failed : FileRequest → String
  | .createDirectory => "Failed to create directory"
  | .writeTrace => "Failed to write trace"
  | .readTrace => "Failed to read trace"

/-- Why a text is not an unsigned word of 64 bits. -/
inductive NumberFault where
  | empty
  | invalidDigit
  | tooLarge
  deriving DecidableEq, Repr, Inhabited

/-- The wording of a number fault. -/
def NumberFault.message : NumberFault → String
  | .empty => "cannot parse integer from empty string"
  | .invalidDigit => "invalid digit found in string"
  | .tooLarge => "number too large to fit in target type"

/-- Why memory was refused. -/
inductive MemoryFault where
  /-- More was asked for than there can be. -/
  | beyond
  /-- There was no more. -/
  | exhausted
  deriving DecidableEq, Repr, Inhabited

/-- The wording of a memory fault. -/
def MemoryFault.message : MemoryFault → String
  | .beyond => "because the computed capacity exceeded the collection's maximum"
  | .exhausted => "because the memory allocator returned an error"

/-- What is wrong with settings. -/
inductive SettingsFault where
  | bufferTooSmall (least size : Nat)
  | evictionUnitZero
  | globalCapacityZero
  | saveIntervalZero
  | badNumber (key value : String) (fault : NumberFault)
  /-- A file or a variable does not hold what is needed. -/
  | unreadable
  /-- There is a recorder for the whole process already. -/
  | alreadyInstalled
  deriving DecidableEq, Repr, Inhabited

/-- The wording of a settings fault. -/
def SettingsFault.message : SettingsFault → String
  | .bufferTooSmall least size => s!"buffer_size must be at least {least}, got {size}"
  | .evictionUnitZero => "eviction_unit must be at least 1"
  | .globalCapacityZero => "global_capacity must be at least 1"
  | .saveIntervalZero => "save_interval_ms must be positive when partial saves are enabled"
  | .badNumber key value fault => s!"invalid {key}={Text.quoted value}: {fault.message}"
  | .unreadable => "unreadable"
  | .alreadyInstalled => "a global recorder is already installed"

/-- Everything that can go wrong. -/
inductive Failure where
  /-- A site received a value of another kind than its buffer stores. -/
  | kindMismatch (expected actual : Kind)
  /-- There is no memory for so many slots. -/
  | allocation (requested : Nat) (fault : MemoryFault := .beyond)
  /-- A plain trace could not be handed to its receiver. -/
  | output (detail : String)
  /-- A structured trace could not be handed to its receiver. -/
  | document (detail : String)
  | storage (request : FileRequest) (path : String) (fault : FileFault)
  /-- What is stored is not a compressed artifact, or a text could not be made
  one. -/
  | decompression
  | settings (fault : SettingsFault)
  /-- The recorder is closed. -/
  | closed
  /-- A time pattern uses a specifier that does not exist. -/
  | timePattern
  deriving DecidableEq, Repr, Inhabited

/-- Whether memory was refused. -/
def Failure.isAllocation : Failure → Bool
  | .allocation .. => true
  | _ => false

/-- **The wording** of a failure. -/
def Failure.message : Failure → String
  | .kindMismatch expected actual =>
    s!"site buffer holds {expected.name} values, got {actual.name}"
  | .allocation requested fault =>
    s!"allocation failed while reserving {requested} slots: memory allocation failed " ++
      fault.message
  | .output detail => "trace I/O failed: " ++ detail
  | .document detail => "serialization failed: JSON serialization error: " ++ detail
  | .storage request path fault =>
    s!"trace storage failed: {request.failed} {Text.quoted path}: {fault.message}"
  | .decompression => "compression failed"
  | .settings fault => "invalid configuration: " ++ fault.message
  | .closed => "recorder is closed"
  | .timePattern => "a time pattern uses an unknown specifier"

end FlightRecorder
