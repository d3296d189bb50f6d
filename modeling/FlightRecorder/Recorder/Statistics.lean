import FlightRecorder.Budget
import FlightRecorder.Diagnostics
import FlightRecorder.Json

/-!
# Statistics of a recorder

The numbers a recorder can be asked for at any time, their document, and the
summary it ends with.
-/

namespace FlightRecorder

/-- The numbers of a recorder. -/
structure Statistics where
  eventsRecorded : Nat := 0
  eventsRetained : Nat := 0
  /-- The present ceiling. -/
  maxBufferSize : Nat := 0
  saves : Nat := 0
  saveFailures : Nat := 0
  /-- In milliseconds. -/
  totalSaveTime : Nat := 0
  degraded : Bool := false
  budget : BudgetStats := {}
  artifactsWritten : Nat := 0
  bytesWritten : Nat := 0
  deriving DecidableEq, Repr, Inhabited

namespace Statistics

/-- How long a save took on average, in whole milliseconds; zero if there was
none. -/
def averageSaveTime (s : Statistics) : Nat :=
  s.totalSaveTime / s.saves

/-- The numbers a recorder ends with. -/
def summary (s : Statistics) : Summary :=
  { ceiling := s.maxBufferSize, retained := s.eventsRetained
    ceilingDecrements := s.budget.ceilingDecrements, trims := s.budget.trims
    recorded := s.eventsRecorded }

/-- The document of statistics. -/
def toJson (s : Statistics) : Json :=
  .object
    [("events_recorded", .int s.eventsRecorded),
      ("events_retained", .int s.eventsRetained),
      ("max_buffer_size", .int s.maxBufferSize),
      ("saves", .int s.saves),
      ("save_failures", .int s.saveFailures),
      ("total_save_time_ms", .int s.totalSaveTime),
      ("degraded", .bool s.degraded),
      ("budget", .object
        [("enforcements", .int s.budget.enforcements),
          ("ceiling_decrements", .int s.budget.ceilingDecrements),
          ("trims", .int s.budget.trims),
          ("evicted", .int s.budget.evicted)]),
      ("storage", .object
        [("artifacts_written", .int s.artifactsWritten),
          ("bytes_written", .int s.bytesWritten)])]

end Statistics

end FlightRecorder
