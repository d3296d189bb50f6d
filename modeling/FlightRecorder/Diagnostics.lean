import FlightRecorder.Failure

/-!
# Diagnostics

Recording never fails towards the program that is recorded. What happens
instead is reported to the side: notices, failures and metrics are collected in
the order in which they come up.

* `FlightRecorder.Notice` – a report that nothing is wrong with;
* `FlightRecorder.Metrics` – counters and gauges, each absent until it is first
  emitted;
* `FlightRecorder.Diagnostics` – the three collections.
-/

namespace FlightRecorder

/-- The numbers a recorder ends with. -/
structure Summary where
  ceiling : Nat
  retained : Nat
  ceilingDecrements : Nat
  trims : Nat
  recorded : Nat
  deriving DecidableEq, Repr, Inhabited

/-- The wording of a summary. -/
def Summary.message (s : Summary) : String :=
  s!"Final maxBufferSize: {s.ceiling}, eventCount: {s.retained}, " ++
    s!"decre_buffer: {s.ceilingDecrements}, trim_count: {s.trims}, add_data_count: {s.recorded}"

/-- A report that nothing is wrong with. -/
inductive Notice where
  /-- A trace was saved, in so many milliseconds. -/
  | saved (milliseconds : Nat)
  /-- The recorder was closed with these numbers. -/
  | summary (s : Summary)
  deriving DecidableEq, Repr, Inhabited

/-- The wording of a notice. -/
def Notice.message : Notice → String
  | .saved milliseconds => s!"{milliseconds}ms used to save a trace"
  | .summary s => s.message

/-- The metrics emitted so far; one that was never emitted is absent. -/
structure Metrics where
  /-- Counter: recorded events, set at each save. -/
  eventsRecorded : Option Nat := none
  /-- Counter: events trimmed by the budget. -/
  eventsEvicted : Option Nat := none
  /-- Gauge: retained events, set when the budget trimmed some. -/
  eventsRetained : Option Nat := none
  /-- Gauge: the ceiling, set when the budget trimmed some events. -/
  maxBufferSize : Option Nat := none
  /-- Counter: saved traces. -/
  saves : Option Nat := none
  /-- Counter: degradations. -/
  degraded : Option Nat := none
  /-- Samples: how many milliseconds each save took. -/
  saveDurations : List Nat := []
  deriving DecidableEq, Repr, Inhabited

namespace Metrics

/-- Raise a counter. -/
def raise (counter : Option Nat) (n : Nat) : Option Nat :=
  some (counter.getD 0 + n)

/-- The budget trimmed `n` events and left so many retained under this ceiling. -/
def evicted (m : Metrics) (n retained ceiling : Nat) : Metrics :=
  { m with
    eventsEvicted := raise m.eventsEvicted n
    eventsRetained := some retained
    maxBufferSize := some ceiling }

/-- A trace was saved in so many milliseconds, after so many recorded events. -/
def saved (m : Metrics) (milliseconds recorded : Nat) : Metrics :=
  { m with
    saves := raise m.saves 1
    saveDurations := m.saveDurations ++ [milliseconds]
    eventsRecorded := some recorded }

/-- Recording degraded. -/
def degradedOnce (m : Metrics) : Metrics :=
  { m with degraded := raise m.degraded 1 }

/-- The emitted metrics by their names; for samples, their number. -/
def byName (m : Metrics) : List (String × Nat) :=
  [("latest_trace_events_recorded_total", m.eventsRecorded),
    ("latest_trace_events_evicted_total", m.eventsEvicted),
    ("latest_trace_events_retained", m.eventsRetained),
    ("latest_trace_max_buffer_size", m.maxBufferSize),
    ("latest_trace_saves_total", m.saves),
    ("latest_trace_save_duration_seconds",
      if m.saveDurations.isEmpty then none else some m.saveDurations.length),
    ("latest_trace_degraded_total", m.degraded)].filterMap fun (name, value) =>
      value.map (name, ·)

end Metrics

/-- Everything that was reported, in order. -/
structure Diagnostics where
  notices : List Notice := []
  failures : List Failure := []
  metrics : Metrics := {}
  deriving DecidableEq, Repr, Inhabited

namespace Diagnostics

/-- Report a failure. -/
def report (d : Diagnostics) (f : Failure) : Diagnostics :=
  { d with failures := d.failures ++ [f] }

/-- Report a notice. -/
def note (d : Diagnostics) (n : Notice) : Diagnostics :=
  { d with notices := d.notices ++ [n] }

end Diagnostics

end FlightRecorder
