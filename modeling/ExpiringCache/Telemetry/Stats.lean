import ExpiringCache.Telemetry.Report

/-!
# Statistics

An observer that adds reports up. Counters are 64-bit words and wrap; a length of time counts in
whole microseconds, cut to 64 bits before it is added. The two gauges hold the last reported
size.
-/

namespace ExpiringCache

/-- What is counted of one operation. -/
structure OperationCounters where
  success : UInt64
  failure : UInt64
  totalMicros : UInt64
  deriving DecidableEq

namespace OperationCounters

/-- Counters that have counted nothing. -/
def zero : OperationCounters := ⟨0, 0, 0⟩

/-- One more outcome. -/
def addOutcome (c : OperationCounters) : Bool → OperationCounters
  | true => { c with success := c.success + 1 }
  | false => { c with failure := c.failure + 1 }

/-- More time spent. -/
def addMicros (c : OperationCounters) (micros : UInt64) : OperationCounters :=
  { c with totalMicros := c.totalMicros + micros }

end OperationCounters

/-- One set of counters for each operation. -/
structure OperationTable where
  counters : Vector OperationCounters 9
  deriving DecidableEq

namespace OperationTable

/-- The table in which nothing is counted. -/
def zero : OperationTable := ⟨Vector.replicate 9 .zero⟩

/-- The counters of an operation. -/
def get (t : OperationTable) (op : Operation) : OperationCounters := t.counters[op.index]

/-- The table with the counters of one operation changed. -/
def modify (t : OperationTable) (op : Operation) (f : OperationCounters → OperationCounters) :
    OperationTable :=
  ⟨t.counters.set op.index (f (t.get op))⟩

@[simp]
theorem get_zero (op : Operation) : zero.get op = .zero := by
  simp [get, zero]

theorem get_modify (t : OperationTable) (op o : Operation)
    (f : OperationCounters → OperationCounters) :
    (t.modify op f).get o = if op = o then f (t.get o) else t.get o := by
  have hindex : (op.index : Nat) = (o.index : Nat) ↔ op = o := by
    rw [← Operation.index_inj, Fin.ext_iff]
  simp only [get, modify, Fin.getElem_fin, Vector.getElem_set, hindex]
  split
  · rename_i h
    rw [h]
  · rfl

theorem ext_get {t u : OperationTable} (h : ∀ op, t.get op = u.get op) : t = u := by
  obtain ⟨t⟩ := t
  obtain ⟨u⟩ := u
  refine congrArg mk (Vector.ext fun i hi => ?_)
  obtain ⟨op, hop⟩ := Operation.exists_index_eq ⟨i, hi⟩
  simpa [get, hop] using h op

end OperationTable

/-- Totals of all reports so far. -/
structure Stats where
  operations : OperationTable
  readWaitMicros : UInt64
  writeWaitMicros : UInt64
  itemCount : Nat
  memoryBytes : Nat
  deriving DecidableEq

namespace Stats

/-- The statistics before any report. -/
def zero : Stats := ⟨.zero, 0, 0, 0, 0⟩

/-- The whole microseconds of a length of time, cut to 64 bits. -/
def wholeMicros (nanos : Nat) : UInt64 := UInt64.ofNat (nanos / 1000)

/-- The time waited for a lock in one mode. -/
def waitMicros (s : Stats) : LockMode → UInt64
  | .read => s.readWaitMicros
  | .write => s.writeWaitMicros

/-- The statistics after one report. -/
def record (s : Stats) : Report → Stats
  | .lockWait .read nanos => { s with readWaitMicros := s.readWaitMicros + wholeMicros nanos }
  | .lockWait .write nanos => { s with writeWaitMicros := s.writeWaitMicros + wholeMicros nanos }
  | .elapsed op nanos =>
    { s with operations := s.operations.modify op (·.addMicros (wholeMicros nanos)) }
  | .outcome op success => { s with operations := s.operations.modify op (·.addOutcome success) }
  | .size items bytes => { s with itemCount := items, memoryBytes := bytes }

/-- The statistics after some reports, in order. -/
def recordAll (s : Stats) (reports : List Report) : Stats := reports.foldl record s

/-- The share of gets that found a value; zero before the first get. The count of gets wraps as
its summands do. -/
def hitRate (s : Stats) : Float :=
  let gets := s.operations.get .get
  let total := gets.success + gets.failure
  if total = 0 then 0 else gets.success.toFloat / total.toFloat

end Stats

end ExpiringCache
