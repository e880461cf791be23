import ExpiringCache.Proofs.CountedOutcomes
import Mathlib.Algebra.Ring.Nat

/-!
# What the totals say

A report moves no counter but that of its own label, and that one by what it enters there
(`reading_record`). So after any reports a counter stands at the sum of all amounts entered on it,
modulo 2^64: that a length of time is cut to 64 bits before it is added, and that every addition
wraps, changes nothing (`toNat_reading`). The same reports in another order enter the same
amounts, so the counters are the same, while the gauges are those of the last report of a size
(`totals_are_exact`).
-/

namespace ExpiringCache

/-- One of the counters: how often an operation ended in one way, how long it took in all, or how
long a lock was waited for in one mode. -/
inductive Counter where
  | outcomes (op : Operation) (success : Bool)
  | time (op : Operation)
  | waiting (mode : LockMode)

/-- What a report enters on a counter: one for an outcome of its kind, and for a length of time
under its label the whole microseconds. -/
def Counter.amount? : Counter → Report → Option Nat
  | .outcomes op success, .outcome o b => if o = op ∧ b = success then some 1 else none
  | .time op, .elapsed o nanos => if o = op then some (nanos / 1000) else none
  | .waiting mode, .lockWait m nanos => if m = mode then some (nanos / 1000) else none
  | _, _ => none

/-- The number of entries and of bytes that a report of the size gives. -/
def Report.size? : Report → Option (Nat × Nat)
  | .size items bytes => some (items, bytes)
  | _ => none

/-- What a counter stands at. -/
def Stats.reading (s : Stats) : Counter → UInt64
  | .outcomes op success => (s.operations.get op).count success
  | .time op => (s.operations.get op).totalMicros
  | .waiting mode => s.waitMicros mode

/-- What the two gauges stand at. -/
def Stats.gauges (s : Stats) : Nat × Nat := (s.itemCount, s.memoryBytes)

namespace OperationCounters

theorem totalMicros_addOutcome (c : OperationCounters) (success : Bool) :
    (c.addOutcome success).totalMicros = c.totalMicros := by
  cases success <;> rfl

theorem eq_of_count {c d : OperationCounters} (hcount : ∀ b, c.count b = d.count b)
    (htime : c.totalMicros = d.totalMicros) : c = d := by
  have hsuccess : c.success = d.success := hcount true
  have hfailure : c.failure = d.failure := hcount false
  rcases c with ⟨success, failure, micros⟩
  cases hsuccess
  cases hfailure
  cases htime
  rfl

end OperationCounters

namespace Stats

section OneReport

variable (s : Stats) (r : Report)

theorem count_record (op : Operation) (b : Bool) :
    ((s.record r).operations.get op).count b =
      (s.operations.get op).count b + .ofNat (((Counter.outcomes op b).amount? r).getD 0) := by
  rcases r with ⟨m, nanos⟩ | ⟨o, nanos⟩ | ⟨o, success⟩ | ⟨items, bytes⟩
  · cases m <;> simp [record, Counter.amount?]
  · simp only [record, OperationTable.get_modify, Counter.amount?]
    split <;> simp [count_addMicros]
  · simp only [record, OperationTable.get_modify, Counter.amount?]
    by_cases hop : o = op
    · by_cases hb : success = b
      · simp [hop, hb, count_addOutcome]
      · simp [hop, hb, count_addOutcome]
    · simp [hop]
  · simp [record, Counter.amount?]

theorem totalMicros_record (op : Operation) :
    ((s.record r).operations.get op).totalMicros =
      (s.operations.get op).totalMicros + .ofNat (((Counter.time op).amount? r).getD 0) := by
  rcases r with ⟨m, nanos⟩ | ⟨o, nanos⟩ | ⟨o, success⟩ | ⟨items, bytes⟩
  · cases m <;> simp [record, Counter.amount?]
  · simp only [record, OperationTable.get_modify, Counter.amount?]
    split <;> simp [OperationCounters.addMicros, wholeMicros]
  · simp only [record, OperationTable.get_modify, Counter.amount?]
    split <;> simp [OperationCounters.totalMicros_addOutcome]
  · simp [record, Counter.amount?]

theorem waitMicros_record (mode : LockMode) :
    (s.record r).waitMicros mode =
      s.waitMicros mode + .ofNat (((Counter.waiting mode).amount? r).getD 0) := by
  rcases r with ⟨m, nanos⟩ | ⟨o, nanos⟩ | ⟨o, success⟩ | ⟨items, bytes⟩
  · cases m <;> cases mode <;> simp [record, waitMicros, Counter.amount?, wholeMicros]
  all_goals cases mode <;> simp [record, waitMicros, Counter.amount?]

/-- A report moves a counter by what it enters there, and leaves every other one alone. -/
theorem reading_record (c : Counter) :
    (s.record r).reading c = s.reading c + .ofNat ((c.amount? r).getD 0) := by
  cases c with
  | outcomes op b => exact count_record s r op b
  | time op => exact totalMicros_record s r op
  | waiting mode => exact waitMicros_record s r mode

theorem reading_record_of_none {c : Counter} (h : c.amount? r = none) :
    (s.record r).reading c = s.reading c := by
  rw [reading_record, h]
  exact UInt64.add_zero _

theorem gauges_record : (s.record r).gauges = r.size?.getD s.gauges := by
  rcases r with ⟨m, nanos⟩ | ⟨o, nanos⟩ | ⟨o, success⟩ | ⟨items, bytes⟩
  · cases m <;> rfl
  all_goals rfl

end OneReport

section Runs

theorem reading_recordAll (c : Counter) : ∀ (reports : List Report) (s : Stats),
    (s.recordAll reports).reading c = s.reading c + .ofNat (reports.filterMap c.amount?).sum
  | [], s => (UInt64.add_zero _).symm
  | r :: reports, s => by
    have hsum : ((r :: reports).filterMap c.amount?).sum =
        (c.amount? r).getD 0 + (reports.filterMap c.amount?).sum := by
      rw [List.filterMap_cons]
      cases c.amount? r <;> simp
    -- the words add up as the amounts do, since `ofNat` takes sums to wrapped sums
    calc ((s.record r).recordAll reports).reading c
        = (s.record r).reading c + .ofNat (reports.filterMap c.amount?).sum :=
          reading_recordAll c reports (s.record r)
      _ = s.reading c + .ofNat ((c.amount? r).getD 0 + (reports.filterMap c.amount?).sum) := by
          rw [reading_record, UInt64.add_assoc, UInt64.ofNat_add]
      _ = _ := by rw [hsum]

theorem reading_zero (c : Counter) : zero.reading c = 0 := by
  rcases c with ⟨op, b⟩ | op | mode
  · cases b <;> simp [reading, zero, OperationCounters.count, OperationCounters.zero]
  · simp [reading, zero, OperationCounters.zero]
  · cases mode <;> rfl

/-- A counter that started at zero stands at the sum of all amounts entered on it, modulo 2^64. -/
theorem toNat_reading (reports : List Report) (c : Counter) :
    ((zero.recordAll reports).reading c).toNat = (reports.filterMap c.amount?).sum % 2 ^ 64 := by
  rw [reading_recordAll, reading_zero, UInt64.zero_add, UInt64.toNat_ofNat']

theorem reading_recordAll_of_perm {reports other : List Report} (h : other.Perm reports)
    (s : Stats) (c : Counter) :
    (s.recordAll other).reading c = (s.recordAll reports).reading c := by
  rw [reading_recordAll, reading_recordAll, (h.filterMap c.amount?).sum_nat]

theorem sum_outcomes (op : Operation) (b : Bool) (reports : List Report) :
    (reports.filterMap (Counter.outcomes op b).amount?).sum = reports.count (.outcome op b) := by
  induction reports with
  | nil => rfl
  | cons r reports ih =>
    rw [List.filterMap_cons, List.count_cons, ← ih]
    rcases r with ⟨m, nanos⟩ | ⟨o, nanos⟩ | ⟨o, success⟩ | ⟨items, bytes⟩
    case outcome =>
      by_cases h : o = op ∧ success = b
      · simp [Counter.amount?, h, Nat.add_comm]
      · simp [Counter.amount?, h]
    all_goals simp [Counter.amount?]

theorem operations_eq_of_reading {s t : Stats} (h : ∀ c, s.reading c = t.reading c) :
    s.operations = t.operations :=
  OperationTable.ext_get fun op =>
    OperationCounters.eq_of_count (fun b => h (.outcomes op b)) (h (.time op))

/-- The gauges are those of the last report of a size, if there is one. -/
theorem gauges_recordAll : ∀ (reports : List Report) (s : Stats),
    (s.recordAll reports).gauges = (reports.filterMap Report.size?).getLast?.getD s.gauges
  | [], s => rfl
  | r :: reports, s => by
    have hrest : (s.recordAll (r :: reports)).gauges =
        (reports.filterMap Report.size?).getLast?.getD (s.record r).gauges :=
      gauges_recordAll reports (s.record r)
    rw [hrest, gauges_record, List.filterMap_cons]
    cases r.size? with
    | none => rfl
    | some size => simp [List.getLast?_cons]

end Runs

end Stats

/-- After any reports to new statistics the time of each operation and the wait for each lock mode
are the exact sums of the whole microseconds reported under this very label, and the successes and
failures the numbers of such outcomes, all modulo 2^64; a listing of the operations shows those of
each one at its place. No report, whatever came before it, moves a counter on which it enters
nothing. In every other order the reports give the same counters. The gauges are those of the last
report of a size, and zero before the first. -/
theorem totals_are_exact (reports : List Report) :
    let s := Stats.zero.recordAll reports
    (∀ op,
      (s.operations.get op).totalMicros.toNat =
        (reports.filterMap (Counter.time op).amount?).sum % 2 ^ 64 ∧
      (s.operations.get op).success.toNat = reports.count (.outcome op true) % 2 ^ 64 ∧
      (s.operations.get op).failure.toNat = reports.count (.outcome op false) % 2 ^ 64 ∧
      (Operation.all.map s.operations.get)[(op.index : Nat)]? = some (s.operations.get op)) ∧
    (∀ mode, (s.waitMicros mode).toNat =
      (reports.filterMap (Counter.waiting mode).amount?).sum % 2 ^ 64) ∧
    (∀ (t : Stats) (r : Report) (c : Counter), c.amount? r = none →
      (t.record r).reading c = t.reading c) ∧
    (∀ other, other.Perm reports →
      (Stats.zero.recordAll other).operations = s.operations ∧
      ∀ mode, (Stats.zero.recordAll other).waitMicros mode = s.waitMicros mode) ∧
    s.gauges = (reports.filterMap Report.size?).getLast?.getD (0, 0) := by
  intro s
  have hexact := Stats.toNat_reading reports
  refine ⟨fun op => ⟨hexact (.time op), ?_, ?_, ?_⟩, fun mode => hexact (.waiting mode),
    fun t r c => t.reading_record_of_none r, fun other h => ?_, Stats.gauges_recordAll reports _⟩
  · rw [← Stats.sum_outcomes]
    exact hexact (.outcomes op true)
  · rw [← Stats.sum_outcomes]
    exact hexact (.outcomes op false)
  · rw [List.getElem?_map, Operation.getElem?_all_index]
    rfl
  · have hsame := Stats.reading_recordAll_of_perm h .zero
    exact ⟨Stats.operations_eq_of_reading hsame, fun mode => hsame (.waiting mode)⟩

/-- Two sets of which the first alone takes 2^64 - 1 microseconds, with other reports between
them: the total wraps. -/
theorem totals_are_exact_past_the_word :
    let reports : List Report := [.elapsed .set (2 ^ 64 * 1000 - 1), .size 10 400,
      .outcome .del false, .elapsed .get 40999, .lockWait .write 7999, .elapsed .set 1001999,
      .size 3 90]
    let s := Stats.zero.recordAll reports
    reports.reverse.Perm reports ∧
      (Counter.time .get).amount? (.elapsed .set 1001999) = none ∧
      (s.operations.get .set).totalMicros.toNat = 1000 ∧
      (s.operations.get .get).totalMicros.toNat = 40 ∧
      (s.operations.get .del).failure.toNat = 1 ∧
      (s.waitMicros .write).toNat = 7 ∧
      (s.record (.elapsed .set 1001999)).reading (.time .get) = s.reading (.time .get) ∧
      (Stats.zero.recordAll reports.reverse).operations = s.operations ∧
      s.gauges = (3, 90) := by
  intro reports s
  have hperm : reports.reverse.Perm reports := List.reverse_perm _
  have hnone : (Counter.time .get).amount? (.elapsed .set 1001999) = none := by decide
  obtain ⟨hops, hwaits, hother, horder, hgauges⟩ := totals_are_exact reports
  exact ⟨hperm, hnone, (hops .set).1.trans (by decide), (hops .get).1.trans (by decide),
    (hops .del).2.2.1.trans (by decide), (hwaits .write).trans (by decide),
    hother s _ _ hnone, (horder _ hperm).1, hgauges.trans (by decide)⟩

end ExpiringCache
