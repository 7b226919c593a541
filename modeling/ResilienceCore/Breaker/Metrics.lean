import ResilienceCore.Python
import Mathlib.Data.PNat.Basic
import Mathlib.Algebra.Order.Field.Rat
import Mathlib.Data.List.DropRight

/-!
# Breaker metrics and the rolling window

`CircuitBreakerMetrics` keeps call counters and a `deque(maxlen=window_size)`
of the last call outcomes, from which `get_failure_rate` is computed.  Every
method runs under the metrics' own lock, so each is one atomic update here.

Clock readings are positive: `time.time()` counts seconds since the epoch,
so a `Timestamp` is a positive natural and Python's truthiness test on a
stored reading is the test for `None`.  The failure rate, a float in the
source, is a rational.
-/

namespace ResilienceCore.Breaker

abbrev Timestamp := ℕ+

/-- One entry of the rolling window `calls`. -/
structure CallRecord where
  success : Bool
  timestamp : Timestamp
  duration : ℕ
  error : Option String
  deriving DecidableEq, Repr

/-- `deque(maxlen=maxlen).append(x)`: the deque keeps its last `maxlen` items. -/
def dequeAppend {α : Type} (maxlen : ℕ) (items : List α) (x : α) : List α :=
  (items ++ [x]).drop (items.length + 1 - maxlen)

theorem dequeAppend_length {α : Type} (maxlen : ℕ) (items : List α) (x : α) :
    (dequeAppend maxlen items x).length = min maxlen (items.length + 1) := by
  simp only [dequeAppend, List.length_drop, List.length_append, List.length_singleton]
  omega

theorem dequeAppend_eq_rtake {α : Type} (maxlen : ℕ) (items : List α) (x : α) :
    dequeAppend maxlen items x = (items ++ [x]).rtake maxlen := by
  simp [dequeAppend, List.rtake]

theorem dequeAppend_rtake {α : Type} (maxlen : ℕ) (history : List α) (x : α) :
    dequeAppend maxlen (history.rtake maxlen) x = (history ++ [x]).rtake maxlen := by
  cases maxlen <;> simp [dequeAppend_eq_rtake, List.rtake_eq_reverse_take_reverse, List.take_take]

structure CircuitBreakerMetrics where
  windowSize : ℕ
  calls : List CallRecord
  totalCalls : ℕ
  successfulCalls : ℕ
  failedCalls : ℕ
  rejectedCalls : ℕ
  lastFailureTime : Option Timestamp
  lastSuccessTime : Option Timestamp
  circuitOpenedAt : Option Timestamp
  deriving DecidableEq, Repr

namespace CircuitBreakerMetrics

def init (windowSize : ℕ) : CircuitBreakerMetrics :=
  ⟨windowSize, [], 0, 0, 0, 0, none, none, none⟩

def recordSuccess (m : CircuitBreakerMetrics) (now : Timestamp) (duration : ℕ) :
    CircuitBreakerMetrics :=
  { m with
    calls := dequeAppend m.windowSize m.calls ⟨true, now, duration, none⟩
    totalCalls := m.totalCalls + 1
    successfulCalls := m.successfulCalls + 1
    lastSuccessTime := some now }

def recordFailure (m : CircuitBreakerMetrics) (error : PyException) (now : Timestamp)
    (duration : ℕ) : CircuitBreakerMetrics :=
  { m with
    calls := dequeAppend m.windowSize m.calls ⟨false, now, duration, some error.text⟩
    totalCalls := m.totalCalls + 1
    failedCalls := m.failedCalls + 1
    lastFailureTime := some now }

def recordRejection (m : CircuitBreakerMetrics) : CircuitBreakerMetrics :=
  { m with totalCalls := m.totalCalls + 1, rejectedCalls := m.rejectedCalls + 1 }

/-- `failures / len(self.calls)`, and `0.0` for an empty window. -/
def getFailureRate (m : CircuitBreakerMetrics) : ℚ :=
  if m.calls = [] then 0
  else (m.calls.countP (fun call => !call.success) : ℚ) / m.calls.length

@[simp] theorem recordSuccess_windowSize (m : CircuitBreakerMetrics) now duration :
    (m.recordSuccess now duration).windowSize = m.windowSize := rfl
@[simp] theorem recordFailure_windowSize (m : CircuitBreakerMetrics) error now duration :
    (m.recordFailure error now duration).windowSize = m.windowSize := rfl
@[simp] theorem recordRejection_windowSize (m : CircuitBreakerMetrics) :
    m.recordRejection.windowSize = m.windowSize := rfl
@[simp] theorem recordSuccess_circuitOpenedAt (m : CircuitBreakerMetrics) now duration :
    (m.recordSuccess now duration).circuitOpenedAt = m.circuitOpenedAt := rfl
@[simp] theorem recordFailure_circuitOpenedAt (m : CircuitBreakerMetrics) error now duration :
    (m.recordFailure error now duration).circuitOpenedAt = m.circuitOpenedAt := rfl
@[simp] theorem recordRejection_circuitOpenedAt (m : CircuitBreakerMetrics) :
    m.recordRejection.circuitOpenedAt = m.circuitOpenedAt := rfl
@[simp] theorem recordRejection_calls (m : CircuitBreakerMetrics) :
    m.recordRejection.calls = m.calls := rfl

/-! ## What every method keeps -/

/-- The window never outgrows `window_size`, and every call is counted once. -/
structure WellFormed (m : CircuitBreakerMetrics) : Prop where
  calls_length_le : m.calls.length ≤ m.windowSize
  totalCalls_eq : m.totalCalls = m.successfulCalls + m.failedCalls + m.rejectedCalls

theorem init_wellFormed (windowSize : ℕ) : (init windowSize).WellFormed :=
  ⟨by simp [init], rfl⟩

variable {m : CircuitBreakerMetrics}

theorem WellFormed.recordSuccess (h : m.WellFormed) now duration :
    (m.recordSuccess now duration).WellFormed where
  calls_length_le := by simp [CircuitBreakerMetrics.recordSuccess, dequeAppend_length]
  totalCalls_eq := by simp [CircuitBreakerMetrics.recordSuccess, h.totalCalls_eq]; omega

theorem WellFormed.recordFailure (h : m.WellFormed) error now duration :
    (m.recordFailure error now duration).WellFormed where
  calls_length_le := by simp [CircuitBreakerMetrics.recordFailure, dequeAppend_length]
  totalCalls_eq := by simp [CircuitBreakerMetrics.recordFailure, h.totalCalls_eq]; omega

theorem WellFormed.recordRejection (h : m.WellFormed) : m.recordRejection.WellFormed where
  calls_length_le := h.calls_length_le
  totalCalls_eq := by simp [CircuitBreakerMetrics.recordRejection, h.totalCalls_eq]; omega

end CircuitBreakerMetrics

/-! ## The window over any sequence of calls -/

/-- A call on `CircuitBreakerMetrics` that changes it. -/
inductive MetricsCall where
  | recordSuccess (now : Timestamp) (duration : ℕ)
  | recordFailure (error : PyException) (now : Timestamp) (duration : ℕ)
  | recordRejection
  deriving Repr

/-- The entry a call appends to `calls`; a rejection appends none. -/
def MetricsCall.outcome? : MetricsCall → Option CallRecord
  | .recordSuccess now duration => some ⟨true, now, duration, none⟩
  | .recordFailure error now duration => some ⟨false, now, duration, some error.text⟩
  | .recordRejection => none

namespace CircuitBreakerMetrics

def exec (m : CircuitBreakerMetrics) : MetricsCall → CircuitBreakerMetrics
  | .recordSuccess now duration => m.recordSuccess now duration
  | .recordFailure error now duration => m.recordFailure error now duration
  | .recordRejection => m.recordRejection

/-- The metrics after `calls`, in order. -/
def execAll (m : CircuitBreakerMetrics) (calls : List MetricsCall) : CircuitBreakerMetrics :=
  calls.foldl exec m

@[simp] theorem execAll_nil (m : CircuitBreakerMetrics) : m.execAll [] = m := rfl
@[simp] theorem execAll_cons (m : CircuitBreakerMetrics) (call : MetricsCall) (calls : List MetricsCall) :
    m.execAll (call :: calls) = (m.exec call).execAll calls := rfl

variable {m : CircuitBreakerMetrics}

theorem exec_step (call : MetricsCall) :
    (m.exec call).windowSize = m.windowSize ∧ (m.exec call).totalCalls = m.totalCalls + 1 ∧
      (m.exec call).calls = (call.outcome?.map (dequeAppend m.windowSize m.calls)).getD m.calls := by
  cases call <;> exact ⟨rfl, rfl, rfl⟩

theorem WellFormed.exec (h : m.WellFormed) : ∀ call : MetricsCall, (m.exec call).WellFormed
  | .recordSuccess now duration => h.recordSuccess now duration
  | .recordFailure error now duration => h.recordFailure error now duration
  | .recordRejection => h.recordRejection

theorem WellFormed.execAll (h : m.WellFormed) (calls : List MetricsCall) :
    (m.execAll calls).WellFormed := by
  induction calls generalizing m with
  | nil => exact h
  | cons call calls ih => exact ih (h.exec call)

theorem execAll_calls (calls : List MetricsCall) (history : List CallRecord)
    (h : m.calls = history.rtake m.windowSize) :
    (m.execAll calls).calls = (history ++ calls.filterMap MetricsCall.outcome?).rtake m.windowSize := by
  induction calls generalizing m history with
  | nil => simpa using h
  | cons call calls ih =>
      obtain ⟨hW, -, hcalls⟩ := exec_step (m := m) call
      rw [execAll_cons, ← hW]
      cases hout : call.outcome? with
      | none =>
          rw [List.filterMap_cons_none hout]
          exact ih history (by rw [hW, hcalls, hout, ← h]; rfl)
      | some record =>
          rw [List.filterMap_cons_some hout, ← List.singleton_append, ← List.append_assoc]
          exact ih (history ++ [record]) (by rw [hcalls, hout, hW, h]; exact dequeAppend_rtake _ _ _)

/--
The rolling window.  For any `window_size` `W` and any sequence of
`record_success`, `record_failure` and `record_rejection` calls on a new
`CircuitBreakerMetrics`, with `n` the number of outcomes recorded (rejections
record none), `calls` holds exactly the last `min(W, n)` outcomes, oldest first,
and `get_failure_rate()` is the number of failures among them over `min(W, n)`,
or `0.0` when `min(W, n) = 0`.
-/
theorem window_holds_last_outcomes (windowSize : ℕ) (calls : List MetricsCall) :
    ((init windowSize).execAll calls).calls =
        (calls.filterMap MetricsCall.outcome?).rtake windowSize ∧
      ((init windowSize).execAll calls).calls.length =
        min windowSize (calls.filterMap MetricsCall.outcome?).length ∧
      ((init windowSize).execAll calls).getFailureRate =
        if min windowSize (calls.filterMap MetricsCall.outcome?).length = 0 then 0
        else (((calls.filterMap MetricsCall.outcome?).rtake windowSize).countP
            (fun call => !call.success) : ℚ) / min windowSize (calls.filterMap MetricsCall.outcome?).length := by
  have hcalls : ((init windowSize).execAll calls).calls =
      (calls.filterMap MetricsCall.outcome?).rtake windowSize := execAll_calls calls [] (List.rtake_nil _).symm
  have hlength : ((init windowSize).execAll calls).calls.length =
      min windowSize (calls.filterMap MetricsCall.outcome?).length := by
    rw [hcalls, List.rtake, List.length_drop]
    omega
  refine ⟨hcalls, hlength, ?_⟩
  rw [getFailureRate, ← hlength, ← hcalls]
  simp only [List.length_eq_zero]

/-- A failure, then a rejection, in a window of 100: `total_calls` is 2, the
window holds the one failure, and the failure rate is 1. -/
example :
    ((init 100).execAll [.recordFailure ⟨"Exception", "Database connection failed"⟩ 1 0,
        .recordRejection]).totalCalls = 2 ∧
      ((init 100).execAll [.recordFailure ⟨"Exception", "Database connection failed"⟩ 1 0,
        .recordRejection]).getFailureRate = 1 := by
  simp [init, exec, recordFailure, recordRejection, getFailureRate, dequeAppend]

end CircuitBreakerMetrics

end ResilienceCore.Breaker
