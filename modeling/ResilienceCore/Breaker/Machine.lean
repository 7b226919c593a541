import ResilienceCore.Breaker.Metrics

/-!
# The circuit breaker as a state machine

`CircuitBreaker` holds the fields that `_state_lock` guards, with the metrics
they drive; `Config` holds the constructor's arguments, fixed after
construction.  Each method that takes `_state_lock` is one atomic `Op`.
`record_rejection` takes only the metrics lock, but it touches counters that
no section under `_state_lock` reads, so it commutes with those sections and a
run of any number of threads is a sequence of `Op`s.  The metric reads
(`get_failure_rate`) write nothing and are left out of `Op`.

`call` is the whole method for one caller: its admission query, the
operation's outcome and the recording of that outcome follow each other with
nothing in between.
-/

namespace ResilienceCore.Breaker

inductive CircuitState where
  | closed
  | «open»
  | halfOpen
  deriving DecidableEq, Repr

structure Config where
  name : String
  failureThreshold : ℕ := 5
  recoveryTimeout : ℤ := 60
  /-- `isinstance(e, expected_exception)`; the default class is `Exception`. -/
  expectedException : PyException → Bool := fun _ => true
  successThreshold : ℕ := 2
  failureRateThreshold : ℚ := 1 / 2
  windowSize : ℕ := 100
  /-- Whether `fallback_function` is set; a call that falls back returns its result. -/
  fallbackFunction : Bool := false

structure CircuitBreaker where
  state : CircuitState
  failureCount : ℕ
  successCount : ℕ
  lastFailureTime : Option Timestamp
  metrics : CircuitBreakerMetrics
  deriving DecidableEq, Repr

namespace CircuitBreaker

variable (cfg : Config)

def init : CircuitBreaker := ⟨.closed, 0, 0, none, .init cfg.windowSize⟩

def shouldAttemptReset (b : CircuitBreaker) (now : Timestamp) : Bool :=
  match b.lastFailureTime with
  | none => false
  | some t => decide (cfg.recoveryTimeout ≤ (now : ℤ) - (t : ℤ))

def transitionToOpen (b : CircuitBreaker) (now : Timestamp) : CircuitBreaker :=
  { b with
    state := .open, failureCount := 0, successCount := 0
    metrics := { b.metrics with circuitOpenedAt := some now } }

def transitionToHalfOpen (b : CircuitBreaker) : CircuitBreaker :=
  { b with state := .halfOpen, successCount := 0, failureCount := 0 }

def transitionToClosed (b : CircuitBreaker) : CircuitBreaker :=
  { b with
    state := .closed, failureCount := 0, successCount := 0
    metrics := { b.metrics with circuitOpenedAt := none } }

/-- The `state` property: the lazy OPEN → HALF_OPEN check, then the read. -/
def stateQuery (b : CircuitBreaker) (now : Timestamp) : CircuitState × CircuitBreaker :=
  let b :=
    if b.state = .open then
      if b.shouldAttemptReset cfg now then b.transitionToHalfOpen else b
    else b
  (b.state, b)

def onSuccess (b : CircuitBreaker) (now : Timestamp) (duration : ℕ) : CircuitBreaker :=
  let b := { b with metrics := b.metrics.recordSuccess now duration }
  if b.state = .halfOpen then
    let b := { b with successCount := b.successCount + 1 }
    if b.successCount ≥ cfg.successThreshold then b.transitionToClosed else b
  else { b with failureCount := 0 }

def onFailure (b : CircuitBreaker) (error : PyException) (now : Timestamp)
    (duration : ℕ) : CircuitBreaker :=
  let b := { b with
    metrics := b.metrics.recordFailure error now duration
    lastFailureTime := some now }
  match b.state with
  | .closed =>
      let b := { b with failureCount := b.failureCount + 1 }
      if b.failureCount ≥ cfg.failureThreshold ∨
          b.metrics.getFailureRate ≥ cfg.failureRateThreshold then
        b.transitionToOpen now
      else b
  | .halfOpen => b.transitionToOpen now
  | .open => b

def reset (b : CircuitBreaker) : CircuitBreaker := b.transitionToClosed

/-! ## One caller's `call` -/

inductive Outcome where
  | returns
  | raises (error : PyException)
  deriving DecidableEq, Repr

inductive CallResult where
  | returned
  | fallback
  | raised (error : PyException)
  | circuitBreakerError (message : String)
  deriving DecidableEq, Repr

def openMessage : String := "Circuit breaker \x27" ++ cfg.name ++ "\x27 is OPEN"

/--
`call(func, *args)`: admitted at `startedAt`, the operation ends at `finishedAt`
with `outcome`, and an expected failure, recorded at `finishedAt`, queries the
state again at `checkedAt`, read after the state-change listeners ran.
-/
def call (b : CircuitBreaker) (startedAt : Timestamp) (outcome : Outcome)
    (finishedAt checkedAt : Timestamp) : CallResult × CircuitBreaker :=
  let (admitted, b) := b.stateQuery cfg startedAt
  if admitted = .open then
    let b := { b with metrics := b.metrics.recordRejection }
    if cfg.fallbackFunction then (.fallback, b)
    else (.circuitBreakerError (openMessage cfg), b)
  else
    let duration := (finishedAt : ℕ) - startedAt
    match outcome with
    | .returns => (.returned, b.onSuccess cfg finishedAt duration)
    | .raises error =>
        if cfg.expectedException error then
          let (now, b) := (b.onFailure cfg error finishedAt duration).stateQuery cfg checkedAt
          if now = .halfOpen ∧ cfg.fallbackFunction then (.fallback, b)
          else (.raised error, b)
        else (.raised error, b)

end CircuitBreaker

/-! ## The module's example breakers -/

def databaseQuery : Config :=
  { name := "database_query", failureThreshold := 5, recoveryTimeout := 60,
    fallbackFunction := true }

def postgresMain : Config :=
  { name := "postgres_main", failureThreshold := 3, recoveryTimeout := 120,
    expectedException := fun e => e.typeName = "ConnectionError" }

/-! ## Atomic steps and runs -/

/-- One section under a breaker lock, as any thread performs it. -/
inductive Op where
  | state (now : Timestamp)
  | onSuccess (now : Timestamp) (duration : ℕ)
  | onFailure (error : PyException) (now : Timestamp) (duration : ℕ)
  | recordRejection
  | reset
  deriving DecidableEq, Repr

open CircuitBreaker

variable (cfg : Config)

def step (b : CircuitBreaker) : Op → CircuitBreaker
  | .state now => (b.stateQuery cfg now).2
  | .onSuccess now duration => b.onSuccess cfg now duration
  | .onFailure error now duration => b.onFailure cfg error now duration
  | .recordRejection => { b with metrics := b.metrics.recordRejection }
  | .reset => b.reset

def run (b : CircuitBreaker) (ops : List Op) : CircuitBreaker := ops.foldl (step cfg) b

@[simp] theorem run_nil (b : CircuitBreaker) : run cfg b [] = b := rfl

@[simp] theorem run_cons (b : CircuitBreaker) (op : Op) (ops : List Op) :
    run cfg b (op :: ops) = run cfg (step cfg b op) ops := rfl

theorem run_append (b : CircuitBreaker) (ops ops' : List Op) :
    run cfg b (ops ++ ops') = run cfg (run cfg b ops) ops' :=
  List.foldl_append _ _ _ _

@[simp] theorem run_concat (b : CircuitBreaker) (ops : List Op) (op : Op) :
    run cfg b (ops ++ [op]) = step cfg (run cfg b ops) op := by
  simp [run_append]

/-- The ops of one caller's `call`, in order; the breaker it leaves is their run. -/
def callOps (b : CircuitBreaker) (startedAt : Timestamp) (outcome : Outcome)
    (finishedAt checkedAt : Timestamp) : List Op :=
  if (b.stateQuery cfg startedAt).1 = .open then [.state startedAt, .recordRejection]
  else
    let duration := (finishedAt : ℕ) - startedAt
    match outcome with
    | .returns => [.state startedAt, .onSuccess finishedAt duration]
    | .raises error =>
        if cfg.expectedException error then
          [.state startedAt, .onFailure error finishedAt duration, .state checkedAt]
        else [.state startedAt]

theorem call_eq_run (b : CircuitBreaker) (startedAt : Timestamp) (outcome : Outcome)
    (finishedAt checkedAt : Timestamp) :
    (b.call cfg startedAt outcome finishedAt checkedAt).2 =
      run cfg b (callOps cfg b startedAt outcome finishedAt checkedAt) := by
  unfold call callOps
  rcases hq : b.stateQuery cfg startedAt with ⟨admitted, b'⟩
  by_cases ho : admitted = .open
  · split_ifs <;> simp [ho, hq, step]
  · cases outcome with
    | returns => simp [ho, hq, step]
    | raises error =>
        by_cases he : cfg.expectedException error <;> simp [ho, hq, he, step]
        split_ifs <;> rfl

end ResilienceCore.Breaker
