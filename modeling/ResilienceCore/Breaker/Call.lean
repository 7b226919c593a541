import ResilienceCore.Breaker.Invariant
import Mathlib.Tactic.NormNum

/-!
# When `call` falls back after a failure

After an expected failure `call` asks for `self.state` again and falls back
when it reads HALF_OPEN.  By then `_on_failure` has already moved a HALF_OPEN
breaker to OPEN and stamped `_last_failure_time` with its reading, so the
second query, at its own later reading, reads HALF_OPEN only through the lazy
recovery check, once `recovery_timeout` has passed since that stamp.
-/

namespace ResilienceCore.Breaker

open CircuitBreaker

variable {cfg : Config} {b : CircuitBreaker}

@[simp] theorem onFailure_lastFailureTime (error : PyException) (now : Timestamp)
    (duration : ℕ) : (b.onFailure cfg error now duration).lastFailureTime = some now := by
  unfold CircuitBreaker.onFailure
  cases b.state <;> dsimp only <;> (try split_ifs) <;> rfl

theorem onFailure_state_ne_halfOpen (error : PyException) (now : Timestamp) (duration : ℕ) :
    (b.onFailure cfg error now duration).state ≠ .halfOpen := by
  unfold CircuitBreaker.onFailure
  cases hst : b.state <;> dsimp only <;> (try split_ifs) <;> simp [hst, transitionToOpen]

theorem stateQuery_after_onFailure (error : PyException) (now checkedAt : Timestamp) (duration : ℕ) :
    ((b.onFailure cfg error now duration).stateQuery cfg checkedAt).1 = .halfOpen ↔
      (b.onFailure cfg error now duration).state = .open ∧
        cfg.recoveryTimeout ≤ (checkedAt : ℤ) - now := by
  have hne := @onFailure_state_ne_halfOpen cfg b error now duration
  simp only [stateQuery, shouldAttemptReset, onFailure_lastFailureTime, decide_eq_true_eq]
  split_ifs <;> simp_all [transitionToHalfOpen]

theorem call_raises_expected {startedAt finishedAt checkedAt : Timestamp} {error : PyException}
    (hadm : (b.stateQuery cfg startedAt).1 ≠ .open) (he : cfg.expectedException error = true) :
    (b.call cfg startedAt (.raises error) finishedAt checkedAt).1 =
      if ((b.stateQuery cfg startedAt).2.onFailure cfg error finishedAt
            ((finishedAt : ℕ) - startedAt)).state = .open ∧
          cfg.recoveryTimeout ≤ (checkedAt : ℤ) - finishedAt ∧ cfg.fallbackFunction = true
      then .fallback else .raised error := by
  have key := @stateQuery_after_onFailure cfg (b.stateQuery cfg startedAt).2
    error finishedAt checkedAt ((finishedAt : ℕ) - startedAt)
  simp only [call, hadm, he, if_false, if_true]
  split_ifs <;> simp_all

/-- `Exception("Database connection failed")`, as `query_database` raises it. -/
def databaseError : PyException := ⟨"Exception", "Database connection failed"⟩

/-- The `database_query` breaker after its first failure at `t = 1` and a state
read at `t = 61`. -/
def probedDatabaseQuery : CircuitBreaker :=
  run databaseQuery (init databaseQuery) [.onFailure databaseError 1 0, .state 61]

/--
The first failure opens `database_query` (its window failure rate is 1) and it
is HALF_OPEN at `t = 61`; a probe admitted then whose query fails at `t = 61`
re-raises instead of returning the fallback, whenever its second state query
comes before `recovery_timeout` has passed again.
-/
theorem databaseQuery_probe_failure_reraises :
    probedDatabaseQuery.state = .halfOpen ∧
      ∀ checkedAt : Timestamp, (checkedAt : ℤ) < 61 + databaseQuery.recoveryTimeout →
        (probedDatabaseQuery.call databaseQuery 61 (.raises databaseError) 61 checkedAt).1 =
          .raised databaseError := by
  have hb : probedDatabaseQuery.state = .halfOpen := by
    norm_num [probedDatabaseQuery, run, step, CircuitBreaker.onFailure, init, databaseQuery,
      CircuitBreakerMetrics.init, CircuitBreakerMetrics.recordFailure,
      CircuitBreakerMetrics.getFailureRate, dequeAppend, transitionToOpen, stateQuery,
      shouldAttemptReset, transitionToHalfOpen]
  have hadm : (probedDatabaseQuery.stateQuery databaseQuery 61).1 ≠ .open := by
    simp [stateQuery, hb]
  refine ⟨hb, fun checkedAt hchecked => ?_⟩
  rw [call_raises_expected hadm rfl, if_neg]
  rintro ⟨-, hpassed, -⟩
  have h61 : ((61 : Timestamp) : ℤ) = 61 := rfl
  simp only [databaseQuery] at hchecked hpassed
  omega

end ResilienceCore.Breaker
