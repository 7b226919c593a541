import ResilienceCore.Breaker.Invariant

/-!
# The breaker refines the §4.1 state machine

`Transition` and `specNext` are §4.1 read as a machine over the breaker's
state: four guarded moves and `reset()`.  From every reachable state each
atomic section moves `_state` exactly as `specNext` says.  The two guards that
the code writes differently, `success_count >= success_threshold` and the
`_last_failure_time and now - t >= recovery_timeout` test, agree with the
spec's on reachable states only: the first needs `success_count <
success_threshold` while HALF_OPEN, the second needs OPEN to carry a failure
time.

The breaker's metrics, in turn, are `CircuitBreakerMetrics` run on the calls its
sections make on them, but for `circuit_opened_at`, which the transitions set.
-/

namespace ResilienceCore.Breaker

open CircuitBreaker

variable (cfg : Config)

/-- The moves §4.1 allows besides `reset()`. -/
inductive Transition : CircuitState → CircuitState → Prop
  | trip : Transition .closed .open
  | probe : Transition .open .halfOpen
  | recover : Transition .halfOpen .closed
  | reopen : Transition .halfOpen .open

/-- §4.1's next state after one atomic section, from its guards. -/
def specNext (b : CircuitBreaker) : Op → CircuitState
  | .state now =>
      if b.state = .open ∧
          b.lastFailureTime.any fun (t : Timestamp) => decide ((t : ℤ) + cfg.recoveryTimeout ≤ now)
      then .halfOpen else b.state
  | .onSuccess _ _ =>
      if b.state = .halfOpen ∧ b.successCount + 1 = cfg.successThreshold then .closed
      else b.state
  | .onFailure error now duration =>
      match b.state with
      | .closed =>
          if cfg.failureThreshold ≤ b.failureCount + 1 ∨
              cfg.failureRateThreshold ≤ (b.metrics.recordFailure error now duration).getFailureRate
          then .open else .closed
      | .halfOpen => .open
      | .open => .open
  | .recordRejection => b.state
  | .reset => .closed

variable {cfg}

theorem specNext_transition (b : CircuitBreaker) (op : Op) (h : specNext cfg b op ≠ b.state) :
    Transition b.state (specNext cfg b op) ∨ op = .reset := by
  cases op with
  | reset => exact .inr rfl
  | recordRejection => exact absurd rfl h
  | state now =>
      simp only [specNext] at h ⊢
      split_ifs at h ⊢ with hg
      · exact .inl (hg.1 ▸ .probe)
      · exact absurd rfl h
  | onSuccess now duration =>
      simp only [specNext] at h ⊢
      split_ifs at h ⊢ with hg
      · exact .inl (hg.1 ▸ .recover)
      · exact absurd rfl h
  | onFailure error now duration =>
      simp only [specNext] at h ⊢
      cases hst : b.state <;> simp only [hst] at h ⊢
      · split_ifs at h ⊢
        · exact .inl .trip
        · exact absurd rfl h
      · exact absurd rfl h
      · exact .inl .reopen

theorem Option.any_le_iff (o : Option Timestamp) (r : ℤ) (now : Timestamp) :
    o.any (fun (t : Timestamp) => decide ((t : ℤ) + r ≤ now)) = true ↔
      ∃ t : Timestamp, o = some t ∧ (t : ℤ) + r ≤ now := by
  cases o <;> simp

variable {b : CircuitBreaker}

theorem step_state_eq_specNext (hi : Inv cfg b) (op : Op) :
    (step cfg b op).state = specNext cfg b op := by
  have hp := hi.phase
  cases op with
  | state now =>
      simp only [step, stateQuery_snd, specNext, Option.any_le_iff, ← shouldAttemptReset_iff]
      split_ifs <;> simp [transitionToHalfOpen]
  | onSuccess now duration =>
      simp only [step, specNext, CircuitBreaker.onSuccess]
      cases hst : b.state with
      | halfOpen =>
          simp only [hst, PhaseInv] at hp
          by_cases hc : cfg.successThreshold ≤ b.successCount + 1
          · have : b.successCount + 1 = cfg.successThreshold := by omega
            simp [hc, this, transitionToClosed]
          · have : b.successCount + 1 ≠ cfg.successThreshold := by omega
            simp [hc, this]
      | closed | «open» => simp
  | onFailure error now duration =>
      simp only [step, specNext, CircuitBreaker.onFailure]
      cases hst : b.state <;> simp [hst, transitionToOpen]
      split_ifs <;> simp_all [transitionToOpen]
  | recordRejection => rfl
  | reset => rfl

/--
Along any run, from any interleaving of calls, state reads and resets, every
change of `_state` is one of §4.1's moves or `reset()`, taken exactly when its
guard holds.  A call whose operation raises an exception outside
`expected_exception` records nothing: it re-raises, and the breaker is as its
admission query left it.
-/
theorem breaker_refines_state_machine (hf : 1 ≤ cfg.failureThreshold)
    (hs : 1 ≤ cfg.successThreshold) (ops : List Op) (op : Op) :
    let b := run cfg (init cfg) ops
    (step cfg b op).state = specNext cfg b op ∧
    ((step cfg b op).state ≠ b.state →
      Transition b.state (step cfg b op).state ∨ op = .reset) ∧
    ∀ (startedAt finishedAt checkedAt : Timestamp) (error : PyException),
      cfg.expectedException error = false → (b.stateQuery cfg startedAt).1 ≠ .open →
      b.call cfg startedAt (.raises error) finishedAt checkedAt =
        (.raised error, (b.stateQuery cfg startedAt).2) := by
  intro b
  have hi : Inv cfg b := inv_run_init hf hs ops
  clear_value b
  have heq := step_state_eq_specNext hi op
  refine ⟨heq, fun h => ?_, fun startedAt finishedAt checkedAt error he ho => ?_⟩
  · rw [heq] at h ⊢
    exact specNext_transition b op h
  · simp [call, ho, he]

theorem postgresMain_refines_state_machine :
    1 ≤ postgresMain.failureThreshold ∧ 1 ≤ postgresMain.successThreshold ∧
    let b := run postgresMain (init postgresMain) []
    let op := Op.onFailure connectionError 1 0
    (step postgresMain b op).state = specNext postgresMain b op ∧
    ((step postgresMain b op).state ≠ b.state →
      Transition b.state (step postgresMain b op).state ∨ op = .reset) ∧
    ∀ (startedAt finishedAt checkedAt : Timestamp) (error : PyException),
      postgresMain.expectedException error = false →
      (b.stateQuery postgresMain startedAt).1 ≠ .open →
      b.call postgresMain startedAt (.raises error) finishedAt checkedAt =
        (.raised error, (b.stateQuery postgresMain startedAt).2) :=
  ⟨by decide, by decide, breaker_refines_state_machine (by decide) (by decide) _ _⟩

/-! ## The breaker's metrics are `CircuitBreakerMetrics` run on its calls -/

/-- The method a section calls on `self.metrics`, if any. -/
def Op.metricsCall? : Op → Option MetricsCall
  | .onSuccess now duration => some (.recordSuccess now duration)
  | .onFailure error now duration => some (.recordFailure error now duration)
  | .recordRejection => some .recordRejection
  | .state _ | .reset => none

theorem step_metrics (op : Op) :
    (step cfg b op).metrics = { op.metricsCall?.elim b.metrics b.metrics.exec with
      circuitOpenedAt := (step cfg b op).metrics.circuitOpenedAt } := by
  cases op with
  | state now => rw [step, stateQuery_snd]; split_ifs <;> rfl
  | onSuccess now duration => simp only [step, CircuitBreaker.onSuccess]; split_ifs <;> rfl
  | onFailure error now duration =>
      simp only [step, CircuitBreaker.onFailure]
      cases b.state <;> (try split_ifs) <;> rfl
  | recordRejection => rfl
  | reset => rfl

end ResilienceCore.Breaker
