import ResilienceCore.Breaker.Machine

/-!
# The breaker's reachable-state invariant

Every transition zeroes both counters, `_transition_to_open` stamps
`circuit_opened_at` right after `_on_failure` stamped `_last_failure_time`, and
OPEN is left only towards HALF_OPEN, which keeps both stamps.  So each state
pins down its counters and stamps (`PhaseInv`), whatever thread performs the
next atomic section.
-/

namespace ResilienceCore.Breaker

open CircuitBreaker

variable (cfg : Config)

/-- What each state says of the counters and the two stamps. -/
def PhaseInv (b : CircuitBreaker) : Prop :=
  match b.state with
  | .closed =>
      b.successCount = 0 ∧ b.failureCount < cfg.failureThreshold ∧
        b.metrics.circuitOpenedAt = none
  | .open =>
      b.failureCount = 0 ∧ b.successCount = 0 ∧ b.lastFailureTime ≠ none ∧
        b.metrics.circuitOpenedAt ≠ none
  | .halfOpen =>
      b.failureCount = 0 ∧ b.successCount < cfg.successThreshold ∧
        b.lastFailureTime ≠ none ∧ b.metrics.circuitOpenedAt ≠ none

structure Inv (b : CircuitBreaker) : Prop where
  phase : PhaseInv cfg b
  windowSize_eq : b.metrics.windowSize = cfg.windowSize
  metrics : b.metrics.WellFormed

/-! ## The transitions -/

variable {cfg} {b : CircuitBreaker}

theorem phaseInv_transitionToOpen (h : b.lastFailureTime ≠ none) (now : Timestamp) :
    PhaseInv cfg (b.transitionToOpen now) := by
  simp [PhaseInv, transitionToOpen, h]

theorem phaseInv_transitionToClosed (hf : 1 ≤ cfg.failureThreshold) :
    PhaseInv cfg b.transitionToClosed := by
  simp [PhaseInv, transitionToClosed]; omega

theorem Inv.transition (hi : Inv cfg b) {b' : CircuitBreaker} (hp : PhaseInv cfg b')
    (hm : b'.metrics = { b.metrics with circuitOpenedAt := b'.metrics.circuitOpenedAt }) :
    Inv cfg b' where
  phase := hp
  windowSize_eq := by rw [hm]; exact hi.windowSize_eq
  metrics := by rw [hm]; exact ⟨hi.metrics.calls_length_le, hi.metrics.totalCalls_eq⟩

theorem stateQuery_snd (now : Timestamp) :
    (b.stateQuery cfg now).2 =
      if b.state = .open ∧ b.shouldAttemptReset cfg now = true then b.transitionToHalfOpen
      else b := by
  unfold stateQuery; split_ifs <;> simp_all

theorem shouldAttemptReset_iff {now : Timestamp} :
    b.shouldAttemptReset cfg now = true ↔
      ∃ t : Timestamp, b.lastFailureTime = some t ∧ (t : ℤ) + cfg.recoveryTimeout ≤ now := by
  unfold shouldAttemptReset
  split <;> simp_all
  omega

theorem shouldAttemptReset_isSome {now : Timestamp} (h : b.shouldAttemptReset cfg now = true) :
    b.lastFailureTime ≠ none := by
  obtain ⟨t, ht, -⟩ := shouldAttemptReset_iff.1 h
  simp [ht]

/-! ## One atomic section keeps the invariant -/

theorem Inv.stateQuery (hs : 1 ≤ cfg.successThreshold) (hi : Inv cfg b) (now : Timestamp) :
    Inv cfg (b.stateQuery cfg now).2 := by
  rw [stateQuery_snd]
  split_ifs with h
  · refine hi.transition ?_ rfl
    have hp := hi.phase
    simp only [PhaseInv, h.1] at hp
    simp [PhaseInv, transitionToHalfOpen, shouldAttemptReset_isSome h.2, hp.2.2.2]
    omega
  · exact hi

theorem Inv.onSuccess (hf : 1 ≤ cfg.failureThreshold) (hi : Inv cfg b) (now : Timestamp)
    (duration : ℕ) : Inv cfg (b.onSuccess cfg now duration) := by
  have hw : Inv cfg { b with metrics := b.metrics.recordSuccess now duration } :=
    ⟨hi.phase, hi.windowSize_eq, hi.metrics.recordSuccess now duration⟩
  have hp := hi.phase
  dsimp only [CircuitBreaker.onSuccess]
  split_ifs with hh hge
  · exact hw.transition (phaseInv_transitionToClosed hf) rfl
  · refine hw.transition ?_ rfl
    simp only [PhaseInv, hh] at hp ⊢
    exact ⟨hp.1, Nat.lt_of_not_le hge, hp.2.2⟩
  · refine hw.transition ?_ rfl
    cases hst : b.state <;> simp_all [PhaseInv]
    omega

theorem Inv.onFailure (hi : Inv cfg b) (error : PyException) (now : Timestamp)
    (duration : ℕ) : Inv cfg (b.onFailure cfg error now duration) := by
  have hp := hi.phase
  have hw : Inv cfg { b with
      metrics := b.metrics.recordFailure error now duration, lastFailureTime := some now } :=
    ⟨by cases hst : b.state <;> simp_all [PhaseInv], hi.windowSize_eq,
      hi.metrics.recordFailure error now duration⟩
  dsimp only [CircuitBreaker.onFailure]
  cases hst : b.state with
  | closed =>
      split_ifs with hopen
      · exact hw.transition (phaseInv_transitionToOpen (by simp) now) rfl
      · refine hw.transition ?_ rfl
        simp only [PhaseInv, hst] at hp ⊢
        simp only [ge_iff_le, not_or, not_le] at hopen
        exact ⟨hp.1, hopen.1, hp.2.2⟩
  | halfOpen => exact hw.transition (phaseInv_transitionToOpen (by simp) now) rfl
  | «open» => simpa only [hst] using hw

theorem Inv.step (hf : 1 ≤ cfg.failureThreshold) (hs : 1 ≤ cfg.successThreshold)
    (hi : Inv cfg b) : ∀ op, Inv cfg (step cfg b op)
  | .state now => hi.stateQuery hs now
  | .onSuccess now duration => hi.onSuccess hf now duration
  | .onFailure error now duration => hi.onFailure error now duration
  | .recordRejection => ⟨hi.phase, hi.windowSize_eq, hi.metrics.recordRejection⟩
  | .reset => hi.transition (phaseInv_transitionToClosed hf) rfl

theorem Inv.run (hf : 1 ≤ cfg.failureThreshold) (hs : 1 ≤ cfg.successThreshold)
    (hi : Inv cfg b) (ops : List Op) : Inv cfg (run cfg b ops) := by
  induction ops generalizing b with
  | nil => exact hi
  | cons op ops ih => exact ih (hi.step hf hs op)

theorem inv_init (hf : 1 ≤ cfg.failureThreshold) : Inv cfg (init cfg) :=
  ⟨by simp [PhaseInv, init, CircuitBreakerMetrics.init]; omega, rfl,
    CircuitBreakerMetrics.init_wellFormed _⟩

theorem inv_run_init (hf : 1 ≤ cfg.failureThreshold) (hs : 1 ≤ cfg.successThreshold)
    (ops : List Op) : Inv cfg (run cfg (init cfg) ops) :=
  (inv_init hf).run hf hs ops

/-! ## The invariant, stated on the breaker's fields -/

/--
From any reachable state, and whatever interleaving produced it: each state
fixes its counters and stamps, the window stays within `window_size`, every
call is counted once, and an OPEN breaker has a last failure time from which
the lazy recovery check fires once `recovery_timeout` has passed.
-/
theorem breaker_reachable_invariant (hf : 1 ≤ cfg.failureThreshold)
    (hs : 1 ≤ cfg.successThreshold) (ops : List Op) :
    let b := run cfg (init cfg) ops
    (b.state = .closed → b.successCount = 0 ∧ b.failureCount < cfg.failureThreshold ∧
        b.metrics.circuitOpenedAt = none) ∧
    (b.state = .open → b.failureCount = 0 ∧ b.successCount = 0 ∧
        b.lastFailureTime ≠ none ∧ b.metrics.circuitOpenedAt ≠ none) ∧
    (b.state = .halfOpen → b.failureCount = 0 ∧ b.successCount < cfg.successThreshold ∧
        b.lastFailureTime ≠ none ∧ b.metrics.circuitOpenedAt ≠ none) ∧
    b.metrics.calls.length ≤ b.metrics.windowSize ∧
    b.metrics.totalCalls =
      b.metrics.successfulCalls + b.metrics.failedCalls + b.metrics.rejectedCalls ∧
    (b.state = .open → ∃ t : Timestamp, b.lastFailureTime = some t ∧
      ∀ now : Timestamp, (t : ℤ) + cfg.recoveryTimeout ≤ now →
        (b.stateQuery cfg now).1 = .halfOpen) := by
  intro b
  have hi : Inv cfg b := inv_run_init hf hs ops
  clear_value b
  have hp := hi.phase
  refine ⟨fun h => ?_, fun h => ?_, fun h => ?_, hi.metrics.calls_length_le,
    hi.metrics.totalCalls_eq, fun h => ?_⟩
  all_goals simp only [PhaseInv, h] at hp
  · exact hp
  · exact hp
  · exact hp
  · obtain ⟨t, ht⟩ := Option.ne_none_iff_exists'.1 hp.2.2.1
    refine ⟨t, ht, fun now hnow => ?_⟩
    have hr : b.shouldAttemptReset cfg now = true := shouldAttemptReset_iff.2 ⟨t, ht, hnow⟩
    simp [stateQuery, h, hr, transitionToHalfOpen]

/-- `ConnectionError("connection refused")`, the failure `postgres_main` expects. -/
def connectionError : PyException := ⟨"ConnectionError", "connection refused"⟩

theorem postgresMain_reachable_invariant :
    1 ≤ postgresMain.failureThreshold ∧ 1 ≤ postgresMain.successThreshold ∧
    let b := run postgresMain (init postgresMain) [.onFailure connectionError 1 0, .state 200]
    (b.state = .closed → b.successCount = 0 ∧ b.failureCount < postgresMain.failureThreshold ∧
        b.metrics.circuitOpenedAt = none) ∧
    (b.state = .open → b.failureCount = 0 ∧ b.successCount = 0 ∧
        b.lastFailureTime ≠ none ∧ b.metrics.circuitOpenedAt ≠ none) ∧
    (b.state = .halfOpen → b.failureCount = 0 ∧ b.successCount < postgresMain.successThreshold ∧
        b.lastFailureTime ≠ none ∧ b.metrics.circuitOpenedAt ≠ none) ∧
    b.metrics.calls.length ≤ b.metrics.windowSize ∧
    b.metrics.totalCalls =
      b.metrics.successfulCalls + b.metrics.failedCalls + b.metrics.rejectedCalls ∧
    (b.state = .open → ∃ t : Timestamp, b.lastFailureTime = some t ∧
      ∀ now : Timestamp, (t : ℤ) + postgresMain.recoveryTimeout ≤ now →
        (b.stateQuery postgresMain now).1 = .halfOpen) :=
  ⟨by decide, by decide, breaker_reachable_invariant (by decide) (by decide) _⟩

end ResilienceCore.Breaker
