import ResilienceCore.Breaker.Threads

/-!
# Admission, and tripping on consecutive failures

`call` runs its operation only when its admission query, the `state` property
with its lazy OPEN → HALF_OPEN check, reads something other than OPEN; in the
`System` model that is the caller moving to `running`.  A rejected call records
one rejection and ends with `fallback_function(*args)` or a
`CircuitBreakerError`.

While no success is recorded and no `reset()` runs, a CLOSED breaker adds one to
`_failure_count` per expected failure and trips when it reaches
`failure_threshold`, and a breaker that has left CLOSED comes back only through
a success or a reset.  After the last of those failures `_state` is OPEN with
`_last_failure_time` at that failure.  Until `recovery_timeout` has passed since
then, every section of every caller (admissions, other callers' outcomes, the
failing call's own second query, state reads) leaves it OPEN, and every caller
that asks to be admitted is rejected.  The failing call's second query, taken
at its own reading, reads HALF_OPEN once `recovery_timeout` has passed.
-/

namespace ResilienceCore.Breaker

open CircuitBreaker

/-- An expected failure recorded by `_on_failure`. -/
def Op.isFailure : Op → Bool
  | .onFailure _ _ _ => true
  | _ => false

/-- A section that records no success and is not `reset()`: state queries,
rejections and failures, of any thread. -/
def Op.recordsNoSuccess : Op → Bool
  | .onSuccess _ _ => false
  | .reset => false
  | _ => true

variable {cfg : Config} {b : CircuitBreaker}

@[simp] theorem stateQuery_metrics (now : Timestamp) :
    (b.stateQuery cfg now).2.metrics = b.metrics := by
  rw [stateQuery_snd]; split_ifs <;> rfl

/-- What `call` returns when its admission query reads OPEN. -/
def rejection (cfg : Config) : CallResult :=
  if cfg.fallbackFunction then .fallback else .circuitBreakerError (openMessage cfg)

theorem sysStep_enter_ready {s : System} {i : ℕ} (hi : s.callers[i]? = some .ready)
    (now : Timestamp) :
    sysStep cfg s (.enter i now) = some
      (if (s.breaker.stateQuery cfg now).1 = .open then
        ⟨{ (s.breaker.stateQuery cfg now).2 with
            metrics := s.breaker.metrics.recordRejection },
          s.callers.set i (.done (rejection cfg))⟩
      else ⟨(s.breaker.stateQuery cfg now).2,
        s.callers.set i (.running (s.breaker.stateQuery cfg now).1 now)⟩) := by
  simp only [sysStep, hi, stateQuery_metrics, rejection]
  split_ifs <;> rfl

theorem call_of_open {startedAt : Timestamp} (h : (b.stateQuery cfg startedAt).1 = .open)
    (outcome : Outcome) (finishedAt checkedAt : Timestamp) :
    b.call cfg startedAt outcome finishedAt checkedAt =
      (rejection cfg, { (b.stateQuery cfg startedAt).2 with
        metrics := b.metrics.recordRejection }) := by
  simp only [call, h, if_true, rejection, stateQuery_metrics]
  split_ifs <;> rfl

/-! ## No success, no reset: failures only push towards OPEN -/

theorem step_closed {op : Op} (hop : op.recordsNoSuccess = true)
    (h : (step cfg b op).state = .closed) :
    b.state = .closed ∧
      (step cfg b op).failureCount = b.failureCount + if op.isFailure then 1 else 0 := by
  cases op with
  | state now =>
      simp only [step, stateQuery_snd, Op.isFailure, Bool.false_eq_true, if_false] at h ⊢
      split_ifs at h ⊢
      · simp [transitionToHalfOpen] at h
      · exact ⟨h, rfl⟩
  | onFailure error now duration =>
      simp only [step, CircuitBreaker.onFailure, Op.isFailure, if_true] at h ⊢
      cases hst : b.state <;> simp only [hst] at h ⊢
      · split_ifs at h ⊢
        · simp [transitionToOpen] at h
        · simp
      all_goals simp [transitionToOpen, hst] at h
  | recordRejection => exact ⟨h, rfl⟩
  | onSuccess now duration => cases hop
  | reset => cases hop

theorem run_closed {ops : List Op} (hops : ∀ op ∈ ops, op.recordsNoSuccess = true)
    (h : (run cfg b ops).state = .closed) :
    b.state = .closed ∧
      (run cfg b ops).failureCount = b.failureCount + (ops.filter Op.isFailure).length := by
  induction ops generalizing b with
  | nil => exact ⟨h, rfl⟩
  | cons op ops ih =>
      obtain ⟨hc, hcount⟩ := ih (fun op' h' => hops op' (List.mem_cons_of_mem _ h')) h
      obtain ⟨hb, hstep⟩ := step_closed (hops op (List.mem_cons_self _ _)) hc
      refine ⟨hb, ?_⟩
      rw [run_cons, hcount, hstep, List.filter_cons]
      split_ifs
      · simp only [List.length_cons]; omega
      · omega

theorem step_onFailure_open (error : PyException) (now : Timestamp) (duration : ℕ)
    (h : b.state = .closed → cfg.failureThreshold ≤ b.failureCount + 1) :
    (step cfg b (.onFailure error now duration)).state = .open := by
  simp only [step, CircuitBreaker.onFailure]
  cases hst : b.state with
  | closed =>
      have := h hst
      simp only [ge_iff_le, this, true_or, if_true, transitionToOpen]
  | halfOpen => rfl
  | «open» => simp [hst]

theorem stateQuery_open {t : Timestamp} (hopen : b.state = .open) (ht : b.lastFailureTime = some t)
    {now : Timestamp} (hnow : (now : ℤ) < t + cfg.recoveryTimeout) :
    b.stateQuery cfg now = (.open, b) := by
  have hr : b.shouldAttemptReset cfg now = false := by
    simp only [shouldAttemptReset, ht, decide_eq_false_iff_not, not_le]
    omega
  simp [stateQuery, hopen, hr]

/-! ## OPEN until `recovery_timeout` has passed, whatever the schedule -/

/-- The clock reading a section takes; `reset()` takes none. -/
def Action.reading : Action → Option Timestamp
  | .enter _ now | .complete _ now _ | .recheck _ now | .query now => some now
  | .reset => none

/-- OPEN, with a last failure no earlier than `t`. -/
def OpenSince (t : Timestamp) (b : CircuitBreaker) : Prop :=
  b.state = .open ∧ ∃ t', b.lastFailureTime = some t' ∧ t ≤ t'

theorem OpenSince.stateQuery {t : Timestamp} (h : OpenSince t b) {now : Timestamp}
    (hnow : (now : ℤ) < t + cfg.recoveryTimeout) : b.stateQuery cfg now = (.open, b) := by
  obtain ⟨hopen, t', hlast, ht⟩ := h
  have : (t : ℤ) ≤ t' := by exact_mod_cast ht
  exact stateQuery_open hopen hlast (by omega)

theorem sysStep_done {s s' : System} {action : Action} {i : ℕ} {result : CallResult}
    (hi : s.callers[i]? = some (.done result)) (h : sysStep cfg s action = some s') :
    s'.callers[i]? = some (.done result) := by
  have hframe : ∀ (j : ℕ) (pc : CallPc) (b : CircuitBreaker), j ≠ i →
      (⟨b, s.callers.set j pc⟩ : System).callers[i]? = some (.done result) := fun j pc b hj => by
    rw [List.getElem?_set_ne hj]; exact hi
  cases action with
  | enter j now =>
      simp only [sysStep] at h
      split at h
      · by_cases hj : j = i
        · subst hj; simp_all
        · split_ifs at h <;> cases h <;> exact hframe j _ _ hj
      · cases h
  | complete j now outcome =>
      simp only [sysStep] at h
      split at h
      · by_cases hj : j = i
        · subst hj; simp_all
        · cases outcome with
          | returns => cases h; exact hframe j _ _ hj
          | raises error => dsimp only at h; split_ifs at h <;> cases h <;> exact hframe j _ _ hj
      · cases h
  | recheck j now =>
      simp only [sysStep] at h
      split at h
      · by_cases hj : j = i
        · subst hj; simp_all
        · cases h; exact hframe j _ _ hj
      · cases h
  | query now => cases h; exact hi
  | reset => cases h; exact hi

theorem sysStep_openSince {t : Timestamp} {s s' : System} {action : Action} {r : Timestamp}
    (hr : action.reading = some r) (hlo : t ≤ r) (hhi : (r : ℤ) < t + cfg.recoveryTimeout)
    (hs : OpenSince t s.breaker) (h : sysStep cfg s action = some s') :
    OpenSince t s'.breaker ∧
      ∀ i now, action = .enter i now → s'.callers[i]? = some (.done (rejection cfg)) := by
  cases action with
  | enter i now =>
      cases hr
      simp only [sysStep] at h
      split at h
      · rename_i hready
        rw [hs.stateQuery hhi] at h
        simp only [if_true] at h
        cases h
        refine ⟨⟨hs.1, hs.2⟩, fun j now' hj => ?_⟩
        cases hj
        have hlt := (List.getElem?_eq_some_iff.1 hready).1
        simp [hlt, rejection]
      · cases h
  | complete i now outcome =>
      cases hr
      simp only [sysStep] at h
      split at h
      · refine ⟨?_, fun _ _ h => nomatch h⟩
        obtain ⟨hopen, t', hlast, ht⟩ := hs
        cases outcome with
        | returns =>
            cases h
            exact ⟨by simp [CircuitBreaker.onSuccess, hopen], t', by simpa [CircuitBreaker.onSuccess,
              hopen] using hlast, ht⟩
        | raises error =>
            dsimp only at h
            split_ifs at h <;> cases h
            · exact ⟨by simp [CircuitBreaker.onFailure, hopen], r, by simp, hlo⟩
            · exact ⟨hopen, t', hlast, ht⟩
      · cases h
  | recheck i now =>
      cases hr
      simp only [sysStep] at h
      split at h
      · rw [hs.stateQuery hhi] at h
        cases h
        exact ⟨hs, fun _ _ h => nomatch h⟩
      · cases h
  | query now =>
      cases hr
      cases h
      rw [hs.stateQuery hhi]
      exact ⟨hs, fun _ _ h => nomatch h⟩
  | reset => cases hr

theorem sysRun_openSince {t : Timestamp} :
    ∀ {actions : List Action} {s s' : System},
      (∀ a ∈ actions, ∃ r, a.reading = some r ∧ t ≤ r ∧ (r : ℤ) < t + cfg.recoveryTimeout) →
      OpenSince t s.breaker → sysRun cfg s actions = some s' →
      OpenSince t s'.breaker ∧
        ∀ i now, .enter i now ∈ actions → s'.callers[i]? = some (.done (rejection cfg))
  | [], s, s', _, hs, h => by cases h; exact ⟨hs, fun _ _ h => nomatch h⟩
  | action :: actions, s, s', hacts, hs, h => by
      obtain ⟨s₁, h₁, h₂⟩ := Option.bind_eq_some.1 h
      obtain ⟨r, hr, hlo, hhi⟩ := hacts action (List.mem_cons_self _ _)
      obtain ⟨hs₁, hentered⟩ := sysStep_openSince hr hlo hhi hs h₁
      obtain ⟨hs', hrest⟩ := sysRun_openSince (fun a ha => hacts a (List.mem_cons_of_mem _ ha)) hs₁ h₂
      refine ⟨hs', fun i now hmem => ?_⟩
      rcases List.mem_cons.1 hmem with rfl | hmem
      · exact sysRun_done_of (hentered i now rfl) h₂
      · exact hrest i now hmem
where
  sysRun_done_of {s s' : System} {actions : List Action} {i : ℕ} {result : CallResult}
      (hi : s.callers[i]? = some (.done result)) (h : sysRun cfg s actions = some s') :
      s'.callers[i]? = some (.done result) := by
    induction actions generalizing s with
    | nil => cases h; exact hi
    | cons action actions ih =>
        obtain ⟨s₁, h₁, h₂⟩ := Option.bind_eq_some.1 h
        exact ih (sysStep_done hi h₁) h₂

/--
An OPEN breaker rejects without running the operation.  From any system state a
ready caller's admission runs the operation exactly when the admission query
reads a state other than OPEN; a rejected caller ends with the fallback or a
`CircuitBreakerError` and adds exactly one rejection, an admitted one adds none.
From any CLOSED breaker, once `N ≥ 1` expected failures with `failure_threshold ≤ N`
are recorded with no success and no reset in between (other threads' queries and
rejections may interleave), `_state` is OPEN right after the last one, recorded
at `t`, with `_last_failure_time` at `t`.  The failing caller's second query, at
its own reading `c`, reads HALF_OPEN exactly when `t + recovery_timeout ≤ c`.
Any schedule of sections of any callers read from `t` on and before
`t + recovery_timeout` (admissions, outcomes, second queries, state reads) leaves
it OPEN, and rejects every caller it admits.
-/
theorem open_rejects_and_failures_trip :
    (∀ (s : System) (i : ℕ) (now : Timestamp), s.callers[i]? = some .ready →
      ∃ s', sysStep cfg s (.enter i now) = some s' ∧
        ((∃ admittedIn, s'.callers[i]? = some (.running admittedIn now)) ↔
          (s.breaker.stateQuery cfg now).1 ≠ .open) ∧
        ((s.breaker.stateQuery cfg now).1 = .open →
          s'.callers[i]? = some (.done (rejection cfg)) ∧
          s'.breaker.metrics.rejectedCalls = s.breaker.metrics.rejectedCalls + 1) ∧
        ((s.breaker.stateQuery cfg now).1 ≠ .open →
          s'.breaker.metrics.rejectedCalls = s.breaker.metrics.rejectedCalls)) ∧
    ∀ (b : CircuitBreaker) (pre : List Op) (error : PyException) (failedAt : Timestamp)
      (duration : ℕ), b.state = .closed → (∀ op ∈ pre, op.recordsNoSuccess = true) →
      cfg.failureThreshold ≤ (pre.filter Op.isFailure).length + 1 →
      let tripped := run cfg b (pre ++ [.onFailure error failedAt duration])
      tripped.state = .open ∧ tripped.lastFailureTime = some failedAt ∧
      (∀ (callers : List CallPc) (i : ℕ) (failure : PyException) (checkedAt : Timestamp),
        callers[i]? = some (.failed failure) →
        ∃ s', sysStep cfg ⟨tripped, callers⟩ (.recheck i checkedAt) = some s' ∧
          (s'.breaker.state = .halfOpen ↔ (failedAt : ℤ) + cfg.recoveryTimeout ≤ checkedAt)) ∧
      ∀ (callers : List CallPc) (actions : List Action) (s' : System),
        (∀ a ∈ actions, ∃ r, a.reading = some r ∧ failedAt ≤ r ∧
          (r : ℤ) < failedAt + cfg.recoveryTimeout) →
        sysRun cfg ⟨tripped, callers⟩ actions = some s' →
        s'.breaker.state = .open ∧
          ∀ i now, .enter i now ∈ actions → s'.callers[i]? = some (.done (rejection cfg)) := by
  refine ⟨fun s i now hi => ?_, fun b pre error failedAt duration hb hpre hN => ?_⟩
  · rw [sysStep_enter_ready hi]
    have hlt := (List.getElem?_eq_some_iff.1 hi).1
    by_cases ho : (s.breaker.stateQuery cfg now).1 = .open
    · refine ⟨_, rfl, ?_, fun _ => ?_, fun h => absurd ho h⟩ <;>
        simp [ho, hlt, CircuitBreakerMetrics.recordRejection]
    · refine ⟨_, rfl, ?_, fun h => absurd h ho, fun _ => ?_⟩ <;> simp [ho, hlt]
  · intro tripped
    have hopen : tripped.state = .open := by
      show (run cfg b (pre ++ [.onFailure error failedAt duration])).state = _
      rw [run_concat]
      refine step_onFailure_open error failedAt duration fun hc => ?_
      rw [(run_closed hpre hc).2]
      omega
    have hlast : tripped.lastFailureTime = some failedAt := by
      show (run cfg b (pre ++ [.onFailure error failedAt duration])).lastFailureTime = _
      rw [run_concat]; exact onFailure_lastFailureTime error failedAt duration
    refine ⟨hopen, hlast, fun callers i failure checkedAt hi => ?_,
      fun callers actions s' hacts hrun =>
        (sysRun_openSince hacts ⟨hopen, failedAt, hlast, le_rfl⟩ hrun).imp_left And.left⟩
    refine ⟨_, by simp only [sysStep, hi]; rfl, ?_⟩
    simp only [stateQuery, hopen, if_true, shouldAttemptReset, hlast, decide_eq_true_eq]
    split_ifs with hr <;> simp [transitionToHalfOpen, hopen] <;> omega

/-- A breaker that trips on its first failure and may be probed again at once. -/
def instantRetry : Config :=
  { name := "instant_retry", failureThreshold := 1, recoveryTimeout := 0 }

/-- From the fresh, CLOSED `instant_retry`, one failing call, `failure_threshold`
failures, leaves the breaker HALF_OPEN and re-raises: `_on_failure` opened it,
and the call's own state check at the same reading moved it on at once. -/
theorem instantRetry_failure_leaves_halfOpen :
    instantRetry.failureThreshold = 1 ∧ (init instantRetry).state = .closed ∧
      (init instantRetry).call instantRetry 1 (.raises databaseError) 1 1 =
        (.raised databaseError,
          ((init instantRetry).onFailure instantRetry databaseError 1 0).transitionToHalfOpen) ∧
      ((init instantRetry).onFailure instantRetry databaseError 1 0).state = .open ∧
      ((init instantRetry).call instantRetry 1 (.raises databaseError) 1 1).2.state = .halfOpen := by
  decide

end ResilienceCore.Breaker
