import ResilienceCore.Breaker.Admission
import Mathlib.Tactic.NormNum

/-!
# What `reset()` forgets

`reset()` is `_transition_to_closed()` under the state lock: CLOSED, both
counters zeroed, `circuit_opened_at` cleared.  It keeps `_last_failure_time` and
the whole `CircuitBreakerMetrics`, the rolling window `calls` included.

Only part of a breaker decides what it does next: the state, the two counters,
the window (through `get_failure_rate`) and, once it has left CLOSED, the last
failure time.  Two breakers that agree there (`SameBehaviour`) take the same
transitions and give every caller the same answers under every schedule.  A
reset breaker agrees so with a fresh one whose window already holds its calls,
and with a fresh one outright only when that window is empty.
-/

namespace ResilienceCore.Breaker

open CircuitBreaker

/-- The part of a breaker its future transitions and answers read. -/
structure SameBehaviour (b b' : CircuitBreaker) : Prop where
  state : b.state = b'.state
  failureCount : b.failureCount = b'.failureCount
  successCount : b.successCount = b'.successCount
  calls : b.metrics.calls = b'.metrics.calls
  windowSize : b.metrics.windowSize = b'.metrics.windowSize
  lastFailureTime : b.state ≠ .closed → b.lastFailureTime = b'.lastFailureTime

variable (cfg : Config)

/-- A freshly constructed breaker whose rolling window already holds `calls`. -/
def freshWith (calls : List CallRecord) : CircuitBreaker :=
  { init cfg with metrics := { CircuitBreakerMetrics.init cfg.windowSize with calls := calls } }

variable {cfg} {b b' : CircuitBreaker}

@[simp] theorem step_windowSize (op : Op) :
    (step cfg b op).metrics.windowSize = b.metrics.windowSize := by
  rw [step_metrics]
  cases op.metricsCall? with
  | none => rfl
  | some call => exact (CircuitBreakerMetrics.exec_step call).1

theorem run_windowSize (ops : List Op) :
    (run cfg b ops).metrics.windowSize = b.metrics.windowSize := by
  induction ops generalizing b with
  | nil => rfl
  | cons op ops ih => rw [run_cons, ih, step_windowSize]

theorem SameBehaviour.refl (b : CircuitBreaker) : SameBehaviour b b :=
  ⟨rfl, rfl, rfl, rfl, rfl, fun _ => rfl⟩

theorem SameBehaviour.shouldAttemptReset (h : SameBehaviour b b') (hopen : b.state = .open)
    (now : Timestamp) : b.shouldAttemptReset cfg now = b'.shouldAttemptReset cfg now := by
  simp only [CircuitBreaker.shouldAttemptReset, h.lastFailureTime (by simp [hopen])]

theorem SameBehaviour.stateQuery (h : SameBehaviour b b') (now : Timestamp) :
    (b.stateQuery cfg now).1 = (b'.stateQuery cfg now).1 ∧
      SameBehaviour (b.stateQuery cfg now).2 (b'.stateQuery cfg now).2 := by
  suffices hs : SameBehaviour (b.stateQuery cfg now).2 (b'.stateQuery cfg now).2 from ⟨hs.state, hs⟩
  rw [stateQuery_snd, stateQuery_snd, ← h.state]
  by_cases hopen : b.state = .open
  · rw [@SameBehaviour.shouldAttemptReset cfg b b' h hopen now]
    split_ifs
    · exact ⟨rfl, rfl, rfl, h.calls, h.windowSize, fun _ => h.lastFailureTime (by simp [hopen])⟩
    · exact h
  · simpa only [hopen, false_and, if_false] using h

theorem SameBehaviour.stateQuery_eq (h : SameBehaviour b b') (now : Timestamp) :
    ∃ adm b₂ b₂', b.stateQuery cfg now = (adm, b₂) ∧ b'.stateQuery cfg now = (adm, b₂') ∧
      SameBehaviour b₂ b₂' :=
  ⟨_, _, (b'.stateQuery cfg now).2, rfl, Prod.ext (h.stateQuery now).1.symm rfl, (h.stateQuery now).2⟩

theorem SameBehaviour.recordRejection (h : SameBehaviour b b') :
    SameBehaviour { b with metrics := b.metrics.recordRejection }
      { b' with metrics := b'.metrics.recordRejection } :=
  ⟨h.state, h.failureCount, h.successCount, h.calls, h.windowSize, h.lastFailureTime⟩

theorem SameBehaviour.onSuccess (h : SameBehaviour b b') (now : Timestamp) (duration : ℕ) :
    SameBehaviour (b.onSuccess cfg now duration) (b'.onSuccess cfg now duration) := by
  have hcalls : (b.metrics.recordSuccess now duration).calls =
      (b'.metrics.recordSuccess now duration).calls := by
    simp [CircuitBreakerMetrics.recordSuccess, h.calls, h.windowSize]
  simp only [CircuitBreaker.onSuccess, ← h.state, ← h.successCount]
  split_ifs with hh hge
  · exact ⟨rfl, rfl, rfl, hcalls, h.windowSize, fun hc => absurd rfl hc⟩
  · exact ⟨rfl, h.failureCount, rfl, hcalls, h.windowSize,
      fun _ => h.lastFailureTime (by simp [hh])⟩
  · exact ⟨rfl, rfl, rfl, hcalls, h.windowSize, h.lastFailureTime⟩

theorem SameBehaviour.onFailure (h : SameBehaviour b b') (error : PyException) (now : Timestamp)
    (duration : ℕ) :
    SameBehaviour (b.onFailure cfg error now duration) (b'.onFailure cfg error now duration) := by
  have hm : (b.metrics.recordFailure error now duration).calls =
      (b'.metrics.recordFailure error now duration).calls := by
    simp [CircuitBreakerMetrics.recordFailure, h.calls, h.windowSize]
  have hrate : (b.metrics.recordFailure error now duration).getFailureRate =
      (b'.metrics.recordFailure error now duration).getFailureRate := by
    simp only [CircuitBreakerMetrics.getFailureRate, hm]
  have hw : (b.metrics.recordFailure error now duration).windowSize =
      (b'.metrics.recordFailure error now duration).windowSize := by
    simp [h.windowSize]
  simp only [CircuitBreaker.onFailure, ← h.state, ← h.failureCount, hrate]
  cases b.state <;> (try split_ifs) <;>
    exact ⟨rfl, rfl, by first | rfl | exact h.successCount, hm, hw, fun _ => rfl⟩

theorem SameBehaviour.reset (b b' : CircuitBreaker) (hc : b.metrics.calls = b'.metrics.calls)
    (hw : b.metrics.windowSize = b'.metrics.windowSize) : SameBehaviour b.reset b'.reset :=
  ⟨rfl, rfl, rfl, hc, hw, fun h => absurd rfl h⟩

theorem SameBehaviour.step (h : SameBehaviour b b') (op : Op) :
    SameBehaviour (step cfg b op) (step cfg b' op) := by
  cases op with
  | state now => exact (h.stateQuery now).2
  | onSuccess now duration => exact h.onSuccess now duration
  | onFailure error now duration => exact h.onFailure error now duration
  | recordRejection => exact h.recordRejection
  | reset => exact SameBehaviour.reset b b' h.calls h.windowSize

/-! ## Every schedule -/

/-- Same callers, and breakers that behave alike. -/
def SystemsAlike (s s' : System) : Prop := SameBehaviour s.breaker s'.breaker ∧ s.callers = s'.callers

theorem SystemsAlike.next {s s' : System} (h : SystemsAlike s s') (a : Action) :
    Option.Rel SystemsAlike (sysStep cfg s a) (sysStep cfg s' a) := by
  obtain ⟨b, callers⟩ := s
  obtain ⟨b', callers'⟩ := s'
  obtain ⟨h, hc⟩ := h
  obtain rfl : callers = callers' := hc
  cases a with
  | enter i now =>
      obtain ⟨adm, b₂, b₂', hq, hq', h2⟩ := @SameBehaviour.stateQuery_eq cfg b b' h now
      simp only [sysStep, hq, hq']
      generalize callers[i]? = o
      rcases o with _ | _ | _ | _ <;> try exact .none
      split_ifs <;> exact .some ⟨by first | exact h2.recordRejection | exact h2, rfl⟩
  | complete i now outcome =>
      simp only [sysStep]
      generalize callers[i]? = o
      rcases o with _ | _ | ⟨admittedIn, startedAt⟩ | _ | _ <;> try exact .none
      rcases outcome with _ | error
      · exact .some ⟨h.onSuccess now _, rfl⟩
      · dsimp only
        split_ifs
        · exact .some ⟨h.onFailure error now _, rfl⟩
        · exact .some ⟨h, rfl⟩
  | recheck i now =>
      obtain ⟨adm, b₂, b₂', hq, hq', h2⟩ := @SameBehaviour.stateQuery_eq cfg b b' h now
      simp only [sysStep, hq, hq']
      generalize callers[i]? = o
      rcases o with _ | _ | _ | error | _ <;> try exact .none
      exact .some ⟨h2, rfl⟩
  | query now => exact .some ⟨(@SameBehaviour.stateQuery cfg b b' h now).2, rfl⟩
  | reset => exact .some ⟨SameBehaviour.reset b b' h.calls h.windowSize, rfl⟩

theorem SystemsAlike.run {s s' : System} (h : SystemsAlike s s') (actions : List Action) :
    Option.Rel SystemsAlike (sysRun cfg s actions) (sysRun cfg s' actions) ∧
      stateTrace cfg s actions = stateTrace cfg s' actions := by
  induction actions generalizing s s' with
  | nil => exact ⟨.some h, rfl⟩
  | cons a actions ih =>
      have hr := @SystemsAlike.next cfg s s' h a
      simp only [sysRun, stateTrace]
      generalize sysStep cfg s a = o at hr ⊢
      generalize sysStep cfg s' a = o' at hr ⊢
      cases hr with
      | none => exact ⟨.none, rfl⟩
      | some ht =>
          obtain ⟨hrun, htrace⟩ := ih ht
          exact ⟨hrun, by dsimp only; rw [htrace, ht.1.state]⟩

private theorem optionRel_map_eq {α β : Type} {r : α → α → Prop} {f : α → β}
    (hf : ∀ a a', r a a' → f a = f a') {o o' : Option α} (h : Option.Rel r o o') :
    o.map f = o'.map f := by
  cases h with
  | none => rfl
  | some ha => exact congrArg some (hf _ _ ha)

/--
`reset()` from any reachable state gives a breaker that behaves exactly like a
newly constructed one with the same configuration whose rolling window already
holds the reset breaker's calls: under every schedule of any number of callers,
both pass through the same states and give every caller the same admission,
rejection and result.  That breaker is the fresh one when the window is empty.
-/
theorem reset_behaves_as_fresh_with_window (ops : List Op) (n : ℕ) (actions : List Action) :
    let b := run cfg (init cfg) ops
    stateTrace cfg ⟨b.reset, List.replicate n .ready⟩ actions =
        stateTrace cfg ⟨freshWith cfg b.metrics.calls, List.replicate n .ready⟩ actions ∧
      (sysRun cfg ⟨b.reset, List.replicate n .ready⟩ actions).map System.callers =
        (sysRun cfg ⟨freshWith cfg b.metrics.calls, List.replicate n .ready⟩ actions).map
          System.callers ∧
      (b.metrics.calls = [] → freshWith cfg b.metrics.calls = init cfg) := by
  intro b
  have hw : b.metrics.windowSize = cfg.windowSize := run_windowSize ops
  have h : SystemsAlike ⟨b.reset, List.replicate n .ready⟩
      ⟨freshWith cfg b.metrics.calls, List.replicate n .ready⟩ :=
    ⟨⟨rfl, rfl, rfl, rfl, hw, fun hc => absurd rfl hc⟩, rfl⟩
  obtain ⟨hrun, htrace⟩ := h.run actions
  refine ⟨htrace, optionRel_map_eq (fun _ _ ht => ht.2) hrun, fun hc => ?_⟩
  rw [hc]; rfl

/-- `database_query` after two successful calls, at `t = 1` and `t = 2`. -/
def succeededTwice : CircuitBreaker :=
  run databaseQuery (init databaseQuery) [.onSuccess 1 0, .onSuccess 2 0]

/-- After `reset()` the two successes still sit in the window: a failure at
`t = 3` brings its failure rate to 1/3 and leaves the breaker CLOSED, so the call
at `t = 4` runs; a fresh breaker's window would hold the failure alone, which
opens it, and the call at `t = 4` gets the fallback. -/
theorem reset_keeps_window_counterexample :
    succeededTwice.reset.state = (init databaseQuery).state ∧
    (succeededTwice.reset.call databaseQuery 3 (.raises databaseError) 3 3).2.state = .closed ∧
    ((init databaseQuery).call databaseQuery 3 (.raises databaseError) 3 3).2.state = .open ∧
    ((succeededTwice.reset.call databaseQuery 3 (.raises databaseError) 3 3).2.call databaseQuery
      4 .returns 4 4).1 = .returned ∧
    (((init databaseQuery).call databaseQuery 3 (.raises databaseError) 3 3).2.call databaseQuery
      4 .returns 4 4).1 = .fallback := by
  have hopens : (2 : ℚ)⁻¹ ≤ 1 := by norm_num
  have hstays : ¬(2 : ℚ)⁻¹ ≤ 3⁻¹ := by norm_num
  simp [hopens, hstays, succeededTwice, run, step, CircuitBreaker.call, CircuitBreaker.onSuccess,
    CircuitBreaker.onFailure, CircuitBreaker.reset, init, databaseQuery,
    CircuitBreakerMetrics.init, CircuitBreakerMetrics.recordSuccess,
    CircuitBreakerMetrics.recordFailure, CircuitBreakerMetrics.recordRejection,
    CircuitBreakerMetrics.getFailureRate, dequeAppend, transitionToOpen, transitionToClosed,
    stateQuery, shouldAttemptReset]

end ResilienceCore.Breaker
