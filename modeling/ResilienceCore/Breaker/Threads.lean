import ResilienceCore.Breaker.Call
import ResilienceCore.Breaker.Refinement

/-!
# Concurrent callers and the HALF_OPEN probe

A caller of `call` takes up to three sections under `_state_lock`: the
admission query, the recording of its operation's outcome, and for an
expected failure the second query.  Its operation runs between the first two
outside the lock, so other callers' sections interleave there.  A `System`
is the breaker together with each caller's position, and a schedule is any
list of `Action`s.  The breaker of every reachable system is a run of `Op`s,
so the invariant and the refinement of the breaker carry over.
-/

namespace ResilienceCore.Breaker

open CircuitBreaker

/-- Where one caller of `call` stands. -/
inductive CallPc where
  | ready
  | running (admittedIn : CircuitState) (startedAt : Timestamp)
  | failed (error : PyException)
  | done (result : CallResult)
  deriving DecidableEq, Repr

structure System where
  breaker : CircuitBreaker
  callers : List CallPc
  deriving DecidableEq, Repr

/-- One atomic section, chosen by the scheduler. -/
inductive Action where
  | enter (caller : ℕ) (now : Timestamp)
  | complete (caller : ℕ) (now : Timestamp) (outcome : Outcome)
  | recheck (caller : ℕ) (now : Timestamp)
  | query (now : Timestamp)
  | reset
  deriving DecidableEq, Repr

variable (cfg : Config)

def System.init (callers : ℕ) : System := ⟨CircuitBreaker.init cfg, List.replicate callers .ready⟩

/-- The section `action` performs; `none` when its caller is not there. -/
def sysStep (s : System) : Action → Option System
  | .enter i now =>
      match s.callers[i]? with
      | some .ready =>
          let (admitted, b) := s.breaker.stateQuery cfg now
          if admitted = .open then
            some ⟨{ b with metrics := b.metrics.recordRejection },
              s.callers.set i (.done (if cfg.fallbackFunction then .fallback
                else .circuitBreakerError (openMessage cfg)))⟩
          else some ⟨b, s.callers.set i (.running admitted now)⟩
      | _ => none
  | .complete i now outcome =>
      match s.callers[i]? with
      | some (.running _ startedAt) =>
          let duration := (now : ℕ) - startedAt
          match outcome with
          | .returns =>
              some ⟨s.breaker.onSuccess cfg now duration, s.callers.set i (.done .returned)⟩
          | .raises error =>
              if cfg.expectedException error then
                some ⟨s.breaker.onFailure cfg error now duration, s.callers.set i (.failed error)⟩
              else some ⟨s.breaker, s.callers.set i (.done (.raised error))⟩
      | _ => none
  | .recheck i now =>
      match s.callers[i]? with
      | some (.failed error) =>
          let (seen, b) := s.breaker.stateQuery cfg now
          some ⟨b, s.callers.set i
            (.done (if seen = .halfOpen ∧ cfg.fallbackFunction then .fallback
              else .raised error))⟩
      | _ => none
  | .query now => some ⟨(s.breaker.stateQuery cfg now).2, s.callers⟩
  | .reset => some ⟨s.breaker.reset, s.callers⟩

def sysRun (s : System) : List Action → Option System
  | [] => some s
  | action :: actions => (sysStep cfg s action).bind (sysRun · actions)

/-- The breaker's state after each section of a schedule. -/
def stateTrace (s : System) : List Action → List CircuitState
  | [] => []
  | action :: actions =>
      match sysStep cfg s action with
      | some s' => s'.breaker.state :: stateTrace s' actions
      | none => []

/-! ## Every schedule drives the breaker through a run of `Op`s -/

variable {cfg}

theorem sysStep_breaker {s s' : System} {action : Action} (h : sysStep cfg s action = some s') :
    ∃ ops, s'.breaker = run cfg s.breaker ops := by
  cases action with
  | enter i now =>
      simp only [sysStep] at h
      split at h
      · split_ifs at h <;> cases h <;>
          first | exact ⟨[.state now, .recordRejection], rfl⟩ | exact ⟨[.state now], rfl⟩
      · cases h
  | complete i now outcome =>
      simp only [sysStep] at h
      split at h
      · cases outcome with
        | returns => cases h; exact ⟨[.onSuccess _ _], rfl⟩
        | raises error =>
            dsimp only at h
            split_ifs at h <;> cases h
            · exact ⟨[.onFailure _ _ _], rfl⟩
            · exact ⟨[], rfl⟩
      · cases h
  | recheck i now =>
      simp only [sysStep] at h
      split at h
      · cases h; exact ⟨[.state now], rfl⟩
      · cases h
  | query now => cases h; exact ⟨[.state now], rfl⟩
  | reset => cases h; exact ⟨[.reset], rfl⟩

theorem sysRun_breaker {s s' : System} {actions : List Action}
    (h : sysRun cfg s actions = some s') : ∃ ops, s'.breaker = run cfg s.breaker ops := by
  induction actions generalizing s with
  | nil => cases h; exact ⟨[], rfl⟩
  | cons action actions ih =>
      obtain ⟨s₁, h₁, h₂⟩ := Option.bind_eq_some.1 h
      obtain ⟨ops₁, e₁⟩ := sysStep_breaker h₁
      obtain ⟨ops₂, e₂⟩ := ih h₂
      exact ⟨ops₁ ++ ops₂, by rw [e₂, e₁, run_append]⟩

theorem inv_of_sysRun (hf : 1 ≤ cfg.failureThreshold) (hs : 1 ≤ cfg.successThreshold)
    {n : ℕ} {actions : List Action} {s : System}
    (h : sysRun cfg (System.init cfg n) actions = some s) : Inv cfg s.breaker := by
  obtain ⟨ops, e⟩ := sysRun_breaker h
  rw [e]
  exact inv_run_init hf hs ops

/-! ## HALF_OPEN neither bounds nor isolates its probe -/

theorem sysStep_enter_halfOpen {s : System} {i : ℕ} (now : Timestamp)
    (hs : s.breaker.state = .halfOpen) (hi : s.callers[i]? = some .ready) :
    sysStep cfg s (.enter i now) = some ⟨s.breaker, s.callers.set i (.running .halfOpen now)⟩ := by
  simp [sysStep, hi, stateQuery, hs]

theorem sysRun_enter_halfOpen (admissions : List (ℕ × Timestamp)) {s : System}
    (hs : s.breaker.state = .halfOpen) (hnd : (admissions.map (·.1)).Nodup)
    (hready : ∀ p ∈ admissions, s.callers[p.1]? = some .ready) :
    ∃ s', sysRun cfg s (admissions.map fun p => .enter p.1 p.2) = some s' ∧
      s'.breaker = s.breaker ∧
      (∀ p ∈ admissions, s'.callers[p.1]? = some (.running .halfOpen p.2)) ∧
      ∀ j, j ∉ admissions.map (·.1) → s'.callers[j]? = s.callers[j]? := by
  induction admissions generalizing s with
  | nil => exact ⟨s, rfl, rfl, by simp, fun _ _ => rfl⟩
  | cons p ps ih =>
      rw [List.map_cons, List.nodup_cons] at hnd
      have hp := hready p (List.mem_cons_self _ _)
      have hlt := (List.getElem?_eq_some_iff.1 hp).1
      have hne : ∀ q ∈ ps, p.1 ≠ q.1 := fun q hq h =>
        hnd.1 (List.mem_map.2 ⟨q, hq, h.symm⟩)
      obtain ⟨s', hrun, hb, hmem, hframe⟩ :=
        @ih ⟨s.breaker, s.callers.set p.1 (.running .halfOpen p.2)⟩ hs hnd.2
          fun q hq => by simpa [List.getElem?_set_ne (hne q hq)] using hready q (.tail _ hq)
      refine ⟨s', ?_, hb, fun q hq => ?_, fun j hj => ?_⟩
      · simp [sysRun, sysStep_enter_halfOpen p.2 hs hp, hrun]
      · rcases List.mem_cons.1 hq with rfl | hq
        · rw [hframe q.1 hnd.1]; simp [hlt]
        · exact hmem q hq
      · simp only [List.map_cons, List.mem_cons, not_or] at hj
        rw [hframe j hj.2]
        exact List.getElem?_set_ne (Ne.symm hj.1)

theorem sysStep_complete_halfOpen {s : System} (hi : Inv cfg s.breaker)
    (hs : s.breaker.state = .halfOpen) {i : ℕ} {admittedIn : CircuitState}
    {startedAt : Timestamp} (hc : s.callers[i]? = some (.running admittedIn startedAt))
    (now : Timestamp) :
    (∀ error, cfg.expectedException error = true →
      ∃ s', sysStep cfg s (.complete i now (.raises error)) = some s' ∧
        s'.breaker.state = .open) ∧
    ∃ s', sysStep cfg s (.complete i now .returns) = some s' ∧
      s'.breaker.state =
        if s.breaker.successCount + 1 = cfg.successThreshold then .closed else .halfOpen := by
  refine ⟨fun error he => ⟨⟨s.breaker.onFailure cfg error now ((now : ℕ) - startedAt),
      s.callers.set i (.failed error)⟩, by simp [sysStep, hc, he], ?_⟩,
    ⟨⟨s.breaker.onSuccess cfg now ((now : ℕ) - startedAt), s.callers.set i (.done .returned)⟩,
      by simp [sysStep, hc], ?_⟩⟩
  · have := step_state_eq_specNext hi (.onFailure error now ((now : ℕ) - startedAt))
    simpa [step, specNext, hs] using this
  · have := step_state_eq_specNext hi (.onSuccess now ((now : ℕ) - startedAt))
    simp only [step, specNext, hs, true_and] at this
    simpa using this

/--
On a system reached by any schedule, a HALF_OPEN breaker admits every ready
caller that asks, as many as there are, without changing; and the episode
ends at any running caller's expected failure, or advances at its success,
whether that caller was admitted in this episode, an earlier one, or while
CLOSED.
-/
theorem halfOpen_admits_all_and_counts_any_outcome (hf : 1 ≤ cfg.failureThreshold)
    (hs : 1 ≤ cfg.successThreshold) {n : ℕ} {actions : List Action} {s : System}
    (hreach : sysRun cfg (System.init cfg n) actions = some s)
    (hst : s.breaker.state = .halfOpen) :
    (∀ admissions : List (ℕ × Timestamp), (admissions.map (·.1)).Nodup →
      (∀ p ∈ admissions, s.callers[p.1]? = some .ready) →
      ∃ s', sysRun cfg s (admissions.map fun p => .enter p.1 p.2) = some s' ∧
        s'.breaker = s.breaker ∧
        ∀ p ∈ admissions, s'.callers[p.1]? = some (.running .halfOpen p.2)) ∧
    ∀ (i : ℕ) (admittedIn : CircuitState) (startedAt now : Timestamp),
      s.callers[i]? = some (.running admittedIn startedAt) →
      (∀ error, cfg.expectedException error = true →
        ∃ s', sysStep cfg s (.complete i now (.raises error)) = some s' ∧
          s'.breaker.state = .open) ∧
      ∃ s', sysStep cfg s (.complete i now .returns) = some s' ∧
        s'.breaker.state =
          if s.breaker.successCount + 1 = cfg.successThreshold then .closed else .halfOpen := by
  refine ⟨fun admissions hnd hready => ?_, fun i admittedIn startedAt now hc =>
    sysStep_complete_halfOpen (inv_of_sysRun hf hs hreach) hst hc now⟩
  obtain ⟨s', hrun, hb, hmem, -⟩ := sysRun_enter_halfOpen admissions hst hnd hready
  exact ⟨s', hrun, hb, hmem⟩

/-- A breaker that opens on its first failure, with the default `success_threshold = 2`. -/
def tripOnFirstFailure : Config :=
  { name := "external_api", failureThreshold := 1, recoveryTimeout := 30,
    fallbackFunction := true }

/-- Callers 1, 2 and 3 are all admitted in the HALF_OPEN episode that begins at
`t = 31`, one more than `success_threshold`. -/
def probeSchedule : List Action :=
  [.enter 0 1, .complete 0 1 (.raises databaseError), .recheck 0 1,
    .enter 1 31, .enter 2 31, .enter 3 31]

/-- Caller 0 is admitted while CLOSED; its failure at `t = 31` ends the
HALF_OPEN episode that the query at `t = 31` began. -/
def lateFailureSchedule : List Action :=
  [.enter 0 1, .enter 1 1, .complete 1 1 (.raises databaseError), .recheck 1 1,
    .query 31, .complete 0 31 (.raises databaseError)]

theorem halfOpen_probe_counterexample :
    stateTrace tripOnFirstFailure (System.init tripOnFirstFailure 4) probeSchedule =
      [.closed, .open, .open, .halfOpen, .halfOpen, .halfOpen] ∧
    (sysRun tripOnFirstFailure (System.init tripOnFirstFailure 4) probeSchedule).map
        System.callers =
      some [.done (.raised databaseError), .running .halfOpen 31, .running .halfOpen 31,
        .running .halfOpen 31] ∧
    tripOnFirstFailure.successThreshold < 3 ∧
    stateTrace tripOnFirstFailure (System.init tripOnFirstFailure 2) lateFailureSchedule =
      [.closed, .closed, .open, .open, .halfOpen, .open] ∧
    (sysRun tripOnFirstFailure (System.init tripOnFirstFailure 2)
        (lateFailureSchedule.take 1)).map System.callers =
      some [.running .closed 1, .ready] := by
  decide

/-- The system the first four sections of `probeSchedule` reach. -/
def probeSystem : System :=
  (sysRun tripOnFirstFailure (System.init tripOnFirstFailure 4) (probeSchedule.take 4)).getD
    (System.init tripOnFirstFailure 4)

theorem probeSystem_admits_all_and_counts_any_outcome :
    1 ≤ tripOnFirstFailure.failureThreshold ∧ 1 ≤ tripOnFirstFailure.successThreshold ∧
    sysRun tripOnFirstFailure (System.init tripOnFirstFailure 4) (probeSchedule.take 4) =
      some probeSystem ∧
    probeSystem.breaker.state = .halfOpen ∧
    (∀ admissions : List (ℕ × Timestamp), (admissions.map (·.1)).Nodup →
      (∀ p ∈ admissions, probeSystem.callers[p.1]? = some .ready) →
      ∃ s', sysRun tripOnFirstFailure probeSystem (admissions.map fun p => .enter p.1 p.2) =
          some s' ∧
        s'.breaker = probeSystem.breaker ∧
        ∀ p ∈ admissions, s'.callers[p.1]? = some (.running .halfOpen p.2)) ∧
    ∀ (i : ℕ) (admittedIn : CircuitState) (startedAt now : Timestamp),
      probeSystem.callers[i]? = some (.running admittedIn startedAt) →
      (∀ error, tripOnFirstFailure.expectedException error = true →
        ∃ s', sysStep tripOnFirstFailure probeSystem (.complete i now (.raises error)) = some s' ∧
          s'.breaker.state = .open) ∧
      ∃ s', sysStep tripOnFirstFailure probeSystem (.complete i now .returns) = some s' ∧
        s'.breaker.state =
          if probeSystem.breaker.successCount + 1 = tripOnFirstFailure.successThreshold then
            .closed else .halfOpen := by
  have hreach : sysRun tripOnFirstFailure (System.init tripOnFirstFailure 4)
      (probeSchedule.take 4) = some probeSystem := by decide
  have hst : probeSystem.breaker.state = .halfOpen := by decide
  exact ⟨by decide, by decide, hreach, hst,
    halfOpen_admits_all_and_counts_any_outcome (by decide) (by decide) hreach hst⟩

end ResilienceCore.Breaker
