import Mathlib.Data.List.Basic

/-!
# Lock discipline of the breaker package

Each breaker owns two `threading.Lock`s, its `_state_lock` and its metrics'
`lock`, and the registry owns one more.  None is reentrant: a thread that
acquires a lock it already holds waits for itself forever.

What a method does with locks is the set of its paths, one per branch the
state can send it down, each a list of acquire and release events in program
order.  A callee's paths are spliced in where the source calls it, so the
paths are computed from the methods' bodies.  Listeners, fallbacks and the
wrapped operation take none of these locks.  `runLocks` follows one thread
along a path from the locks it holds, and stops at the first acquire of a lock
it already holds.
-/

namespace ResilienceCore.Breaker.Locks

/-- The package's locks; breakers are told apart by an index. -/
inductive LockId where
  | stateLock (breaker : ℕ)
  | metricsLock (breaker : ℕ)
  | registryLock
  deriving DecidableEq, Repr

inductive LockEvent where
  | acquire (lock : LockId)
  | release (lock : LockId)
  deriving DecidableEq, Repr

abbrev Paths := List (List LockEvent)

def skip : Paths := [[]]

def withLock (lock : LockId) (body : Paths) : Paths :=
  body.map fun path => .acquire lock :: path ++ [.release lock]

def seqPaths (first second : Paths) : Paths :=
  first.flatMap fun path => second.map fun path' => path ++ path'

def seqAll (bodies : List Paths) : Paths := bodies.foldr seqPaths skip

def branch (p q : Paths) : Paths := p ++ q

/-- One thread along a path: the locks it holds at the end, or, at the first
acquire of a lock it holds, what it holds and that lock. -/
def runLocks (held : List LockId) : List LockEvent → Except (List LockId × LockId) (List LockId)
  | [] => .ok held
  | .acquire lock :: events =>
      if lock ∈ held then .error (held, lock) else runLocks (lock :: held) events
  | .release lock :: events => runLocks (held.erase lock) events

theorem runLocks_append (held : List LockId) (path path' : List LockEvent) :
    runLocks held (path ++ path') = (runLocks held path).bind fun held' => runLocks held' path' := by
  induction path generalizing held with
  | nil => rfl
  | cons event path ih =>
      cases event with
      | acquire lock =>
          simp only [List.cons_append, runLocks]
          split_ifs
          · rfl
          · exact ih _
      | release lock => exact ih _

theorem runLocks_append_ok {held held' : List LockId} {path : List LockEvent}
    (h : runLocks held path = .ok held') (path' : List LockEvent) :
    runLocks held (path ++ path') = runLocks held' path' := by
  rw [runLocks_append, h]; rfl

theorem runLocks_append_error {held : List LockId} {path : List LockEvent}
    {stuck : List LockId × LockId} (h : runLocks held path = .error stuck) (path' : List LockEvent) :
    runLocks held (path ++ path') = .error stuck := by
  rw [runLocks_append, h]; rfl

/-- Every path of `body` runs from `held` to its end and leaves `held` held. -/
def Balanced (held : List LockId) (body : Paths) : Prop :=
  ∀ path ∈ body, runLocks held path = .ok held

/-- Every path of `body` from `held` stops, holding `stuck.1`, at an acquire of
`stuck.2`, which it already holds. -/
def Blocks (held : List LockId) (body : Paths) (stuck : List LockId × LockId) : Prop :=
  body ≠ [] ∧ ∀ path ∈ body, runLocks held path = .error stuck

section Paths

variable {held : List LockId} {p q body : Paths} {lock : LockId}

theorem balanced_skip (held : List LockId) : Balanced held skip := by
  simp [Balanced, skip, runLocks]

theorem Balanced.withLock (h : Balanced (lock :: held) body) (hl : lock ∉ held) :
    Balanced held (withLock lock body) := by
  simp only [Balanced, Locks.withLock, List.mem_map]
  rintro _ ⟨path, hp, rfl⟩
  simp [runLocks, hl, runLocks_append_ok (h path hp)]

theorem Balanced.seqPaths (hp : Balanced held p) (hq : Balanced held q) :
    Balanced held (seqPaths p q) := by
  simp only [Balanced, Locks.seqPaths, List.mem_flatMap, List.mem_map]
  rintro _ ⟨path, hpath, path', hpath', rfl⟩
  rw [runLocks_append_ok (hp path hpath), hq path' hpath']

theorem Balanced.branch (hp : Balanced held p) (hq : Balanced held q) :
    Balanced held (branch p q) := by
  simp only [Balanced, Locks.branch, List.mem_append]
  rintro path (h | h)
  exacts [hp path h, hq path h]

theorem balanced_seqAll {bodies : List Paths} (h : ∀ body ∈ bodies, Balanced held body) :
    Balanced held (seqAll bodies) := by
  induction bodies with
  | nil => exact balanced_skip held
  | cons body bodies ih =>
      exact (h body (List.mem_cons_self _ _)).seqPaths
        (ih fun body' h' => h body' (List.mem_cons_of_mem _ h'))

theorem Blocks.withLock {stuck : List LockId × LockId} (h : Blocks (lock :: held) body stuck)
    (hl : lock ∉ held) : Blocks held (withLock lock body) stuck := by
  refine ⟨by simpa [Locks.withLock] using h.1, ?_⟩
  simp only [Locks.withLock, List.mem_map]
  rintro _ ⟨path, hp, rfl⟩
  simp [runLocks, hl, runLocks_append_error (h.2 path hp)]

theorem blocks_withLock_held (hl : lock ∈ held) (hbody : body ≠ []) :
    Blocks held (withLock lock body) (held, lock) := by
  refine ⟨by simpa [Locks.withLock] using hbody, ?_⟩
  simp only [Locks.withLock, List.mem_map]
  rintro _ ⟨path, -, rfl⟩
  simp [runLocks, hl]

theorem Blocks.seqPaths {stuck : List LockId × LockId} (hp : Blocks held p stuck) (hq : q ≠ []) :
    Blocks held (seqPaths p q) stuck := by
  obtain ⟨path', hpath'⟩ := List.exists_mem_of_ne_nil q hq
  obtain ⟨path, hpath⟩ := List.exists_mem_of_ne_nil p hp.1
  refine ⟨List.ne_nil_of_mem (List.mem_flatMap.2 ⟨path, hpath, List.mem_map.2 ⟨path', hpath', rfl⟩⟩),
    ?_⟩
  simp only [Locks.seqPaths, List.mem_flatMap, List.mem_map]
  rintro _ ⟨path, hpath, path', -, rfl⟩
  exact runLocks_append_error (hp.2 path hpath) _

end Paths

/-! ## The methods -/

namespace CircuitBreakerMetrics

variable (i : ℕ)

def recordSuccess : Paths := withLock (.metricsLock i) skip
def recordFailure : Paths := withLock (.metricsLock i) skip
def recordRejection : Paths := withLock (.metricsLock i) skip
def getFailureRate : Paths := withLock (.metricsLock i) skip

def getStats : Paths := withLock (.metricsLock i) (getFailureRate i)

end CircuitBreakerMetrics

namespace CircuitBreaker

variable (i : ℕ)

def state : Paths := withLock (.stateLock i) skip

def onSuccess : Paths := withLock (.stateLock i) (CircuitBreakerMetrics.recordSuccess i)

/-- `_on_failure`: `get_failure_rate()` runs only while CLOSED, and only when
`_failure_count >= failure_threshold` is false. -/
def onFailure : Paths :=
  withLock (.stateLock i)
    (seqPaths (CircuitBreakerMetrics.recordFailure i)
      (branch skip (CircuitBreakerMetrics.getFailureRate i)))

/-- `call`: the admission query, then a rejection, a success, an expected
failure followed by the second query, or an exception that is not expected. -/
def call : Paths :=
  seqPaths (state i)
    (branch (CircuitBreakerMetrics.recordRejection i)
      (branch (onSuccess i) (branch (seqPaths (onFailure i) (state i)) skip)))

def reset : Paths := withLock (.stateLock i) skip

def getStats : Paths := seqPaths (CircuitBreakerMetrics.getStats i) (state i)

end CircuitBreaker

namespace CircuitBreakerRegistry

def register : Paths := withLock .registryLock skip

def getAllStats (breakers : List ℕ) : Paths :=
  withLock .registryLock (seqAll (breakers.map CircuitBreaker.getStats))

def resetAll (breakers : List ℕ) : Paths :=
  withLock .registryLock (seqAll (breakers.map CircuitBreaker.reset))

end CircuitBreakerRegistry

/-! ## Which methods wait for their own thread -/

section Discipline

variable {held : List LockId} {i : ℕ}

theorem seqPaths_ne_nil {p q : Paths} (hp : p ≠ []) (hq : q ≠ []) : seqPaths p q ≠ [] := by
  obtain ⟨path, hpath⟩ := List.exists_mem_of_ne_nil p hp
  obtain ⟨path', hpath'⟩ := List.exists_mem_of_ne_nil q hq
  exact List.ne_nil_of_mem (List.mem_flatMap.2 ⟨path, hpath, List.mem_map.2 ⟨path', hpath', rfl⟩⟩)

theorem seqAll_ne_nil {bodies : List Paths} (h : ∀ body ∈ bodies, body ≠ []) : seqAll bodies ≠ [] := by
  induction bodies with
  | nil => simp [seqAll, skip]
  | cons body bodies ih =>
      exact seqPaths_ne_nil (h body (List.mem_cons_self _ _))
        (ih fun body' h' => h body' (List.mem_cons_of_mem _ h'))

theorem balanced_metricsLock (hm : LockId.metricsLock i ∉ held) :
    Balanced held (withLock (.metricsLock i) skip) :=
  (balanced_skip _).withLock hm

theorem balanced_stateLock (hs : LockId.stateLock i ∉ held) :
    Balanced held (withLock (.stateLock i) skip) :=
  (balanced_skip _).withLock hs

theorem balanced_call (hs : LockId.stateLock i ∉ held) (hm : LockId.metricsLock i ∉ held) :
    Balanced held (CircuitBreaker.call i) := by
  have hm' : LockId.metricsLock i ∉ LockId.stateLock i :: held := by simp [hm]
  have hfail : Balanced held (CircuitBreaker.onFailure i) :=
    ((balanced_metricsLock hm').seqPaths ((balanced_skip _).branch (balanced_metricsLock hm'))).withLock hs
  exact (balanced_stateLock hs).seqPaths ((balanced_metricsLock hm).branch
    (((balanced_metricsLock hm').withLock hs).branch
      ((hfail.seqPaths (balanced_stateLock hs)).branch (balanced_skip _))))

theorem balanced_resetAll {breakers : List ℕ} (hr : LockId.registryLock ∉ held)
    (hb : ∀ j ∈ breakers, LockId.stateLock j ∉ held) :
    Balanced held (CircuitBreakerRegistry.resetAll breakers) := by
  refine (balanced_seqAll fun body hbody => ?_).withLock hr
  obtain ⟨j, hj, rfl⟩ := List.mem_map.1 hbody
  exact balanced_stateLock (by simp [hb j hj])

theorem blocks_metrics_getStats (hm : LockId.metricsLock i ∉ held) :
    Blocks held (CircuitBreakerMetrics.getStats i) (.metricsLock i :: held, .metricsLock i) :=
  (blocks_withLock_held (List.mem_cons_self _ _) (by simp [skip])).withLock hm

theorem blocks_breaker_getStats (hm : LockId.metricsLock i ∉ held) :
    Blocks held (CircuitBreaker.getStats i) (.metricsLock i :: held, .metricsLock i) :=
  (blocks_metrics_getStats hm).seqPaths (by simp [CircuitBreaker.state, withLock, skip])

theorem blocks_getAllStats {j : ℕ} {rest : List ℕ} (hr : LockId.registryLock ∉ held)
    (hm : LockId.metricsLock j ∉ held) :
    Blocks held (CircuitBreakerRegistry.getAllStats (j :: rest))
      (.metricsLock j :: .registryLock :: held, .metricsLock j) := by
  refine Blocks.withLock ?_ hr
  refine (blocks_breaker_getStats (by simp [hm])).seqPaths (seqAll_ne_nil fun body hbody => ?_)
  obtain ⟨k, -, rfl⟩ := List.mem_map.1 hbody
  exact seqPaths_ne_nil (by simp [CircuitBreakerMetrics.getStats, CircuitBreakerMetrics.getFailureRate,
    withLock, skip]) (by simp [CircuitBreaker.state, withLock, skip])

end Discipline

/--
Started by a thread that holds none of their locks, every path of `call`,
`state`, `reset`, the metrics' recorders and `get_failure_rate`, `register`,
`reset_all` over any registry, and `get_all_stats` over an empty one runs to its
end and releases what it took.  The metrics' `get_stats` acquires the metrics
lock again inside `get_failure_rate` on every path; the breaker's `get_stats`
waits there, before its state read; `get_all_stats` over a nonempty registry
waits there at its first breaker, holding the registry lock.
-/
theorem get_stats_reacquires_metrics_lock (held : List LockId) (i : ℕ) (breakers : List ℕ)
    (hs : LockId.stateLock i ∉ held) (hm : LockId.metricsLock i ∉ held)
    (hr : LockId.registryLock ∉ held)
    (hb : ∀ j ∈ breakers, LockId.stateLock j ∉ held ∧ LockId.metricsLock j ∉ held) :
    (∀ body ∈ [CircuitBreaker.call i, CircuitBreaker.state i, CircuitBreaker.reset i,
        CircuitBreakerMetrics.recordSuccess i, CircuitBreakerMetrics.recordFailure i,
        CircuitBreakerMetrics.recordRejection i, CircuitBreakerMetrics.getFailureRate i,
        CircuitBreakerRegistry.register, CircuitBreakerRegistry.resetAll breakers,
        CircuitBreakerRegistry.getAllStats []], Balanced held body) ∧
    Blocks held (CircuitBreakerMetrics.getStats i) (.metricsLock i :: held, .metricsLock i) ∧
    Blocks held (CircuitBreaker.getStats i) (.metricsLock i :: held, .metricsLock i) ∧
    ∀ j rest, breakers = j :: rest →
      Blocks held (CircuitBreakerRegistry.getAllStats breakers)
        (.metricsLock j :: .registryLock :: held, .metricsLock j) := by
  refine ⟨fun body hbody => ?_, blocks_metrics_getStats hm, blocks_breaker_getStats hm,
    fun j rest h => h ▸ blocks_getAllStats hr (hb j (h ▸ List.mem_cons_self _ _)).2⟩
  simp only [List.mem_cons, List.mem_singleton, List.not_mem_nil, or_false] at hbody
  rcases hbody with rfl | rfl | rfl | rfl | rfl | rfl | rfl | rfl | rfl | rfl
  · exact balanced_call hs hm
  · exact balanced_stateLock hs
  · exact balanced_stateLock hs
  all_goals first
    | exact balanced_metricsLock hm
    | exact (balanced_skip _).withLock hr
    | exact balanced_resetAll hr fun j hj => (hb j hj).1

theorem registry_main_get_all_stats_hangs :
    LockId.stateLock 0 ∉ ([] : List LockId) ∧ LockId.metricsLock 0 ∉ ([] : List LockId) ∧
    LockId.registryLock ∉ ([] : List LockId) ∧
    (∀ j ∈ [0], LockId.stateLock j ∉ ([] : List LockId) ∧ LockId.metricsLock j ∉ ([] : List LockId)) ∧
    (∀ body ∈ [CircuitBreaker.call 0, CircuitBreaker.state 0, CircuitBreaker.reset 0,
        CircuitBreakerMetrics.recordSuccess 0, CircuitBreakerMetrics.recordFailure 0,
        CircuitBreakerMetrics.recordRejection 0, CircuitBreakerMetrics.getFailureRate 0,
        CircuitBreakerRegistry.register, CircuitBreakerRegistry.resetAll [0],
        CircuitBreakerRegistry.getAllStats []], Balanced [] body) ∧
    Blocks [] (CircuitBreakerMetrics.getStats 0) ([.metricsLock 0], .metricsLock 0) ∧
    Blocks [] (CircuitBreaker.getStats 0) ([.metricsLock 0], .metricsLock 0) ∧
    ∀ j rest, [0] = j :: rest →
      Blocks [] (CircuitBreakerRegistry.getAllStats [0])
        ([.metricsLock j, .registryLock], .metricsLock j) :=
  ⟨by simp, by simp, by simp, by simp,
    get_stats_reacquires_metrics_lock [] 0 [0] (by simp) (by simp) (by simp) (by simp)⟩

end ResilienceCore.Breaker.Locks
