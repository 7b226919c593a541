import ResilienceCore.Clients.RateLimit

/-!
# The rate-limit decorator and its local fallback

A function wrapped by `RateLimitDecorator(client).limit(...)` asks the service
through `check_rate_limit` on every call and runs when the answer's `allowed`
is truthy; a refusal raises `RateLimitExceededException` with
`metadata.get('retry_after', 60)`.  `check_rate_limit` answers a
`RequestException` itself: allowed, with `{"error": ..., "fail_open": True}`,
when the client fails open, and refused otherwise.  Only that fail-open answer
sends the wrapper to `local_rate_limit(identifier, fallback_limit,
fallback_window)`, and only when `fallback_limit` is not 0.

So `_local_cache` sees the outage calls alone.  A call whose check reached the
service leaves it as it was, and for each identifier the outage calls are
answered as a run of `local_rate_limit` on them alone would answer them.  The
key is `str(identifier)`: the identifiers `42` and `"42"` share one count.
-/

namespace ResilienceCore.RateLimit

/-- The service's answer to `GET /api/v1/check`: the JSON body, or the
`RequestException` the request raised (no connection, a timeout, an error
status, a body that is not JSON). -/
abbrev CheckAnswer := Except PyException Json

/-- `check_rate_limit(identifier, limit_type, operation)` on the service's
answer: `allowed` and the metadata dict, or the `AttributeError` of a body
that is not a dict, which the `except` does not catch. -/
def checkRateLimit (failOpen : Bool) : CheckAnswer → Except PyException (Json × List (String × Json))
  | .error e =>
      .ok (if failOpen then (.bool true, [("error", .str e.text), ("fail_open", .bool true)])
        else (.bool false, [("error", .str e.text)]))
  | .ok (.obj fields) =>
      let get (key : String) : Json := ((Json.obj fields).get? key).getD .null
      .ok (((Json.obj fields).get? "allowed").getD (.bool true),
        [("limit", get "limit"), ("remaining", get "remaining"), ("reset_time", get "reset_time"),
          ("retry_after", get "retry_after")])
  | .ok result => .error (result.noAttribute "get")

/-- What the wrapper of `RateLimitDecorator(client).limit(limit_type,
get_identifier, operation, fallback_limit, fallback_window)` reads, with the
client's `fail_open`.  `get_identifier` sees the call's positional and keyword
arguments. -/
structure LimitConfig where
  failOpen : Bool
  getIdentifier : Option (List Json → List (String × Json) → Json)
  fallbackLimit : ℤ
  fallbackWindow : ℤ

/-- A client that fails open, decorated with the defaults: no
`get_identifier`, `fallback_limit=100`, `fallback_window=60`. -/
def LimitConfig.default : LimitConfig := ⟨true, none, 100, 60⟩

/-- One call of the wrapped function: its arguments, the service's answer to its
check, the reading `local_rate_limit` takes, and the one the `_local_cache`
factory would take for a new key. -/
structure LimitedCall where
  args : List Json
  kwargs : List (String × Json)
  answer : CheckAnswer
  now : ℚ
  created : ℚ

inductive LimitResult where
  | called
  | exceeded (message : String) (retryAfter : Json) (metadata : List (String × Json))
  | raised (error : PyException)

def LimitResult.isCalled : LimitResult → Bool
  | .called => true
  | _ => false

/-- The test before the fallback: `metadata.get('fail_open') and fallback_limit`. -/
def usesFallback (metadata : List (String × Json)) (fallbackLimit : ℤ) : Bool :=
  ((dictGet metadata "fail_open").getD .null).truthy && fallbackLimit != 0

namespace LimitConfig

variable (cfg : LimitConfig)

/-- `get_identifier(*args, **kwargs)`, or by default
`kwargs.get('account_id') or kwargs.get('user_id') or kwargs.get('api_key') or 'default'`. -/
def identifier (call : LimitedCall) : Json :=
  match cfg.getIdentifier with
  | some getIdentifier => getIdentifier call.args call.kwargs
  | none => Json.pyOr (["account_id", "user_id", "api_key"].map fun key => (dictGet call.kwargs key).getD .null)
      (.str "default")

/-- The wrapper on one call, with the client as the call finds it. -/
def wrapper (call : LimitedCall) (c : RateLimitingClient) : LimitResult × RateLimitingClient :=
  match checkRateLimit cfg.failOpen call.answer with
  | .error e => (.raised e, c)
  | .ok (allowed, metadata) =>
      let checked : Json × RateLimitingClient :=
        if usesFallback metadata cfg.fallbackLimit then
          let fallback := c.localRateLimit (cfg.identifier call).pyStr cfg.fallbackLimit cfg.fallbackWindow
            call.now call.created
          (.bool fallback.1, fallback.2)
        else (allowed, c)
      if checked.1.truthy then (.called, checked.2)
      else
        let retryAfter := (dictGet metadata "retry_after").getD (.num 60)
        (.exceeded ("Rate limit exceeded. Retry after " ++ retryAfter.pyStr ++ " seconds") retryAfter metadata,
          checked.2)

def run : RateLimitingClient → List LimitedCall → List LimitResult
  | _, [] => []
  | c, call :: calls => (cfg.wrapper call c).1 :: run (cfg.wrapper call c).2 calls

def after : RateLimitingClient → List LimitedCall → RateLimitingClient
  | c, [] => c
  | c, call :: calls => after (cfg.wrapper call c).2 calls

/-- A call that reaches `local_rate_limit`: its check failed, the client fails
open and `fallback_limit` is not 0. -/
def goesToFallback (call : LimitedCall) : Bool :=
  match call.answer with
  | .error _ => cfg.failOpen && cfg.fallbackLimit != 0
  | .ok _ => false

def onKey (s : String) (call : LimitedCall) : Bool :=
  cfg.goesToFallback call && decide ((cfg.identifier call).pyStr = s)

def outageCalls (s : String) (calls : List LimitedCall) : List (ℚ × ℚ) :=
  (calls.filter (cfg.onKey s)).map fun call => (call.now, call.created)

end LimitConfig

def calledWhere (p : LimitedCall → Bool) (calls : List LimitedCall) (results : List LimitResult) : List Bool :=
  ((calls.zip results).filter (p ·.1)).map (·.2.isCalled)

/-! ## One call -/

namespace LimitConfig

variable {cfg : LimitConfig} {call : LimitedCall}

theorem usesFallback_of_checkRateLimit {allowed : Json} {metadata : List (String × Json)}
    (h : checkRateLimit cfg.failOpen call.answer = .ok (allowed, metadata)) :
    usesFallback metadata cfg.fallbackLimit = cfg.goesToFallback call := by
  unfold goesToFallback
  rcases hanswer : call.answer with e | result <;> rw [hanswer] at h
  · cases hopen : cfg.failOpen <;> simp only [checkRateLimit, hopen] at h <;> cases h <;>
      simp [usesFallback, Json.truthy]
  · rcases result with _ | _ | _ | _ | _ | fields <;> simp only [checkRateLimit] at h <;> cases h
    simp [usesFallback, Json.truthy]

theorem wrapper_of_not_goesToFallback (h : cfg.goesToFallback call = false) (c : RateLimitingClient) :
    (cfg.wrapper call c).2 = c := by
  rcases hcheck : checkRateLimit cfg.failOpen call.answer with e | ⟨allowed, metadata⟩
  · simp only [wrapper, hcheck]
  · simp only [wrapper, hcheck, usesFallback_of_checkRateLimit hcheck, h, Bool.false_eq_true, if_false]
    split <;> rfl

theorem wrapper_of_goesToFallback (h : cfg.goesToFallback call = true) (c : RateLimitingClient) :
    ((cfg.wrapper call c).1.isCalled, (cfg.wrapper call c).2) =
      c.localRateLimit (cfg.identifier call).pyStr cfg.fallbackLimit cfg.fallbackWindow call.now call.created := by
  rcases hcheck : checkRateLimit cfg.failOpen call.answer with e | ⟨allowed, metadata⟩
  · rcases hanswer : call.answer with e' | result
    · simp [hanswer, checkRateLimit] at hcheck
    · simp [goesToFallback, hanswer] at h
  · simp only [wrapper, hcheck, usesFallback_of_checkRateLimit hcheck, h, if_true]
    generalize c.localRateLimit (cfg.identifier call).pyStr cfg.fallbackLimit cfg.fallbackWindow call.now
      call.created = fallback
    obtain ⟨admitted, c'⟩ := fallback
    cases admitted <;> rfl

end LimitConfig

/-! ## The key of one identifier -/

namespace RateLimitingClient

theorem cacheKey_injective {s s' : String} {windowSeconds : ℤ}
    (h : cacheKey s windowSeconds = cacheKey s' windowSeconds) : s = s' := by
  have hdata := congrArg String.data h
  simp only [cacheKey, String.data_append] at hdata
  exact String.ext (List.append_cancel_right (List.append_cancel_right hdata).symm).symm

def SameEntry (s : String) (windowSeconds : ℤ) (c d : RateLimitingClient) : Prop :=
  dictGet c.localCache (cacheKey s windowSeconds) = dictGet d.localCache (cacheKey s windowSeconds)

variable {s : String} {limit windowSeconds : ℤ} {c d : RateLimitingClient}

theorem SameEntry.localRateLimit (h : SameEntry s windowSeconds c d) (now created : ℚ) :
    (c.localRateLimit s limit windowSeconds now created).1 = (d.localRateLimit s limit windowSeconds now created).1 ∧
      SameEntry s windowSeconds (c.localRateLimit s limit windowSeconds now created).2
        (d.localRateLimit s limit windowSeconds now created).2 := by
  have hentry : c.entryFor s windowSeconds created = d.entryFor s windowSeconds created := by
    rw [entryFor, entryFor, h]
  refine ⟨by rw [RateLimitingClient.localRateLimit, RateLimitingClient.localRateLimit, hentry], ?_⟩
  simp only [SameEntry, RateLimitingClient.localRateLimit, dictGet_dictSet, if_true, hentry]

theorem sameEntry_localRateLimit_of_ne {s' : String} (hs : s' ≠ s) (now created : ℚ) :
    SameEntry s windowSeconds (c.localRateLimit s' limit windowSeconds now created).2 c := by
  simp only [SameEntry, localRateLimit, dictGet_dictSet]
  rw [if_neg fun hkey => hs (cacheKey_injective hkey).symm]

end RateLimitingClient

/-! ## Whole runs -/

namespace LimitConfig

open RateLimitingClient

variable {cfg : LimitConfig} {s : String}

theorem sameEntry_wrapper_of_not_onKey {call : LimitedCall} (h : cfg.onKey s call = false) (c : RateLimitingClient) :
    SameEntry s cfg.fallbackWindow (cfg.wrapper call c).2 c := by
  cases hf : cfg.goesToFallback call
  · rw [wrapper_of_not_goesToFallback hf]
    rfl
  · have hs : (cfg.identifier call).pyStr ≠ s := by simpa [onKey, hf] using h
    have hstep := congrArg Prod.snd (wrapper_of_goesToFallback hf c)
    dsimp only at hstep
    rw [hstep]
    exact sameEntry_localRateLimit_of_ne hs call.now call.created

theorem run_onKey (calls : List LimitedCall) :
    ∀ {c d : RateLimitingClient}, SameEntry s cfg.fallbackWindow c d →
      calledWhere (cfg.onKey s) calls (cfg.run c calls) =
          d.localRun s cfg.fallbackLimit cfg.fallbackWindow (cfg.outageCalls s calls) ∧
        SameEntry s cfg.fallbackWindow (cfg.after c calls)
          (d.localAfter s cfg.fallbackLimit cfg.fallbackWindow (cfg.outageCalls s calls)) := by
  induction calls with
  | nil => exact fun h => ⟨rfl, h⟩
  | cons call calls ih =>
      intro c d h
      by_cases hkey : cfg.onKey s call = true
      · obtain ⟨hf, hs⟩ : cfg.goesToFallback call = true ∧ (cfg.identifier call).pyStr = s := by
          simpa [onKey] using hkey
        have hstep := wrapper_of_goesToFallback hf c
        rw [hs] at hstep
        obtain ⟨hanswer, hsame⟩ := @SameEntry.localRateLimit s cfg.fallbackLimit cfg.fallbackWindow c d h
          call.now call.created
        obtain ⟨ih₁, ih₂⟩ := ih (hstep ▸ hsame : SameEntry s cfg.fallbackWindow (cfg.wrapper call c).2 _)
        refine ⟨?_, ?_⟩
        · simp only [calledWhere, run, outageCalls, List.zip_cons_cons, List.filter_cons, hkey, if_true,
            List.map_cons, localRun] at ih₁ ⊢
          rw [← ih₁, ← hanswer, ← congrArg Prod.fst hstep]
        · simp only [after, outageCalls, List.filter_cons, hkey, if_true, List.map_cons, localAfter]
          exact ih₂
      · have hkey : cfg.onKey s call = false := by simpa using hkey
        have hsame : SameEntry s cfg.fallbackWindow (cfg.wrapper call c).2 d :=
          (sameEntry_wrapper_of_not_onKey hkey c).trans h
        obtain ⟨ih₁, ih₂⟩ := ih hsame
        refine ⟨?_, ?_⟩
        · simp only [calledWhere, run, outageCalls, List.zip_cons_cons, List.filter_cons, hkey] at ih₁ ⊢
          exact ih₁
        · simp only [after, outageCalls, List.filter_cons, hkey]
          exact ih₂

end LimitConfig

namespace RateLimitingClient

theorem localRun_admittedIn_span_le (c : RateLimitingClient) (s : String) {limit windowSeconds : ℤ}
    (hW : 0 ≤ windowSeconds) (hlimit : 0 ≤ limit) (calls : List (ℚ × ℚ))
    (hs : (calls.map Prod.fst).Pairwise (· ≤ ·)) (lo : ℚ) :
    (admittedIn (calls.map Prod.fst) (c.localRun s limit windowSeconds calls) lo (lo + windowSeconds) : ℤ) ≤
      2 * limit := by
  cases calls with
  | nil => simp; omega
  | cons first calls =>
      obtain ⟨now, created⟩ := first
      rw [localRun_eq]
      exact LocalEntry.admittedIn_any_span le_rfl hW hlimit _ _ hs

end RateLimitingClient

theorem LimitConfig.outageCalls_sorted (cfg : LimitConfig) (s : String) {calls : List LimitedCall}
    (hs : (calls.map LimitedCall.now).Pairwise (· ≤ ·)) :
    ((cfg.outageCalls s calls).map Prod.fst).Pairwise (· ≤ ·) := by
  simp only [LimitConfig.outageCalls, List.map_map, List.pairwise_map] at hs ⊢
  exact hs.sublist (List.filter_sublist _)

/--
The local fallback sees the outage calls alone.  Take any sequence of calls of a
function wrapped by `RateLimitDecorator(client).limit(...)`, with any arguments
and any service answers, on any client.  For every identifier string `s`, the
calls whose check failed and went to `local_rate_limit` under `s` are answered,
and leave the entry of `s` in `_local_cache`, exactly as a run of
`local_rate_limit(s, fallback_limit, fallback_window)` on those calls alone
would; no other call touches that entry.  So with `fallback_window > 0`,
`fallback_limit ≥ 0` and non-decreasing readings, any span of
`fallback_window` runs the function on at most `2 * fallback_limit` of them.
-/
theorem fallback_answers_outage_calls_alone (cfg : LimitConfig) (c : RateLimitingClient)
    (calls : List LimitedCall) (s : String) :
    calledWhere (cfg.onKey s) calls (cfg.run c calls) =
        c.localRun s cfg.fallbackLimit cfg.fallbackWindow (cfg.outageCalls s calls) ∧
      dictGet (cfg.after c calls).localCache (cacheKey s cfg.fallbackWindow) =
        dictGet (c.localAfter s cfg.fallbackLimit cfg.fallbackWindow (cfg.outageCalls s calls)).localCache
          (cacheKey s cfg.fallbackWindow) ∧
      (0 < cfg.fallbackWindow → 0 ≤ cfg.fallbackLimit → (calls.map LimitedCall.now).Pairwise (· ≤ ·) →
        ∀ lo, (admittedIn ((cfg.outageCalls s calls).map Prod.fst)
          (calledWhere (cfg.onKey s) calls (cfg.run c calls)) lo (lo + cfg.fallbackWindow) : ℤ) ≤
            2 * cfg.fallbackLimit) := by
  obtain ⟨hrun, hafter⟩ := LimitConfig.run_onKey calls (rfl : RateLimitingClient.SameEntry s cfg.fallbackWindow c c)
  refine ⟨hrun, hafter, fun hW hlimit hs lo => ?_⟩
  rw [hrun]
  exact c.localRun_admittedIn_span_le s hW.le hlimit _ (cfg.outageCalls_sorted s hs) lo

def outageBurst : List LimitedCall :=
  [0, 1, 2, 3].map fun now => ⟨[], [("account_id", .str "account-42")], .error ⟨"ConnectionError", "Connection refused"⟩,
    now, now⟩

theorem outageBurst_fallback_span :
    0 < LimitConfig.default.fallbackWindow ∧ 0 ≤ LimitConfig.default.fallbackLimit ∧
      (outageBurst.map LimitedCall.now).Pairwise (· ≤ ·) ∧
      ∀ lo, (admittedIn ((LimitConfig.default.outageCalls "account-42" outageBurst).map Prod.fst)
        (calledWhere (LimitConfig.default.onKey "account-42") outageBurst
          (LimitConfig.default.run ⟨[]⟩ outageBurst)) lo (lo + LimitConfig.default.fallbackWindow) : ℤ) ≤
            2 * LimitConfig.default.fallbackLimit :=
  have hsorted : (outageBurst.map LimitedCall.now).Pairwise (· ≤ ·) := by norm_num [outageBurst]
  ⟨by decide, by decide, hsorted,
    (fallback_answers_outage_calls_alone LimitConfig.default ⟨[]⟩ outageBurst "account-42").2.2 (by decide)
      (by decide) hsorted⟩

/-- With `fallback_limit=2`, the fallback lets three calls of the burst run, the
first window ending at once, and refuses the fourth. -/
example :
    ({ LimitConfig.default with fallbackLimit := 2 }.run ⟨[]⟩ outageBurst).map LimitResult.isCalled =
      [true, true, true, false] := by
  simp [outageBurst, LimitConfig.run, LimitConfig.wrapper, checkRateLimit, usesFallback, LimitConfig.default,
    RateLimitingClient.localRateLimit, RateLimitingClient.entryFor, LocalEntry.checkLimit, LimitConfig.identifier,
    Json.pyOr, Json.truthy, Json.pyStr, LimitResult.isCalled]
  norm_num

end ResilienceCore.RateLimit
