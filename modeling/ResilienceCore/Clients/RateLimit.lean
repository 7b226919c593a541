import ResilienceCore.Python
import Mathlib.Algebra.Order.Ring.Rat
import Mathlib.Algebra.Order.Ring.Cast
import Mathlib.Tactic.NormNum

/-!
# The local fixed-window rate limiter

`RateLimitingClient.local_rate_limit` counts the calls for a key in
`_local_cache`, a `defaultdict` whose factory gives a new key the entry
`{"count": 0, "reset_time": time.time()}`.  A call whose reading is past
`reset_time` resets the count and sets `reset_time` to its reading plus
`window_seconds`; a call is allowed while the count is below `limit`, and then
counts.

A window that opens at a reset holds at most `limit` allowed calls.  The first
window of a new key does not: it ends at the factory's own reading, taken during
the key's first call, so the next call resets the count.  The calls at the first
call's reading and `limit` more after it all pass within `window_seconds` of the
first call.  Any span of `window_seconds` meets at most two windows, and so
holds at most `2 * limit` allowed calls.

Clock readings are `time.time()`, taken as rationals.
-/

namespace ResilienceCore.RateLimit

structure LocalEntry where
  count : ℕ
  resetTime : ℚ

structure RateLimitingClient where
  localCache : List (String × LocalEntry)

def cacheKey (identifier : String) (windowSeconds : ℤ) : String :=
  identifier ++ ":" ++ toString windowSeconds

namespace LocalEntry

variable (limit windowSeconds : ℤ)

/-- The reset check and the limit check of `local_rate_limit` on the key's entry
at reading `now`: whether the call is allowed, and the entry after it. -/
def checkLimit (entry : LocalEntry) (now : ℚ) : Bool × LocalEntry :=
  let entry : LocalEntry := if entry.resetTime < now then ⟨0, now + windowSeconds⟩ else entry
  if limit ≤ entry.count then (false, entry) else (true, { entry with count := entry.count + 1 })

def answers : LocalEntry → List ℚ → List Bool
  | _, [] => []
  | entry, now :: readings =>
      (entry.checkLimit limit windowSeconds now).1 :: answers (entry.checkLimit limit windowSeconds now).2 readings

def after : LocalEntry → List ℚ → LocalEntry
  | entry, [] => entry
  | entry, now :: readings => after (entry.checkLimit limit windowSeconds now).2 readings

end LocalEntry

namespace RateLimitingClient

variable (identifier : String) (limit windowSeconds : ℤ)

/-- `self._local_cache[cache_key]`: the key's entry, which the factory makes at
reading `created` if the key is new. -/
def entryFor (c : RateLimitingClient) (created : ℚ) : LocalEntry :=
  (dictGet c.localCache (cacheKey identifier windowSeconds)).getD ⟨0, created⟩

/-- `local_rate_limit(identifier, limit, window_seconds)` at reading `now`, under
`_cache_lock`; `created` is the reading the factory takes if the key is new. -/
def localRateLimit (c : RateLimitingClient) (now created : ℚ) : Bool × RateLimitingClient :=
  let admitted := (c.entryFor identifier windowSeconds created).checkLimit limit windowSeconds now
  (admitted.1, ⟨dictSet c.localCache (cacheKey identifier windowSeconds) admitted.2⟩)

/-- The answers to calls for one key, each given as its reading and the reading
the factory would take. -/
def localRun : RateLimitingClient → List (ℚ × ℚ) → List Bool
  | _, [] => []
  | c, (now, created) :: calls =>
      (c.localRateLimit identifier limit windowSeconds now created).1 ::
        localRun (c.localRateLimit identifier limit windowSeconds now created).2 calls

def localAfter : RateLimitingClient → List (ℚ × ℚ) → RateLimitingClient
  | c, [] => c
  | c, (now, created) :: calls => localAfter (c.localRateLimit identifier limit windowSeconds now created).2 calls

end RateLimitingClient

/-- How many calls at `readings` with answer `True` fall in `[lo, hi]`. -/
def admittedIn (readings : List ℚ) (answers : List Bool) (lo hi : ℚ) : ℕ :=
  ((readings.zip answers).filter fun call => call.2 && decide (lo ≤ call.1 ∧ call.1 ≤ hi)).length

/-! ## One call -/

namespace LocalEntry

variable {limit windowSeconds : ℤ}

theorem checkLimit_of_le {entry : LocalEntry} {now : ℚ} (h : now ≤ entry.resetTime) :
    entry.checkLimit limit windowSeconds now =
      if limit ≤ entry.count then (false, entry) else (true, { entry with count := entry.count + 1 }) := by
  simp [checkLimit, not_lt.2 h]

theorem checkLimit_of_lt {entry : LocalEntry} {now : ℚ} (h : entry.resetTime < now)
    (hW : 0 ≤ windowSeconds) :
    entry.checkLimit limit windowSeconds now = (⟨0, now + windowSeconds⟩ : LocalEntry).checkLimit limit windowSeconds now := by
  have hfresh : ¬ now + windowSeconds < now := not_lt.2 (le_add_of_nonneg_right (Int.cast_nonneg.2 hW))
  simp only [checkLimit, if_pos h, if_neg hfresh]

theorem answers_of_lt {entry : LocalEntry} {r : ℚ} (h : entry.resetTime < r) (hW : 0 ≤ windowSeconds)
    (readings : List ℚ) :
    entry.answers limit windowSeconds (r :: readings) =
      (⟨0, r + windowSeconds⟩ : LocalEntry).answers limit windowSeconds (r :: readings) := by
  rw [answers, answers, checkLimit_of_lt h hW]

theorem resetTime_le_checkLimit (entry : LocalEntry) (now : ℚ) (hW : 0 ≤ windowSeconds) :
    entry.resetTime ≤ (entry.checkLimit limit windowSeconds now).2.resetTime ∧
      now ≤ (entry.checkLimit limit windowSeconds now).2.resetTime := by
  have hnow : now ≤ now + windowSeconds := le_add_of_nonneg_right (Int.cast_nonneg.2 hW)
  unfold checkLimit
  by_cases h : entry.resetTime < now
  · simp only [if_pos h]
    split_ifs <;> exact ⟨h.le.trans hnow, hnow⟩
  · simp only [if_neg h]
    split_ifs <;> exact ⟨le_rfl, not_lt.1 h⟩

theorem resetTime_le_after (hW : 0 ≤ windowSeconds) :
    ∀ (entry : LocalEntry) (readings : List ℚ),
      entry.resetTime ≤ (entry.after limit windowSeconds readings).resetTime ∧
        ∀ r ∈ readings, r ≤ (entry.after limit windowSeconds readings).resetTime
  | _, [] => ⟨le_rfl, fun _ h => absurd h (List.not_mem_nil _)⟩
  | entry, now :: readings => by
      obtain ⟨hle, hnow⟩ := resetTime_le_checkLimit entry now hW
      obtain ⟨hle', hrest⟩ := resetTime_le_after hW (entry.checkLimit limit windowSeconds now).2 readings
      refine ⟨hle.trans hle', fun r hr => ?_⟩
      rcases List.mem_cons.1 hr with rfl | hr
      · exact hnow.trans hle'
      · exact hrest r hr

theorem answers_append (entry : LocalEntry) (pre post : List ℚ) :
    entry.answers limit windowSeconds (pre ++ post) =
      entry.answers limit windowSeconds pre ++ (entry.after limit windowSeconds pre).answers limit windowSeconds post := by
  induction pre generalizing entry with
  | nil => rfl
  | cons now pre ih => exact congrArg _ (ih _)

@[simp] theorem length_answers (entry : LocalEntry) (readings : List ℚ) :
    (entry.answers limit windowSeconds readings).length = readings.length := by
  induction readings generalizing entry with
  | nil => rfl
  | cons now readings ih => exact congrArg (· + 1) (ih _)

end LocalEntry

/-! ## Counting allowed calls -/

@[simp] theorem admittedIn_nil (answers : List Bool) (lo hi : ℚ) : admittedIn [] answers lo hi = 0 := rfl

theorem admittedIn_cons (r : ℚ) (readings : List ℚ) (a : Bool) (answers : List Bool) (lo hi : ℚ) :
    admittedIn (r :: readings) (a :: answers) lo hi =
      (if a ∧ lo ≤ r ∧ r ≤ hi then 1 else 0) + admittedIn readings answers lo hi := by
  by_cases h : a ∧ lo ≤ r ∧ r ≤ hi
  · simp only [admittedIn, List.zip_cons_cons, List.filter_cons, h, Bool.and_eq_true, decide_eq_true_eq,
      and_self, if_true, List.length_cons]
    omega
  · simp only [admittedIn, List.zip_cons_cons, List.filter_cons, h, Bool.and_eq_true, decide_eq_true_eq,
      if_false, zero_add]

theorem admittedIn_append {pre : List ℚ} {answers : List Bool} (h : answers.length = pre.length)
    (post : List ℚ) (answers' : List Bool) (lo hi : ℚ) :
    admittedIn (pre ++ post) (answers ++ answers') lo hi =
      admittedIn pre answers lo hi + admittedIn post answers' lo hi := by
  simp [admittedIn, List.zip_append h.symm]

theorem admittedIn_eq_zero {readings : List ℚ} {lo hi : ℚ} (h : ∀ r ∈ readings, r < lo ∨ hi < r)
    (answers : List Bool) : admittedIn readings answers lo hi = 0 := by
  refine List.length_eq_zero.2 (List.filter_eq_nil_iff.2 fun call hcall => ?_)
  rcases h call.1 (List.of_mem_zip hcall).1 with hlt | hlt <;>
    simp [not_le.2 hlt]

/-! ## Windows -/

namespace LocalEntry

variable {limit windowSeconds : ℤ}

theorem admittedIn_cons_le {entry : LocalEntry} {r : ℚ} (h : r ≤ entry.resetTime) (readings : List ℚ)
    (lo hi : ℚ) :
    (entry.checkLimit limit windowSeconds r).2.resetTime = entry.resetTime ∧
      max limit (entry.checkLimit limit windowSeconds r).2.count = max limit entry.count ∧
      (admittedIn (r :: readings) (entry.answers limit windowSeconds (r :: readings)) lo hi : ℤ) +
          entry.count ≤
        admittedIn readings ((entry.checkLimit limit windowSeconds r).2.answers limit windowSeconds readings)
          lo hi + (entry.checkLimit limit windowSeconds r).2.count := by
  rw [answers, checkLimit_of_le h]
  by_cases hfull : limit ≤ entry.count
  · simp [hfull, admittedIn_cons]
  · simp only [if_neg hfull, admittedIn_cons]
    refine ⟨trivial, by push_cast; omega, ?_⟩
    split_ifs <;> push_cast <;> omega

theorem admittedIn_window {lo hi : ℚ} :
    ∀ (entry : LocalEntry) (readings : List ℚ), readings.Pairwise (· ≤ ·) → hi ≤ entry.resetTime →
      (admittedIn readings (entry.answers limit windowSeconds readings) lo hi : ℤ) + entry.count ≤
        max limit entry.count
  | _, [], _, _ => by simp
  | entry, r :: readings, hs, hhi => by
      obtain ⟨hr, hs⟩ := List.pairwise_cons.1 hs
      by_cases hreset : r ≤ entry.resetTime
      · obtain ⟨hkeep, hmax, hle⟩ := @admittedIn_cons_le limit windowSeconds _ _ hreset readings lo hi
        have := @admittedIn_window lo hi (entry.checkLimit limit windowSeconds r).2 readings hs (hkeep ▸ hhi)
        omega
      · have hout : ∀ r' ∈ r :: readings, r' < lo ∨ hi < r' := fun r' hr' => by
          rcases List.mem_cons.1 hr' with rfl | hr'
          · exact .inr (hhi.trans_lt (not_le.1 hreset))
          · exact .inr (hhi.trans_lt ((not_le.1 hreset).trans_le (hr r' hr')))
        rw [admittedIn_eq_zero hout]
        simp

theorem admittedIn_span {lo hi : ℚ} (hspan : hi ≤ lo + windowSeconds) (hW : 0 ≤ windowSeconds)
    (hlimit : 0 ≤ limit) :
    ∀ (entry : LocalEntry) (readings : List ℚ), readings.Pairwise (· ≤ ·) → (∀ r ∈ readings, lo ≤ r) →
      (admittedIn readings (entry.answers limit windowSeconds readings) lo hi : ℤ) + entry.count ≤
        max limit entry.count + limit
  | _, [], _, _ => by simp; omega
  | entry, r :: readings, hs, hlo => by
      by_cases hreset : r ≤ entry.resetTime
      · obtain ⟨hkeep, hmax, hle⟩ := @admittedIn_cons_le limit windowSeconds _ _ hreset readings lo hi
        have := admittedIn_span hspan hW hlimit (entry.checkLimit limit windowSeconds r).2 readings
          (List.pairwise_cons.1 hs).2 fun r' h => hlo r' (List.mem_cons_of_mem _ h)
        omega
      · have hfresh : hi ≤ (⟨0, r + windowSeconds⟩ : LocalEntry).resetTime :=
          hspan.trans (add_le_add_right (hlo r (List.mem_cons_self _ _)) _)
        have hwin := @admittedIn_window limit windowSeconds lo hi ⟨0, r + windowSeconds⟩ (r :: readings) hs hfresh
        rw [answers_of_lt (not_le.1 hreset) hW]
        simp only [Nat.cast_zero, add_zero] at hwin
        omega

theorem admittedIn_any_span {lo hi : ℚ} (hspan : hi ≤ lo + windowSeconds) (hW : 0 ≤ windowSeconds)
    (hlimit : 0 ≤ limit) :
    ∀ (entry : LocalEntry) (readings : List ℚ), readings.Pairwise (· ≤ ·) →
      (admittedIn readings (entry.answers limit windowSeconds readings) lo hi : ℤ) ≤ 2 * limit
  | _, [], _ => by simp; omega
  | entry, r :: readings, hs => by
      by_cases hr : lo ≤ r
      · have hlo : ∀ r' ∈ r :: readings, lo ≤ r' := fun r' h => by
          rcases List.mem_cons.1 h with rfl | h
          · exact hr
          · exact hr.trans ((List.pairwise_cons.1 hs).1 r' h)
        have := @admittedIn_span limit windowSeconds lo hi hspan hW hlimit entry (r :: readings) hs hlo
        omega
      · rw [answers, admittedIn_cons, if_neg fun h => hr h.2.1, zero_add]
        exact admittedIn_any_span hspan hW hlimit _ readings (List.pairwise_cons.1 hs).2

theorem admittedIn_reset_window (hW : 0 ≤ windowSeconds) (hlimit : 0 ≤ limit) (entry : LocalEntry)
    (pre : List ℚ) (now : ℚ) (post : List ℚ) (hs : (pre ++ now :: post).Pairwise (· ≤ ·))
    (hreset : (entry.after limit windowSeconds pre).resetTime < now) :
    (admittedIn (pre ++ now :: post) (entry.answers limit windowSeconds (pre ++ now :: post)) now
      (now + windowSeconds) : ℤ) ≤ limit := by
  have hpre : ∀ r ∈ pre, r < now ∨ now + windowSeconds < r :=
    fun r hr => .inl (((resetTime_le_after hW entry pre).2 r hr).trans_lt hreset)
  have hwin := @admittedIn_window limit windowSeconds now (now + windowSeconds) ⟨0, now + windowSeconds⟩
    (now :: post) (List.pairwise_append.1 hs).2.1 le_rfl
  rw [answers_append, admittedIn_append (length_answers _ _), admittedIn_eq_zero hpre,
    answers_of_lt hreset hW]
  simp only [Nat.cast_zero, add_zero, max_eq_left hlimit] at hwin
  simpa using hwin

end LocalEntry

/-! ## The client -/

namespace RateLimitingClient

variable {identifier : String} {limit windowSeconds : ℤ}

@[simp] theorem entryFor_localRateLimit (c : RateLimitingClient) (now created created' : ℚ) :
    (c.localRateLimit identifier limit windowSeconds now created).2.entryFor identifier windowSeconds created' =
      ((c.entryFor identifier windowSeconds created).checkLimit limit windowSeconds now).2 := by
  simp [localRateLimit, entryFor]

theorem localRun_eq (c : RateLimitingClient) (now created : ℚ) (calls : List (ℚ × ℚ)) :
    c.localRun identifier limit windowSeconds ((now, created) :: calls) =
      (c.entryFor identifier windowSeconds created).answers limit windowSeconds (now :: calls.map Prod.fst) := by
  induction calls generalizing c now created with
  | nil => rfl
  | cons call calls ih =>
      rw [localRun, ih, entryFor_localRateLimit]
      rfl

theorem entryFor_localAfter (c : RateLimitingClient) (now created created' : ℚ) (calls : List (ℚ × ℚ)) :
    (c.localAfter identifier limit windowSeconds ((now, created) :: calls)).entryFor identifier windowSeconds created' =
      (c.entryFor identifier windowSeconds created).after limit windowSeconds (now :: calls.map Prod.fst) := by
  induction calls generalizing c now created with
  | nil => exact entryFor_localRateLimit c now created created'
  | cons call calls ih =>
      rw [localAfter, ih, entryFor_localRateLimit]
      rfl

end RateLimitingClient

open RateLimitingClient

/--
The local limiter's windows.  Take any calls for one key at non-decreasing
readings, with `window_seconds > 0` and `limit ≥ 0`.  A window that opens at a
call which reset the count holds at most `limit` allowed calls; any span of
`window_seconds`, the first call's window among them, holds at most
`2 * limit`.
-/
theorem reset_windows_hold_limit_spans_twice (c : RateLimitingClient) (identifier : String)
    (limit windowSeconds : ℤ) (calls : List (ℚ × ℚ)) (hW : 0 < windowSeconds) (hlimit : 0 ≤ limit)
    (hs : (calls.map Prod.fst).Pairwise (· ≤ ·)) :
    (∀ pre now created post, calls = pre ++ (now, created) :: post →
      ((c.localAfter identifier limit windowSeconds pre).entryFor identifier windowSeconds created).resetTime < now →
      (admittedIn (calls.map Prod.fst) (c.localRun identifier limit windowSeconds calls) now
        (now + windowSeconds) : ℤ) ≤ limit) ∧
    ∀ lo, (admittedIn (calls.map Prod.fst) (c.localRun identifier limit windowSeconds calls) lo
      (lo + windowSeconds) : ℤ) ≤ 2 * limit := by
  refine ⟨fun pre now created post hcalls hreset => ?_, fun lo => ?_⟩
  · subst hcalls
    cases pre with
    | nil =>
        rw [List.nil_append, localRun_eq] at *
        exact LocalEntry.admittedIn_reset_window hW.le hlimit _ [] now _ (by simpa using hs) hreset
    | cons first pre =>
        obtain ⟨now₀, created₀⟩ := first
        rw [entryFor_localAfter] at hreset
        rw [List.cons_append, localRun_eq]
        simpa using LocalEntry.admittedIn_reset_window hW.le hlimit _ (now₀ :: pre.map Prod.fst) now
          (post.map Prod.fst) (by simpa using hs) hreset
  · cases calls with
    | nil => simp; omega
    | cons first calls =>
        obtain ⟨now₀, created₀⟩ := first
        rw [localRun_eq]
        exact LocalEntry.admittedIn_any_span le_rfl hW.le hlimit _ _ hs

def threeCalls : List (ℚ × ℚ) := [(0, 0), (1, 1), (2, 2)]

theorem threeCalls_windows :
    (0 : ℤ) < 60 ∧ (0 : ℤ) ≤ 2 ∧ (threeCalls.map Prod.fst).Pairwise (· ≤ ·) ∧
    (∀ pre now created post, threeCalls = pre ++ (now, created) :: post →
      (((⟨[]⟩ : RateLimitingClient).localAfter "account-42" 2 60 pre).entryFor "account-42" 60
        created).resetTime < now →
      (admittedIn (threeCalls.map Prod.fst) ((⟨[]⟩ : RateLimitingClient).localRun "account-42" 2 60 threeCalls)
        now (now + 60) : ℤ) ≤ 2) ∧
    ∀ lo, (admittedIn (threeCalls.map Prod.fst)
      ((⟨[]⟩ : RateLimitingClient).localRun "account-42" 2 60 threeCalls) lo (lo + 60) : ℤ) ≤ 2 * 2 :=
  have hsorted : (threeCalls.map Prod.fst).Pairwise (· ≤ ·) := by norm_num [threeCalls]
  ⟨by norm_num, by norm_num, hsorted,
    reset_windows_hold_limit_spans_twice ⟨[]⟩ "account-42" 2 60 threeCalls (by norm_num) (by norm_num) hsorted⟩

/-- With `limit = 2` and `window_seconds = 60`, the first call's window holds all
three calls. -/
theorem threeCalls_first_window_holds_three : admittedIn (threeCalls.map Prod.fst)
    ((⟨[]⟩ : RateLimitingClient).localRun "account-42" 2 60 threeCalls) 0 (0 + 60) = 3 := by
  norm_num [threeCalls, admittedIn, RateLimitingClient.localRun, RateLimitingClient.localRateLimit,
    RateLimitingClient.entryFor, LocalEntry.checkLimit]

example : admittedIn [0, 0, 1, 1] ((⟨[]⟩ : RateLimitingClient).localRun "account-42" 2 60
    [(0, 0), (0, 0), (1, 1), (1, 1)]) 0 (0 + 60) = 4 := by
  norm_num [admittedIn, RateLimitingClient.localRun, RateLimitingClient.localRateLimit,
    RateLimitingClient.entryFor, LocalEntry.checkLimit]

end ResilienceCore.RateLimit
