import ResilienceCore.Clients.LruCache

/-!
# The feature-flags client's two caches

`FeatureFlagsClient.is_enabled` is wrapped in `lru_cache(maxsize=1000)`, and its
body keeps a second record, `_cache_timestamp`, of when the service last
answered for a key.  The body's TTL check clears the whole `lru_cache` once the
key's answer is older than `cache_ttl`, but the body runs only on an
`lru_cache` miss.  Once a flag's answer is cached, every later call for it
returns that answer without reaching the check, whatever the service says by
then and however long ago it answered.

A dict `context` cannot be hashed into an `lru_cache` key, so such a call raises
`TypeError`.  `FeatureFlagDecorator.flag` passes
`kwargs.get('_feature_context', {})`, a dict unless the caller passed
`_feature_context=None`.

Clock readings are `datetime.now()` in microseconds, the resolution of
`datetime`, so `timedelta(seconds=cache_ttl)` is `cache_ttl * 1000000`.
-/

namespace ResilienceCore.FeatureFlags

abbrev Context := List (String × Json)

/-- The service's answer to `GET /api/v1/features/evaluate` for a flag at a
clock reading: the JSON body, or the `RequestException` the request raised (no
connection, an error status, a body that is not JSON). -/
abbrev Service := ℕ → String → Except PyException Json

structure FeatureFlagsClient where
  cacheTtl : ℕ
  cacheTimestamp : List (String × ℕ)

def FeatureFlagsClient.init (cacheTtlSeconds : ℕ) : FeatureFlagsClient := ⟨cacheTtlSeconds, []⟩

/-- The cache of `is_enabled`, keyed by `feature_name`: the only `context` it can
hash is `None`. -/
abbrev IsEnabledCache := LruCache String Json

def cacheKey (featureName : String) : String := featureName ++ ":\x7b\x7d"

def enabledOf : Json → Except PyException Json
  | .obj fields => .ok (((Json.obj fields).get? "enabled").getD (.bool false))
  | result => .error ⟨"AttributeError", "'" ++ result.typeName ++ "' object has no attribute 'get'"⟩

/-- The body's TTL check at clock reading `now`: a key whose answer is older than
`cache_ttl` clears the whole `lru_cache` and loses its timestamp. -/
def checkExpiry (featureName : String) (now : ℕ) (cache : IsEnabledCache) (c : FeatureFlagsClient) :
    IsEnabledCache × FeatureFlagsClient :=
  match dictGet c.cacheTimestamp (cacheKey featureName) with
  | some stamp =>
      if stamp + c.cacheTtl * 1000000 < now then
        (cache.cacheClear, { c with cacheTimestamp := dictDel c.cacheTimestamp (cacheKey featureName) })
      else (cache, c)
  | none => (cache, c)

/-- The body of `is_enabled(feature_name, None)` at clock reading `now`: a failed
request answers `False`; an answer is stamped with `now` before its
`enabled` field is read. -/
def isEnabledBody (service : Service) (featureName : String) (now : ℕ) (cache : IsEnabledCache)
    (c : FeatureFlagsClient) : Except PyException Json × IsEnabledCache × FeatureFlagsClient :=
  let checked := checkExpiry featureName now cache c
  match service now featureName with
  | .error _ => (.ok (.bool false), checked)
  | .ok result =>
      (enabledOf result, checked.1,
        { checked.2 with cacheTimestamp := dictSet checked.2.cacheTimestamp (cacheKey featureName) now })

def isEnabledKey (featureName : String) : Option Context → Except PyException String
  | none => .ok featureName
  | some _ => .error unhashableDict

def isEnabled (service : Service) (featureName : String) (context : Option Context) (now : ℕ)
    (cache : IsEnabledCache) (c : FeatureFlagsClient) :
    Except PyException Json × IsEnabledCache × FeatureFlagsClient :=
  cache.wrap (isEnabledKey featureName context) (isEnabledBody service featureName now) c

/-- The wrapper `FeatureFlagDecorator.flag(feature_name, default_return)` puts
around `func`, called with the keyword `_feature_context` set to
`featureContext` (`none` when it is not passed): `.ok true` when it calls `func`,
`.ok false` when it returns `default_return`. -/
def flag (service : Service) (featureName : String) (featureContext : Option (Option Context))
    (now : ℕ) (cache : IsEnabledCache) (c : FeatureFlagsClient) :
    Except PyException Bool × IsEnabledCache × FeatureFlagsClient :=
  match isEnabled service featureName (featureContext.getD (some [])) now cache c with
  | (.ok enabled, cache', c') => (.ok enabled.truthy, cache', c')
  | (.error e, cache', c') => (.error e, cache', c')

structure Call where
  featureName : String
  context : Option Context
  now : ℕ

def isEnabledRun (service : Service) : List Call → IsEnabledCache → FeatureFlagsClient →
    List (Except PyException Json)
  | [], _, _ => []
  | call :: calls, cache, c =>
      let (result, cache', c') := isEnabled service call.featureName call.context call.now cache c
      result :: isEnabledRun service calls cache' c'

/-! ## Hits never reach the TTL check -/

theorem isEnabled_dict (service : Service) (featureName : String) (context : Context) (now : ℕ)
    (cache : IsEnabledCache) (c : FeatureFlagsClient) :
    isEnabled service featureName (some context) now cache c = (.error unhashableDict, cache, c) :=
  rfl

theorem isEnabled_hit (service : Service) {featureName : String} {value : Json} (now : ℕ)
    {cache : IsEnabledCache} (h : cache.lookup featureName = some value) (c : FeatureFlagsClient) :
    isEnabled service featureName none now cache c = (.ok value, cache.touch featureName, c) :=
  cache.wrap_hit h _ c

theorem isEnabledRun_cached (service : Service) {featureName : String} {value : Json} :
    ∀ (calls : List Call) (cache : IsEnabledCache) (c : FeatureFlagsClient),
      cache.lookup featureName = some value →
      (∀ call ∈ calls, call.featureName = featureName ∧ call.context = none) →
      isEnabledRun service calls cache c = calls.map fun _ => .ok value
  | [], _, _, _, _ => rfl
  | call :: calls, cache, c, h, hcalls => by
      obtain ⟨hname, hctx⟩ := hcalls call (List.mem_cons_self _ _)
      rw [isEnabledRun, hname, hctx, isEnabled_hit service call.now h]
      exact congrArg _ (isEnabledRun_cached service calls _ c (by rwa [LruCache.lookup_touch])
        fun call' h' => hcalls call' (List.mem_cons_of_mem _ h'))

/--
The answers of `is_enabled` can be of any age.  A dict context, which
`FeatureFlagDecorator.flag` passes unless the caller gives
`_feature_context=None`, raises `TypeError` and changes nothing, so a decorated
function without that keyword never runs.  And once the `lru_cache` holds an
answer for a flag, every later call for it with a `None` context returns that
answer, at any clock readings and whatever the service answers by then: the TTL
check in the body is never reached.
-/
theorem cached_flag_answers_never_expire :
    (∀ (service : Service) (featureName : String) (context : Context) (now : ℕ)
      (cache : IsEnabledCache) (c : FeatureFlagsClient),
      isEnabled service featureName (some context) now cache c = (.error unhashableDict, cache, c)) ∧
    (∀ (service : Service) (featureName : String) (now : ℕ) (cache : IsEnabledCache)
      (c : FeatureFlagsClient), flag service featureName none now cache c = (.error unhashableDict, cache, c)) ∧
    ∀ (service : Service) (featureName : String) (value : Json) (calls : List Call)
      (cache : IsEnabledCache) (c : FeatureFlagsClient),
      cache.lookup featureName = some value →
      (∀ call ∈ calls, call.featureName = featureName ∧ call.context = none) →
      isEnabledRun service calls cache c = calls.map fun _ => .ok value :=
  ⟨isEnabled_dict, fun _ _ _ _ _ => rfl, fun service _ _ calls cache c h hcalls =>
    isEnabledRun_cached service calls cache c h hcalls⟩

def killedAt100 : Service := fun now _ =>
  .ok (.obj [("enabled", .bool (decide (now < 100 * 1000000)))])

example :
    (isEnabledRun killedAt100 [⟨"new_dashboard", none, 0⟩, ⟨"new_dashboard", none, 1000 * 1000000⟩]
        (.empty 1000) (.init 300)).map (·.toOption.map Json.truthy) = [some true, some true] ∧
    (((killedAt100 (700 * 1000000) "new_dashboard").toOption.bind (·.get? "enabled")).map
      Json.truthy) = some false := by
  decide

end ResilienceCore.FeatureFlags
