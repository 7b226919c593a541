import ResilienceCore.Clients.LruCache

/-!
# The discovery client's two caches

`BiosecurityClient.discover_service` is wrapped in `lru_cache(maxsize=100)`, and
its body keeps a second cache, `_cache`, of the pairs it read from Vault with
the time each was stored.  The body serves a `_cache` entry only while it is
younger than `cache_ttl`, and the cleanup thread drops entries older than twice
that.  But the body runs only on an `lru_cache` miss.  A pair the `lru_cache`
holds is returned at any later time, and only `refresh_credentials`, which
calls `cache_clear()`, or eviction by other keys removes it.

`_cache` and `_cache_timestamps` are written and deleted together under
`_cache_lock`, so they are one dict here, from key to pair and timestamp.
Clock readings are `datetime.now()` in microseconds.  A call's readings are
taken as one: the check, the Vault read and the timestamp share it.
-/

namespace ResilienceCore.Discovery

inductive ServiceType where
  | database
  | cache
  | api
  | kafka
  | internal
  | external
  deriving DecidableEq, Repr

def ServiceType.value : ServiceType → String
  | .database => "database"
  | .cache => "cache"
  | .api => "api"
  | .kafka => "kafka"
  | .internal => "internal"
  | .external => "external"

/-- What Vault holds at a path at a clock reading, as `vault.read` and then
`_parse_endpoint` and `_parse_credentials` make of it: the
`(endpoint, credentials)` pair, or what the read or a parse raised (among them
`ValueError("No data found at path: ...")`). -/
abbrev Vault (α : Type) := ℕ → String → Except PyException α

/-- The fields of the client that `discover_service`, `refresh_credentials` and
the cleanup thread read and write. -/
structure BiosecurityClient (α : Type) where
  teamName : String
  environment : String
  cell : String
  cacheTtl : ℕ
  cache : List (String × α × ℕ)

abbrev DiscoverCache (α : Type) := LruCache (String × ServiceType) α

namespace BiosecurityClient

variable {α : Type} (vault : Vault α) (c : BiosecurityClient α)

def getDiscoveryPath (serviceName : String) (serviceType : ServiceType) : String :=
  "terraform/" ++ c.teamName ++ "/" ++ c.environment ++ "/" ++ c.cell ++ "/" ++ serviceName ++ "/" ++
    serviceName ++ "-" ++ serviceType.value

def cacheKey (serviceName : String) (serviceType : ServiceType) : String :=
  serviceName ++ ":" ++ serviceType.value

/-- The body of `discover_service` at clock reading `now`: a `_cache` entry
younger than `cache_ttl`, or else a Vault read, stored with `now`. -/
def discoverServiceBody (serviceName : String) (serviceType : ServiceType) (now : ℕ)
    (lru : DiscoverCache α) (c : BiosecurityClient α) :
    Except PyException α × DiscoverCache α × BiosecurityClient α :=
  let key := cacheKey serviceName serviceType
  match dictGet c.cache key with
  | some (result, cachedTime) =>
      if now < cachedTime + c.cacheTtl * 1000000 then (.ok result, lru, c)
      else fetch
  | none => fetch
where
  fetch :=
    match vault now (c.getDiscoveryPath serviceName serviceType) with
    | .ok result =>
        (.ok result, lru, { c with cache := dictSet c.cache (cacheKey serviceName serviceType) (result, now) })
    | .error e => (.error e, lru, c)

def discoverService (serviceName : String) (serviceType : ServiceType) (now : ℕ)
    (lru : DiscoverCache α) : Except PyException α × DiscoverCache α × BiosecurityClient α :=
  lru.wrap (.ok (serviceName, serviceType)) (discoverServiceBody vault serviceName serviceType now) c

def refreshCredentials (serviceName : String) (serviceType : ServiceType) (lru : DiscoverCache α) :
    DiscoverCache α × BiosecurityClient α :=
  (lru.cacheClear, { c with cache := dictDel c.cache (cacheKey serviceName serviceType) })

/-- One pass of the cleanup thread at clock reading `now`: entries older than
twice `cache_ttl` go. -/
def cleanup (now : ℕ) : BiosecurityClient α :=
  { c with cache := c.cache.filter fun entry => !(entry.2.2 + c.cacheTtl * 2 * 1000000 < now) }

end BiosecurityClient

open BiosecurityClient

inductive Event where
  | discoverService (serviceName : String) (serviceType : ServiceType) (now : ℕ)
  | refreshCredentials (serviceName : String) (serviceType : ServiceType)
  | cleanup (now : ℕ)

def Event.isDiscovery : Event → Bool
  | .discoverService _ _ _ => true
  | _ => false

/-- Whether an event leaves the `lru_cache` entry of `key` alone: a discovery of
that key, or a cleanup pass. -/
def Event.keeps (key : String × ServiceType) : Event → Bool
  | .discoverService serviceName serviceType _ => (serviceName, serviceType) = key
  | .refreshCredentials _ _ => false
  | .cleanup _ => true

variable {α : Type}

def run (vault : Vault α) : List Event → DiscoverCache α → BiosecurityClient α → List (Except PyException α)
  | [], _, _ => []
  | .discoverService serviceName serviceType now :: events, lru, c =>
      let (result, lru', c') := c.discoverService vault serviceName serviceType now lru
      result :: run vault events lru' c'
  | .refreshCredentials serviceName serviceType :: events, lru, c =>
      let (lru', c') := c.refreshCredentials serviceName serviceType lru
      run vault events lru' c'
  | .cleanup now :: events, lru, c => run vault events lru (c.cleanup now)

/-! ## The body keeps its TTL; the `lru_cache` does not -/

theorem discoverServiceBody_fresh (vault : Vault α) (c : BiosecurityClient α) (serviceName : String)
    (serviceType : ServiceType) (now : ℕ) (lru : DiscoverCache α) {result : α} :
    (c.discoverServiceBody vault serviceName serviceType now lru).1 = .ok result →
      vault now (c.getDiscoveryPath serviceName serviceType) = .ok result ∨
      ∃ storedAt, dictGet c.cache (cacheKey serviceName serviceType) = some (result, storedAt) ∧
        now < storedAt + c.cacheTtl * 1000000 := by
  have hfetch : (discoverServiceBody.fetch vault serviceName serviceType now lru c).1 = .ok result →
      vault now (c.getDiscoveryPath serviceName serviceType) = .ok result := by
    unfold discoverServiceBody.fetch
    split <;> simp_all
  unfold discoverServiceBody
  dsimp only
  split
  · rename_i cached storedAt hcached
    split
    · rintro ⟨⟩
      exact .inr ⟨storedAt, hcached, ‹_›⟩
    · exact .inl ∘ hfetch
  · exact .inl ∘ hfetch

theorem discoverService_hit (vault : Vault α) (c : BiosecurityClient α) {serviceName : String}
    {serviceType : ServiceType} (now : ℕ) {lru : DiscoverCache α} {result : α}
    (h : lru.lookup (serviceName, serviceType) = some result) :
    c.discoverService vault serviceName serviceType now lru =
      (.ok result, lru.touch (serviceName, serviceType), c) :=
  lru.wrap_hit h _ c

theorem run_cached (vault : Vault α) {key : String × ServiceType} {result : α} :
    ∀ (events : List Event) (lru : DiscoverCache α) (c : BiosecurityClient α),
      lru.lookup key = some result → (∀ event ∈ events, event.keeps key) →
      run vault events lru c = (events.filter Event.isDiscovery).map fun _ => .ok result
  | [], _, _, _, _ => rfl
  | event :: events, lru, c, h, hkeep => by
      have ih := @run_cached vault key result events
      have hrest : ∀ event ∈ events, event.keeps key := fun e he => hkeep e (List.mem_cons_of_mem _ he)
      have hevent := hkeep event (List.mem_cons_self _ _)
      cases event with
      | discoverService serviceName serviceType now =>
          obtain rfl : (serviceName, serviceType) = key := by simpa [Event.keeps] using hevent
          rw [run, discoverService_hit vault c now h]
          exact congrArg _ (ih _ c (by rwa [LruCache.lookup_touch]) hrest)
      | refreshCredentials => simp [Event.keeps] at hevent
      | cleanup now => exact ih lru _ h hrest

/--
The two caches do not keep credentials within `cache_ttl` of their Vault read.
The body alone would: it returns a fresh Vault read, or a `_cache` entry stored
less than `cache_ttl` ago.  But once the `lru_cache` holds a pair for a key, a
call for that key returns it at any clock reading, whatever Vault holds by then,
without running the body; and along any events that are calls for that key or
cleanup passes, every call returns that pair.
-/
theorem lru_serves_credentials_of_any_age :
    (∀ (vault : Vault α) (c : BiosecurityClient α) (serviceName : String) (serviceType : ServiceType)
      (now : ℕ) (lru : DiscoverCache α) (result : α),
      (c.discoverServiceBody vault serviceName serviceType now lru).1 = .ok result →
      vault now (c.getDiscoveryPath serviceName serviceType) = .ok result ∨
      ∃ storedAt, dictGet c.cache (cacheKey serviceName serviceType) = some (result, storedAt) ∧
        now < storedAt + c.cacheTtl * 1000000) ∧
    (∀ (vault : Vault α) (c : BiosecurityClient α) (serviceName : String) (serviceType : ServiceType)
      (now : ℕ) (lru : DiscoverCache α) (result : α),
      lru.lookup (serviceName, serviceType) = some result →
      c.discoverService vault serviceName serviceType now lru =
        (.ok result, lru.touch (serviceName, serviceType), c)) ∧
    ∀ (vault : Vault α) (key : String × ServiceType) (result : α) (events : List Event)
      (lru : DiscoverCache α) (c : BiosecurityClient α),
      lru.lookup key = some result → (∀ event ∈ events, event.keeps key) →
      run vault events lru c = (events.filter Event.isDiscovery).map fun _ => .ok result :=
  ⟨fun vault c serviceName serviceType now lru _ => discoverServiceBody_fresh vault c serviceName serviceType now lru,
    fun vault c _ _ now _ _ h => discoverService_hit vault c now h,
    fun vault _ _ events lru c h hkeep => run_cached vault events lru c h hkeep⟩

def rotatedAt500 : Vault String := fun now _ =>
  .ok (if now < 500 * 1000000 then "password-1" else "password-2")

def platformClient : BiosecurityClient String :=
  { teamName := "clean-platform", environment := "production", cell := "*", cacheTtl := 300, cache := [] }

example :
    (run rotatedAt500 [.discoverService "postgres_main" .database 0, .cleanup (960 * 1000000),
        .discoverService "postgres_main" .database (1000 * 1000000)] (.empty 100)
        platformClient).map Except.toOption = [some "password-1", some "password-1"] := by
  decide

end ResilienceCore.Discovery
