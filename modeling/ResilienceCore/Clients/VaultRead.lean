import ResilienceCore.Clients.Discovery
import ResilienceCore.PyString

/-!
# What discovery reads out of Vault

`discover_service` reads `vault.read(path)`, takes the response's `data` dict,
and builds a `ServiceEndpoint` with `_parse_endpoint` and a
`ServiceCredentials` with `_parse_credentials`.  `readService` is that read: the
`Vault` that the caching model of `Discovery` runs on.  `get_api_client`,
`get_database_connection` and `get_redis_connection` build a client
configuration from the discovered pair.

An endpoint is written into Vault as `host:port`, or as an `http` or `https`
URL with an optional port and path.  The parser reads both back, with two
exceptions.  A `host:port` whose host begins with `http` is not split: the
whole string is the host, and the port is `data.get('port', 443)`.  And the
scheme of a URL picks the default port and is then dropped: the endpoint's
protocol is `data.get('protocol', 'https')`, so `get_api_client` builds an
`https` base URL for a service Vault lists at an `http` URL.

Whatever the caches hold, every pair `discover_service` returns is one Vault
gave for the service asked for: the `lru_cache` is keyed by the arguments, and
`_cache` by the text `name:type`, which names one service.
-/

namespace ResilienceCore.Discovery

/-- `ServiceEndpoint`.  The host is a `str`: `_parse_endpoint` raises before
building one from any other value.  The other fields hold what Vault gave. -/
structure ServiceEndpoint where
  host : String
  port : Json
  protocol : Json
  region : Json
  cell : Json
  metadata : List (String × Json)
  deriving Repr

structure ServiceCredentials where
  username : Json
  password : Json
  apiKey : Json
  token : Json
  certificate : Json
  privateKey : Json
  metadata : List (String × Json)
  deriving Repr

abbrev VaultData := List (String × Json)

def getEither (data : VaultData) (key fallback : String) : Json :=
  Json.pyOr [dictGetD data key .null] (dictGetD data fallback .null)

def endpointStr (data : VaultData) : Json :=
  Json.pyOr [dictGetD data "endpoint" .null, dictGetD data "host" .null, dictGetD data "address" .null]
    (dictGetD data "url" .null)

/-- `host, port = s.rsplit(':', 1)` and then `port = int(port)`. -/
def splitHostPort (s : String) : Except PyException (String × Json) := do
  let (host, port) ← rsplitOnce ':' s
  let port ← pyInt port
  pure (host, .num port)

def hostAndPort (data : VaultData) : Json → Except PyException (String × Json)
  | .str s =>
      if s.toList.elem ':' && !pyStartsWith s "http" then splitHostPort s
      else if pyStartsWith s "http://" || pyStartsWith s "https://" then
        let protocol := if pyStartsWith s "https" then "https" else "http"
        let hostPort := firstField (pyRemoveAll s (protocol ++ "://")) '/'
        if hostPort.toList.elem ':' then splitHostPort hostPort
        else .ok (hostPort, .num (if protocol = "https" then 443 else 80))
      else .ok (s, dictGetD data "port" (.num 443))
  | .num n => .error (Json.num n).notIterable
  | .bool b => .error (Json.bool b).notIterable
  | v => .error (v.noAttribute "startswith")

def endpointKeys : List String := ["endpoint", "host", "port", "username", "password"]

def parseEndpoint (data : VaultData) : Except PyException ServiceEndpoint :=
  if (endpointStr data).truthy then
    (hostAndPort data (endpointStr data)).map fun hostPort =>
      { host := hostPort.1
        port := hostPort.2
        protocol := dictGetD data "protocol" (.str "https")
        region := dictGetD data "region" .null
        cell := dictGetD data "cell" .null
        metadata := data.filter fun entry => entry.1 ∉ endpointKeys }
  else .error ⟨"ValueError", "No endpoint found in service data"⟩

def parseCredentials (data : VaultData) : ServiceCredentials :=
  { username := getEither data "username" "user"
    password := getEither data "password" "pass"
    apiKey := getEither data "api_key" "apikey"
    token := getEither data "token" "auth_token"
    certificate := getEither data "certificate" "cert"
    privateKey := getEither data "private_key" "key"
    metadata := [("auth_type", dictGetD data "auth_type" (.str "basic")), ("ttl", dictGetD data "ttl" .null),
      ("renewable", dictGetD data "renewable" (.bool false))] }

/-- `vault.read(path)` at a clock reading: the response dict, `None`, or what
the request raised. -/
abbrev VaultStore := ℕ → String → Except PyException (Option VaultData)

/-- The `try` block of `discover_service` after its cache check: the Vault read
and the two parses. -/
def readService (store : VaultStore) : Vault (ServiceEndpoint × ServiceCredentials) := fun now path =>
  let noData : PyException := ⟨"ValueError", "No data found at path: " ++ path⟩
  match store now path with
  | .error e => .error e
  | .ok none => .error noData
  | .ok (some response) =>
      if response.isEmpty then .error noData
      else match dictGet response "data" with
        | none => .error noData
        | some (.obj data) => (parseEndpoint data).map fun endpoint => (endpoint, parseCredentials data)
        | some v => .error (v.noAttribute "get")

/-! ## Client configurations -/

def isWebPort : Json → Bool
  | .num n => n = 80 || n = 443
  | _ => false

/-- The headers of `get_api_client`: a bearer API key, else the token, else
basic authentication when both a username and a password are set. -/
def authHeaders (creds : ServiceCredentials) : List (String × Json) :=
  if creds.apiKey.truthy then [("Authorization", .str ("Bearer " ++ creds.apiKey.pyStr))]
  else if creds.token.truthy then [("X-Auth-Token", creds.token)]
  else if creds.username.truthy && creds.password.truthy then
    [("Authorization",
      .str ("Basic " ++ b64encode (pyEncode (creds.username.pyStr ++ ":" ++ creds.password.pyStr))))]
  else []

structure ApiClientConfig where
  baseUrl : String
  headers : List (String × Json)
  timeout : Json
  verifySsl : Json
  retryCount : Json
  deriving Repr

def apiClientConfig (endpoint : ServiceEndpoint) (creds : ServiceCredentials) : ApiClientConfig :=
  let baseUrl := endpoint.protocol.pyStr ++ "://" ++ endpoint.host
  { baseUrl := if isWebPort endpoint.port then baseUrl else baseUrl ++ ":" ++ endpoint.port.pyStr
    headers := authHeaders creds
    timeout := dictGetD endpoint.metadata "timeout" (.num 30)
    verifySsl := dictGetD endpoint.metadata "verify_ssl" (.bool true)
    retryCount := dictGetD endpoint.metadata "retry_count" (.num 3) }

def databaseConnection (dbName : String) (endpoint : ServiceEndpoint) (creds : ServiceCredentials) :
    List (String × Json) :=
  [("host", .str endpoint.host), ("port", endpoint.port),
    ("database", dictGetD endpoint.metadata "database" (.str dbName)),
    ("username", creds.username), ("password", creds.password),
    ("ssl", dictGetD endpoint.metadata "ssl" (.bool true)),
    ("options", dictGetD endpoint.metadata "options" (.obj []))]

def redisConnection (endpoint : ServiceEndpoint) (creds : ServiceCredentials) : List (String × Json) :=
  [("host", .str endpoint.host), ("port", endpoint.port), ("password", creds.password),
    ("ssl", .bool (match endpoint.protocol with | .str p => p = "rediss" | _ => false)),
    ("db", dictGetD endpoint.metadata "db" (.num 0)), ("decode_responses", .bool true)]

abbrev PairCache := DiscoverCache (ServiceEndpoint × ServiceCredentials)

namespace BiosecurityClient

variable (store : VaultStore) (c : BiosecurityClient (ServiceEndpoint × ServiceCredentials))

/-- A method that discovers a service through both caches and builds its
configuration from the pair. -/
def discoverThen {β : Type} (serviceName : String) (serviceType : ServiceType) (now : ℕ) (lru : PairCache)
    (build : ServiceEndpoint → ServiceCredentials → β) :
    Except PyException β × PairCache × BiosecurityClient (ServiceEndpoint × ServiceCredentials) :=
  let (result, lru', c') := c.discoverService (readService store) serviceName serviceType now lru
  (result.map fun pair => build pair.1 pair.2, lru', c')

def getApiClient (serviceName : String) (now : ℕ) (lru : PairCache) :=
  c.discoverThen store serviceName .api now lru apiClientConfig

def getDatabaseConnection (dbName : String) (now : ℕ) (lru : PairCache) :=
  c.discoverThen store dbName .database now lru (databaseConnection dbName)

def getRedisConnection (cacheName : String) (now : ℕ) (lru : PairCache) :=
  c.discoverThen store cacheName .cache now lru redisConnection

end BiosecurityClient

/-! ## Reading back `host:port` and URLs -/

def scheme (secure : Bool) : String := if secure then "https" else "http"

def hostPortField (host : String) : Option ℤ → String
  | none => host
  | some n => host ++ ":" ++ toString n

def urlText (secure : Bool) (host : String) (port : Option ℤ) (path : Option String) : String :=
  scheme secure ++ "://" ++ hostPortField host port ++ path.elim "" fun p => "/" ++ p

theorem hostPort_toList (host t : String) : (host ++ ":" ++ t).toList = host.toList ++ ':' :: t.toList := by
  simp only [toList_append, List.append_assoc]
  rfl

theorem hostPort_ne_empty (host t : String) : host ++ ":" ++ t ≠ "" := fun h => by
  simpa [hostPort_toList] using congrArg String.toList h

theorem toString_int_colon (n : ℤ) : ':' ∉ (toString n).toList ∧ '/' ∉ (toString n).toList := by
  constructor <;> intro h <;> rcases toString_int_chars n _ h with h | h <;> revert h <;> decide

theorem splitHostPort_toString (host : String) {n : ℤ} (hn : n.natAbs < 10 ^ maxStrDigits) :
    splitHostPort (host ++ ":" ++ toString n) = .ok (host, .num n) := by
  rw [show host ++ ":" ++ toString n = String.mk (host.toList ++ ':' :: (toString n).toList) from
    congrArg String.mk (hostPort_toList host _), splitHostPort, rsplitOnce_append (toString_int_colon n).1]
  simp only [bind, Except.bind, pure, Except.pure]
  rw [show String.mk (toString n).toList = toString n from rfl, pyInt_toString n hn]
  rfl

theorem hostPortField_slash {host : String} (h : '/' ∉ host.toList) :
    ∀ port, '/' ∉ (hostPortField host port).toList
  | none => h
  | some n => by
      simp only [hostPortField, hostPort_toList, List.mem_append, List.mem_cons, not_or]
      exact ⟨h, by decide, (toString_int_colon n).2⟩

theorem hostPortField_getLast? {host : String} :
    ∀ {port : Option ℤ}, (port = none → ':' ∉ host.toList) → (hostPortField host port).toList.getLast? ≠ some ':'
  | none, h => fun hl => h rfl (List.mem_of_getLast?_eq_some hl)
  | some n, _ => by
      obtain ⟨d, hd⟩ := Option.ne_none_iff_exists'.1 (mt List.getLast?_eq_none_iff.1 (toString_int_ne_nil n))
      have hdc : d ≠ ':' := fun h => (toString_int_colon n).1 (h ▸ List.mem_of_getLast?_eq_some hd)
      simp only [hostPortField, hostPort_toList, List.getLast?_append, List.getLast?_cons, hd, Option.getD_some,
        Option.or_some]
      exact fun h => hdc (Option.some_inj.1 h)

theorem firstField_removeScheme {old field : String} (path : Option String) (hold : old ≠ "")
    (hslash : '/' ∈ old.toList) (hend : (old.toList.takeWhile (· != '/')).getLast? = some ':')
    (hfield : '/' ∉ field.toList) (hlast : field.toList.getLast? ≠ some ':') :
    firstField (pyRemoveAll (old ++ field ++ path.elim "" fun p => "/" ++ p) old) '/' = field := by
  have hpath : (path.elim "" fun p => "/" ++ p).toList.takeWhile (· != '/') = [] := by
    cases path <;> rfl
  obtain ⟨x, hx⟩ := List.getLast?_eq_some_iff.1 hend
  have hne : old.toList ≠ [] := fun h => hold (String.ext h)
  simp only [pyRemoveAll, hold, if_false, firstField, toList_append, List.append_assoc]
  rw [removeAllAux_self_append hne]
  exact congrArg String.mk (takeWhile_removeAllAux hslash hpath hfield (hx ▸ not_suffix_of_getLast? hlast))

theorem urlText_startsWith (secure : Bool) (host : String) (port : Option ℤ) (path : Option String) :
    let s := urlText secure host port path
    pyStartsWith s "http" = true ∧ (pyStartsWith s "http://" || pyStartsWith s "https://") = true ∧
      (if pyStartsWith s "https" then "https" else "http") = scheme secure := by
  have hpre : ∀ r, (scheme secure ++ "://").toList.isPrefixOf ((scheme secure ++ "://").toList ++ r) :=
    fun r => List.isPrefixOf_iff_prefix.2 (List.prefix_append _ r)
  simp only [pyStartsWith, urlText, toList_append, List.append_assoc]
  cases secure with
  | false => exact ⟨rfl, Bool.or_eq_true_iff.2 (.inl (hpre _)), rfl⟩
  | true => exact ⟨rfl, Bool.or_eq_true_iff.2 (.inr (hpre _)), rfl⟩

theorem urlText_ne_empty (secure : Bool) (host : String) (port : Option ℤ) (path : Option String) :
    urlText secure host port path ≠ "" := fun h => by
  have := (urlText_startsWith secure host port path).1
  rw [h] at this
  exact absurd this (by decide)

theorem hostAndPort_hostPort (data : VaultData) (host : String) {n : ℤ} (hn : n.natAbs < 10 ^ maxStrDigits)
    (hurl : (pyStartsWith (host ++ ":" ++ toString n) "http://" ||
      pyStartsWith (host ++ ":" ++ toString n) "https://") = false) :
    hostAndPort data (.str (host ++ ":" ++ toString n)) =
      .ok (if pyStartsWith host "http" then (host ++ ":" ++ toString n, dictGetD data "port" (.num 443))
        else (host, .num n)) := by
  have hcolon : (host ++ ":" ++ toString n).toList.elem ':' = true := by
    simp [hostPort_toList]
  have hhttp : pyStartsWith (host ++ ":" ++ toString n) "http" = pyStartsWith host "http" := by
    simp only [pyStartsWith, hostPort_toList]
    exact isPrefixOf_append_cons _ _ (by decide)
  simp only [hostAndPort, hcolon, hhttp, Bool.true_and, hurl]
  cases pyStartsWith host "http"
  · simp [splitHostPort_toString host hn]
  · simp

theorem hostAndPort_url (data : VaultData) (secure : Bool) {host : String} {port : Option ℤ}
    (path : Option String) (hslash : '/' ∉ host.toList) (hcolon : port = none → ':' ∉ host.toList)
    (hport : ∀ n ∈ port, n.natAbs < 10 ^ maxStrDigits) :
    hostAndPort data (.str (urlText secure host port path)) =
      .ok (host, .num (port.getD (if secure then 443 else 80))) := by
  obtain ⟨hhttp, hurl, hproto⟩ := urlText_startsWith secure host port path
  have hfield : firstField (pyRemoveAll (urlText secure host port path) (scheme secure ++ "://")) '/' =
      hostPortField host port :=
    firstField_removeScheme path (by cases secure <;> decide) (by cases secure <;> decide)
      (by cases secure <;> decide) (hostPortField_slash hslash port) (hostPortField_getLast? hcolon)
  simp only [hostAndPort, hhttp, Bool.not_true, Bool.and_false, hurl, hproto, hfield]
  cases port with
  | none =>
      have : ':' ∉ host.data := hcolon rfl
      cases secure <;> simp [this, scheme, hostPortField]
  | some n => simp [hostPortField, hostPort_toList, splitHostPort_toString host (hport n rfl)]

theorem parseEndpoint_ok {data : VaultData} (h : (endpointStr data).truthy) {host : String} {port : Json}
    (hp : hostAndPort data (endpointStr data) = .ok (host, port)) :
    parseEndpoint data = .ok
      { host, port
        protocol := dictGetD data "protocol" (.str "https")
        region := dictGetD data "region" .null
        cell := dictGetD data "cell" .null
        metadata := data.filter fun entry => entry.1 ∉ endpointKeys } := by
  rw [parseEndpoint, if_pos h, hp]
  rfl

/--
How `_parse_endpoint` reads an endpoint written as `host:port`, for every host
and every port of at most 4300 digits, when the text is not an `http://` or
`https://` URL.  It gives back the host and the port, unless the host begins
with `http`: then the whole text is the host, and the port is
`data.get('port', 443)`.
-/
theorem parseEndpoint_reads_hostPort (data : VaultData) (host : String) {n : ℤ} (hn : n.natAbs < 10 ^ maxStrDigits)
    (hstr : endpointStr data = .str (host ++ ":" ++ toString n))
    (hurl : (pyStartsWith (host ++ ":" ++ toString n) "http://" ||
      pyStartsWith (host ++ ":" ++ toString n) "https://") = false) :
    (parseEndpoint data).map (fun e => (e.host, e.port)) =
      .ok (if pyStartsWith host "http" then (host ++ ":" ++ toString n, dictGetD data "port" (.num 443))
        else (host, .num n)) := by
  have htruthy : (endpointStr data).truthy := by simp [hstr, Json.truthy, hostPort_ne_empty]
  have h := hostAndPort_hostPort data host hn hurl
  rw [← hstr] at h
  split_ifs at h ⊢ <;> rw [parseEndpoint_ok htruthy h] <;> rfl

theorem httpbinEndpoint_not_split :
    let data : VaultData := [("endpoint", .str "httpbin.internal:8080")]
    (8080 : ℤ).natAbs < 10 ^ maxStrDigits ∧ endpointStr data = .str ("httpbin.internal" ++ ":" ++ toString (8080 : ℤ)) ∧
    (pyStartsWith ("httpbin.internal" ++ ":" ++ toString (8080 : ℤ)) "http://" ||
      pyStartsWith ("httpbin.internal" ++ ":" ++ toString (8080 : ℤ)) "https://") = false ∧
    (parseEndpoint data).map (fun e => (e.host, e.port)) =
      .ok (if pyStartsWith "httpbin.internal" "http" then
          ("httpbin.internal" ++ ":" ++ toString (8080 : ℤ), dictGetD data "port" (.num 443))
        else ("httpbin.internal", .num 8080)) :=
  have hn : (8080 : ℤ).natAbs < 10 ^ maxStrDigits :=
    lt_of_lt_of_le (by decide : (8080 : ℤ).natAbs < 10 ^ 4) (Nat.pow_le_pow_right (by decide) (by decide))
  ⟨hn, rfl, by decide, parseEndpoint_reads_hostPort _ _ hn rfl (by decide)⟩

/--
`_parse_endpoint` reads back the host and the port of an endpoint written as
an `http` or `https` URL, for every host without `/` (and without `:` when no
port follows), every port of at most 4300 digits and every path.  A URL
without a port gets its scheme's default, 443 or 80.
-/
theorem parseEndpoint_reads_url (data : VaultData) (secure : Bool) {host : String} {port : Option ℤ}
    (path : Option String) (hslash : '/' ∉ host.toList) (hcolon : port = none → ':' ∉ host.toList)
    (hport : ∀ n ∈ port, n.natAbs < 10 ^ maxStrDigits) (hstr : endpointStr data = .str (urlText secure host port path)) :
    (parseEndpoint data).map (fun e => (e.host, e.port)) =
      .ok (host, .num (port.getD (if secure then 443 else 80))) := by
  have h := hostAndPort_url data secure path hslash hcolon hport
  rw [← hstr] at h
  rw [parseEndpoint_ok (by simp [hstr, Json.truthy, urlText_ne_empty]) h]
  rfl

theorem apiUrl_read_back :
    let data : VaultData := [("url", .str "https://api.internal:8443/v1")]
    '/' ∉ "api.internal".toList ∧ (some (8443 : ℤ) = none → ':' ∉ "api.internal".toList) ∧
    (∀ n ∈ some (8443 : ℤ), n.natAbs < 10 ^ maxStrDigits) ∧
    endpointStr data = .str (urlText true "api.internal" (some 8443) (some "v1")) ∧
    (parseEndpoint data).map (fun e => (e.host, e.port)) =
      .ok ("api.internal", .num ((some (8443 : ℤ)).getD (if true then 443 else 80))) :=
  have hn : ∀ n ∈ some (8443 : ℤ), n.natAbs < 10 ^ maxStrDigits := by
    rintro n ⟨⟩
    exact lt_of_lt_of_le (by decide : (8443 : ℤ).natAbs < 10 ^ 4) (Nat.pow_le_pow_right (by decide) (by decide))
  ⟨by decide, by decide, hn, rfl, parseEndpoint_reads_url _ true (some "v1") (by decide) (by decide) hn rfl⟩

/--
For a service Vault lists at an `http` or `https` URL, with no `protocol`
key, `get_api_client` builds an `https` base URL whatever the URL's scheme:
the URL's host, and its port unless that is 80 or 443.  An `http` URL without
a port becomes `https://host`, which is port 443.
-/
theorem apiClient_baseUrl_of_url (data : VaultData) (creds : ServiceCredentials) (secure : Bool)
    {host : String} {port : Option ℤ} (path : Option String) (hslash : '/' ∉ host.toList)
    (hcolon : port = none → ':' ∉ host.toList) (hport : ∀ n ∈ port, n.natAbs < 10 ^ maxStrDigits)
    (hstr : endpointStr data = .str (urlText secure host port path)) (hproto : dictGet data "protocol" = none) :
    (parseEndpoint data).map (fun e => (apiClientConfig e creds).baseUrl) =
      .ok (urlText true host (port.filter fun n => !isWebPort (.num n)) none) := by
  have h := hostAndPort_url data secure path hslash hcolon hport
  rw [← hstr] at h
  rw [parseEndpoint_ok (by simp [hstr, Json.truthy, urlText_ne_empty]) h]
  simp only [Except.map, apiClientConfig, dictGetD, hproto, Option.getD_none, Json.pyStr]
  congr 1
  cases port with
  | none => cases secure <;> simp [isWebPort, urlText, scheme, hostPortField]
  | some n =>
      by_cases hw : isWebPort (.num n) <;>
        simp [hw, urlText, scheme, hostPortField, Option.filter, Json.pyStr, Json.pyRepr, String.append_assoc]

theorem legacyHttp_served_over_https :
    let data : VaultData := [("endpoint", .str "http://legacy.internal/status")]
    '/' ∉ "legacy.internal".toList ∧ ((none : Option ℤ) = none → ':' ∉ "legacy.internal".toList) ∧
    (∀ n ∈ (none : Option ℤ), n.natAbs < 10 ^ maxStrDigits) ∧
    endpointStr data = .str (urlText false "legacy.internal" none (some "status")) ∧
    dictGet data "protocol" = none ∧
    (parseEndpoint data).map (fun e => (apiClientConfig e (parseCredentials data)).baseUrl) =
      .ok (urlText true "legacy.internal" ((none : Option ℤ).filter fun n => !isWebPort (.num n)) none) :=
  ⟨by decide, by decide, fun _ h => absurd h (Option.not_mem_none _), rfl, rfl,
    apiClient_baseUrl_of_url _ _ false (some "status") (by decide) (by decide)
      (fun _ h => absurd h (Option.not_mem_none _)) rfl rfl⟩

/-! ## Every answer is one Vault gave for the same service -/

open BiosecurityClient

theorem cacheKey_injective {name name' : String} {type type' : ServiceType}
    (h : cacheKey name type = cacheKey name' type') : name = name' ∧ type = type' := by
  have hsplit (name : String) (type : ServiceType) :
      rsplitOnce ':' (cacheKey name type) = .ok (name, type.value) := by
    rw [cacheKey, show name ++ ":" ++ type.value = String.mk (name.toList ++ ':' :: type.value.toList) from
      congrArg String.mk (hostPort_toList name _)]
    exact rsplitOnce_append (by cases type <;> decide)
  have hpair : (Except.ok (name, type.value) : Except PyException _) = .ok (name', type'.value) :=
    (hsplit name type).symm.trans (by rw [h]; exact hsplit name' type')
  simp only [Except.ok.injEq, Prod.mk.injEq] at hpair
  refine ⟨hpair.1, ?_⟩
  cases type <;> cases type' <;> first | rfl | exact absurd hpair.2 (by decide)

def Event.discovery? : Event → Option (String × ServiceType)
  | .discoverService serviceName serviceType _ => some (serviceName, serviceType)
  | _ => none

section Sound

variable {α : Type} {vault : Vault α} (P : String × ServiceType → α → Prop)

/-- Every entry of both caches satisfies `P` for the service it is kept for:
an `lru_cache` entry for its arguments, a `_cache` entry for the service its
key names. -/
def CachesHold (lru : DiscoverCache α) (c : BiosecurityClient α) : Prop :=
  (∀ entry ∈ lru.entries, P entry.1 entry.2) ∧
    ∀ entry ∈ c.cache, ∃ name type, entry.1 = cacheKey name type ∧ P (name, type) entry.2.1

variable {P} {c : BiosecurityClient α} {lru : DiscoverCache α}
  (hP : ∀ now name type v, vault now (c.getDiscoveryPath name type) = .ok v → P (name, type) v)
include hP

theorem fetch_holds (h : CachesHold P lru c) (name : String) (type : ServiceType) (now : ℕ) :
    let out := discoverServiceBody.fetch vault name type now lru c
    (∀ v, out.1 = .ok v → P (name, type) v) ∧ out.2.1 = lru ∧ CachesHold P lru out.2.2 ∧
      ∃ cache, out.2.2 = { c with cache } := by
  unfold discoverServiceBody.fetch
  split
  · rename_i result hv
    refine ⟨fun v hv' => ?_, rfl, ⟨h.1, fun entry he => ?_⟩, ⟨_, rfl⟩⟩
    · cases hv'
      exact hP _ _ _ _ hv
    · rcases mem_dictSet he with he | rfl
      · exact h.2 entry he
      · exact ⟨name, type, rfl, hP _ _ _ _ hv⟩
  · exact ⟨(fun v hv => by cases hv), rfl, h, ⟨c.cache, rfl⟩⟩

theorem discoverServiceBody_holds (h : CachesHold P lru c) (name : String) (type : ServiceType) (now : ℕ) :
    let out := c.discoverServiceBody vault name type now lru
    (∀ v, out.1 = .ok v → P (name, type) v) ∧ out.2.1 = lru ∧ CachesHold P lru out.2.2 ∧
      ∃ cache, out.2.2 = { c with cache } := by
  unfold discoverServiceBody
  dsimp only
  split
  · rename_i result cachedTime hcached
    split
    · refine ⟨fun v hv => ?_, rfl, h, ⟨c.cache, rfl⟩⟩
      cases hv
      obtain ⟨name', type', hkey, hres⟩ := h.2 _ (mem_of_dictGet hcached)
      obtain ⟨rfl, rfl⟩ := cacheKey_injective hkey
      exact hres
    · exact fetch_holds hP h name type now
  · exact fetch_holds hP h name type now

theorem discoverService_holds (h : CachesHold P lru c) (name : String) (type : ServiceType) (now : ℕ) :
    let out := c.discoverService vault name type now lru
    (∀ v, out.1 = .ok v → P (name, type) v) ∧ CachesHold P out.2.1 out.2.2 ∧
      ∃ cache, out.2.2 = { c with cache } := by
  cases hl : lru.lookup (name, type) with
  | some value =>
      rw [discoverService_hit vault c now hl]
      exact ⟨fun v hv => by cases hv; exact h.1 _ (lru.mem_of_lookup hl),
        ⟨fun e he => h.1 e (lru.mem_entries_touch he), h.2⟩, ⟨c.cache, rfl⟩⟩
  | none =>
      obtain ⟨hres, hlru, hcache, hframe⟩ := discoverServiceBody_holds hP h name type now
      rw [discoverService, LruCache.wrap_miss _ hl]
      rcases hout : c.discoverServiceBody vault name type now lru with ⟨result, lru', c'⟩
      rw [hout] at hres hlru hcache hframe
      subst hlru
      cases result with
      | ok v =>
          refine ⟨fun v' hv' => ?_, ⟨fun e he => ?_, hcache.2⟩, hframe⟩
          · cases hv'
            exact hres v rfl
          · rcases LruCache.mem_entries_store _ he with he | rfl
            · exact h.1 e he
            · exact hres v rfl
      | error e => exact ⟨(fun v hv => by cases hv), hcache, hframe⟩

omit hP in
theorem refreshCredentials_holds (h : CachesHold P lru c) (name : String) (type : ServiceType) :
    CachesHold P (c.refreshCredentials name type lru).1 (c.refreshCredentials name type lru).2 :=
  ⟨fun _ he => absurd he (List.not_mem_nil _), fun entry he => h.2 entry (List.mem_of_mem_filter he)⟩

omit hP in
theorem cleanup_holds (h : CachesHold P lru c) (now : ℕ) : CachesHold P lru (c.cleanup now) :=
  ⟨h.1, fun entry he => h.2 entry (List.mem_of_mem_filter he)⟩

omit hP in
theorem run_holds (P : String × ServiceType → α → Prop) :
    ∀ (events : List Event) (lru : DiscoverCache α) (c : BiosecurityClient α),
      (∀ now name type v, vault now (c.getDiscoveryPath name type) = .ok v → P (name, type) v) →
      CachesHold P lru c →
      ∀ call ∈ (events.filterMap Event.discovery?).zip (run vault events lru c), ∀ v, call.2 = .ok v → P call.1 v
  | [], _, _, _, _ => by simp [run]
  | .discoverService name type now :: events, lru, c, hP, h => by
      obtain ⟨hres, hholds, cache, hframe⟩ := discoverService_holds hP h name type now
      rcases hout : c.discoverService vault name type now lru with ⟨result, lru', c'⟩
      rw [hout] at hres hholds hframe
      subst hframe
      simp only [run, hout, List.filterMap_cons, Event.discovery?, List.zip_cons_cons, List.mem_cons]
      rintro call (rfl | hcall) v hv
      · exact hres v hv
      · exact run_holds P events lru' { c with cache } hP hholds call hcall v hv
  | .refreshCredentials name type :: events, lru, c, hP, h => by
      simpa only [run, List.filterMap_cons, Event.discovery?] using
        run_holds P events _ (c.refreshCredentials name type lru).2 hP (refreshCredentials_holds h name type)
  | .cleanup now :: events, lru, c, hP, h => by
      simpa only [run, List.filterMap_cons, Event.discovery?] using
        run_holds P events _ (c.cleanup now) hP (cleanup_holds h now)

end Sound

/--
Along any run of `discover_service` calls, `refresh_credentials` and cleanup
passes from empty caches, every pair a call returns is one Vault gave, at some
clock reading, at the path of that call's own service.  The `lru_cache` keys
its entries by the arguments and `_cache` by the text `name:type`, which no
two services share: neither cache hands one service's pair to another.
-/
theorem discovered_pair_read_for_its_service {α : Type} (vault : Vault α) (c : BiosecurityClient α)
    (maxsize : ℕ) (events : List Event) :
    ∀ call ∈ (events.filterMap Event.discovery?).zip (run vault events (.empty maxsize) { c with cache := [] }),
      ∀ v, call.2 = .ok v → ∃ now, vault now (c.getDiscoveryPath call.1.1 call.1.2) = .ok v :=
  run_holds (fun key v => ∃ now, vault now (c.getDiscoveryPath key.1 key.2) = .ok v) events _ _
    (fun now _ _ _ hv => ⟨now, hv⟩)
    ⟨fun _ he => absurd he (List.not_mem_nil _), fun _ he => absurd he (List.not_mem_nil _)⟩

theorem postgresMain_pair_read_for_its_service :
    let call := (("postgres_main", ServiceType.database), (.ok "password-1" : Except PyException String))
    call ∈ ([Event.discoverService "postgres_main" .database 0].filterMap Event.discovery?).zip
        (run rotatedAt500 [.discoverService "postgres_main" .database 0] (.empty 100)
          { platformClient with cache := [] }) ∧
    call.2 = .ok "password-1" ∧
    ∃ now, rotatedAt500 now (platformClient.getDiscoveryPath call.1.1 call.1.2) = .ok "password-1" :=
  have hmem : (("postgres_main", ServiceType.database), (.ok "password-1" : Except PyException String)) ∈
      ([Event.discoverService "postgres_main" .database 0].filterMap Event.discovery?).zip
        (run rotatedAt500 [.discoverService "postgres_main" .database 0] (.empty 100)
          { platformClient with cache := [] }) :=
    List.Mem.head _
  ⟨hmem, rfl, discovered_pair_read_for_its_service rotatedAt500 platformClient 100 _ _ hmem _ rfl⟩

end ResilienceCore.Discovery
