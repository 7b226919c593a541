import ResilienceCore.Clients.VaultRead

/-!
# The connection manager's one dict

`ServiceConnectionManager` hands out PostgreSQL pools and Redis clients built
from discovered configurations, and keeps each in `_connections` under the
name it was asked for.  Both getters first return whatever that dict holds
under the name, and only otherwise discover the service and open a new
connection.  The dict is keyed by the bare name, not by the kind of service:
between two `close_all()` calls, every getter call for a name that returns,
returns the first connection opened for that name, whichever getter opened it.

`ThreadedConnectionPool(minconn=1, ...)` opens a connection at once, so it
may raise; its answer is the model's input.  `redis.Redis(**config)` connects
lazily and raises nothing here.  `close_all()` closes each connection, logging
what the closing raises, and empties the dict; the model keeps the emptying.
-/

namespace ResilienceCore.Discovery

inductive Connection where
  /-- `ThreadedConnectionPool(minconn=1, maxconn=20, host, port, database,
  user, password, sslmode)`. -/
  | pool (host port database user password : Json) (sslmode : String)
  | redis (config : List (String × Json))

structure ConnectionManager where
  connections : List (String × Connection)
  lru : PairCache
  client : BiosecurityClient (ServiceEndpoint × ServiceCredentials)

namespace ConnectionManager

variable (store : VaultStore) (m : ConnectionManager)

def poolOf (config : List (String × Json)) : Connection :=
  .pool (dictGetD config "host" .null) (dictGetD config "port" .null) (dictGetD config "database" .null)
    (dictGetD config "username" .null) (dictGetD config "password" .null)
    (if (dictGetD config "ssl" .null).truthy then "require" else "disable")

/-- What both getters do: return the connection kept under `name`, or else
open one with `connect`, which leaves the dict alone, and keep it. -/
def getOrConnect (name : String) (connect : ConnectionManager → Except PyException Connection × ConnectionManager) :
    Except PyException Connection × ConnectionManager :=
  match dictGet m.connections name with
  | some conn => (.ok conn, m)
  | none =>
      match connect m with
      | (.ok conn, m') => (.ok conn, { m' with connections := dictSet m'.connections name conn })
      | (.error e, m') => (.error e, m')

/-- `get_postgres_connection(db_name)`, where opening the pool answers
`opened`. -/
def getPostgresConnection (dbName : String) (now : ℕ) (opened : Except PyException Unit) :
    Except PyException Connection × ConnectionManager :=
  m.getOrConnect dbName fun m =>
    let (config, lru, client) := m.client.getDatabaseConnection store dbName now m.lru
    (config.bind fun config => opened.map fun _ => poolOf config, { m with lru, client })

def getRedisClient (cacheName : String) (now : ℕ) : Except PyException Connection × ConnectionManager :=
  m.getOrConnect cacheName fun m =>
    let (config, lru, client) := m.client.getRedisConnection store cacheName now m.lru
    (config.map .redis, { m with lru, client })

def closeAll : ConnectionManager := { m with connections := [] }

end ConnectionManager

inductive ConnectionEvent where
  | getPostgres (dbName : String) (now : ℕ) (opened : Except PyException Unit)
  | getRedis (cacheName : String) (now : ℕ)
  | closeAll

def ConnectionEvent.name? : ConnectionEvent → Option String
  | .getPostgres dbName _ _ => some dbName
  | .getRedis cacheName _ => some cacheName
  | .closeAll => none

def ConnectionEvent.isCloseAll : ConnectionEvent → Bool
  | .closeAll => true
  | _ => false

open ConnectionManager

def runConnections (store : VaultStore) : List ConnectionEvent → ConnectionManager → List (Except PyException Connection)
  | [], _ => []
  | .getPostgres dbName now opened :: events, m =>
      let out := m.getPostgresConnection store dbName now opened
      out.1 :: runConnections store events out.2
  | .getRedis cacheName now :: events, m =>
      let out := m.getRedisClient store cacheName now
      out.1 :: runConnections store events out.2
  | .closeAll :: events, m => runConnections store events m.closeAll

/-! ## One connection per name -/

/-- Every call in `calls` that returned, returned what the dict now holds
under its name. -/
def Kept (calls : List (String × Except PyException Connection)) (connections : List (String × Connection)) :
    Prop :=
  ∀ call ∈ calls, ∀ conn, call.2 = .ok conn → dictGet connections call.1 = some conn

theorem Kept.getOrConnect {calls : List (String × Except PyException Connection)} {m : ConnectionManager}
    (h : Kept calls m.connections) (name : String)
    (connect : ConnectionManager → Except PyException Connection × ConnectionManager)
    (hframe : (connect m).2.connections = m.connections) :
    Kept (calls ++ [(name, (m.getOrConnect name connect).1)]) (m.getOrConnect name connect).2.connections := by
  unfold ConnectionManager.getOrConnect
  cases hkept : dictGet m.connections name with
  | some conn =>
      intro call hcall c hc
      rcases List.mem_append.1 hcall with hcall | hcall
      · exact h call hcall c hc
      · obtain rfl := List.mem_singleton.1 hcall
        cases hc
        exact hkept
  | none =>
      rcases hconnect : connect m with ⟨_ | conn, m'⟩ <;> rw [hconnect] at hframe <;>
        simp only at hframe ⊢ <;> intro call hcall c hc <;> rcases List.mem_append.1 hcall with hcall | hcall
      · exact hframe ▸ h call hcall c hc
      · cases (List.mem_singleton.1 hcall) ▸ hc
      · have hold := h call hcall c hc
        rw [dictGet_dictSet, hframe, if_neg fun hname => by simp [hname, hkept] at hold]
        exact hold
      · obtain rfl := List.mem_singleton.1 hcall
        cases hc
        simp

theorem Kept.getPostgresConnection (store : VaultStore) {calls : List (String × Except PyException Connection)}
    {m : ConnectionManager} (h : Kept calls m.connections) (dbName : String) (now : ℕ)
    (opened : Except PyException Unit) :
    Kept (calls ++ [(dbName, (m.getPostgresConnection store dbName now opened).1)])
      (m.getPostgresConnection store dbName now opened).2.connections :=
  h.getOrConnect dbName _ rfl

theorem Kept.getRedisClient (store : VaultStore) {calls : List (String × Except PyException Connection)}
    {m : ConnectionManager} (h : Kept calls m.connections) (cacheName : String) (now : ℕ) :
    Kept (calls ++ [(cacheName, (m.getRedisClient store cacheName now).1)])
      (m.getRedisClient store cacheName now).2.connections :=
  h.getOrConnect cacheName _ rfl

theorem Kept.run (store : VaultStore) :
    ∀ (events : List ConnectionEvent) (m : ConnectionManager) (calls : List (String × Except PyException Connection)),
      (∀ e ∈ events, e.isCloseAll = false) → Kept calls m.connections →
      ∃ connections, Kept (calls ++ (events.filterMap ConnectionEvent.name?).zip (runConnections store events m))
        connections
  | [], m, calls, _, h => ⟨m.connections, by simpa [runConnections] using h⟩
  | .getPostgres dbName now opened :: events, m, calls, hno, h => by
      obtain ⟨connections, hk⟩ := Kept.run store events _ _ (fun e he => hno e (List.mem_cons_of_mem _ he))
        (h.getPostgresConnection store dbName now opened)
      exact ⟨connections, by simpa [runConnections, ConnectionEvent.name?] using hk⟩
  | .getRedis cacheName now :: events, m, calls, hno, h => by
      obtain ⟨connections, hk⟩ := Kept.run store events _ _ (fun e he => hno e (List.mem_cons_of_mem _ he))
        (h.getRedisClient store cacheName now)
      exact ⟨connections, by simpa [runConnections, ConnectionEvent.name?] using hk⟩
  | .closeAll :: _, _, _, hno, _ => absurd (hno _ (List.mem_cons_self _ _)) (by simp [ConnectionEvent.isCloseAll])

/--
`ServiceConnectionManager` keeps pools and Redis clients in one dict keyed by
the bare name.  Along any run of `get_postgres_connection` and
`get_redis_client` calls without `close_all()`, from a new manager, any two
calls for the same name that return, return the same connection, whichever
getter each is: once `get_redis_client(n)` has returned a Redis client,
`get_postgres_connection(n)` returns that client, and the other way round.
-/
theorem getters_share_connection_by_name (store : VaultStore) (lru : PairCache)
    (client : BiosecurityClient (ServiceEndpoint × ServiceCredentials)) (events : List ConnectionEvent)
    (hno : ∀ e ∈ events, e.isCloseAll = false) :
    let calls := (events.filterMap ConnectionEvent.name?).zip (runConnections store events ⟨[], lru, client⟩)
    ∀ p ∈ calls, ∀ q ∈ calls, p.1 = q.1 → ∀ c₁ c₂, p.2 = .ok c₁ → q.2 = .ok c₂ → c₁ = c₂ := by
  intro calls p hp q hq hname c₁ c₂ h₁ h₂
  obtain ⟨connections, hk⟩ := Kept.run store events ⟨[], lru, client⟩ [] hno fun _ h => absurd h (List.not_mem_nil _)
  have e₁ := hk p (by simpa using hp) c₁ h₁
  have e₂ := hk q (by simpa using hq) c₂ h₂
  rw [hname, e₂] at e₁
  exact Option.some_inj.1 e₁.symm

def sessionsVault : VaultStore := fun _ _ =>
  .ok (some [("data", .obj [("endpoint", .str "sessions.internal:6379"), ("password", .str "s3cret")])])

def sessionsClient : BiosecurityClient (ServiceEndpoint × ServiceCredentials) :=
  { teamName := "clean-platform", environment := "production", cell := "*", cacheTtl := 300, cache := [] }

theorem sessions_pool_request_gets_redis_client :
    let events := [ConnectionEvent.getRedis "sessions" 0, .getPostgres "sessions" 0 (.ok ())]
    let calls := (events.filterMap ConnectionEvent.name?).zip
      (runConnections sessionsVault events ⟨[], .empty 100, sessionsClient⟩)
    let redisClient := Connection.redis [("host", .str "sessions.internal"), ("port", .num 6379),
      ("password", .str "s3cret"), ("ssl", .bool false), ("db", .num 0), ("decode_responses", .bool true)]
    ("sessions", .ok redisClient) ∈ calls ∧ ∀ conn, ("sessions", .ok conn) ∈ calls → conn = redisClient :=
  have hredis := List.Mem.head _
  ⟨hredis, fun conn hconn => getters_share_connection_by_name sessionsVault (.empty 100) sessionsClient
    [ConnectionEvent.getRedis "sessions" 0, .getPostgres "sessions" 0 (.ok ())] (by decide) _ hconn _ hredis rfl
    conn _ rfl rfl⟩

end ResilienceCore.Discovery
