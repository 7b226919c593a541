import ResilienceCore.Processor.Schema
import ResilienceCore.Access.DateTime

/-!
# The data processor service

`/process` validates a request, looks for a cached answer under
`processing:<data_id>:<processing_type>`, and otherwise queues a Celery task
and keeps a `task:<id>` record for an hour.  A worker runs a queued task and
keeps its result under `result:<data_id>:<processing_type>` for an hour.
`/process/status/<id>` reads the task record and the task's Celery state, and
`/query` answers from a `query:` cache entry or the database, keeping the
answer for five minutes.

Redis keeps each value with the moment it expires, on the clock the requests
carry; a value is the JSON document `json.dumps` wrote, which `json.loads`
gives back.  What Redis, the broker, the result backend and the database
answer are inputs of each request, as is the worker's choice of queued task.

No code writes a `processing:` key, so `/process` never finds a cached
answer: along every run from a Redis without such keys, the service answers
exactly as one whose `/process` ignores what its lookup finds.
-/

namespace ResilienceCore.Processor

/-- A Redis store: each key's value and the microsecond it expires at. -/
structure Redis where
  entries : List (String × Json × ℕ)

namespace Redis

def get (r : Redis) (now : ℕ) (key : String) : Option Json :=
  match dictGet r.entries key with
  | some (value, expiresAt) => if now < expiresAt then some value else none
  | none => none

def setex (r : Redis) (now : ℕ) (key : String) (seconds : ℕ) (value : Json) : Redis :=
  ⟨dictSet r.entries key (value, now + seconds * 1000000)⟩

end Redis

/-- Which Redis call of a request raises, if one does: its index among the
request's calls, and the exception. -/
abbrev RedisFault := Option (ℕ × PyException)

def redisCall (fault : RedisFault) (n : ℕ) : Except PyException Unit :=
  match fault with
  | some (m, e) => if m = n then .error e else .ok ()
  | none => .ok ()

structure Task where
  id : String
  dataId : String
  processingType : String
  parameters : List (String × Json)

structure State where
  redis : Redis
  queue : List Task

/-- `celery_app.AsyncResult(task_id).state`, with the result or the error
info it comes with, or what reading it raised. -/
inductive TaskState where
  | pending
  | started
  | success (result : Json)
  | failure (info : String)
  | other (name : String)
  | unreachable (e : PyException)

/-- What the database answers a statement with parameters. -/
abbrev Database (α : Type) := String → List (String × SqlParam α) → Except PyException (List (List (String × Json)))

abbrev Answer := ℕ × Json

def internalError : Json := .obj [("error", .str "Internal server error")]

def validationError (messages : List (String × Json)) : Json :=
  .obj [("error", .str "Validation error"), ("details", .obj messages)]

def utcIsoformat (now : DateTime) : String := now.isoformat ++ "+00:00"

/-! ## `/process` -/

def taskInfo (taskId : String) (data : ProcessRequest) (now : DateTime) : Json :=
  .obj [("task_id", .str taskId), ("data_id", .str data.dataId), ("processing_type", .str data.processingType),
    ("status", .str "queued"), ("submitted_at", .str (utcIsoformat now))]

/-- `/process` after a cache miss: `apply_async` answers `submitted` (the task
id, or what the broker raised), and the task record is kept. -/
def submit (s : State) (data : ProcessRequest) (now : DateTime) (submitted : Except PyException String)
    (fault : RedisFault) : Answer × State :=
  match submitted with
  | .error _ => ((500, internalError), s)
  | .ok taskId =>
      let s := { s with queue := s.queue ++ [⟨taskId, data.dataId, data.processingType, data.parameters⟩] }
      match redisCall fault 1 with
      | .error _ => ((500, internalError), s)
      | .ok () =>
          ((202, .obj [("task_id", .str taskId), ("status", .str "queued"),
              ("status_url", .str ("/process/status/" ++ taskId))]),
            { s with redis := s.redis.setex now.micros ("task:" ++ taskId) 3600 (taskInfo taskId data now) })

def process (s : State) (body : Json) (now : DateTime) (submitted : Except PyException String) (fault : RedisFault) :
    Answer × State :=
  match ProcessRequest.load body with
  | .error messages => ((400, validationError messages), s)
  | .ok data =>
      match redisCall fault 0 with
      | .error _ => ((500, internalError), s)
      | .ok () =>
          match s.redis.get now.micros ("processing:" ++ data.dataId ++ ":" ++ data.processingType) with
          | some cached => ((200, cached), s)
          | none => submit s data now submitted fault

/-- `process()` with what its cache lookup finds ignored; the lookup can
still raise. -/
def processIgnoringCache (s : State) (body : Json) (now : DateTime) (submitted : Except PyException String)
    (fault : RedisFault) : Answer × State :=
  match ProcessRequest.load body with
  | .error messages => ((400, validationError messages), s)
  | .ok data =>
      match redisCall fault 0 with
      | .error _ => ((500, internalError), s)
      | .ok () => submit s data now submitted fault

/-! ## `/process/status/<task_id>` -/

def withTaskState (taskData : List (String × Json)) : TaskState → List (String × Json)
  | .pending => dictSet taskData "status" (.str "queued")
  | .started => dictSet taskData "status" (.str "processing")
  | .success result => dictSet (dictSet taskData "status" (.str "completed")) "result" result
  | .failure info => dictSet (dictSet taskData "status" (.str "failed")) "error" (.str info)
  | .other name => dictSet taskData "status" (.str name.toLower)
  | .unreachable _ => taskData

def processStatus (s : State) (taskId : String) (now : DateTime) (state : TaskState) (fault : RedisFault) : Answer :=
  match redisCall fault 0 with
  | .error _ => (500, internalError)
  | .ok () =>
      match s.redis.get now.micros ("task:" ++ taskId), state with
      | none, _ => (404, .obj [("error", .str "Task not found")])
      | some _, .unreachable _ => (500, internalError)
      | some (.obj taskData), state => (200, .obj (withTaskState taskData state))
      | some _, _ => (500, internalError)

/-! ## `/query` -/

section Query

variable {α : Type}

/-- `query()`, `fields.DateTime` reading with `parse` and the database
answering `db`. -/
def query (parse : String → Option α) (db : Database α) (s : State) (body : Json) (now : DateTime)
    (fault : RedisFault) : Answer × State :=
  match QueryRequest.load parse body with
  | .error messages => ((400, validationError messages), s)
  | .ok data =>
      match data.cacheKey with
      | .error _ => ((500, internalError), s)
      | .ok cacheKey =>
          match redisCall fault 0 with
          | .error _ => ((500, internalError), s)
          | .ok () =>
              match s.redis.get now.micros cacheKey with
              | some cached => ((200, cached), s)
              | none =>
                  match data.statement >>= fun statement => db statement.1 statement.2 with
                  | .error _ => ((500, internalError), s)
                  | .ok rows =>
                      match redisCall fault 1 with
                      | .error _ => ((500, internalError), s)
                      | .ok () =>
                          ((200, data.results rows),
                            { s with redis := s.redis.setex now.micros cacheKey 300 (data.results rows) })

end Query

/-! ## The worker -/

def transformData (dataId : String) (parameters : List (String × Json)) (now : DateTime) : Json :=
  .obj [("data_id", .str dataId), ("transformations_applied", dictGetD parameters "transformations" (.arr [])),
    ("output_format", dictGetD parameters "output_format" (.str "json")), ("timestamp", .str (utcIsoformat now))]

def analyzeData (dataId : String) (parameters : List (String × Json)) (now : DateTime) : Json :=
  .obj [("data_id", .str dataId), ("analysis_type", dictGetD parameters "analysis_type" (.str "basic")),
    ("insights", .arr []), ("recommendations", .arr []), ("confidence_scores", .obj []),
    ("timestamp", .str (utcIsoformat now))]

/-- What `process_data_task` computes for a task, where `aggregate` is what
`aggregate_data` returned or raised. -/
def taskResult (task : Task) (now : DateTime) (aggregate : Except PyException Json) : Except PyException Json :=
  if task.processingType = "aggregate" then aggregate
  else if task.processingType = "transform" then .ok (transformData task.dataId task.parameters now)
  else if task.processingType = "analyze" then .ok (analyzeData task.dataId task.parameters now)
  else .error ⟨"ValueError", "Unknown processing type: " ++ task.processingType⟩

/-- `process_data_task` run by a worker on the `k`-th queued task: the result
is kept for an hour, and a task that raises keeps nothing. -/
def runTask (s : State) (k : ℕ) (now : DateTime) (aggregate : Except PyException Json) (fault : RedisFault) :
    State :=
  match s.queue[k]? with
  | none => s
  | some task =>
      let s := { s with queue := s.queue.eraseIdx k }
      match taskResult task now aggregate, redisCall fault 0 with
      | .ok result, .ok () =>
          { s with redis := s.redis.setex now.micros ("result:" ++ task.dataId ++ ":" ++ task.processingType) 3600 result }
      | _, _ => s

/-! ## Runs -/

/-- A request to the service, or a worker running a task, with what the
outside answers it. -/
inductive Request (α : Type) where
  | process (body : Json) (now : DateTime) (submitted : Except PyException String) (fault : RedisFault)
  | status (taskId : String) (now : DateTime) (state : TaskState) (fault : RedisFault)
  | query (body : Json) (now : DateTime) (db : Database α) (fault : RedisFault)
  | work (k : ℕ) (now : DateTime) (aggregate : Except PyException Json) (fault : RedisFault)

abbrev ProcessHandler := State → Json → DateTime → Except PyException String → RedisFault → Answer × State

section Run

variable {α : Type} (handler : ProcessHandler) (parse : String → Option α)

/-- One request, `/process` served by `handler`: its answer (none for a
worker's run), and the state after it. -/
def stepWith (s : State) : Request α → Option Answer × State
  | .process body now submitted fault =>
      let out := handler s body now submitted fault
      (some out.1, out.2)
  | .status taskId now state fault => (some (processStatus s taskId now state fault), s)
  | .query body now db fault =>
      let out := query parse db s body now fault
      (some out.1, out.2)
  | .work k now aggregate fault => (none, runTask s k now aggregate fault)

def runWith : State → List (Request α) → List (Option Answer)
  | _, [] => []
  | s, request :: requests =>
      let out := stepWith handler parse s request
      out.1 :: runWith out.2 requests

def run : State → List (Request α) → List (Option Answer) := runWith process parse

end Run

/-! ## What a step writes -/

def Request.now {α : Type} : Request α → DateTime
  | .process _ now _ _ => now
  | .status _ now _ _ => now
  | .query _ now _ _ => now
  | .work _ now _ _ => now

/-- What one step can do to Redis: nothing, or keep a value for an hour under
a `task:` or `result:` key, or for five minutes under a `query:` key. -/
def Writes (now : ℕ) (before after : Redis) : Prop :=
  after = before ∨ ∃ rest value,
    after = before.setex now ("task:" ++ rest) 3600 value ∨ after = before.setex now ("result:" ++ rest) 3600 value ∨
      after = before.setex now ("query:" ++ rest) 300 value

theorem Writes.refl (now : ℕ) (r : Redis) : Writes now r r := .inl rfl

theorem submit_writes (s : State) (data : ProcessRequest) (now : DateTime) (submitted : Except PyException String)
    (fault : RedisFault) : Writes now.micros s.redis (submit s data now submitted fault).2.redis := by
  unfold submit
  split
  · exact .inl rfl
  · split
    · exact .inl rfl
    · exact .inr ⟨_, _, .inl rfl⟩

theorem process_writes (s : State) (body : Json) (now : DateTime) (submitted : Except PyException String)
    (fault : RedisFault) : Writes now.micros s.redis (process s body now submitted fault).2.redis := by
  unfold process
  repeat' split
  all_goals first | exact .inl rfl | exact submit_writes s _ now submitted fault

theorem cacheKey_eq {α : Type} {data : QueryRequest α} {key : String} (h : data.cacheKey = .ok key) :
    ∃ rest, key = "query:" ++ rest := by
  unfold QueryRequest.cacheKey at h
  split at h
  · cases h; exact ⟨_, rfl⟩
  · cases h

theorem query_writes {α : Type} (parse : String → Option α) (db : Database α) (s : State) (body : Json)
    (now : DateTime) (fault : RedisFault) : Writes now.micros s.redis (query parse db s body now fault).2.redis := by
  unfold query
  repeat' split
  all_goals first
    | exact .inl rfl
    | (obtain ⟨rest, rfl⟩ := cacheKey_eq ‹_›; exact .inr ⟨rest, _, .inr (.inr rfl)⟩)

theorem runTask_writes (s : State) (k : ℕ) (now : DateTime) (aggregate : Except PyException Json)
    (fault : RedisFault) : Writes now.micros s.redis (runTask s k now aggregate fault).redis := by
  unfold runTask
  split
  · exact .inl rfl
  · next task _ =>
      split
      · exact .inr ⟨task.dataId ++ ":" ++ task.processingType, _, .inr (.inl (by simp only [String.append_assoc]; rfl))⟩
      · exact .inl rfl

theorem stepWith_writes {α : Type} (parse : String → Option α) (s : State) (request : Request α) :
    Writes request.now.micros s.redis (stepWith process parse s request).2.redis := by
  cases request with
  | process body now submitted fault => exact process_writes s body now submitted fault
  | status => exact .inl rfl
  | query body now db fault => exact query_writes parse db s body now fault
  | work k now aggregate fault => exact runTask_writes s k now aggregate fault

/-! ## No `processing:` key -/

def NoProcessingKeys (r : Redis) : Prop := ∀ entry ∈ r.entries, pyStartsWith entry.1 "processing:" = false

theorem pyStartsWith_append (pre rest : String) : pyStartsWith (pre ++ rest) pre = true := by
  simp [pyStartsWith, toList_append, List.isPrefixOf_iff_prefix]

theorem pyStartsWith_processing {c : Char} (hc : c ≠ 'p') (cs : List Char) :
    pyStartsWith (String.mk (c :: cs)) "processing:" = false := by
  simp [pyStartsWith, String.toList, show "processing:".data = 'p' :: "rocessing:".data from rfl,
    List.isPrefixOf, Ne.symm hc]

theorem NoProcessingKeys.get {r : Redis} (h : NoProcessingKeys r) (now : ℕ) (rest : String) :
    r.get now ("processing:" ++ rest) = none := by
  unfold Redis.get
  cases hget : dictGet r.entries ("processing:" ++ rest) with
  | none => rfl
  | some entry =>
      have := h _ (mem_of_dictGet hget)
      rw [pyStartsWith_append] at this
      cases this

theorem NoProcessingKeys.setex {r : Redis} (h : NoProcessingKeys r) {key : String}
    (hkey : pyStartsWith key "processing:" = false) (now seconds : ℕ) (value : Json) :
    NoProcessingKeys (r.setex now key seconds value) := fun entry hentry => by
  rcases mem_dictSet hentry with hold | rfl
  · exact h entry hold
  · exact hkey

theorem NoProcessingKeys.writes {r r' : Redis} (h : NoProcessingKeys r) {now : ℕ} (hw : Writes now r r') :
    NoProcessingKeys r' := by
  rcases hw with rfl | ⟨rest, value, rfl | rfl | rfl⟩
  all_goals first
    | exact h
    | exact h.setex (pyStartsWith_processing (by decide) _) _ _ _

theorem process_eq_ignoringCache {s : State} (h : NoProcessingKeys s.redis) (body : Json) (now : DateTime)
    (submitted : Except PyException String) (fault : RedisFault) :
    process s body now submitted fault = processIgnoringCache s body now submitted fault := by
  unfold process processIgnoringCache
  split
  · rfl
  · split
    · rfl
    · rw [String.append_assoc, String.append_assoc, h.get]

/--
No code writes a `processing:` key, so the cache `/process` reads is always
empty: along every run of requests and workers, from a Redis without such
keys, the service answers exactly as one whose `/process` ignores what its
cache lookup finds (the lookup can still fail when Redis is down).  Every
valid `/process` request queues a new task.
-/
theorem process_cache_never_hit {α : Type} (parse : String → Option α) :
    ∀ (s : State), NoProcessingKeys s.redis → ∀ requests : List (Request α),
      run parse s requests = runWith processIgnoringCache parse s requests := by
  intro s hs requests
  show runWith process parse s requests = _
  induction requests generalizing s with
  | nil => rfl
  | cons request requests ih =>
      have hstep : stepWith process parse s request = stepWith processIgnoringCache parse s request := by
        cases request <;> simp only [stepWith, process_eq_ignoringCache hs]
      have hnext := hs.writes (stepWith_writes parse s request)
      show _ :: runWith process parse _ requests = _ :: runWith processIgnoringCache parse _ requests
      rw [← hstep, ih _ hnext]

def marchFirstNoon : DateTime :=
  ⟨2024, 3, 1, 12, 0, 0, 0, by decide, by decide, by decide, by decide, by decide, by decide, by decide⟩

theorem fresh_service_ignores_process_cache :
    NoProcessingKeys (⟨[]⟩ : Redis) ∧
    run (fun _ => (none : Option Unit)) ⟨⟨[]⟩, []⟩
        [.process (.obj [("data_id", .str "d-1"), ("processing_type", .str "transform")]) marchFirstNoon (.ok "t-1")
            none,
          .process (.obj [("data_id", .str "d-1"), ("processing_type", .str "transform")]) marchFirstNoon
            (.ok "t-2") none] =
      runWith processIgnoringCache (fun _ => (none : Option Unit)) ⟨⟨[]⟩, []⟩
        [.process (.obj [("data_id", .str "d-1"), ("processing_type", .str "transform")]) marchFirstNoon (.ok "t-1")
            none,
          .process (.obj [("data_id", .str "d-1"), ("processing_type", .str "transform")]) marchFirstNoon
            (.ok "t-2") none] :=
  have hfresh : NoProcessingKeys (⟨[]⟩ : Redis) := fun _ h => absurd h (List.not_mem_nil _)
  ⟨hfresh, process_cache_never_hit _ _ hfresh _⟩

/-! ## Task records last an hour -/

section Run

variable {α : Type} (handler : ProcessHandler) (parse : String → Option α)

def stateAfter : State → List (Request α) → State
  | s, [] => s
  | s, request :: requests => stateAfter (stepWith handler parse s request).2 requests

theorem runWith_append (s : State) :
    ∀ requests more : List (Request α), runWith handler parse s (requests ++ more) =
      runWith handler parse s requests ++ runWith handler parse (stateAfter handler parse s requests) more
  | [], _ => rfl
  | _ :: requests, more => congrArg (_ :: ·) (runWith_append _ requests more)

end Run

def HeldUntil (key : String) (deadline : ℕ) (r : Redis) : Prop :=
  ∃ value expiresAt, dictGet r.entries key = some (value, expiresAt) ∧ deadline ≤ expiresAt

theorem HeldUntil.get {key : String} {deadline : ℕ} {r : Redis} (h : HeldUntil key deadline r) {now : ℕ}
    (hnow : now < deadline) : ∃ v, r.get now key = some v := by
  obtain ⟨value, expiresAt, hget, hle⟩ := h
  exact ⟨value, by simp only [Redis.get, hget, if_pos (lt_of_lt_of_le hnow hle)]⟩

theorem append_ne_of_head {p q : String} {c d : Char} (hp : p.toList.head? = some c) (hq : q.toList.head? = some d)
    (hcd : c ≠ d) (a b : String) : p ++ a ≠ q ++ b := fun h => by
  have hhead := congrArg (fun s : String => s.toList.head?) h
  simp only [toList_append, List.head?_append, hp, hq, Option.or_some] at hhead
  exact hcd (Option.some_inj.1 hhead)

theorem HeldUntil.setex_other {key : String} {deadline : ℕ} {r : Redis} (h : HeldUntil key deadline r)
    {key' : String} (hne : key' ≠ key) (now seconds : ℕ) (value : Json) :
    HeldUntil key deadline (r.setex now key' seconds value) := by
  obtain ⟨v, e, hget, hle⟩ := h
  exact ⟨v, e, by simp [Redis.setex, Ne.symm hne, hget], hle⟩

theorem HeldUntil.setex_self (key : String) {deadline : ℕ} (r : Redis) {now : ℕ} (value : Json)
    (hle : deadline ≤ now + 3600 * 1000000) : HeldUntil key deadline (r.setex now key 3600 value) :=
  ⟨value, _, by simp [Redis.setex], hle⟩

theorem HeldUntil.writes {taskId : String} {deadline now : ℕ} {r r' : Redis}
    (h : HeldUntil ("task:" ++ taskId) deadline r) (hw : Writes now r r') (hnow : deadline ≤ now + 3600 * 1000000) :
    HeldUntil ("task:" ++ taskId) deadline r' := by
  rcases hw with rfl | ⟨rest, value, rfl | rfl | rfl⟩
  · exact h
  · by_cases hkey : "task:" ++ rest = "task:" ++ taskId
    · rw [hkey]
      exact HeldUntil.setex_self _ _ _ hnow
    · exact h.setex_other hkey _ _ _
  · exact h.setex_other (append_ne_of_head (show ("result:" : String).toList.head? = some 'r' from rfl)
      (show ("task:" : String).toList.head? = some 't' from rfl) (by decide) _ _) _ _ _
  · exact h.setex_other (append_ne_of_head (show ("query:" : String).toList.head? = some 'q' from rfl)
      (show ("task:" : String).toList.head? = some 't' from rfl) (by decide) _ _) _ _ _

theorem HeldUntil.run {α : Type} (parse : String → Option α) (taskId : String) (deadline : ℕ) :
    ∀ (requests : List (Request α)) (s : State), HeldUntil ("task:" ++ taskId) deadline s.redis →
      (∀ request ∈ requests, deadline ≤ request.now.micros + 3600 * 1000000) →
      HeldUntil ("task:" ++ taskId) deadline (stateAfter process parse s requests).redis
  | [], _, h, _ => h
  | request :: requests, s, h, hclock =>
      HeldUntil.run parse taskId deadline requests _
        (h.writes (stepWith_writes parse s request) (hclock _ (List.mem_cons_self _ _)))
        fun r hr => hclock r (List.mem_cons_of_mem _ hr)

theorem submit_held (s : State) (data : ProcessRequest) (now : DateTime) (taskId : String) (fault : RedisFault)
    (h : (submit s data now (.ok taskId) fault).1.1 = 202) :
    HeldUntil ("task:" ++ taskId) (now.micros + 3600 * 1000000) (submit s data now (.ok taskId) fault).2.redis := by
  cases hcall : redisCall fault 1 with
  | error e => simp only [submit, hcall] at h; exact absurd h (by decide)
  | ok u => simp only [submit, hcall]; exact HeldUntil.setex_self _ _ _ le_rfl

theorem process_held (s : State) (body : Json) (now : DateTime) (taskId : String) (fault : RedisFault)
    (h : (process s body now (.ok taskId) fault).1.1 = 202) :
    HeldUntil ("task:" ++ taskId) (now.micros + 3600 * 1000000) (process s body now (.ok taskId) fault).2.redis := by
  unfold process at h ⊢
  cases hload : ProcessRequest.load body with
  | error messages => simp only [hload] at h; exact absurd h (by decide)
  | ok data =>
      cases hcall : redisCall fault 0 with
      | error e => simp only [hload, hcall] at h; exact absurd h (by decide)
      | ok u =>
          cases hget : s.redis.get now.micros ("processing:" ++ data.dataId ++ ":" ++ data.processingType) with
          | some cached => simp only [hload, hcall, hget] at h; exact absurd h (by decide)
          | none =>
              simp only [hload, hcall, hget] at h ⊢
              exact submit_held s data now taskId fault h

theorem processStatus_ne_404 {s : State} {taskId : String} {now : DateTime}
    (h : ∃ v, s.redis.get now.micros ("task:" ++ taskId) = some v) (state : TaskState) (fault : RedisFault) :
    (processStatus s taskId now state fault).1 ≠ 404 := by
  obtain ⟨v, hv⟩ := h
  unfold processStatus
  split
  · decide
  · rw [hv]
    split <;> first | decide | simp_all

/--
The `task:<id>` record `/process` keeps for a queued task is found for an
hour: whatever requests and workers run after a `/process` answered 202 for
task `id`, a status request for `id` less than an hour later is not answered
404, as long as the clock does not go back before the `/process` request.
-/
theorem task_status_found_for_an_hour {α : Type} (parse : String → Option α) (s : State) (body : Json)
    (now : DateTime) (taskId : String) (fault : RedisFault) (h202 : (process s body now (.ok taskId) fault).1.1 = 202)
    (requests : List (Request α)) (hclock : ∀ request ∈ requests, now.micros ≤ request.now.micros)
    (statusNow : DateTime) (hwithin : statusNow.micros < now.micros + 3600 * 1000000) (state : TaskState)
    (statusFault : RedisFault) (answer : Answer)
    (hanswer : (run parse s (.process body now (.ok taskId) fault :: requests ++
      [.status taskId statusNow state statusFault])).getLast? = some (some answer)) :
    answer.1 ≠ 404 := by
  have hheld := HeldUntil.run parse taskId _ requests _ (process_held s body now taskId fault h202)
    fun request hrequest => Nat.add_le_add_right (hclock request hrequest) _
  rw [run, runWith_append] at hanswer
  simp only [runWith, stepWith, List.getLast?_append, List.getLast?_singleton, Option.or_some,
    Option.some_inj] at hanswer
  rw [← hanswer]
  exact processStatus_ne_404 (hheld.get hwithin) state statusFault

theorem transform_task_found :
    let body := Json.obj [("data_id", .str "d-1"), ("processing_type", .str "transform")]
    let requests : List (Request Unit) := [.work 0 marchFirstNoon (.ok (.obj [])) none]
    (process ⟨⟨[]⟩, []⟩ body marchFirstNoon (.ok "t-1") none).1.1 = 202 ∧
    (∀ request ∈ requests, marchFirstNoon.micros ≤ request.now.micros) ∧
    marchFirstNoon.micros < marchFirstNoon.micros + 3600 * 1000000 ∧
    (run (fun _ => none) ⟨⟨[]⟩, []⟩ (.process body marchFirstNoon (.ok "t-1") none :: requests ++
      [.status "t-1" marchFirstNoon .pending none])).getLast? =
        some (some (200, taskInfo "t-1" ⟨"d-1", "transform", [], 5⟩ marchFirstNoon)) ∧
    (200 : ℕ) ≠ 404 :=
  have h202 : (process ⟨⟨[]⟩, []⟩ (.obj [("data_id", .str "d-1"), ("processing_type", .str "transform")])
      marchFirstNoon (.ok "t-1") none).1.1 = 202 := rfl
  have hclock : ∀ request ∈ ([.work 0 marchFirstNoon (.ok (.obj [])) none] : List (Request Unit)),
      marchFirstNoon.micros ≤ request.now.micros := by
    simp [Request.now]
  have hwithin : marchFirstNoon.micros < marchFirstNoon.micros + 3600 * 1000000 := by omega
  have hanswer : (run (fun _ => none) ⟨⟨[]⟩, []⟩
      (.process (.obj [("data_id", .str "d-1"), ("processing_type", .str "transform")]) marchFirstNoon (.ok "t-1")
        none :: [.work 0 marchFirstNoon (.ok (.obj [])) none] ++ [.status "t-1" marchFirstNoon .pending none])).getLast? =
        some (some (200, taskInfo "t-1" ⟨"d-1", "transform", [], 5⟩ marchFirstNoon)) := rfl
  ⟨h202, hclock, hwithin, hanswer,
    task_status_found_for_an_hour _ _ _ _ _ _ h202 _ hclock _ hwithin _ _ _ hanswer⟩

end ResilienceCore.Processor
