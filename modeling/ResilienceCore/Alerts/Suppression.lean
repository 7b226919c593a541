import ResilienceCore.Access.DateTime

/-!
# Alert suppressions around deployments

`AlertSuppressionClient` creates, extends and deletes alert suppressions
through the alert suppression API.  `DeploymentSuppressionManager` asks it
for a suppression when a deployment starts, keeps the returned id in
`active_suppressions` under the deployment's id, extends that suppression on
a rollback and deletes it when the deployment is restored.

What the API answers to each request is the model's input, and so is the
clock reading `datetime.utcnow()` takes.  A deployment suppression covers
`duration_minutes` from that reading: the `end_time` it posts is exactly that
many minutes after its `start_time`.

`active_suppressions` keeps one id per deployment.  Along every run it holds,
for each deployment, the id the last `suppress_for_deployment` for it
returned, unless a `restore_after_deployment` for it returned since.  So a
second `suppress_for_deployment` for a deployment whose suppression was not
restored drops the first id: nothing the manager does afterwards deletes that
suppression.
-/

namespace ResilienceCore.Suppression

/-! ## The HTTP exchange -/

/-- A response as `requests` gives it: the status line, and the body
`response.json()` decodes (or the decoder's message). -/
structure Response where
  status : ℕ
  reason : String
  body : Except String Json

/-- What a request comes back with: a response, or the `RequestException` it
raised. -/
abbrev Answer := Except PyException Response

def raiseForStatus (url : String) (r : Response) : Except PyException Unit :=
  if 400 ≤ r.status ∧ r.status < 500 then
    .error ⟨"HTTPError", toString r.status ++ " Client Error: " ++ r.reason ++ " for url: " ++ url⟩
  else if 500 ≤ r.status ∧ r.status < 600 then
    .error ⟨"HTTPError", toString r.status ++ " Server Error: " ++ r.reason ++ " for url: " ++ url⟩
  else .ok ()

def Response.json (r : Response) : Except PyException Json :=
  r.body.mapError fun msg => ⟨"JSONDecodeError", msg⟩

inductive Method where
  | post
  | patch
  | delete
  deriving DecidableEq, Repr

structure Request where
  method : Method
  url : String
  json : Option Json

/-! ## `AlertSuppressionClient` -/

structure AlertSuppressionClient where
  apiKey : String
  baseUrl : String

/-- `timedelta(minutes=minutes)` in microseconds, with the C constructor's
checks on the day count. -/
def timedeltaMinutes (minutes : ℤ) : Except PyException ℤ :=
  let days := minutes * 60000000 / 86400000000
  if 2 ^ 31 ≤ days.natAbs then .error ⟨"OverflowError", "Python int too large to convert to C int"⟩
  else if 999999999 < days.natAbs then
    .error ⟨"OverflowError", "days=" ++ toString days ++ "; must have magnitude <= 999999999"⟩
  else .ok (minutes * 60000000)

def deploymentPayload (serviceName environment reason : String) (deploymentId : Json)
    (startTime endTime : DateTime) : Json :=
  .obj [("suppression", .obj [
    ("name", .str (serviceName ++ " - " ++ reason ++ " - " ++ environment)),
    ("description", .str ("Alert suppression for " ++ serviceName ++ " " ++ reason ++ " in " ++ environment)),
    ("start_time", .str (startTime.isoformat ++ "Z")),
    ("end_time", .str (endTime.isoformat ++ "Z")),
    ("filter", .obj [("type", .str "NRQL"),
      ("query", .str ("appName = '" ++ serviceName ++ "' AND environment = '" ++ environment ++ "'"))]),
    ("metadata", .obj [("service", .str serviceName), ("environment", .str environment),
      ("reason", .str reason), ("deployment_id", deploymentId),
      ("created_by", .str "clean-platform-automation")])])]

def suppressionUrl (c : AlertSuppressionClient) (suppressionId : Json) : String :=
  c.baseUrl ++ "/suppressions/" ++ suppressionId.pyStr

namespace AlertSuppressionClient

def init (apiKey : String) : AlertSuppressionClient := ⟨apiKey, "https://api.newrelic.com/v2"⟩

/-- `create_deployment_suppression(...)` at clock reading `now`: the request
it sends, once the end time is computed, and what it returns or raises.  The
log line reads `result.get('id')`, which raises on a body that is not a
dict. -/
def createDeploymentSuppression (c : AlertSuppressionClient) (serviceName environment : String)
    (durationMinutes : ℤ) (reason : String) (deploymentId : Json) (now : DateTime) (answer : Answer) :
    Option Request × Except PyException Json :=
  match timedeltaMinutes durationMinutes >>= now.addMicros with
  | .error e => (none, .error e)
  | .ok endTime =>
      let url := c.baseUrl ++ "/suppressions"
      (some ⟨.post, url, some (deploymentPayload serviceName environment reason deploymentId now endTime)⟩,
        do
          let r ← answer
          raiseForStatus url r
          let result ← r.json
          match result with
          | .obj _ => pure result
          | v => throw (v.noAttribute "get"))

def updateSuppression (c : AlertSuppressionClient) (suppressionId : Json) (extendMinutes : ℤ)
    (answer : Answer) : Request × Except PyException Json :=
  let url := suppressionUrl c suppressionId
  (⟨.patch, url, some (.obj [("extend_minutes", .num extendMinutes)])⟩,
    answer >>= fun r => raiseForStatus url r >>= fun _ => r.json)

def deleteSuppression (c : AlertSuppressionClient) (suppressionId : Json) (answer : Answer) :
    Request × Except PyException Unit :=
  let url := suppressionUrl c suppressionId
  (⟨.delete, url, none⟩, answer >>= raiseForStatus url)

end AlertSuppressionClient

/-! ## The suppression window -/

/-- The window a deployment suppression posts is exactly `duration_minutes`
long: whenever the end time stays within `datetime`'s range, the client posts
the clock reading as `start_time` and, as `end_time`, the datetime
`duration_minutes` minutes later, each in `isoformat()` with a `Z`. -/
theorem createDeploymentSuppression_window (c : AlertSuppressionClient) (serviceName environment : String)
    (durationMinutes : ℤ) (reason : String) (deploymentId : Json) (now : DateTime) (answer : Answer)
    (hdays : (durationMinutes * 60000000 / 86400000000).natAbs ≤ 999999999)
    (hrange : 0 < ((now.micros : ℤ) + durationMinutes * 60000000) / 86400000000 ∧
      ((now.micros : ℤ) + durationMinutes * 60000000) / 86400000000 ≤ maxOrdinal) :
    ∃ endTime : DateTime, (endTime.micros : ℤ) = now.micros + durationMinutes * 60000000 ∧
      (c.createDeploymentSuppression serviceName environment durationMinutes reason deploymentId now answer).1 =
        some ⟨.post, c.baseUrl ++ "/suppressions",
          some (deploymentPayload serviceName environment reason deploymentId now endTime)⟩ := by
  obtain ⟨endTime, hend, hmicros⟩ := now.addMicros_micros _ hrange
  have hdelta : timedeltaMinutes durationMinutes = .ok (durationMinutes * 60000000) := by
    simp only [timedeltaMinutes]
    rw [if_neg (by omega), if_neg (by omega)]
  refine ⟨endTime, hmicros, ?_⟩
  simp only [AlertSuppressionClient.createDeploymentSuppression, hdelta, bind, Except.bind, hend]

def deploymentStart : DateTime :=
  ⟨2024, 3, 1, 12, 0, 0, 0, by decide, by decide, by decide, by decide, by decide, by decide, by decide⟩

def created (suppressionId : String) : Answer := .ok ⟨201, "Created", .ok (.obj [("id", .str suppressionId)])⟩

theorem noon_suppression_lasts_half_an_hour :
    ∃ endTime : DateTime, (endTime.micros : ℤ) = deploymentStart.micros + 30 * 60000000 ∧
      ((AlertSuppressionClient.init "key").createDeploymentSuppression "clean-platform" "production" 30 "deployment"
          (.str "deploy-123") deploymentStart (created "s-1")).1 =
        some ⟨.post, "https://api.newrelic.com/v2/suppressions",
          some (deploymentPayload "clean-platform" "production" "deployment" (.str "deploy-123") deploymentStart
            endTime)⟩ :=
  createDeploymentSuppression_window _ _ _ 30 _ _ deploymentStart _ (by decide) (by decide)

/-! ## `DeploymentSuppressionManager` -/

structure DeploymentSuppressionManager where
  client : AlertSuppressionClient
  activeSuppressions : List (String × Json)

inductive ClientCall where
  | createDeploymentSuppression (serviceName environment deploymentId : String)
  | deleteSuppression (suppressionId : Json)
  | updateSuppression (suppressionId : Json) (extendMinutes : ℤ)

/-- What a manager method did: the call it made on its client, if any, and
what it returned (`None` for the two that return nothing) or raised. -/
abbrev Outcome := Option ClientCall × Except PyException Json

namespace DeploymentSuppressionManager

def init (client : AlertSuppressionClient) : DeploymentSuppressionManager := ⟨client, []⟩

def keepSuppression (m : DeploymentSuppressionManager) (deploymentId : String) :
    Except PyException Json → DeploymentSuppressionManager
  | .ok suppressionId => { m with activeSuppressions := dictSet m.activeSuppressions deploymentId suppressionId }
  | .error _ => m

/-- `suppress_for_deployment(service_name, environment, deployment_id)`, with
the default duration and reason: `suppression["id"]` of what the client
returned. -/
def suppressForDeployment (m : DeploymentSuppressionManager) (serviceName environment deploymentId : String)
    (now : DateTime) (answer : Answer) : Outcome × DeploymentSuppressionManager :=
  let suppressionId := (m.client.createDeploymentSuppression serviceName environment 30 "deployment"
    (.str deploymentId) now answer).2 >>= fun suppression => suppression.subscript "id"
  ((some (.createDeploymentSuppression serviceName environment deploymentId), suppressionId),
    m.keepSuppression deploymentId suppressionId)

def restoreAfterDeployment (m : DeploymentSuppressionManager) (deploymentId : String) (answer : Answer) :
    Outcome × DeploymentSuppressionManager :=
  match dictGet m.activeSuppressions deploymentId with
  | none => ((none, .ok .null), m)
  | some suppressionId =>
      match (m.client.deleteSuppression suppressionId answer).2 with
      | .ok () =>
          ((some (.deleteSuppression suppressionId), .ok .null),
            { m with activeSuppressions := dictDel m.activeSuppressions deploymentId })
      | .error e => ((some (.deleteSuppression suppressionId), .error e), m)

def extendForRollback (m : DeploymentSuppressionManager) (deploymentId : String) (additionalMinutes : ℤ)
    (answer : Answer) : Outcome × DeploymentSuppressionManager :=
  match dictGet m.activeSuppressions deploymentId with
  | none => ((none, .ok .null), m)
  | some suppressionId =>
      let call := ClientCall.updateSuppression suppressionId additionalMinutes
      match (m.client.updateSuppression suppressionId additionalMinutes answer).2 with
      | .ok _ => ((some call, .ok .null), m)
      | .error e => ((some call, .error e), m)

end DeploymentSuppressionManager

/-! ## Runs -/

/-- A call on the manager, with the clock reading and the API's answer it
meets. -/
inductive Call where
  | suppressForDeployment (serviceName environment deploymentId : String) (now : DateTime) (answer : Answer)
  | restoreAfterDeployment (deploymentId : String) (answer : Answer)
  | extendForRollback (deploymentId : String) (additionalMinutes : ℤ) (answer : Answer)

namespace DeploymentSuppressionManager

def step (m : DeploymentSuppressionManager) : Call → Outcome × DeploymentSuppressionManager
  | .suppressForDeployment serviceName environment deploymentId now answer =>
      m.suppressForDeployment serviceName environment deploymentId now answer
  | .restoreAfterDeployment deploymentId answer => m.restoreAfterDeployment deploymentId answer
  | .extendForRollback deploymentId additionalMinutes answer => m.extendForRollback deploymentId additionalMinutes answer

def history : DeploymentSuppressionManager → List Call → List (Call × Outcome)
  | _, [] => []
  | m, c :: calls => (c, (m.step c).1) :: history (m.step c).2 calls

def after : DeploymentSuppressionManager → List Call → DeploymentSuppressionManager
  | m, [] => m
  | m, c :: calls => after (m.step c).2 calls

end DeploymentSuppressionManager

/-! ## What `active_suppressions` holds -/

/-- What one call, with what it returned, leaves for deployment `d`: the id a
`suppress_for_deployment` for `d` returned, nothing after a
`restore_after_deployment` for `d` returned, and otherwise what was there. -/
def tracks (d : String) (kept : Option Json) : Call × Outcome → Option Json
  | (.suppressForDeployment _ _ deploymentId _ _, (_, .ok suppressionId)) =>
      if deploymentId = d then some suppressionId else kept
  | (.restoreAfterDeployment deploymentId _, (_, .ok _)) => if deploymentId = d then none else kept
  | _ => kept

/-- The suppression id a history of calls leaves for deployment `d`: the one
the last `suppress_for_deployment` for `d` returned, unless a
`restore_after_deployment` for `d` returned after it. -/
def lastUnrestored (d : String) (history : List (Call × Outcome)) : Option Json :=
  history.foldl (tracks d) none

def Call.deploymentId : Call → String
  | .suppressForDeployment _ _ deploymentId _ _ => deploymentId
  | .restoreAfterDeployment deploymentId _ => deploymentId
  | .extendForRollback deploymentId _ _ => deploymentId

def returnedId : Call × Outcome → Option Json
  | (.suppressForDeployment _ _ _ _ _, (_, .ok suppressionId)) => some suppressionId
  | _ => none

namespace DeploymentSuppressionManager

theorem dictGet_keepSuppression (m : DeploymentSuppressionManager) (d deploymentId : String)
    (r : Except PyException Json) (call : Option ClientCall) (serviceName environment : String) (now : DateTime)
    (answer : Answer) :
    dictGet (m.keepSuppression deploymentId r).activeSuppressions d =
      tracks d (dictGet m.activeSuppressions d)
        (.suppressForDeployment serviceName environment deploymentId now answer, (call, r)) := by
  cases r with
  | error e => rfl
  | ok suppressionId =>
      simp only [keepSuppression, tracks, dictGet_dictSet]
      by_cases hd : deploymentId = d
      · simp only [hd, if_true]
      · simp only [hd, Ne.symm hd, if_false]

theorem dictGet_step (m : DeploymentSuppressionManager) (c : Call) (d : String) :
    dictGet (m.step c).2.activeSuppressions d = tracks d (dictGet m.activeSuppressions d) (c, (m.step c).1) := by
  cases c with
  | suppressForDeployment serviceName environment deploymentId now answer =>
      exact dictGet_keepSuppression _ _ _ _ _ _ _ _ _
  | restoreAfterDeployment deploymentId answer =>
      simp only [step, restoreAfterDeployment]
      split
      · rename_i hnone
        by_cases hd : deploymentId = d
        · subst hd; simp only [tracks, hnone, ite_self]
        · simp only [tracks, hd, if_false]
      · split <;> simp only [tracks, dictGet_dictDel]
        by_cases hd : deploymentId = d
        · simp only [hd, if_true]
        · simp only [hd, Ne.symm hd, if_false]
  | extendForRollback deploymentId additionalMinutes answer =>
      simp only [step, extendForRollback]
      split
      · rfl
      · split <;> simp only [tracks]

theorem history_append (m : DeploymentSuppressionManager) (xs ys : List Call) :
    m.history (xs ++ ys) = m.history xs ++ (m.after xs).history ys := by
  induction xs generalizing m with
  | nil => rfl
  | cons c xs ih => rw [List.cons_append, history, history, after, ih, List.cons_append]

theorem map_fst_history (m : DeploymentSuppressionManager) (calls : List Call) :
    (m.history calls).map Prod.fst = calls := by
  induction calls generalizing m with
  | nil => rfl
  | cons c calls ih => simp only [history, List.map_cons, ih]

theorem history_split {m : DeploymentSuppressionManager} {calls : List Call} {h₁ h₂ : List (Call × Outcome)}
    (h : m.history calls = h₁ ++ h₂) :
    h₁ = m.history (h₁.map Prod.fst) ∧ h₂ = (m.after (h₁.map Prod.fst)).history (h₂.map Prod.fst) := by
  have hcalls : calls = h₁.map Prod.fst ++ h₂.map Prod.fst := by
    rw [← map_fst_history m calls, h, List.map_append]
  rw [hcalls, history_append] at h
  have hlen : (m.history (h₁.map Prod.fst)).length = h₁.length := by
    rw [← List.length_map _ Prod.fst, map_fst_history, List.length_map]
  obtain ⟨e₁, e₂⟩ := List.append_inj h hlen
  exact ⟨e₁.symm, e₂.symm⟩

theorem kept_of_step {m : DeploymentSuppressionManager} {c : Call} {k : String} {id : Json}
    (h : dictGet (m.step c).2.activeSuppressions k = some id) :
    dictGet m.activeSuppressions k = some id ∨ (c.deploymentId = k ∧ returnedId (c, (m.step c).1) = some id) := by
  rw [dictGet_step] at h
  generalize (m.step c).1 = out at *
  rcases out with ⟨call, e | r⟩ <;> cases c <;> simp only [tracks, returnedId, Call.deploymentId] at h ⊢ <;>
    first | exact .inl h | split_ifs at h with hk <;> simp_all

theorem deleted_of_step {m : DeploymentSuppressionManager} {c : Call} {id : Json}
    (h : (m.step c).1.1 = some (.deleteSuppression id)) :
    (∃ a, c = .restoreAfterDeployment c.deploymentId a) ∧ dictGet m.activeSuppressions c.deploymentId = some id := by
  cases c with
  | suppressForDeployment => simp [step, suppressForDeployment] at h
  | restoreAfterDeployment deploymentId answer =>
      refine ⟨⟨answer, rfl⟩, ?_⟩
      simp only [step, restoreAfterDeployment] at h
      split at h
      · cases h
      · rename_i hid
        split at h <;> (simp only [Option.some.injEq, ClientCall.deleteSuppression.injEq] at h; exact h ▸ hid)
  | extendForRollback deploymentId additionalMinutes answer =>
      simp only [step, extendForRollback] at h
      split at h
      · cases h
      · split at h <;> simp at h

theorem never_deleted (id : Json) (keys : String → Prop) (m : DeploymentSuppressionManager) (calls : List Call)
    (hheld : ∀ k, dictGet m.activeSuppressions k = some id → keys k)
    (hcalls : ∀ x ∈ m.history calls, returnedId x ≠ some id ∧ ∀ a, x.1 = .restoreAfterDeployment x.1.deploymentId a →
      ¬ keys x.1.deploymentId) :
    (∀ x ∈ m.history calls, x.2.1 ≠ some (.deleteSuppression id)) ∧
      ∀ k, dictGet (m.after calls).activeSuppressions k = some id → keys k := by
  induction calls generalizing m with
  | nil => exact ⟨fun _ h => absurd h (List.not_mem_nil _), hheld⟩
  | cons c calls ih =>
      simp only [history, List.mem_cons, forall_eq_or_imp] at hcalls ⊢
      obtain ⟨⟨hfresh, hrestore⟩, hrest⟩ := hcalls
      have hstep : ∀ k, dictGet (m.step c).2.activeSuppressions k = some id → keys k := fun k hk =>
        (kept_of_step hk).elim (hheld k) fun h => absurd h.2 hfresh
      obtain ⟨hnone, hafter⟩ := ih (m.step c).2 hstep hrest
      refine ⟨⟨fun hdel => ?_, hnone⟩, hafter⟩
      obtain ⟨⟨a, hc⟩, hheld'⟩ := deleted_of_step hdel
      exact hrestore a hc (hheld _ hheld')

theorem dictGet_after (m : DeploymentSuppressionManager) (calls : List Call) (d : String) :
    dictGet (m.after calls).activeSuppressions d =
      (m.history calls).foldl (tracks d) (dictGet m.activeSuppressions d) := by
  induction calls generalizing m with
  | nil => rfl
  | cons c calls ih => rw [after, history, List.foldl_cons, ih, dictGet_step]

end DeploymentSuppressionManager

/--
From a new manager, along every run, `active_suppressions` holds for each
deployment the id the last `suppress_for_deployment` for it returned, unless a
`restore_after_deployment` for it returned after that, and nothing otherwise.
-/
theorem active_suppressions_hold_last_unrestored (client : AlertSuppressionClient) (calls : List Call)
    (d : String) :
    dictGet ((DeploymentSuppressionManager.init client).after calls).activeSuppressions d =
      lastUnrestored d ((DeploymentSuppressionManager.init client).history calls) :=
  DeploymentSuppressionManager.dictGet_after _ calls d

/--
A second `suppress_for_deployment` for a deployment whose suppression was not
restored in between drops the first suppression's id: whatever calls follow,
the manager never deletes that suppression, as long as the API hands that id
out only once.
-/
theorem superseded_suppression_never_deleted (client : AlertSuppressionClient) (calls : List Call)
    (pre mid post : List (Call × Outcome)) (first second : Call × Outcome) (id : Json)
    (hhistory : (DeploymentSuppressionManager.init client).history calls = pre ++ first :: mid ++ second :: post)
    (hfirst : returnedId first = some id) (hsecond : returnedId second ≠ none)
    (hsame : second.1.deploymentId = first.1.deploymentId)
    (hmid : ∀ x ∈ mid, ∀ a, x.1 ≠ .restoreAfterDeployment first.1.deploymentId a)
    (honce : ∀ x ∈ pre ++ mid ++ second :: post, returnedId x ≠ some id) :
    ∀ x ∈ (DeploymentSuppressionManager.init client).history calls, x.2.1 ≠ some (.deleteSuppression id) := by
  open DeploymentSuppressionManager in
  rcases second with ⟨c₂, out₂⟩
  -- the manager before `first`, between the two calls, and after `second`
  rw [List.append_assoc, List.cons_append] at hhistory
  obtain ⟨hpre, hrest⟩ := history_split hhistory
  rw [List.map_cons, history] at hrest
  obtain ⟨hfirst', hrest⟩ := List.cons.inj hrest
  obtain ⟨hmid', hrest⟩ := history_split hrest.symm
  rw [List.map_cons, history] at hrest
  obtain ⟨hsecond', hpost⟩ := List.cons.inj hrest
  set m₁ := (init client).after (pre.map Prod.fst)
  set m₃ := (m₁.step first.1).2.after (mid.map Prod.fst)
  have hout₂ : (m₃.step c₂).1 = out₂ := (Prod.mk.inj hsecond').2.symm
  -- before `first`, no deployment holds `id`
  obtain ⟨hnone₁, hheld₁⟩ := never_deleted id (fun _ => False) (init client) (pre.map Prod.fst)
    (fun k h => by simp [init] at h) (fun x hx => ⟨honce x (by rw [← hpre] at hx; simp [hx]), fun _ _ h => h⟩)
  -- `first` deletes nothing, and leaves `id` under its own deployment only
  have hfirst_call : (m₁.step first.1).1.1 ≠ some (.deleteSuppression id) := fun hdel =>
    hheld₁ _ (deleted_of_step hdel).2
  have hheld₂ : ∀ k, dictGet (m₁.step first.1).2.activeSuppressions k = some id → k = first.1.deploymentId :=
    fun k hk => (kept_of_step hk).elim (fun h => (hheld₁ k h).elim) fun h => h.1.symm
  -- `mid` restores no deployment that holds `id`
  obtain ⟨hnone₂, hheld₃⟩ := never_deleted id (· = first.1.deploymentId) (m₁.step first.1).2 (mid.map Prod.fst)
    hheld₂ fun x hx => by
      rw [← hmid'] at hx
      exact ⟨honce x (by simp [hx]), fun a hc hk => hmid x hx a (by rw [← hk]; exact hc)⟩
  -- `second` is a `suppress_for_deployment` for the same deployment that returned another id
  obtain ⟨serviceName, environment, deploymentId, now, answer, rfl⟩ :
      ∃ serviceName environment deploymentId now answer,
        c₂ = .suppressForDeployment serviceName environment deploymentId now answer := by
    cases c₂ <;> first | exact ⟨_, _, _, _, _, rfl⟩ | exact absurd rfl hsecond
  obtain ⟨call₂, r₂, rfl⟩ : ∃ call₂ r₂, out₂ = (call₂, .ok r₂) := by
    rcases out₂ with ⟨call₂, e | r₂⟩
    · exact absurd rfl hsecond
    · exact ⟨call₂, r₂, rfl⟩
  have hr₂ : r₂ ≠ id := fun h =>
    honce _ (List.mem_append_right _ (List.mem_cons_self _ _)) (by subst h; rfl)
  have hsecond_call : (m₃.step (.suppressForDeployment serviceName environment deploymentId now answer)).1.1 ≠
      some (.deleteSuppression id) := fun hdel => by
    obtain ⟨⟨a, hc⟩, -⟩ := deleted_of_step hdel
    cases hc
  -- after `second`, no deployment holds `id`
  set c₂ := Call.suppressForDeployment serviceName environment deploymentId now answer
  have hheld₄ : ∀ k, dictGet (m₃.step c₂).2.activeSuppressions k = some id → False := fun k hk => by
    rw [dictGet_step, hout₂] at hk
    simp only [tracks] at hk
    split_ifs at hk with hdk
    · exact hr₂ (Option.some.inj hk)
    · exact hdk ((hheld₃ k hk).trans hsame.symm).symm
  obtain ⟨hnone₃, -⟩ := never_deleted id (fun _ => False) _ (post.map Prod.fst) hheld₄
    (fun x hx => ⟨honce x (by rw [← hpost] at hx; simp [hx]), fun _ _ h => h⟩)
  intro x hx
  rw [hhistory] at hx
  simp only [List.mem_append, List.mem_cons] at hx
  rcases hx with hx | rfl | hx | rfl | hx
  · exact hnone₁ x (hpre ▸ hx)
  · rw [hfirst']; exact hfirst_call
  · exact hnone₂ x (hmid' ▸ hx)
  · rw [← hout₂]; exact hsecond_call
  · exact hnone₃ x (hpost ▸ hx)

def noContent : Answer := .ok ⟨204, "No Content", .error "Expecting value: line 1 column 1 (char 0)"⟩

theorem retried_deployment_keeps_first_suppression :
    let calls := [Call.suppressForDeployment "clean-platform" "production" "deploy-123" deploymentStart (created "s-1"),
      .suppressForDeployment "clean-platform" "production" "deploy-123" deploymentStart (created "s-2"),
      .restoreAfterDeployment "deploy-123" noContent]
    let history := (DeploymentSuppressionManager.init (.init "key")).history calls
    (history.getLast?.map fun x => x.2.1) = some (some (.deleteSuppression (.str "s-2"))) ∧
      ∀ x ∈ history, x.2.1 ≠ some (.deleteSuppression (.str "s-1")) :=
  ⟨rfl, superseded_suppression_never_deleted (.init "key") _ [] []
    [(.restoreAfterDeployment "deploy-123" noContent, (some (.deleteSuppression (.str "s-2")), .ok .null))]
    (.suppressForDeployment "clean-platform" "production" "deploy-123" deploymentStart (created "s-1"),
      (some (.createDeploymentSuppression "clean-platform" "production" "deploy-123"), .ok (.str "s-1")))
    (.suppressForDeployment "clean-platform" "production" "deploy-123" deploymentStart (created "s-2"),
      (some (.createDeploymentSuppression "clean-platform" "production" "deploy-123"), .ok (.str "s-2")))
    (.str "s-1") rfl rfl (by simp [returnedId]) rfl (by simp) (by simp [returnedId])⟩

end ResilienceCore.Suppression
