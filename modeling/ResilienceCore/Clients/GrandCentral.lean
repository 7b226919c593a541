import ResilienceCore.Python

/-!
# Deploying through Grand Central with a canary phase

`DeploymentManager.deploy_with_canary` validates a release, files a change
record, starts the deployment, sleeps through the canary phase, waits for
Grand Central's verdict, files a closing change record and returns the
deployment's id.  When anything after the start raises, it asks Grand Central
to roll the deployment back, giving the exception's text as the reason, and
raises again.

Grand Central's answers are the model's input, one per request, in the order
the code makes the requests.  A change record or a deployment comes back as
the dict the client method returns, or as what it raises: `deploy` and
`create_change_record` log `result.get('id')` before they return, so a body
that is not a dict raises `AttributeError` there.  The sleep changes nothing here.  `deploy` is
wrapped in tenacity's `retry(stop=stop_after_attempt(3))`, which runs it again
on any exception.  A `POST /api/v1/deploy` whose response is lost has still
started a deployment, so the answer to an attempt says whether Grand Central
started one.  `wait_for_deployment` polls until the status is `completed`,
`failed` or `rolled_back`, or the clock passes `timeout`.  The clock only
decides how many polls start before the deadline: the model takes the answers
of those polls, and the deadline passes after the last.
-/

namespace ResilienceCore.GrandCentral

/-- What one attempt of `deploy` meets.  Grand Central started a deployment,
under its own id, and its response reached the client or was lost to an
exception (a timeout, a reset connection, an error status after the start); or
it started none and the request raised. -/
inductive DeployAnswer where
  | started (serverId : String) (response : Except PyException (List (String × Json)))
  | refused (error : PyException)

def DeployAnswer.response : DeployAnswer → Except PyException Json
  | .started _ response => response.map .obj
  | .refused error => .error error

/-- Grand Central's answers to the requests of one `deploy_with_canary` call. -/
structure Answers where
  validation : Except PyException Json
  openingRecord : Except PyException (List (String × Json))
  attempt : ℕ → DeployAnswer
  polls : List (Except PyException Json)
  closingRecord : Except PyException (List (String × Json))
  rollback : Except PyException Json

inductive Request where
  | validate
  | changeRecord (description : String) (deploymentId : Option Json)
  | deploy (attempt : ℕ)
  | status (deploymentId : Json)
  | rollback (deploymentId : Json) (reason : String)
  deriving Repr

def Request.deploymentId? : Request → Option Json
  | .changeRecord _ deploymentId => deploymentId
  | .status deploymentId | .rollback deploymentId _ => some deploymentId
  | .validate | .deploy _ => none

/-- `tenacity.RetryError`, raised once the last attempt has raised.  Its text
names the last attempt's exception; the future's address is left out. -/
def retryError (last : PyException) : PyException :=
  ⟨"RetryError", "RetryError[<Future state=finished raised " ++ last.typeName ++ ">]"⟩

/-- tenacity's `retry(stop=stop_after_attempt(left + 1))` around a call whose
`k`-th attempt answers `answer k`, from attempt `made` on: the first attempt
that returns, or `RetryError` once the last has raised; with the number of
attempts made by then.  The waits between attempts change nothing here. -/
def retryCall (answer : ℕ → Except PyException Json) (made : ℕ) : ℕ → Except PyException Json × ℕ
  | 0 =>
      match answer made with
      | .ok v => (.ok v, made + 1)
      | .error e => (.error (retryError e), made + 1)
  | left + 1 =>
      match answer made with
      | .ok v => (.ok v, made + 1)
      | .error _ => retryCall answer (made + 1) left

def deploy (answers : Answers) : Except PyException Json × ℕ :=
  retryCall (fun k => (answers.attempt k).response) 0 2

/-- `wait_for_deployment(deployment_id, timeout)` on the answers of the polls
that start before the deadline: the status once it is `completed`, the
`Exception` of a `failed` or `rolled_back` one, what a poll raised, or
`TimeoutError` after the last; with the number of polls made. -/
def waitForDeployment (deploymentId : Json) (timeout : ℤ) :
    List (Except PyException Json) → Except PyException Json × ℕ
  | [] =>
      (.error ⟨"TimeoutError", "Deployment " ++ deploymentId.pyStr ++ " timed out after " ++ toString timeout ++
        " seconds"⟩, 0)
  | poll :: polls =>
      match poll with
      | .error e => (.error e, 1)
      | .ok (.obj fields) =>
          let state := dictGetD fields "status" (.str "unknown")
          if state.eqStr "completed" then (.ok (.obj fields), 1)
          else if state.eqStr "failed" || state.eqStr "rolled_back" then
            (.error ⟨"Exception", "Deployment failed with status: " ++ state.pyStr⟩, 1)
          else
            let rest := waitForDeployment deploymentId timeout polls
            (rest.1, rest.2 + 1)
      | .ok v => (.error (v.noAttribute "get"), 1)

def openingRecord (org repo environment version : String) : Request :=
  .changeRecord ("Deploying " ++ org ++ "/" ++ repo ++ " version " ++ version ++ " to " ++ environment) none

/-- `deploy_with_canary` up to `deployment_id = deployment['id']`: the id, or
what was raised, and the requests made. -/
def startDeployment (org repo environment version : String) (answers : Answers) :
    Except PyException Json × List Request :=
  match answers.validation with
  | .error e => (.error e, [.validate])
  | .ok (.obj validation) =>
      if (dictGetD validation "valid" (.bool false)).truthy then
        match answers.openingRecord with
        | .error e => (.error e, [.validate, openingRecord org repo environment version])
        | .ok _ =>
            let log := [.validate, openingRecord org repo environment version] ++
              (List.range (deploy answers).2).map .deploy
            match (deploy answers).1 with
            | .error e => (.error e, log)
            | .ok deployment => (deployment.subscript "id", log)
      else
        (.error ⟨"ValueError", "Deployment validation failed: " ++
          (dictGetD validation "errors" (.arr [])).pyStr⟩, [.validate])
  | .ok v => (.error (v.noAttribute "get"), [.validate])

/-- The `try` block after the start and its `except`: wait for the verdict,
file the closing change record and return the id; on any exception, ask for a
rollback with the exception's text and raise it again, or raise what the
rollback request raised. -/
def canaryPhase (deploymentId : Json) (answers : Answers) : Except PyException Json × List Request :=
  let waited := waitForDeployment deploymentId 3600 answers.polls
  let polls := List.replicate waited.2 (Request.status deploymentId)
  let closing :=
    Request.changeRecord ("Deployment " ++ deploymentId.pyStr ++ " completed successfully") (some deploymentId)
  let body : Except PyException Json × List Request :=
    match waited.1 with
    | .error e => (.error e, polls)
    | .ok _ =>
        match answers.closingRecord with
        | .error e => (.error e, polls ++ [closing])
        | .ok _ => (.ok deploymentId, polls ++ [closing])
  match body.1 with
  | .ok result => (.ok result, body.2)
  | .error e =>
      (match answers.rollback with
        | .ok _ => .error e
        | .error raised => .error raised,
        body.2 ++ [.rollback deploymentId e.text])

def deployWithCanary (org repo environment version : String) (answers : Answers) :
    Except PyException Json × List Request :=
  match startDeployment org repo environment version answers with
  | (.ok deploymentId, log) =>
      let phase := canaryPhase deploymentId answers
      (phase.1, log ++ phase.2)
  | (.error e, log) => (.error e, log)

/-! ## Retries, polls and the two phases -/

theorem retryCall_spec (answer : ℕ → Except PyException Json) :
    ∀ (left made : ℕ),
      let out := retryCall answer made left
      made + 1 ≤ out.2 ∧ out.2 ≤ made + left + 1 ∧
        (∀ k, made ≤ k → k + 1 < out.2 → ∃ e, answer k = .error e) ∧
        ∀ v, out.1 = .ok v → answer (out.2 - 1) = .ok v
  | 0, made => by
      cases h : answer made <;> simp [retryCall, h] <;> omega
  | left + 1, made => by
      cases h : answer made with
      | ok v => simp [retryCall, h]; omega
      | error e =>
          obtain ⟨hlo, hhi, hraised, hlast⟩ := retryCall_spec answer left (made + 1)
          simp only [retryCall, h]
          refine ⟨by omega, by omega, fun k hk hlt => ?_, hlast⟩
          rcases Nat.eq_or_lt_of_le hk with rfl | hk
          · exact ⟨e, h⟩
          · exact hraised k hk hlt

theorem startDeployment_unnamed (org repo environment version : String) (answers : Answers) :
    ∀ r ∈ (startDeployment org repo environment version answers).2, r.deploymentId? = none := by
  unfold startDeployment
  split
  · simp [Request.deploymentId?]
  · split
    · split
      · simp [openingRecord, Request.deploymentId?]
      · split <;> simp [openingRecord, Request.deploymentId?]
    · simp [Request.deploymentId?]
  · simp [Request.deploymentId?]

theorem startDeployment_ok_iff (org repo environment version : String) (answers : Answers) (deploymentId : Json) :
    (startDeployment org repo environment version answers).1 = .ok deploymentId ↔
      (∃ validation, answers.validation = .ok (.obj validation) ∧
        (dictGetD validation "valid" (.bool false)).truthy) ∧
      (∃ record, answers.openingRecord = .ok record) ∧
      ∃ body, (deploy answers).1 = .ok body ∧ body.subscript "id" = .ok deploymentId := by
  unfold startDeployment
  rcases hv : answers.validation with e | (_ | _ | _ | _ | _ | validation) <;> simp
  by_cases hvalid : (dictGetD validation "valid" (.bool false)).truthy <;> simp [hvalid]
  rcases answers.openingRecord with e | record <;> simp
  rcases (deploy answers).1 with e | body <;> simp

theorem canaryPhase_names (deploymentId : Json) (answers : Answers) :
    ∀ r ∈ (canaryPhase deploymentId answers).2, r.deploymentId? = some deploymentId := by
  have hpolls : ∀ r ∈ List.replicate (waitForDeployment deploymentId 3600 answers.polls).2
      (Request.status deploymentId), r.deploymentId? = some deploymentId := fun r hr => by
    rw [List.eq_of_mem_replicate hr]; rfl
  unfold canaryPhase
  dsimp only
  split <;> rename_i heq <;> revert heq <;> split <;> (try split) <;> intro heq <;>
    cases heq <;> simp [or_imp, forall_and, Request.deploymentId?] at hpolls ⊢

/--
One `deploy_with_canary` call makes at most three attempts of `deploy`, and
every attempt but the last raised.  Every request it makes that names a
deployment (a status poll, the closing change record, the rollback) names the
id in the body the last attempt returned.  An earlier attempt that raised
after Grand Central started a deployment, its response lost, leaves that
deployment running unwatched: up to three deployments of one release, of
which the call follows one.
-/
theorem deployWithCanary_follows_last_attempt (org repo environment version : String) (answers : Answers) :
    (deploy answers).2 ≤ 3 ∧
    (∀ k, k + 1 < (deploy answers).2 → ∃ e, (answers.attempt k).response = .error e) ∧
    ∀ r ∈ (deployWithCanary org repo environment version answers).2, ∀ id ∈ r.deploymentId?,
      ∃ body, (answers.attempt ((deploy answers).2 - 1)).response = .ok body ∧ body.subscript "id" = .ok id := by
  obtain ⟨-, hmade, hraised, hlast⟩ := retryCall_spec (fun k => (answers.attempt k).response) 2 0
  refine ⟨hmade, fun k hk => hraised k (Nat.zero_le k) hk, fun r hr id hid => ?_⟩
  have hun := startDeployment_unnamed org repo environment version answers
  unfold deployWithCanary at hr
  rcases hs : startDeployment org repo environment version answers with ⟨_ | started, log⟩ <;>
    rw [hs] at hr hun
  · simp [hun r hr] at hid
  · rcases List.mem_append.1 hr with hr | hr
    · simp [hun r hr] at hid
    · obtain rfl : id = started := by simpa [canaryPhase_names started answers r hr] using hid.symm
      obtain ⟨-, -, body, hbody, hid⟩ :=
        (startDeployment_ok_iff org repo environment version answers id).1 (by rw [hs])
      exact ⟨body, hlast body hbody, hid⟩

def lostFirstAttempt : Answers where
  validation := .ok (.obj [("valid", .bool true)])
  openingRecord := .ok []
  attempt := fun k =>
    if k = 0 then .started "d-1" (.error ⟨"ReadTimeout", "Read timed out."⟩)
    else .started "d-2" (.ok [("id", .str "d-2")])
  polls := [.ok (.obj [("status", .str "completed")])]
  closingRecord := .ok []
  rollback := .ok (.obj [])

theorem lostFirstAttempt_follows_d2 :
    (deploy lostFirstAttempt).2 ≤ 3 ∧
    (0 + 1 < (deploy lostFirstAttempt).2 ∧ ∃ e, (lostFirstAttempt.attempt 0).response = .error e) ∧
    Request.status (.str "d-2") ∈ (deployWithCanary "acme" "api" "production" "1.4.0" lostFirstAttempt).2 ∧
    Json.str "d-2" ∈ (Request.status (.str "d-2")).deploymentId? ∧
    ∃ body, (lostFirstAttempt.attempt ((deploy lostFirstAttempt).2 - 1)).response = .ok body ∧
      body.subscript "id" = .ok (.str "d-2") :=
  have h := deployWithCanary_follows_last_attempt "acme" "api" "production" "1.4.0" lostFirstAttempt
  have hmem : Request.status (.str "d-2") ∈
      (deployWithCanary "acme" "api" "production" "1.4.0" lostFirstAttempt).2 :=
    List.getElem?_mem (show (deployWithCanary "acme" "api" "production" "1.4.0" lostFirstAttempt).2[4]? =
      some (Request.status (.str "d-2")) from rfl)
  ⟨h.1, ⟨by decide, h.2.1 0 (by decide)⟩, hmem, rfl, h.2.2 _ hmem _ rfl⟩

end ResilienceCore.GrandCentral
