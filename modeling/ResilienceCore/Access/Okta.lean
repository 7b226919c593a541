import ResilienceCore.Access.DateTime

/-!
# Okta SAML sessions

`OktaIntegration` logs users in through SAML and keeps the login in Flask's
session.  Flask signs the session and keeps it in a cookie on the client, so
the server keeps nothing between requests: each request presents a cookie,
and the session Flask writes back is a new cookie.  A client may present any
cookie the server has issued (the browser's latest, or an older one someone
kept), and a missing or forged cookie gives the empty session.

* `/saml/login` keeps `next` in the session and sends the browser to Okta.
* `/saml/acs` checks the SAML response and, for a user in one of
  `okta_config['allowed_groups']`, writes `user`, `authenticated` and
  `auth_time` and sends the browser to the kept `next`.
* `/saml/logout` and a processed `/saml/sls` clear the session.
* A view wrapped by `require_auth(allowed_groups)` runs for a session that is
  authenticated, whose `auth_time` is at most 12 hours old, and whose user is
  in one of `allowed_groups` when that list is not empty.

`/saml/login` and `/saml/logout` call the SAML library outside any `try`; when
it raises, Flask answers 500 and still writes back the session the view
changed.

The run below lets each request present any cookie issued before it.  Along
every such run, a wrapped view runs only for a user an earlier ACS request
logged in at most 12 hours before, and a request ends in an uncaught exception
exactly when it is `/saml/login` or `/saml/logout` and the library raised.
-/

namespace ResilienceCore

namespace Okta

structure SamlResponse where
  valid : Bool
  nameId : String
  attributes : List (String × List String)

structure User where
  username : String
  email : String
  groups : List String
  firstName : String
  lastName : String

def User.toJson (user : User) : Json :=
  .obj [("username", .str user.username), ("email", .str user.email), ("groups", .arr (user.groups.map .str)),
    ("first_name", .str user.firstName), ("last_name", .str user.lastName)]

def firstValue (attributes : List (String × List String)) (name : String) : Except PyException String :=
  match dictGetD attributes name [""] with
  | value :: _ => .ok value
  | [] => .error ⟨"IndexError", "list index out of range"⟩

def userInfo (response : SamlResponse) : Except PyException User := do
  let email ← firstValue response.attributes "email"
  let firstName ← firstValue response.attributes "firstName"
  let lastName ← firstValue response.attributes "lastName"
  pure ⟨response.nameId, email, dictGetD response.attributes "groups" [], firstName, lastName⟩

abbrev Session := List (String × Json)

/-- A request to the app, with what the SAML library and the clock answer. -/
inductive Request where
  /-- `GET /saml/login`, with the `next` query argument if there is one, and
  whether `create_auth_request` raised. -/
  | login (next : Option String) (created : Except PyException Unit)
  /-- `POST /saml/acs`: what `process_response()` returned or raised, and `utcnow()`. -/
  | acs (response : Except PyException SamlResponse) (now : DateTime)
  /-- `GET /saml/logout`, and whether `create_logout_request` raised. -/
  | logout (created : Except PyException Unit)
  /-- `POST /saml/sls`: whether `process_logout_response()` raised. -/
  | sls (processed : Except PyException Unit)
  /-- A view wrapped by `require_auth(allowed_groups)`, at `request.url`, at
  `utcnow()`.  `None` and `[]` for `allowed_groups` both skip the group check. -/
  | wrappedView (allowedGroups : List String) (url : String) (now : DateTime)
  | index

inductive Response where
  | redirect (location : Json)
  | toIdentityProvider
  | toLogin (next : String)
  | body (text : String) (status : ℕ)
  | view
  /-- An exception nothing caught, which Flask answers with a 500. -/
  | serverError (e : PyException)

def authenticated (session : Session) : Bool := (dictGetD session "authenticated" .null).truthy

def sessionLifetime : ℤ := 12 * 3600 * 1000000

def expired (now authTime : DateTime) : Bool := decide ((now.micros : ℤ) - authTime.micros > sessionLifetime)

section Routes

-- `okta_config['allowed_groups']`
variable (allowedGroups : List String)

def samlLogin (next : Option String) (created : Except PyException Unit) (session : Session) :
    Response × Session :=
  let session := dictSet session "next_url" (.str (next.getD "/"))
  match created with
  | .ok () => (.toIdentityProvider, session)
  | .error e => (.serverError e, session)

def samlLogout (created : Except PyException Unit) : Response × Session :=
  match created with
  | .ok () => (.toIdentityProvider, [])
  | .error e => (.serverError e, [])

/-- The session `saml_acs` writes for a user it logs in, before it pops
`next_url`. -/
def loggedIn (session : Session) (user : User) (now : DateTime) : Session :=
  dictSet (dictSet (dictSet session "user" user.toJson) "authenticated" (.bool true)) "auth_time"
    (.str now.isoformat)

def samlAcs (response : Except PyException SamlResponse) (now : DateTime) (session : Session) :
    Response × Session :=
  match response with
  | .error _ => (.body "Authentication error" 500, session)
  | .ok response =>
      if response.valid then
        match userInfo response with
        | .error _ => (.body "Authentication error" 500, session)
        | .ok user =>
            if allowedGroups.any (· ∈ user.groups) then
              let session := loggedIn session user now
              (.redirect (dictGetD session "next_url" (.str "/")), dictDel session "next_url")
            else (.body "Access Denied: Not authorized for this application" 403, session)
      else (.body "Authentication failed" 401, session)

def samlSls (processed : Except PyException Unit) (session : Session) : Response × Session :=
  match processed with
  | .ok () => (.redirect (.str "/"), [])
  | .error _ => (.body "Logout error" 500, session)

def requireAuth (groups : List String) (url : String) (now : DateTime) (session : Session) :
    Response × Session :=
  if authenticated session then
    match fromisoformat (dictGetD session "auth_time" (.str "")) with
    | .error e => (.serverError e, session)
    | .ok authTime =>
        if expired now authTime then (.toLogin url, [])
        else if groups.isEmpty then (.view, session)
        else
          match (dictGetD session "user" (.obj [])).pyGet "groups" (.arr []) >>= fun userGroups =>
              groups.anyM userGroups.pyContains with
          | .error e => (.serverError e, session)
          | .ok true => (.view, session)
          | .ok false => (.body "Access Denied: Insufficient permissions" 403, session)
  else (.toLogin url, session)

def currentUser (session : Session) : Json :=
  if authenticated session then dictGetD session "user" .null else .null

def index (session : Session) : Response × Session :=
  let user := currentUser session
  if user.truthy then
    match user.subscript "first_name", user.subscript "last_name" with
    | .ok first, .ok last => (.body ("Welcome " ++ first.pyStr ++ " " ++ last.pyStr) 200, session)
    | .error e, _ => (.serverError e, session)
    | .ok _, .error e => (.serverError e, session)
  else (.body "Please login" 200, session)

/-- One request presenting `session`: the answer, and the session written back. -/
def handle : Request → Session → Response × Session
  | .login next created, session => samlLogin next created session
  | .acs response now, session => samlAcs allowedGroups response now session
  | .logout created, _ => samlLogout created
  | .sls processed, session => samlSls processed session
  | .wrappedView groups url now, session => requireAuth groups url now session
  | .index, session => index session

/-- The cookies issued along a run: each request `(request, k)` presents the
`k`-th cookie issued so far, or the empty session past the end. -/
def issuedAfter (issued : List Session) : List (Request × ℕ) → List Session
  | [] => issued
  | (request, k) :: rest => issuedAfter (issued ++ [(handle allowedGroups request (issued.getD k [])).2]) rest

def serve (issued : List Session) : List (Request × ℕ) → List Response
  | [] => []
  | (request, k) :: rest =>
      let out := handle allowedGroups request (issued.getD k [])
      out.1 :: serve (issued ++ [out.2]) rest

def admits (response : SamlResponse) : Option User :=
  if response.valid then
    match userInfo response with
    | .ok user => if allowedGroups.any (· ∈ user.groups) then some user else none
    | .error _ => none
  else none

end Routes

/-! ## Answers on a logged-in session -/

structure LoggedIn (session : Session) (user : User) (authTime : DateTime) : Prop where
  authenticated : authenticated session = true
  user : dictGet session "user" = some user.toJson
  authTime : dictGet session "auth_time" = some (.str authTime.isoformat)

@[simp] theorem authenticated_nil : authenticated [] = false := rfl

theorem anyM_ok {α ε : Type} (f : α → Bool) :
    ∀ l : List α, l.anyM (fun a => (.ok (f a) : Except ε Bool)) = .ok (l.any f)
  | [] => rfl
  | a :: l => by cases h : f a <;> simp [List.anyM, h, anyM_ok f l] <;> rfl

theorem pyGet_groups (user : User) : user.toJson.pyGet "groups" (.arr []) = .ok (.arr (user.groups.map .str)) := rfl

theorem any_eqStr_groups (group : String) :
    ∀ groups : List String, (groups.map Json.str).any (·.eqStr group) = decide (group ∈ groups)
  | [] => rfl
  | g :: groups => by
      simp only [List.map_cons, List.any_cons, any_eqStr_groups group groups]
      by_cases hg : group = g
      · subst hg
        simp [Json.eqStr]
      · have hne : (g == group) = false := by simpa using Ne.symm hg
        simp [Json.eqStr, hne, hg]

theorem pyContains_groups (groups : List String) :
    (Json.arr (groups.map .str)).pyContains = fun group => .ok (decide (group ∈ groups)) :=
  funext fun group => congrArg Except.ok (any_eqStr_groups group groups)

theorem requireAuth_of_loggedIn {session : Session} {user : User} {authTime : DateTime}
    (h : LoggedIn session user authTime) (groups : List String) (url : String) (now : DateTime) :
    requireAuth groups url now session =
      if expired now authTime then (.toLogin url, [])
      else if groups.isEmpty || groups.any (· ∈ user.groups) then (.view, session)
      else (.body "Access Denied: Insufficient permissions" 403, session) := by
  have hgroups : (user.toJson.pyGet "groups" (.arr []) >>= fun userGroups => groups.anyM userGroups.pyContains) =
      (.ok (groups.any (· ∈ user.groups)) : Except PyException Bool) := by
    rw [pyGet_groups]
    exact (congrArg (groups.anyM ·) (pyContains_groups user.groups)).trans (anyM_ok _ groups)
  simp only [requireAuth, h.authenticated, if_true, dictGetD, h.authTime, h.user, Option.getD_some,
    DateTime.fromisoformat_isoformat, hgroups]
  by_cases hexp : expired now authTime <;> by_cases hempty : groups.isEmpty <;>
    cases hany : groups.any (· ∈ user.groups) <;> simp [hexp, hempty, hany]

theorem requireAuth_of_not_authenticated {session : Session} (h : authenticated session = false)
    (groups : List String) (url : String) (now : DateTime) :
    requireAuth groups url now session = (.toLogin url, session) := by
  simp [requireAuth, h]

theorem index_of_loggedIn {session : Session} {user : User} {authTime : DateTime} (h : LoggedIn session user authTime) :
    index session = (.body ("Welcome " ++ user.firstName ++ " " ++ user.lastName) 200, session) := by
  simp only [index, currentUser, h.authenticated, if_true, dictGetD, h.user, Option.getD_some]
  rfl

theorem index_of_not_authenticated {session : Session} (h : authenticated session = false) :
    index session = (.body "Please login" 200, session) := by
  simp [index, currentUser, h, Json.truthy]

theorem index_session (session : Session) : (index session).2 = session := by
  unfold index
  dsimp only
  split
  · split <;> rfl
  · rfl

theorem requireAuth_session (groups : List String) (url : String) (now : DateTime) (session : Session) :
    (requireAuth groups url now session).2 = session ∨ (requireAuth groups url now session).2 = [] := by
  unfold requireAuth
  repeat' (first | split | exact .inl rfl | exact .inr rfl)

section Invariant

variable (allowedGroups : List String)

theorem samlAcs_cases (response : Except PyException SamlResponse) (now : DateTime) (session : Session) :
    (samlAcs allowedGroups response now session).2 = session ∨
      ∃ r user, response = .ok r ∧ admits allowedGroups r = some user ∧
        (samlAcs allowedGroups response now session).2 = dictDel (loggedIn session user now) "next_url" := by
  rcases response with e | r
  · exact .inl rfl
  · unfold samlAcs admits
    by_cases hvalid : r.valid
    · cases hinfo : userInfo r with
      | error e => simp [hvalid, hinfo]
      | ok user =>
          by_cases hallowed : allowedGroups.any (· ∈ user.groups)
          · exact .inr ⟨r, user, rfl, by simp [hvalid, hinfo, hallowed], by simp [hvalid, hinfo, hallowed]⟩
          · simp [hvalid, hinfo, hallowed]
    · simp [hvalid]

theorem loggedIn_written (session : Session) (user : User) (now : DateTime) :
    LoggedIn (dictDel (loggedIn session user now) "next_url") user now :=
  ⟨by simp [authenticated, loggedIn, dictGetD, Json.truthy], by simp [loggedIn], by simp [loggedIn]⟩

/-- What an issued session stands for: if it is authenticated, it is logged in
as a user that an ACS request among `history` admitted, at that request's time. -/
def Backed (history : List Request) (session : Session) : Prop :=
  authenticated session = true →
    ∃ response authTime user, Request.acs (.ok response) authTime ∈ history ∧
      admits allowedGroups response = some user ∧ LoggedIn session user authTime

theorem backed_nil (history : List Request) : Backed allowedGroups history [] := by
  simp [Backed]

variable {allowedGroups}

theorem Backed.mono {history history' : List Request} {session : Session} (h : Backed allowedGroups history session)
    (hsub : history ⊆ history') : Backed allowedGroups history' session := fun hauth => by
  obtain ⟨response, authTime, user, hmem, hadmits, hlogged⟩ := h hauth
  exact ⟨response, authTime, user, hsub hmem, hadmits, hlogged⟩

theorem Backed.samlLogin {history : List Request} {session : Session} (h : Backed allowedGroups history session)
    (next : Option String) (created : Except PyException Unit) :
    Backed allowedGroups history (Okta.samlLogin next created session).2 := fun hauth => by
  have hframe : ∀ key, key ≠ "next_url" →
      dictGet (Okta.samlLogin next created session).2 key = dictGet session key :=
    fun key hkey => by cases created <;> simp [Okta.samlLogin, hkey, Ne.symm hkey]
  have hauth' : authenticated session = true := by
    simpa [authenticated, dictGetD, hframe "authenticated" (by decide)] using hauth
  obtain ⟨response, authTime, user, hmem, hadmits, hlogged⟩ := h hauth'
  exact ⟨response, authTime, user, hmem, hadmits, hauth, (hframe "user" (by decide)).trans hlogged.user,
    (hframe "auth_time" (by decide)).trans hlogged.authTime⟩

theorem Backed.handle {history : List Request} {session : Session} (h : Backed allowedGroups history session)
    (request : Request) : Backed allowedGroups (history ++ [request]) (Okta.handle allowedGroups request session).2 := by
  have hmono := h.mono (List.subset_append_left history [request])
  cases request with
  | login next created => exact (h.samlLogin next created).mono (List.subset_append_left _ _)
  | acs response now =>
      rcases samlAcs_cases allowedGroups response now session with hsame | ⟨r, user, rfl, hadmits, hwritten⟩
      · simpa [Okta.handle, hsame] using hmono
      · intro _
        refine ⟨r, now, user, by simp, hadmits, ?_⟩
        simpa [Okta.handle, hwritten] using loggedIn_written session user now
  | logout created => cases created <;> exact backed_nil allowedGroups _
  | sls processed =>
      cases processed
      · exact hmono
      · exact backed_nil allowedGroups _
  | wrappedView groups url now =>
      rcases requireAuth_session groups url now session with hsame | hnil
      · simpa [Okta.handle, hsame] using hmono
      · simpa [Okta.handle, hnil] using backed_nil allowedGroups (history ++ [_])
  | index => simpa [Okta.handle, index_session] using hmono

theorem samlAcs_ne_serverError (response : Except PyException SamlResponse) (now : DateTime) (session : Session)
    (e : PyException) : (samlAcs allowedGroups response now session).1 ≠ .serverError e := by
  unfold samlAcs
  split
  · simp
  · split_ifs
    · split
      · simp
      · split_ifs <;> simp
    · simp

theorem Backed.handle_serverError_iff {history : List Request} {session : Session}
    (h : Backed allowedGroups history session) (request : Request) (e : PyException) :
    (Okta.handle allowedGroups request session).1 = .serverError e ↔
      (∃ next, request = .login next (.error e)) ∨ request = .logout (.error e) := by
  cases request with
  | login next created => cases created <;> simp [Okta.handle, Okta.samlLogin, eq_comm]
  | acs response now => simpa [Okta.handle] using samlAcs_ne_serverError response now session e
  | logout created => cases created <;> simp [Okta.handle, samlLogout, eq_comm]
  | sls processed => cases processed <;> simp [Okta.handle, samlSls]
  | wrappedView groups url now =>
      cases hauth : authenticated session
      · simp [Okta.handle, requireAuth_of_not_authenticated hauth]
      · obtain ⟨-, authTime, user, -, -, hlogged⟩ := h hauth
        simp only [Okta.handle, requireAuth_of_loggedIn hlogged]
        split_ifs <;> simp
  | index =>
      cases hauth : authenticated session
      · simp [Okta.handle, index_of_not_authenticated hauth]
      · obtain ⟨-, authTime, user, -, -, hlogged⟩ := h hauth
        simp [Okta.handle, index_of_loggedIn hlogged]

theorem Backed.getD {history : List Request} {issued : List Session}
    (h : ∀ session ∈ issued, Backed allowedGroups history session) (k : ℕ) :
    Backed allowedGroups history (issued.getD k []) := by
  rw [List.getD_eq_getElem?_getD]
  cases hk : issued[k]? with
  | none => exact backed_nil allowedGroups history
  | some session => exact h session (List.getElem?_mem hk)

/-- One request keeps every issued cookie standing for a login: the one it
writes back too. -/
theorem Backed.snoc {history : List Request} {issued : List Session}
    (h : ∀ session ∈ issued, Backed allowedGroups history session) (request : Request) (k : ℕ) :
    ∀ session ∈ issued ++ [(Okta.handle allowedGroups request (issued.getD k [])).2],
      Backed allowedGroups (history ++ [request]) session := by
  simp only [List.mem_append, List.mem_singleton]
  rintro session (hmem | rfl)
  · exact (h session hmem).mono (List.subset_append_left _ _)
  · exact (Backed.getD h k).handle request

theorem backed_issuedAfter :
    ∀ (events : List (Request × ℕ)) (issued : List Session) (history : List Request),
      (∀ session ∈ issued, Backed allowedGroups history session) →
      ∀ session ∈ issuedAfter allowedGroups issued events,
        Backed allowedGroups (history ++ events.map Prod.fst) session
  | [], _, history, h => by simpa using h
  | (request, k) :: events, issued, history, h => by
      simpa only [issuedAfter, List.map_cons, List.append_assoc, List.singleton_append] using
        backed_issuedAfter events _ _ (Backed.snoc h request k)

end Invariant

/-! ## Runs -/

section Runs

variable (allowedGroups : List String)

theorem serve_append (issued : List Session) :
    ∀ events more : List (Request × ℕ), serve allowedGroups issued (events ++ more) =
      serve allowedGroups issued events ++ serve allowedGroups (issuedAfter allowedGroups issued events) more
  | [], _ => rfl
  | (_, _) :: events, more => congrArg (_ :: ·) (serve_append _ events more)

theorem serve_getLast? (events : List (Request × ℕ)) (request : Request) (k : ℕ) :
    (serve allowedGroups [[]] (events ++ [(request, k)])).getLast? =
      some (handle allowedGroups request ((issuedAfter allowedGroups [[]] events).getD k [])).1 := by
  rw [serve_append]
  simp [serve]

/-- A view wrapped by `require_auth(groups)` runs only for a user that an
earlier ACS request admitted (valid response, user in one of
`okta_config['allowed_groups']`) at most 12 hours before, and who is in one of
`groups` when `groups` names any.  This holds whichever issued cookie each
request presents, old ones included. -/
theorem wrapped_view_runs_only_for_recent_login (events : List (Request × ℕ)) (groups : List String)
    (url : String) (now : DateTime) (k : ℕ)
    (hview : (serve allowedGroups [[]] (events ++ [(.wrappedView groups url now, k)])).getLast? = some .view) :
    ∃ response authTime user, Request.acs (.ok response) authTime ∈ events.map Prod.fst ∧
      admits allowedGroups response = some user ∧ (now.micros : ℤ) - authTime.micros ≤ sessionLifetime ∧
      (groups.isEmpty ∨ groups.any (· ∈ user.groups)) := by
  rw [serve_getLast?, Option.some_inj] at hview
  set session := (issuedAfter allowedGroups [[]] events).getD k []
  have hbacked : Backed allowedGroups (events.map Prod.fst) session := by
    have := Backed.getD (backed_issuedAfter events [[]] [] (by simpa using backed_nil allowedGroups [])) k
    rwa [List.nil_append] at this
  cases hauth : authenticated session
  · simp [handle, requireAuth_of_not_authenticated hauth] at hview
  · obtain ⟨response, authTime, user, hmem, hadmits, hlogged⟩ := hbacked hauth
    simp only [handle, requireAuth_of_loggedIn hlogged] at hview
    split_ifs at hview with hexp hgroups
    refine ⟨response, authTime, user, hmem, hadmits, ?_, by simpa using hgroups⟩
    simpa [expired] using hexp

def defaultAllowedGroups : List String := ["platform-team", "platform-team-readonly"]

def engineerResponse : SamlResponse :=
  { valid := true, nameId := "engineer-1",
    attributes := [("email", ["engineer-1@platform.nr-ops.net"]), ("groups", ["platform-team"]),
      ("firstName", ["Platform"]), ("lastName", ["Engineer"])] }

def noon : DateTime := ⟨2024, 3, 1, 12, 0, 0, 0, by decide, by decide, by decide, by decide, by decide, by decide,
  by decide⟩

theorem view_after_logout_traced_to_login :
    (serve defaultAllowedGroups [[]] ([(.acs (.ok engineerResponse) noon, 0), (.logout (.ok ()), 1)] ++
      [(.wrappedView ["platform-team"] "/api/data" noon, 1)])).getLast? = some .view ∧
    ∃ response authTime user,
      Request.acs (.ok response) authTime ∈ [(Request.acs (.ok engineerResponse) noon, 0), (.logout (.ok ()), 1)].map Prod.fst ∧
      admits defaultAllowedGroups response = some user ∧ (noon.micros : ℤ) - authTime.micros ≤ sessionLifetime ∧
      (["platform-team"].isEmpty ∨ ["platform-team"].any (· ∈ user.groups)) :=
  have hview : (serve defaultAllowedGroups [[]] ([(.acs (.ok engineerResponse) noon, 0), (.logout (.ok ()), 1)] ++
      [(.wrappedView ["platform-team"] "/api/data" noon, 1)])).getLast? = some .view := rfl
  ⟨hview, wrapped_view_runs_only_for_recent_login defaultAllowedGroups _ _ _ _ _ hview⟩

/-- A request of a run ends in an uncaught exception exactly when it is
`/saml/login` or `/saml/logout` and the SAML library raised building its
request: `require_auth` reads back the `auth_time` and `user` that `saml_acs`
wrote, and `/` reads the user's names, whichever issued cookie comes in. -/
theorem serve_raises_only_in_saml_requests (events : List (Request × ℕ)) (e : PyException) (i : ℕ) :
    (serve allowedGroups [[]] events)[i]? = some (.serverError e) ↔
      ∃ k, (∃ next, events[i]? = some (.login next (.error e), k)) ∨
        events[i]? = some (.logout (.error e), k) := by
  suffices ∀ (events : List (Request × ℕ)) (issued : List Session) (history : List Request),
      (∀ session ∈ issued, Backed allowedGroups history session) → ∀ i,
      ((serve allowedGroups issued events)[i]? = some (Response.serverError e) ↔
        ∃ k, (∃ next, events[i]? = some (Request.login next (.error e), k)) ∨
          events[i]? = some (Request.logout (.error e), k)) from
    this events [[]] [] (by simpa using backed_nil allowedGroups []) i
  intro events
  induction events with
  | nil => simp [serve]
  | cons event events ih =>
      obtain ⟨request, k⟩ := event
      intro issued history h i
      cases i with
      | zero =>
          rw [serve, List.getElem?_cons_zero, List.getElem?_cons_zero, Option.some_inj,
            (Backed.getD h k).handle_serverError_iff request e]
          simp [← or_and_right]
      | succ i =>
          rw [serve, List.getElem?_cons_succ, List.getElem?_cons_succ]
          exact ih _ _ (Backed.snoc h request k) i

end Runs

end Okta

end ResilienceCore
