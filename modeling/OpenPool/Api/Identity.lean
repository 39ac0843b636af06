import OpenPool.Api.Runs

/-! # Who makes a request

A session is made by the callback of one login, for the identity that the provider has confirmed.
So a check that finds a session finds the login behind it. -/

namespace OpenPool.Api

open Fallible Program Text

/-! ## The tables of the logins -/

/-- What a statement does to the logins. -/
inductive LoginStep (logins : Logins) : Statement → Logins → Prop
  | stay (statement : Statement) : LoginStep logins statement logins
  | attempt (attempt : NewOidcLoginAttempt) (attempts : Table LoginAttemptRow)
      (h : attempts.rows = logins.attempts.rows ++ [attempt.row]) :
      LoginStep logins (.createOidcLoginAttempt attempt) { logins with attempts }
  | consume (state : String) (attempts : Table LoginAttemptRow) (now : ℤ)
      (h : attempts.rows = logins.attempts.rows.filter fun row =>
        !decide (row.state = state ∧ now < row.expiresAt)) :
      LoginStep logins (.consumeOidcLoginAttempt state) { logins with attempts }
  | session (session : NewOidcSession) (sessions : Table SessionRow)
      (h : logins.sessions.insert session.row = .ok sessions) :
      LoginStep logins (.createOidcSession session) { logins with sessions }
  | logout (id : Uuid) (sessions : Table SessionRow)
      (h : sessions.rows = logins.sessions.rows.filter fun row => !decide (row.id = id)) :
      LoginStep logins (.deleteOidcSession id) { logins with sessions }

theorem Statement.loginStep (choice : Choice) (logins : Logins) (statement : Statement) :
    LoginStep logins statement (statement.login choice logins) := by
  cases statement with
  | createOidcLoginAttempt attempt =>
      change LoginStep _ _ (commit _ _)
      rcases commit_cases logins (OpenPool.createOidcLoginAttempt attempt logins) with hsame | ⟨u, hok⟩
      · rw [hsame]
        exact .stay _
      · generalize commit logins (OpenPool.createOidcLoginAttempt attempt logins) = after at hok ⊢
        simp only [OpenPool.createOidcLoginAttempt, bind_eq_ok_iff, sql_eq_ok_iff, pure_eq_ok_iff,
          Prod.mk.injEq] at hok
        obtain ⟨attempts, hinsert, rfl, -⟩ := hok
        exact .attempt attempt attempts (Table.rows_of_insert hinsert)
  | consumeOidcLoginAttempt state => exact .consume state _ choice.now rfl
  | createOidcSession session =>
      change LoginStep _ _ (commit _ _)
      rcases commit_cases logins (OpenPool.createOidcSession session logins) with hsame | ⟨u, hok⟩
      · rw [hsame]
        exact .stay _
      · generalize commit logins (OpenPool.createOidcSession session logins) = after at hok ⊢
        simp only [OpenPool.createOidcSession, bind_eq_ok_iff, sql_eq_ok_iff, pure_eq_ok_iff,
          Prod.mk.injEq] at hok
        obtain ⟨sessions, hinsert, rfl, -⟩ := hok
        exact .session session sessions hinsert
  | deleteOidcSession id => exact .logout id _ rfl
  | _ => exact .stay _

/-! ## Logins -/

/-- A login as its callback carries it out. -/
structure Login where
  code : String
  state : String
  attempt : OidcLoginAttempt
  identity : AuthenticatedIdentity
  sessionId : Uuid
  csrfToken : Uuid
  now : Instant

namespace Login

def call (login : Login) : Call := .oidcCallback login.code login.state

def session (api : ApiState) (login : Login) : NewOidcSession :=
  newSession api login.sessionId login.identity login.csrfToken.toString login.now.nanos

/-- What the callback has been told before it makes the session: the attempt that it has consumed,
and the identity that the provider gives for its code and the secrets of the attempt. -/
def trace (login : Login) : Trace :=
  [⟨.draw .now, login.now⟩, ⟨.draw .uuid, login.csrfToken⟩, ⟨.draw .uuid, login.sessionId⟩,
    ⟨.ask (.exchangeCode login.code login.attempt.pkceVerifier login.attempt.nonce),
      .ok login.identity⟩,
    ⟨.query (.consumeOidcLoginAttempt login.state), .ok (some login.attempt)⟩]

end Login

/-- The callback of this login has asked for its session. -/
def System.LoggedIn (api : ApiState) (login : Login) (system : System) : Prop :=
  ∃ answer, system.Heard login.call
    (⟨.query (.createOidcSession (login.session api)), answer⟩ :: login.trace)

section Sessions

variable {deployment : Deployment} {system system' : System} {login : Login}

theorem System.Steps.loggedIn (h : System.Steps deployment system system')
    (hlogin : system.LoggedIn deployment.api login) : system'.LoggedIn deployment.api login := by
  obtain ⟨answer, hheard⟩ := hlogin
  exact ⟨answer, h.heard hheard⟩

/-- A statement that makes a session stands at the end of a login. -/
theorem System.loggedIn_of_heard {call : Call} {trace : Trace} {session : NewOidcSession}
    {answer : (Request.query (.createOidcSession session)).Answer}
    (hpath : system.OnPath deployment)
    (h : system.Heard call (⟨.query (.createOidcSession session), answer⟩ :: trace)) :
    ∃ login : Login, system.LoggedIn deployment.api login ∧
      session = login.session deployment.api := by
  obtain ⟨task, htask⟩ := h.path hpath
  cases htask.was_allowed (router_lawful deployment.api call) with
  | read _ _ hreads => cases hreads
  | session code state attempt identity sessionId csrfToken now =>
      exact ⟨⟨code, state, attempt, identity, sessionId, csrfToken, now⟩, ⟨answer, h⟩, rfl⟩

/-- Sessions come from logins: those that are stored, and those that handlers have found. -/
structure System.SessionsSound (deployment : Deployment) (system : System) : Prop where
  stored : ∀ row ∈ system.logins.sessions.rows, ∃ login : Login,
    system.LoggedIn deployment.api login ∧ row = (login.session deployment.api).row
  found : ∀ {call sessionId session},
    system.Told call (.query (.oidcSession sessionId)) (.ok (some session)) →
    ∃ login : Login, system.LoggedIn deployment.api login ∧ login.sessionId = sessionId ∧
      session = (login.session deployment.api).row.session

theorem System.Steps.sessionsSound (h : System.Steps deployment system system')
    (hpath : system.OnPath deployment) (hsound : system.SessionsSound deployment) :
    system'.SessionsSound deployment where
  stored := by
    have hkept : ∀ row ∈ system.logins.sessions.rows, ∃ login : Login,
        system'.LoggedIn deployment.api login ∧ row = (login.session deployment.api).row := by
      intro row hmem
      obtain ⟨login, hlogin, hrow⟩ := hsound.stored row hmem
      exact ⟨login, h.loggedIn hlogin, hrow⟩
    rcases h.logins with hsame | ⟨choice, statement, hran, hlogins⟩
    · rwa [hsame]
    · have hstep := statement.loginStep choice system.logins
      rw [← hlogins] at hstep
      generalize system'.logins = after at hstep
      cases hstep with
      | session session sessions hinsert =>
          obtain ⟨call, trace, answer, hheard, -⟩ := hran
          obtain ⟨login, hlogin, rfl⟩ := System.loggedIn_of_heard (h.onPath hpath) hheard
          intro row hmem
          rcases (Table.mem_of_insert hinsert row).mp hmem with hmem | rfl
          · exact hkept row hmem
          · exact ⟨login, hlogin, rfl⟩
      | logout id sessions hrows =>
          exact fun row hmem => hkept row (List.mem_of_mem_filter (hrows ▸ hmem))
      | stay | attempt | consume => exact hkept
  found := by
    intro call sessionId session htold
    rcases h.told htold with htold | ⟨choice, hanswer, -⟩
    · obtain ⟨login, hlogin, hsession⟩ := hsound.found htold
      exact ⟨login, h.loggedIn hlogin, hsession⟩
    · have hfound := Except.ok.inj (System.perform_ok hanswer).1
      obtain ⟨row, hrow, rfl⟩ := Option.map_eq_some_iff.mp hfound
      obtain ⟨login, hlogin, rfl⟩ := hsound.stored row (List.mem_of_find?_eq_some hrow)
      have hmatch := List.find?_some (p := fun row : SessionRow => decide (row.id = sessionId ∧
        choice.now < row.expiresAt)) hrow
      exact ⟨login, h.loggedIn hlogin, (of_decide_eq_true hmatch).1, rfl⟩

theorem System.sessionsSound_after (deployment : Deployment) (actions : List Action) :
    (System.after deployment actions).SessionsSound deployment := by
  have hstep : ∀ (system : System) (action : Action),
      system.OnPath deployment ∧ system.SessionsSound deployment →
      (system.step deployment action).OnPath deployment ∧
        (system.step deployment action).SessionsSound deployment := fun system action h =>
    ⟨(system.step_spec deployment action).onPath h.1,
      (system.step_spec deployment action).sessionsSound h.1 h.2⟩
  refine (StateMachine.invariant hstep ⟨fun _ hmem => absurd hmem List.not_mem_nil, ?_⟩ actions).2
  refine ⟨fun _ hmem => absurd hmem List.not_mem_nil, ?_⟩
  rintro call sessionId session ⟨handler, hmem, -⟩
  cases hmem

end Sessions

/-! ## Identities -/

section Identities

variable (deployment : Deployment) (headers : HeaderMap) (system : System)

/-- The cookie of the request names the session of a login. -/
def System.Authenticated (login : Login) : Prop :=
  system.LoggedIn deployment.api login ∧
    sessionIdFromHeaders deployment.api.parseUuid headers = .ok login.sessionId

/-- The request comes from someone whom the provider has given the role, under this subject. -/
def System.ActsAs (role : String) (subject : Uuid) : Prop :=
  ∃ login : Login, system.Authenticated deployment headers login ∧ role ∈ login.identity.roles ∧
    oidcSubjectId deployment.api login.identity.subject = subject

/-- The request holds the CSRF token of a session that its cookie names. -/
def System.SameSite : Prop :=
  ∃ (login : Login) (token : String), system.Authenticated deployment headers login ∧
    headers.text "x-openpool-csrf" = some token ∧
    hash deployment.api (utf8 token) = hash deployment.api (utf8 login.csrfToken.toString)

variable {deployment headers system} {call : Call} {trace : Trace}

theorem System.SessionsSound.of_found (hsound : system.SessionsSound deployment)
    (hheard : system.Heard call trace) {session : OidcSession}
    (h : Found deployment.api headers session trace) : ∃ login : Login,
      system.Authenticated deployment headers login ∧
        session = (login.session deployment.api).row.session := by
  obtain ⟨sessionId, hcookie, hhas⟩ := h
  obtain ⟨login, hlogin, rfl, hsession⟩ := hsound.found (hheard.told hhas)
  exact ⟨login, ⟨hlogin, hcookie⟩, hsession⟩

theorem System.SessionsSound.actsAs (hsound : system.SessionsSound deployment)
    (hheard : system.Heard call trace) {role : String} {subject : Uuid}
    (h : HasRole deployment.api headers role subject trace) :
    system.ActsAs deployment headers role subject := by
  obtain ⟨session, roles, hfound, hroles, hrole, hsubject⟩ := h
  obtain ⟨login, hlogin, rfl⟩ := hsound.of_found hheard hfound
  obtain rfl := RolesJson.names.inj hroles
  exact ⟨login, hlogin, hrole, hsubject⟩

theorem System.SessionsSound.sameSite (hsound : system.SessionsSound deployment)
    (hheard : system.Heard call trace) (hdev : deployment.api.developmentIdentityEnabled = false)
    (h : CsrfChecked deployment.api headers trace) : system.SameSite deployment headers := by
  rcases h with hon | ⟨token, session, htoken, hfound, hhash⟩
  · rw [hdev] at hon
    cases hon
  · obtain ⟨login, hlogin, rfl⟩ := hsound.of_found hheard hfound
    exact ⟨login, token, hlogin, htoken, Subtype.ext hhash.symm⟩

/-- Without development identities an organizer has logged in. -/
theorem System.SessionsSound.organizer (hsound : system.SessionsSound deployment)
    (hheard : system.Heard call trace) (hdev : deployment.api.developmentIdentityEnabled = false)
    {organizerId : OrganizerId} (h : IsOrganizer deployment.api headers organizerId trace) :
    system.ActsAs deployment headers "organizer" organizerId.uuid := by
  unfold IsOrganizer at h
  rw [if_neg (by rw [hdev]; exact Bool.false_ne_true)] at h
  exact hsound.actsAs hheard h

/-- Without development identities an operator has logged in. -/
theorem System.SessionsSound.operator (hsound : system.SessionsSound deployment)
    (hheard : system.Heard call trace) (hdev : deployment.api.developmentIdentityEnabled = false)
    (h : IsOperator deployment.api headers trace) :
    ∃ subject, system.ActsAs deployment headers "operator" subject := by
  unfold IsOperator at h
  rw [if_neg (by rw [hdev]; exact Bool.false_ne_true)] at h
  obtain ⟨subject, hrole⟩ := h
  exact ⟨subject, hsound.actsAs hheard hrole⟩

end Identities

end OpenPool.Api
