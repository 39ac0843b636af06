import OpenPool.Library.Traces
import OpenPool.Api.Handlers

/-! # What the routes ask for

Each route makes its statements only after its checks: who has sent the request, that the browser
meant it, and that its body is valid. -/

namespace OpenPool.Api

open Fallible Program Text

abbrev Trace := List (Exchange Request Request.Answer)

/-- The request was made and got this answer. -/
def Has (trace : Trace) (request : Request) (answer : request.Answer) : Prop :=
  (⟨request, answer⟩ : Exchange Request Request.Answer) ∈ trace

theorem Has.later {trace trace' : Trace} {request : Request} {answer : request.Answer}
    (h : Has trace request answer) (hlater : trace <:+ trace') : Has trace' request answer :=
  hlater.subset h

/-! ## Checks -/

section Checks

variable (api : ApiState) (headers : HeaderMap)

/-- The database has shown the session that the cookie names. -/
def Found (session : OidcSession) (trace : Trace) : Prop :=
  ∃ sessionId, sessionIdFromHeaders api.parseUuid headers = .ok sessionId ∧
    Has trace (.query (.oidcSession sessionId)) (.ok (some session))

/-- The CSRF token of the request is the token of its session. -/
def CsrfChecked (trace : Trace) : Prop :=
  api.developmentIdentityEnabled = true ∨ ∃ token session,
    headers.text "x-openpool-csrf" = some token ∧ Found api headers session trace ∧
      session.csrfTokenHash = (hash api (utf8 token)).val

/-- The session of the request has the role. -/
def HasRole (role : String) (subject : Uuid) (trace : Trace) : Prop :=
  ∃ session roles, Found api headers session trace ∧ session.roles = .names roles ∧
    role ∈ roles ∧ session.subject = subject

def IsOrganizer (organizerId : OrganizerId) (trace : Trace) : Prop :=
  if api.developmentIdentityEnabled then
    (headers.text "x-dev-organizer-id").bind api.parseUuid = some organizerId.uuid
  else HasRole api headers "organizer" organizerId.uuid trace

def IsOperator (trace : Trace) : Prop :=
  if api.developmentIdentityEnabled then headers.text "x-dev-operator" = some "true"
  else ∃ subject, HasRole api headers "operator" subject trace

variable {api headers} {trace trace' : Trace}

theorem Found.later {session : OidcSession} (h : Found api headers session trace)
    (hlater : trace <:+ trace') : Found api headers session trace' := by
  obtain ⟨sessionId, hcookie, hhas⟩ := h
  exact ⟨sessionId, hcookie, hhas.later hlater⟩

theorem CsrfChecked.later (h : CsrfChecked api headers trace) (hlater : trace <:+ trace') :
    CsrfChecked api headers trace' := by
  rcases h with hdev | ⟨token, session, htoken, hfound, hhash⟩
  · exact .inl hdev
  · exact .inr ⟨token, session, htoken, hfound.later hlater, hhash⟩

theorem HasRole.later {role : String} {subject : Uuid} (h : HasRole api headers role subject trace)
    (hlater : trace <:+ trace') : HasRole api headers role subject trace' := by
  obtain ⟨session, roles, hfound, hroles⟩ := h
  exact ⟨session, roles, hfound.later hlater, hroles⟩

theorem IsOrganizer.later {organizerId : OrganizerId} (h : IsOrganizer api headers organizerId trace)
    (hlater : trace <:+ trace') : IsOrganizer api headers organizerId trace' := by
  unfold IsOrganizer at h ⊢
  split
  · rwa [if_pos ‹_›] at h
  · rw [if_neg ‹_›] at h
    exact h.later hlater

end Checks

/-! ## Statements -/

/-- The statement reads what everyone may read, or what a check needs. -/
def Statement.reads : Statement → Bool
  | oidcSession _ | organizerExists _ | listPublicRaffles | publicRaffle _ | publicPool _
  | publicEntries .. | publicInvoice _ | raffleStatus _ | drawnTicket _ | payoutStatuses _
  | proofAvailable _ | publicProof _ | publicProofMetadata _ | publicRefund _ => true
  | _ => false

/-- The move that a route makes, with the headers and the raffle of its request. -/
def Call.move : Call → Option (HeaderMap × Uuid × RaffleStatus)
  | schedule headers id => some (headers, id, .scheduled)
  | openRaffle headers id => some (headers, id, .opened)
  | cancel headers id => some (headers, id, .cancelled)
  | _ => none

/-- What a route may ask for, after what it has been told. -/
inductive Allowed (api : ApiState) : Call → Request → Trace → Prop
  | ask (call : Call) (question : Question) (trace : Trace) :
      Allowed api call (.ask question) trace
  | draw (call : Call) (source : Source) (trace : Trace) : Allowed api call (.draw source) trace
  | read (call : Call) {statement : Statement} (trace : Trace) (h : statement.reads = true) :
      Allowed api call (.query statement) trace
  | loginAttempt (attempt : NewOidcLoginAttempt) (trace : Trace) :
      Allowed api .oidcLogin (.query (.createOidcLoginAttempt attempt)) trace
  | consume (code state : String) :
      Allowed api (.oidcCallback code state) (.query (.consumeOidcLoginAttempt state)) []
  | session (code state : String) (attempt : OidcLoginAttempt) (identity : AuthenticatedIdentity)
      (sessionId csrfToken : Uuid) (now : Instant) :
      Allowed api (.oidcCallback code state)
        (.query (.createOidcSession (newSession api sessionId identity csrfToken.toString now.nanos)))
        [⟨.draw .now, now⟩, ⟨.draw .uuid, csrfToken⟩, ⟨.draw .uuid, sessionId⟩,
          ⟨.ask (.exchangeCode code attempt.pkceVerifier attempt.nonce), .ok identity⟩,
          ⟨.query (.consumeOidcLoginAttempt state), .ok (some attempt)⟩]
  | logout (headers : HeaderMap) (sessionId : Uuid) (trace : Trace)
      (hcsrf : CsrfChecked api headers trace)
      (hcookie : sessionIdFromHeaders api.parseUuid headers = .ok sessionId) :
      Allowed api (.oidcLogout headers) (.query (.deleteOidcSession sessionId)) trace
  | createOrganizer (headers : HeaderMap) (body : OrganizerRequest) (organizerId : OrganizerId)
      (nonce : AeadNonce) (ciphertext : List UInt8) (trace : Trace)
      (hcsrf : CsrfChecked api headers trace) (hself : IsOrganizer api headers organizerId trace)
      (hbody : trim body.displayName ≠ "" ∧ trim body.lightningAddress ≠ "")
      (hseal : api.addressCipher.encrypt nonce body.lightningAddress = .ok ciphertext) :
      Allowed api (.createOrganizer headers body)
        (.query (.createOrganizer ⟨organizerId, body.displayName, ciphertext⟩)) trace
  | createDraftRaffle (headers : HeaderMap) (body : RaffleRequest) (id : RaffleId)
      (organizerId : OrganizerId) (raffle : NewDraftRaffle) (trace : Trace)
      (hcsrf : CsrfChecked api headers trace) (hself : IsOrganizer api headers organizerId trace)
      (hvalid : validatedRaffle api body id organizerId = .ok raffle) :
      Allowed api (.createRaffle headers body) (.query (.createDraftRaffle raffle)) trace
  | updateRaffle (headers : HeaderMap) (id : Uuid) (body : RaffleRequest)
      (organizerId : OrganizerId) (raffle : NewDraftRaffle) (trace : Trace)
      (hcsrf : CsrfChecked api headers trace) (hself : IsOrganizer api headers organizerId trace)
      (hvalid : validatedRaffle api body ⟨id⟩ organizerId = .ok raffle) :
      Allowed api (.updateRaffle headers id body) (.query (.updateRaffle organizerId raffle)) trace
  | transition (call : Call) (headers : HeaderMap) (id : Uuid) (status : RaffleStatus)
      (organizerId : OrganizerId) (trace : Trace) (hmove : call.move = some (headers, id, status))
      (hcsrf : CsrfChecked api headers trace) (hself : IsOrganizer api headers organizerId trace) :
      Allowed api call (.query (.transitionRaffle organizerId ⟨id⟩ (some status))) trace
  | organizerRaffles (headers : HeaderMap) (organizerId : OrganizerId) (trace : Trace)
      (hself : IsOrganizer api headers organizerId trace) :
      Allowed api (.listOrganizerRaffles headers) (.query (.organizerRaffles organizerId)) trace
  | operatorJobs (headers : HeaderMap) (trace : Trace) (hoperator : IsOperator api headers trace) :
      Allowed api (.listOperatorJobs headers) (.query .operatorJobs) trace
  | retryDeadJob (headers : HeaderMap) (id : Uuid) (trace : Trace)
      (hcsrf : CsrfChecked api headers trace) (hoperator : IsOperator api headers trace) :
      Allowed api (.retryOperatorJob headers id) (.query (.retryDeadJob id)) trace
  | collectionInvoice (raffleId : Uuid) (body : InvoiceRequest) (now : Instant) (invoiceId : Uuid)
      (nonce : AeadNonce) (ciphertext : List UInt8)
      (haddress : trim body.lightningAddress ≠ "")
      (hseal : api.addressCipher.encrypt nonce (trim body.lightningAddress) = .ok ciphertext) :
      Allowed api (.createInvoice raffleId body)
        (.query (.createCollectionInvoice (newCollectionInvoice api invoiceId raffleId
          (trim body.lightningAddress) ciphertext body.ticketCount now.nanos)))
        [⟨.draw .nonce, nonce⟩, ⟨.draw .uuid, invoiceId⟩, ⟨.draw .now, now⟩]
  | storeCollection (raffleId : Uuid) (body : InvoiceRequest) (invoice : NewCollectionInvoice)
      (pending : PendingCollectionInvoice) (collection : CollectionInvoice) (front : Trace)
      (hanswers : collection.Answers pending) :
      Allowed api (.createInvoice raffleId body)
        (.query (.storeCollectionInvoice invoice.id collection.providerQuoteId
          collection.providerPaymentHash collection.bolt11 collection.expiresAt))
        (⟨.ask (.createCollection ⟨invoice.id, pending.amountSats, pending.expiresAt⟩),
            .ok collection⟩ ::
          ⟨.query (.createCollectionInvoice invoice), .ok pending⟩ :: front)
  | failCollection (raffleId : Uuid) (body : InvoiceRequest) (invoice : NewCollectionInvoice)
      (pending : PendingCollectionInvoice) (reply : Except String CollectionInvoice) (front : Trace)
      (hrefused : ∀ collection, reply = .ok collection → ¬ collection.Answers pending) :
      Allowed api (.createInvoice raffleId body) (.query (.failCollectionInvoice invoice.id))
        (⟨.ask (.createCollection ⟨invoice.id, pending.amountSats, pending.expiresAt⟩), reply⟩ ::
          ⟨.query (.createCollectionInvoice invoice), .ok pending⟩ :: front)
  | webhook (headers : HeaderMap) (body : List UInt8) (event : NewWebhookEvent) (trace : Trace)
      (h : webhookEvent api headers body = .ok event) :
      Allowed api (.receiveMavapayWebhook headers body) (.query (.recordWebhookAndEnqueue event))
        trace

/-! ## Rules -/

section Rules

variable {api : ApiState} {α : Type} {trace : Trace}
  {allowed : Request → Trace → Prop} {post : Except ApiError α → Trace → Prop}

theorem traced_query {statement : Statement} {f : statement.Value → Task α}
    (hallowed : allowed (.query statement) trace)
    (hfail : ∀ error, post (.error (.ofPersistence api.describe error))
      (⟨.query statement, .error error⟩ :: trace))
    (hnext : ∀ value, Traced allowed post (f value) (⟨.query statement, .ok value⟩ :: trace)) :
    Traced allowed post (query api statement >>= f) trace := by
  refine traced_call.mpr ⟨hallowed, fun answer => ?_⟩
  cases answer with
  | ok value => exact hnext value
  | error error => exact traced_done.mpr (hfail error)

theorem traced_draw {source : Source} {f : source.Value → Task α}
    (hallowed : allowed (.draw source) trace)
    (hnext : ∀ value, Traced allowed post (f value) (⟨.draw source, value⟩ :: trace)) :
    Traced allowed post (draw source >>= f) trace :=
  traced_request hallowed hnext

theorem traced_tryAsk {question : Question} {f : Except String question.Value → Task α}
    (hallowed : allowed (.ask question) trace)
    (hnext : ∀ answer, Traced allowed post (f answer) (⟨.ask question, answer⟩ :: trace)) :
    Traced allowed post (tryAsk question >>= f) trace :=
  traced_request hallowed hnext

/-- A check that fails ends the handler. -/
theorem traced_guard {p : Prop} [Decidable p] {error : ApiError} {f : Unit → Task α}
    (hfail : p → post (.error error) trace)
    (hnext : ¬ p → Traced allowed post (f ()) trace) :
    Traced allowed post ((if p then Program.fail error else pure ()) >>= f) trace := by
  by_cases hp : p
  · rw [if_pos hp]
    exact traced_done.mpr (hfail hp)
  · rw [if_neg hp]
    exact hnext hp

variable {headers : HeaderMap}
  (hreads : ∀ statement trace, Statement.reads statement = true → allowed (.query statement) trace)
  (hfail : ∀ error trace, post (.error error) trace)

include hreads hfail

theorem traced_sessionWithRole {role : String} {f : OidcSession → Task α}
    (hnext : ∀ session trace', trace <:+ trace' →
      HasRole api headers role session.subject trace' → Traced allowed post (f session) trace') :
    Traced allowed post (sessionWithRole api headers role >>= f) trace := by
  unfold sessionWithRole
  simp only [bind_assoc]
  refine traced_result (fun error _ => hfail error _) fun sessionId hcookie => ?_
  refine traced_query (hreads _ _ rfl) (fun error => hfail _ _) fun found => ?_
  refine traced_okOrElse (hfail _ _) fun session hfound => ?_
  subst hfound
  cases hroles : session.roles with
  | other json => exact traced_done.mpr (hfail _ _)
  | names roles =>
      dsimp only
      rw [Program.ite_bind]
      split
      · exact hnext session _ (List.suffix_cons _ _)
          ⟨session, roles, ⟨sessionId, hcookie, List.mem_cons_self ..⟩, hroles, ‹_›, rfl⟩
      · exact traced_done.mpr (hfail _ _)

theorem traced_identity {f : OrganizerId → Task α}
    (hnext : ∀ organizerId trace', trace <:+ trace' →
      IsOrganizer api headers organizerId trace' → Traced allowed post (f organizerId) trace') :
    Traced allowed post (identity api headers >>= f) trace := by
  unfold identity
  rw [Program.ite_bind]
  split
  · rename_i hdev
    refine traced_okOrElse (hfail _ _) fun organizerId hheader => hnext organizerId _ List.suffix_rfl ?_
    obtain ⟨uuid, huuid, rfl⟩ := Option.map_eq_some_iff.mp hheader
    unfold IsOrganizer
    rw [if_pos hdev]
    exact huuid
  · rename_i hdev
    rw [bind_assoc]
    refine traced_sessionWithRole hreads hfail fun session trace' hlater hrole =>
      hnext ⟨session.subject⟩ _ hlater ?_
    unfold IsOrganizer
    rw [if_neg hdev]
    exact hrole

theorem traced_requireOperator {f : Unit → Task α}
    (hnext : ∀ trace', trace <:+ trace' → IsOperator api headers trace' →
      Traced allowed post (f ()) trace') :
    Traced allowed post (requireOperator api headers >>= f) trace := by
  unfold requireOperator
  rw [Program.ite_bind]
  split
  · rename_i hdev
    rw [Program.ite_bind]
    split
    · refine hnext _ List.suffix_rfl ?_
      unfold IsOperator
      rwa [if_pos hdev]
    · exact traced_done.mpr (hfail _ _)
  · rename_i hdev
    rw [bind_assoc]
    refine traced_sessionWithRole hreads hfail fun session trace' hlater hrole =>
      hnext _ hlater ?_
    unfold IsOperator
    rw [if_neg hdev]
    exact ⟨_, hrole⟩

theorem traced_validateCsrf {f : Unit → Task α}
    (hnext : ∀ trace', trace <:+ trace' → CsrfChecked api headers trace' →
      Traced allowed post (f ()) trace') :
    Traced allowed post (validateCsrf api headers >>= f) trace := by
  unfold validateCsrf
  rw [Program.ite_bind]
  split
  · exact hnext _ List.suffix_rfl (.inl ‹_›)
  · simp only [bind_assoc]
    refine traced_result (fun error _ => hfail error _) fun sessionId hcookie => ?_
    refine traced_okOrElse (hfail _ _) fun token htoken => ?_
    refine traced_query (hreads _ _ rfl) (fun error => hfail _ _) fun found => ?_
    refine traced_okOrElse (hfail _ _) fun session hfound => ?_
    subst hfound
    refine traced_guard (fun _ => hfail _ _) fun hhash => ?_
    exact hnext _ (List.suffix_cons _ _) (.inr ⟨token, session, htoken,
      ⟨sessionId, hcookie, List.mem_cons_self ..⟩, not_not.mp hhash⟩)

theorem traced_activeOrganizer {f : OrganizerId → Task α}
    (hnext : ∀ organizerId trace', trace <:+ trace' →
      IsOrganizer api headers organizerId trace' → Traced allowed post (f organizerId) trace') :
    Traced allowed post (activeOrganizer api headers >>= f) trace := by
  unfold activeOrganizer
  simp only [bind_assoc]
  refine traced_identity hreads hfail fun organizerId trace' hlater hself => ?_
  refine traced_query (hreads _ _ rfl) (fun error => hfail _ _) fun active => ?_
  rw [Program.ite_bind]
  split
  · exact hnext _ _ (hlater.trans (List.suffix_cons _ _)) (hself.later (List.suffix_cons _ _))
  · exact traced_done.mpr (hfail _ _)

end Rules

/-! ## The routes -/

section Routes

variable {api : ApiState}

/-- Whatever it is told, the program asks only for what its route may ask for. -/
def Lawful (api : ApiState) (call : Call) {α : Type} (program : Task α) (trace : Trace) : Prop :=
  Traced (Allowed api call) (fun _ _ => True) program trace

theorem lawful_done {call : Call} {α : Type} {result : Except ApiError α} {trace : Trace} :
    Lawful api call (.done result) trace :=
  traced_done.mpr trivial

/-- A read, after which the handler responds. -/
theorem lawful_read {call : Call} {statement : Statement} {f : statement.Value → Task Response}
    {trace : Trace} (hreads : statement.reads = true)
    (hnext : ∀ value trace, Lawful api call (f value) trace) :
    Lawful api call (query api statement >>= f) trace :=
  traced_query (.read call trace hreads) (fun _ => trivial) fun value => hnext value _

/-- A check that ends the handler where it fails. -/
theorem lawful_check {call : Call} {p : Prop} [Decidable p] {error : ApiError}
    {f : PUnit → Task Response} {rest : Task Response} {trace : Trace}
    (hnext : ¬ p → Lawful api call rest trace) :
    Lawful api call (if p then Program.fail error >>= f else rest) trace := by
  split
  · exact lawful_done
  · exact hnext ‹_›

theorem reads_allowed {call : Call} (statement : Statement) (trace : Trace)
    (h : statement.reads = true) : Allowed api call (.query statement) trace :=
  .read call trace h

theorem oidcLogin_lawful : Lawful api .oidcLogin (oidcLogin api) [] := by
  unfold oidcLogin
  dsimp only
  refine lawful_check fun _ => ?_
  refine traced_tryAsk (.ask _ _ _) fun start => ?_
  cases start with
  | error error => exact lawful_done
  | ok start =>
      refine traced_draw (.draw _ _ _) fun now => ?_
      exact traced_query (.loginAttempt _ _) (fun _ => trivial) fun _ => lawful_done

theorem oidcCallback_lawful {code state : String} :
    Lawful api (.oidcCallback code state) (oidcCallback api code state) [] := by
  unfold oidcCallback
  dsimp only
  refine lawful_check fun _ => ?_
  refine traced_query (.consume code state) (fun _ => trivial) fun attempt => ?_
  refine traced_okOrElse trivial fun attempt hattempt => ?_
  subst hattempt
  refine traced_tryAsk (.ask _ _ _) fun identity => ?_
  cases identity with
  | error error => exact lawful_done
  | ok identity =>
      refine traced_draw (.draw _ _ _) fun sessionId => ?_
      refine traced_draw (.draw _ _ _) fun csrfToken => ?_
      refine traced_draw (.draw _ _ _) fun now => ?_
      exact traced_query (.session code state attempt identity sessionId csrfToken now)
        (fun _ => trivial) fun _ => lawful_done

theorem oidcLogout_lawful {headers : HeaderMap} :
    Lawful api (.oidcLogout headers) (oidcLogout api headers) [] := by
  unfold oidcLogout
  refine traced_validateCsrf reads_allowed (fun _ _ => trivial) fun trace _ hcsrf => ?_
  dsimp only
  split
  · refine traced_result (fun _ _ => trivial) fun sessionId hcookie => ?_
    exact traced_query (.logout headers sessionId trace hcsrf hcookie) (fun _ => trivial)
      fun _ => lawful_done
  · exact lawful_done

theorem createOrganizer_lawful {headers : HeaderMap} {body : OrganizerRequest} :
    Lawful api (.createOrganizer headers body) (createOrganizer api headers body) [] := by
  unfold createOrganizer
  refine traced_validateCsrf reads_allowed (fun _ _ => trivial) fun trace _ hcsrf => ?_
  dsimp only
  refine lawful_check fun hbody => ?_
  refine traced_identity reads_allowed (fun _ _ => trivial)
    fun organizerId trace' hlater hself => ?_
  unfold encryptAddress
  simp only [bind_assoc]
  refine traced_draw (.draw _ _ _) fun nonce => ?_
  refine traced_result (fun _ _ => trivial) fun ciphertext hseal => ?_
  have hdrawn := List.suffix_cons (⟨.draw .nonce, nonce⟩ : Exchange Request Request.Answer) trace'
  exact traced_query (.createOrganizer headers body organizerId nonce ciphertext _
    (hcsrf.later (hlater.trans hdrawn)) (hself.later hdrawn) (not_or.mp hbody) hseal)
    (fun _ => trivial) fun _ => lawful_done

theorem createRaffle_lawful {headers : HeaderMap} {body : RaffleRequest} :
    Lawful api (.createRaffle headers body) (createRaffle api headers body) [] := by
  unfold createRaffle
  refine traced_validateCsrf reads_allowed (fun _ _ => trivial) fun trace _ hcsrf => ?_
  refine traced_activeOrganizer reads_allowed (fun _ _ => trivial)
    fun organizerId trace' hlater hself => ?_
  refine traced_draw (.draw _ _ _) fun raffleId => ?_
  refine traced_result (fun _ _ => trivial) fun raffle hvalid => ?_
  have hdrawn := List.suffix_cons (⟨.draw .uuid, raffleId⟩ : Exchange Request Request.Answer) trace'
  exact traced_query (.createDraftRaffle headers body ⟨raffleId⟩ organizerId raffle _
    (hcsrf.later (hlater.trans hdrawn)) (hself.later hdrawn) hvalid) (fun _ => trivial)
    fun _ => lawful_done

theorem updateRaffle_lawful {headers : HeaderMap} {id : Uuid} {body : RaffleRequest} :
    Lawful api (.updateRaffle headers id body) (updateRaffle api headers id body) [] := by
  unfold updateRaffle
  refine traced_validateCsrf reads_allowed (fun _ _ => trivial) fun trace _ hcsrf => ?_
  refine traced_activeOrganizer reads_allowed (fun _ _ => trivial)
    fun organizerId trace' hlater hself => ?_
  refine traced_result (fun _ _ => trivial) fun raffle hvalid => ?_
  exact traced_query (.updateRaffle headers id body organizerId raffle _ (hcsrf.later hlater) hself
    hvalid) (fun _ => trivial) fun _ => lawful_done

theorem transition_lawful {call : Call} {headers : HeaderMap} {id : Uuid} {status : RaffleStatus}
    (hmove : call.move = some (headers, id, status)) :
    Lawful api call (transition api headers id status) [] := by
  unfold transition
  refine traced_validateCsrf reads_allowed (fun _ _ => trivial) fun trace _ hcsrf => ?_
  refine traced_identity reads_allowed (fun _ _ => trivial)
    fun organizerId trace' hlater hself => ?_
  exact traced_query (.transition call headers id status organizerId _ hmove (hcsrf.later hlater)
    hself) (fun _ => trivial) fun _ => lawful_done

theorem listOrganizerRaffles_lawful {headers : HeaderMap} :
    Lawful api (.listOrganizerRaffles headers) (listOrganizerRaffles api headers) [] := by
  unfold listOrganizerRaffles
  refine traced_activeOrganizer reads_allowed (fun _ _ => trivial)
    fun organizerId trace _ hself => ?_
  exact traced_query (.organizerRaffles headers organizerId trace hself) (fun _ => trivial)
    fun _ => lawful_done

theorem listOperatorJobs_lawful {headers : HeaderMap} :
    Lawful api (.listOperatorJobs headers) (listOperatorJobs api headers) [] := by
  unfold listOperatorJobs
  refine traced_requireOperator reads_allowed (fun _ _ => trivial) fun trace _ hoperator => ?_
  exact traced_query (.operatorJobs headers trace hoperator) (fun _ => trivial)
    fun _ => lawful_done

theorem retryOperatorJob_lawful {headers : HeaderMap} {id : Uuid} :
    Lawful api (.retryOperatorJob headers id) (retryOperatorJob api headers id) [] := by
  unfold retryOperatorJob
  refine traced_validateCsrf reads_allowed (fun _ _ => trivial) fun trace _ hcsrf => ?_
  refine traced_requireOperator reads_allowed (fun _ _ => trivial)
    fun trace' hlater hoperator => ?_
  refine traced_query (.retryDeadJob headers id trace' (hcsrf.later hlater) hoperator)
    (fun _ => trivial) fun retried => ?_
  split <;> exact lawful_done

theorem collect_lawful {raffleId : Uuid} {body : InvoiceRequest} (invoice : NewCollectionInvoice)
    {pending : PendingCollectionInvoice} {front : Trace} :
    Lawful api (.createInvoice raffleId body) (collect api invoice.id.uuid pending)
      (⟨.query (.createCollectionInvoice invoice), .ok pending⟩ :: front) := by
  unfold collect
  refine traced_tryAsk (.ask _ _ _) fun reply => ?_
  have hfailed : ∀ message, (∀ collection, reply = .ok collection → ¬ collection.Answers pending) →
      Lawful api (.createInvoice raffleId body) (failCollection api invoice.id message)
        (⟨.ask (.createCollection ⟨invoice.id, pending.amountSats, pending.expiresAt⟩), reply⟩ ::
          ⟨.query (.createCollectionInvoice invoice), .ok pending⟩ :: front) := by
    intro message hrefused
    exact traced_query (.failCollection raffleId body invoice pending reply front hrefused)
      (fun _ => trivial) fun _ => lawful_done
  cases reply with
  | error error => exact hfailed _ nofun
  | ok collection =>
      dsimp only
      split
      · rename_i hanswers
        refine traced_query (.storeCollection raffleId body invoice pending collection front hanswers)
          (fun _ => trivial) fun _ => ?_
        exact lawful_read rfl fun _ _ => lawful_done
      · rename_i hrefused
        exact hfailed _ fun other hother => Except.ok.inj hother ▸ hrefused

theorem createInvoice_lawful {raffleId : Uuid} {body : InvoiceRequest} :
    Lawful api (.createInvoice raffleId body) (createInvoice api raffleId body) [] := by
  unfold createInvoice
  dsimp only
  refine lawful_check fun haddress => ?_
  refine traced_draw (.draw _ _ _) fun now => ?_
  refine traced_draw (.draw _ _ _) fun invoiceId => ?_
  unfold encryptAddress
  simp only [bind_assoc]
  refine traced_draw (.draw _ _ _) fun nonce => ?_
  refine traced_result (fun _ _ => trivial) fun ciphertext hseal => ?_
  refine traced_query (.collectionInvoice raffleId body now invoiceId nonce ciphertext haddress hseal)
    (fun _ => trivial) fun pending => ?_
  exact collect_lawful (newCollectionInvoice api invoiceId raffleId (trim body.lightningAddress)
    ciphertext body.ticketCount now.nanos)

theorem receiveMavapayWebhook_lawful {headers : HeaderMap} {body : List UInt8} :
    Lawful api (.receiveMavapayWebhook headers body) (receiveMavapayWebhook api headers body)
      [] := by
  unfold receiveMavapayWebhook
  refine traced_result (fun _ _ => trivial) fun event hevent => ?_
  exact traced_query (.webhook headers body event _ hevent) (fun _ => trivial)
    fun _ => lawful_done

/-- Every route asks only for what it may. -/
theorem router_lawful (api : ApiState) (call : Call) : Lawful api call (router api call) [] := by
  cases call with
  | oidcLogin => exact oidcLogin_lawful
  | oidcCallback code state => exact oidcCallback_lawful
  | oidcLogout headers => exact oidcLogout_lawful
  | createInvoice raffleId body => exact createInvoice_lawful
  | receiveMavapayWebhook headers body => exact receiveMavapayWebhook_lawful
  | createOrganizer headers body => exact createOrganizer_lawful
  | listOrganizerRaffles headers => exact listOrganizerRaffles_lawful
  | createRaffle headers body => exact createRaffle_lawful
  | updateRaffle headers id body => exact updateRaffle_lawful
  | listOperatorJobs headers => exact listOperatorJobs_lawful
  | retryOperatorJob headers id => exact retryOperatorJob_lawful
  | schedule headers id => exact transition_lawful rfl
  | openRaffle headers id => exact transition_lawful rfl
  | cancel headers id => exact transition_lawful rfl
  | verifyProof id document =>
      change Lawful api _ (ite _ _ _) _
      exact lawful_check fun _ => lawful_done
  | getResult id =>
      exact lawful_read rfl fun _ _ => lawful_read rfl fun _ _ => lawful_read rfl fun _ _ =>
        lawful_read rfl fun _ _ => lawful_done
  | listRaffles | getRaffle | getPool | listEntries | getProof | getProofMetadata | getRefund
  | getInvoice => exact lawful_read rfl fun _ _ => lawful_done

end Routes

end OpenPool.Api
