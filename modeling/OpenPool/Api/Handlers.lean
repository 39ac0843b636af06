import OpenPool.Api.Requests
import OpenPool.Verifier.Semantics

/-! # The handlers

One program for each route. What a handler gets has passed the extractors: a path holds an
identifier, a body the fields of its structure. -/

namespace OpenPool.Api

open Fallible Text

/-! ## Bodies and responses -/

structure OrganizerRequest where
  displayName : String
  lightningAddress : String

structure RaffleRequest where
  name : String
  entryPriceSats : UInt64
  startTime : String
  endTime : String
  winnerBps : UInt16
  organizerBps : UInt16
  platformBps : UInt16

structure InvoiceRequest where
  lightningAddress : String
  ticketCount : UInt64

/-- A successful response. `aborted` is a panic, on which the connection is closed. -/
inductive Response where
  | redirect (url : String) (cookies : List String)
  | created
  | accepted
  | noContent (cookies : List String)
  | aborted
  | createdRaffle (id : Uuid)
  | createdInvoice (invoice : PublicInvoice)
  | invoice (invoice : PublicInvoice)
  | raffles (raffles : List Contract.PublicRaffle)
  | raffle (raffle : Contract.PublicRaffle)
  | pool (pool : PublicPool)
  | entries (page : EntryPage)
  | proof (document : ProofDocument)
  | proofMetadata (metadata : PublicProofMetadata)
  | result (result : PublicResult)
  | refund (refund : PublicRefund)
  | verified (result : VerificationResult)
  | operatorJobs (jobs : List OperatorJob)

section Handlers

variable (api : ApiState)

/-! ## Requests -/

/-- A statement whose error ends the handler. -/
def query (statement : Statement) : Task statement.Value := do
  let answer ← (Program.request (Request.query statement) : Task (Except _ _))
  Program.orFail (ApiError.ofPersistence api.describe) answer

/-- A call of a service outside whose error the handler handles. -/
def tryAsk (question : Question) : Task (Except String question.Value) :=
  Program.request (Request.ask question)

def draw (source : Source) : Task source.Value :=
  Program.request (Request.draw source)

/-- `SHA-256` of a text. -/
def hash (value : List UInt8) : Hash32 := api.prim.sha256 value

def encryptAddress (address : String) : Task (List UInt8) := do
  let nonce ← draw .nonce
  Program.done (api.addressCipher.encrypt nonce address)

/-! ## Identities -/

/-- The session of the cookie, where it has the role. -/
def sessionWithRole (headers : HeaderMap) (role : String) : Task OidcSession := do
  let sessionId ← Program.done (sessionIdFromHeaders api.parseUuid headers)
  let session ← query api (.oidcSession sessionId)
  let session ← Program.okOrElse session (.forbidden "OIDC session is invalid or expired")
  match session.roles with
  | .names roles =>
      if role ∈ roles then return session
      else Program.fail (.forbidden (role ++ " role is required"))
  | .other _ => Program.fail (.forbidden "OIDC session roles are invalid")

def identity (headers : HeaderMap) : Task OrganizerId :=
  if api.developmentIdentityEnabled then
    Program.okOrElse (((headers.text "x-dev-organizer-id").bind api.parseUuid).map OrganizerId.mk)
      (.forbidden "x-dev-organizer-id UUID is required")
  else do
    let session ← sessionWithRole api headers "organizer"
    return ⟨session.subject⟩

def requireOperator (headers : HeaderMap) : Task Unit :=
  if api.developmentIdentityEnabled then
    if headers.text "x-dev-operator" = some "true" then return ()
    else Program.fail (.forbidden "x-dev-operator: true is required")
  else do
    let _ ← sessionWithRole api headers "operator"
    return ()

def validateCsrf (headers : HeaderMap) : Task Unit :=
  if api.developmentIdentityEnabled then return ()
  else do
    let sessionId ← Program.done (sessionIdFromHeaders api.parseUuid headers)
    let token ← Program.okOrElse (headers.text "x-openpool-csrf")
      (.forbidden "CSRF token is required")
    let session ← query api (.oidcSession sessionId)
    let session ← Program.okOrElse session (.forbidden "OIDC session is invalid or expired")
    if session.csrfTokenHash ≠ (hash api (utf8 token)).val then
      Program.fail (.forbidden "CSRF token is invalid")

/-- The first sixteen bytes of the hash of the provider's subject. -/
def oidcSubjectId (subject : String) : Uuid :=
  ⟨(hash api (utf8 subject)).val.take 16, by simp⟩

/-! ## Logins -/

/-- A minute in nanoseconds. -/
def minute : ℤ := 60000000000

def oidcLogin : Task Response := do
  if api.oidc = false then Program.fail (.unavailable "OIDC is not configured")
  let start ← tryAsk .beginAuthorization
  let start ← Program.orFail ApiError.unavailable start
  let now ← draw .now
  query api (.createOidcLoginAttempt
    ⟨start.state, start.nonce, start.pkceVerifier, now.nanos + 10 * minute⟩)
  return .redirect start.authorizationUrl []

def secure : String := if api.secureSessionCookie then "; Secure" else ""

def sessionCookie (sessionId : Uuid) : String :=
  "openpool_session=" ++ sessionId.toString ++ "; HttpOnly; SameSite=Lax; Path=/; Max-Age=28800" ++
    secure api

def csrfCookie (csrfToken : String) : String :=
  "openpool_csrf=" ++ csrfToken ++ "; SameSite=Lax; Path=/; Max-Age=28800" ++ secure api

/-- The session of a login: eight hours for the identity that the provider has confirmed. -/
def newSession (sessionId : Uuid) (identity : AuthenticatedIdentity) (csrfToken : String)
    (now : ℤ) : NewOidcSession where
  id := sessionId
  subject := oidcSubjectId api identity.subject
  roles := .names identity.roles
  csrfTokenHash := (hash api (utf8 csrfToken)).val
  expiresAt := now + 8 * 60 * minute

def oidcCallback (code state : String) : Task Response := do
  if api.oidc = false then Program.fail (.unavailable "OIDC is not configured")
  let attempt ← query api (.consumeOidcLoginAttempt state)
  let attempt ← Program.okOrElse attempt (.forbidden "OIDC state is invalid or expired")
  let identity ← tryAsk (.exchangeCode code attempt.pkceVerifier attempt.nonce)
  let identity ← Program.orFail
    (fun error => .forbidden ("OIDC callback was rejected: " ++ error)) identity
  let sessionId ← draw .uuid
  let csrfToken ← draw .uuid
  let now ← draw .now
  query api (.createOidcSession (newSession api sessionId identity csrfToken.toString now.nanos))
  return .redirect "/organizer" [sessionCookie api sessionId, csrfCookie api csrfToken.toString]

def clearedCookie (name : String) : String :=
  name ++ "=; HttpOnly; SameSite=Lax; Path=/; Max-Age=0" ++ secure api

def oidcLogout (headers : HeaderMap) : Task Response := do
  validateCsrf api headers
  if api.developmentIdentityEnabled = false then do
    let sessionId ← Program.done (sessionIdFromHeaders api.parseUuid headers)
    query api (.deleteOidcSession sessionId)
  return .noContent [clearedCookie api "openpool_session", clearedCookie api "openpool_csrf"]

/-! ## Organizers and raffles -/

def createOrganizer (headers : HeaderMap) (body : OrganizerRequest) : Task Response := do
  validateCsrf api headers
  if trim body.displayName = "" ∨ trim body.lightningAddress = "" then
    Program.fail (.bad "display_name and lightning_address are required")
  let id ← identity api headers
  let ciphertext ← encryptAddress api body.lightningAddress
  query api (.createOrganizer ⟨id, body.displayName, ciphertext⟩)
  return .created

def parseTime (value : String) : Except ApiError ℤ :=
  orElse (api.parseRfc3339 value) (.bad "timestamps must be RFC3339")

def badDomain (error : DomainError) : ApiError := .bad error.toString

def validatedRaffle (body : RaffleRequest) (id : RaffleId) (organizerId : OrganizerId) :
    Except ApiError NewDraftRaffle := do
  ensure (trim body.name ≠ "") (.bad "name is required")
  ensure (body.entryPriceSats ≠ 0) (.bad "entry_price_sats must be positive")
  let startTime ← parseTime api body.startTime
  let endTime ← parseTime api body.endTime
  ensure (startTime < endTime) (.bad "end_time must be after start_time")
  let winner ← (BasisPoints.new body.winnerBps).mapError badDomain
  let organizer ← (BasisPoints.new body.organizerBps).mapError badDomain
  let platform ← (BasisPoints.new body.platformBps).mapError badDomain
  let payoutSplit ← (PayoutSplit.new winner organizer platform).mapError badDomain
  return {
    id, organizerId, startTime, endTime, payoutSplit
    name := trim body.name
    entryPriceSats := ⟨body.entryPriceSats⟩
    randomnessDelayBlocks := 6 }

/-- The organizer of the request, who has to be active. -/
def activeOrganizer (headers : HeaderMap) : Task OrganizerId := do
  let organizerId ← identity api headers
  let active ← query api (.organizerExists organizerId)
  if active then return organizerId else Program.fail (.forbidden "active organizer required")

def createRaffle (headers : HeaderMap) (body : RaffleRequest) : Task Response := do
  validateCsrf api headers
  let organizerId ← activeOrganizer api headers
  let raffleId ← draw .uuid
  let raffle ← Program.done (validatedRaffle api body ⟨raffleId⟩ organizerId)
  query api (.createDraftRaffle raffle)
  return .createdRaffle raffleId

def updateRaffle (headers : HeaderMap) (id : Uuid) (body : RaffleRequest) : Task Response := do
  validateCsrf api headers
  let organizerId ← activeOrganizer api headers
  let raffle ← Program.done (validatedRaffle api body ⟨id⟩ organizerId)
  query api (.updateRaffle organizerId raffle)
  return .noContent []

def transition (headers : HeaderMap) (raffleId : Uuid) (status : RaffleStatus) :
    Task Response := do
  validateCsrf api headers
  let organizerId ← identity api headers
  query api (.transitionRaffle organizerId ⟨raffleId⟩ (some status))
  return .noContent []

def schedule (headers : HeaderMap) (id : Uuid) : Task Response := transition api headers id .scheduled

def openRaffle (headers : HeaderMap) (id : Uuid) : Task Response := transition api headers id .opened

def cancel (headers : HeaderMap) (id : Uuid) : Task Response := transition api headers id .cancelled

/-- The raffles in the contract's form; a conversion that fails is a panic. -/
def contractRaffles (raffles : List PublicRaffle) : Response :=
  match raffles.mapM PublicRaffle.contract with
  | some raffles => .raffles raffles
  | none => .aborted

def listOrganizerRaffles (headers : HeaderMap) : Task Response := do
  let organizerId ← activeOrganizer api headers
  let raffles ← query api (.organizerRaffles organizerId)
  return contractRaffles raffles

/-! ## The operator -/

def listOperatorJobs (headers : HeaderMap) : Task Response := do
  requireOperator api headers
  let jobs ← query api .operatorJobs
  return .operatorJobs jobs

def retryOperatorJob (headers : HeaderMap) (id : Uuid) : Task Response := do
  validateCsrf api headers
  requireOperator api headers
  let retried ← query api (.retryDeadJob id)
  if retried then return .accepted else Program.fail (.bad "only dead jobs can be retried")

/-! ## Invoices -/

/-- The collection is given up. -/
def failCollection (invoiceId : InvoiceId) (message : String) : Task Response := do
  query api (.failCollectionInvoice invoiceId)
  Program.fail (.provider message)

/-- The provider's invoice is kept and shown. -/
def storeCollection (invoiceId : InvoiceId) (collection : CollectionInvoice) : Task Response := do
  query api (.storeCollectionInvoice invoiceId collection.providerQuoteId
    collection.providerPaymentHash collection.bolt11 collection.expiresAt)
  let invoice ← query api (.publicInvoice invoiceId)
  return .createdInvoice invoice

def newCollectionInvoice (invoiceId : Uuid) (raffleId : Uuid) (address : String)
    (ciphertext : List UInt8) (ticketCount : UInt64) (now : ℤ) : NewCollectionInvoice where
  id := ⟨invoiceId⟩
  raffleId := ⟨raffleId⟩
  participantPublicId := hash api (utf8 address)
  paymentReferenceHash := hash api invoiceId.val
  payoutAddressCiphertext := ciphertext
  ticketCount
  requestedAt := now
  expiresAt := now + 15 * minute

/-- The provider asks for the exact amount, in time, and with an invoice. -/
def CollectionInvoice.Answers (collection : CollectionInvoice)
    (pending : PendingCollectionInvoice) : Prop :=
  collection.amountSats = pending.amountSats ∧ collection.expiresAt ≤ pending.expiresAt ∧
    collection.bolt11 ≠ ""

instance (collection : CollectionInvoice) (pending : PendingCollectionInvoice) :
    Decidable (collection.Answers pending) :=
  inferInstanceAs (Decidable (_ ∧ _ ∧ _))

/-- What follows on the pending invoice. -/
def collect (invoiceId : Uuid) (pending : PendingCollectionInvoice) : Task Response := do
  match ← tryAsk (.createCollection ⟨⟨invoiceId⟩, pending.amountSats, pending.expiresAt⟩) with
  | .ok collection =>
      if collection.Answers pending then storeCollection api ⟨invoiceId⟩ collection
      else failCollection api ⟨invoiceId⟩ "provider returned an invalid collection invoice"
  | .error _ => failCollection api ⟨invoiceId⟩ "payment provider could not create an invoice"

def createInvoice (raffleId : Uuid) (body : InvoiceRequest) : Task Response := do
  if trim body.lightningAddress = "" then
    Program.fail (.bad "lightning_address is required")
  let now ← draw .now
  let invoiceId ← draw .uuid
  let ciphertext ← encryptAddress api (trim body.lightningAddress)
  let pending ← query api (.createCollectionInvoice (newCollectionInvoice api invoiceId raffleId
    (trim body.lightningAddress) ciphertext body.ticketCount now.nanos))
  collect api invoiceId pending

def getInvoice (id : Uuid) : Task Response := do
  let invoice ← query api (.publicInvoice ⟨id⟩)
  return .invoice invoice

/-! ## Webhooks -/

/-- The event in a body whose signature the provider's secret makes. -/
def webhookEvent (headers : HeaderMap) (body : List UInt8) : Except ApiError NewWebhookEvent := do
  ensure (body.length ≤ 64 * 1024) (.bad "webhook body exceeds the 64 KiB limit")
  let signature ← orElse (headers.text "x-mavapay-signature")
    (.forbidden "mavapay signature is required")
  let secret ← orElse api.mavapayWebhookSecret
    (.unavailable "mavapay webhook verification is not configured")
  ensure (verifyWebhookSignature api.prim.sha256 secret body signature = true)
    (.forbidden "mavapay signature is invalid")
  let payload ← orElse (api.fromSlice body) (.bad "webhook payload must be valid JSON")
  let normalized ← orElse (MavapayWebhook.fromValue api.parseUuid payload)
    (.bad "webhook event_id and invoice_id are required")
  ensure (trim normalized.eventId ≠ "") (.bad "webhook event_id is required")
  return ⟨"mavapay", normalized.eventId, ⟨normalized.invoiceId⟩, hash api body⟩

def receiveMavapayWebhook (headers : HeaderMap) (body : List UInt8) : Task Response := do
  let event ← Program.done (webhookEvent api headers body)
  let _ ← query api (.recordWebhookAndEnqueue event)
  return .accepted

/-! ## Public pages -/

def listRaffles : Task Response := do
  let raffles ← query api .listPublicRaffles
  return contractRaffles raffles

def getRaffle (id : Uuid) : Task Response := do
  let raffle ← query api (.publicRaffle ⟨id⟩)
  return match raffle.contract with
    | some raffle => .raffle raffle
    | none => .aborted

def getPool (id : Uuid) : Task Response := do
  let pool ← query api (.publicPool ⟨id⟩)
  return .pool pool

def listEntries (id : Uuid) (entryQuery : EntryQuery) : Task Response := do
  let page ← query api (.publicEntries ⟨id⟩ (entryQuery.cursor.getD 0)
    (PageLimit.clamp (entryQuery.limit.getD 50)).value)
  return .entries page

def verifyProof (id : Uuid) (document : ProofDocument) : Task Response := do
  if document.payload.raffleId.uuid ≠ id then
    Program.fail (.bad "proof raffle_id does not match the request path")
  return .verified (verify api.prim document)

def getProof (id : Uuid) : Task Response := do
  let document ← query api (.publicProof ⟨id⟩)
  return .proof document

def getProofMetadata (id : Uuid) : Task Response := do
  let metadata ← query api (.publicProofMetadata ⟨id⟩)
  return .proofMetadata metadata

def getResult (id : Uuid) : Task Response := do
  let status ← query api (.raffleStatus ⟨id⟩)
  let winningTicket ← query api (.drawnTicket ⟨id⟩)
  let statuses ← query api (.payoutStatuses ⟨id⟩)
  let available ← query api (.proofAvailable ⟨id⟩)
  return .result ⟨id, status, winningTicket, statuses, available⟩

def getRefund (id : Uuid) : Task Response := do
  let refund ← query api (.publicRefund id)
  return .refund refund

/-! ## Routes -/

/-- A request after its extractors. -/
inductive Call where
  | oidcLogin
  | oidcCallback (code state : String)
  | oidcLogout (headers : HeaderMap)
  | listRaffles
  | getRaffle (id : Uuid)
  | getPool (id : Uuid)
  | listEntries (id : Uuid) (entryQuery : EntryQuery)
  | getProof (id : Uuid)
  | getProofMetadata (id : Uuid)
  | getResult (id : Uuid)
  | getRefund (id : Uuid)
  | verifyProof (id : Uuid) (document : ProofDocument)
  | createInvoice (raffleId : Uuid) (body : InvoiceRequest)
  | getInvoice (id : Uuid)
  | receiveMavapayWebhook (headers : HeaderMap) (body : List UInt8)
  | createOrganizer (headers : HeaderMap) (body : OrganizerRequest)
  | listOrganizerRaffles (headers : HeaderMap)
  | createRaffle (headers : HeaderMap) (body : RaffleRequest)
  | updateRaffle (headers : HeaderMap) (id : Uuid) (body : RaffleRequest)
  | listOperatorJobs (headers : HeaderMap)
  | retryOperatorJob (headers : HeaderMap) (id : Uuid)
  | schedule (headers : HeaderMap) (id : Uuid)
  | openRaffle (headers : HeaderMap) (id : Uuid)
  | cancel (headers : HeaderMap) (id : Uuid)

def router : Call → Task Response
  | .oidcLogin => oidcLogin api
  | .oidcCallback code state => oidcCallback api code state
  | .oidcLogout headers => oidcLogout api headers
  | .listRaffles => listRaffles api
  | .getRaffle id => getRaffle api id
  | .getPool id => getPool api id
  | .listEntries id entryQuery => listEntries api id entryQuery
  | .getProof id => getProof api id
  | .getProofMetadata id => getProofMetadata api id
  | .getResult id => getResult api id
  | .getRefund id => getRefund api id
  | .verifyProof id document => verifyProof api id document
  | .createInvoice raffleId body => createInvoice api raffleId body
  | .getInvoice id => getInvoice api id
  | .receiveMavapayWebhook headers body => receiveMavapayWebhook api headers body
  | .createOrganizer headers body => createOrganizer api headers body
  | .listOrganizerRaffles headers => listOrganizerRaffles api headers
  | .createRaffle headers body => createRaffle api headers body
  | .updateRaffle headers id body => updateRaffle api headers id body
  | .listOperatorJobs headers => listOperatorJobs api headers
  | .retryOperatorJob headers id => retryOperatorJob api headers id
  | .schedule headers id => schedule api headers id
  | .openRaffle headers id => openRaffle api headers id
  | .cancel headers id => cancel api headers id

end Handlers

end OpenPool.Api
