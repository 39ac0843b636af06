import OpenPool.Library.Process
import OpenPool.Api.AddressCipher
import OpenPool.Api.Logins
import OpenPool.Api.Webhook
import OpenPool.Store.Machine
import OpenPool.Store.PublicReads

/-! # What a handler asks for

The handler of an HTTP request runs as a program. Each of its requests is one statement of the
database, one call of a service outside, or a reading of the clock or of a source of random
bytes. -/

namespace OpenPool.Api

/-! ## Services outside -/

structure AuthorizationStart where
  authorizationUrl : String
  state : String
  nonce : String
  pkceVerifier : String
  deriving DecidableEq

structure AuthenticatedIdentity where
  subject : String
  roles : List String
  deriving DecidableEq

structure CollectionRequest where
  invoiceId : InvoiceId
  amountSats : Sats
  expiresAt : ℤ
  deriving DecidableEq

structure CollectionInvoice where
  providerQuoteId : String
  providerPaymentHash : String
  bolt11 : String
  amountSats : Sats
  expiresAt : ℤ
  deriving DecidableEq

/-- A call of the identity provider or the payment provider. -/
inductive Question where
  | beginAuthorization
  | exchangeCode (code verifier nonce : String)
  | createCollection (request : CollectionRequest)

@[reducible] def Question.Value : Question → Type
  | beginAuthorization => AuthorizationStart
  | exchangeCode .. => AuthenticatedIdentity
  | createCollection _ => CollectionInvoice

/-- `OffsetDateTime::now_utc`, `Uuid::new_v4` and `OsRng`. -/
inductive Source where
  | now
  | uuid
  | nonce

@[reducible] def Source.Value : Source → Type
  | now => Instant
  | uuid => Uuid
  | nonce => AeadNonce

/-! ## The database -/

inductive Statement where
  | createOidcLoginAttempt (attempt : NewOidcLoginAttempt)
  | consumeOidcLoginAttempt (state : String)
  | createOidcSession (session : NewOidcSession)
  | oidcSession (id : Uuid)
  | deleteOidcSession (id : Uuid)
  | createOrganizer (organizer : NewOrganizer)
  | organizerExists (organizerId : OrganizerId)
  | createDraftRaffle (raffle : NewDraftRaffle)
  | updateRaffle (organizerId : OrganizerId) (raffle : NewDraftRaffle)
  | transitionRaffle (organizerId : OrganizerId) (raffleId : RaffleId)
      (status : Option RaffleStatus)
  | createCollectionInvoice (invoice : NewCollectionInvoice)
  | storeCollectionInvoice (invoiceId : InvoiceId)
      (providerQuoteId providerPaymentHash bolt11 : String) (expiresAt : ℤ)
  | failCollectionInvoice (invoiceId : InvoiceId)
  | recordWebhookAndEnqueue (event : NewWebhookEvent)
  | retryDeadJob (id : Uuid)
  | listPublicRaffles
  | organizerRaffles (organizerId : OrganizerId)
  | publicRaffle (raffleId : RaffleId)
  | publicPool (raffleId : RaffleId)
  | publicEntries (raffleId : RaffleId) (cursor : UInt64) (limit : UInt32)
  | publicInvoice (invoiceId : InvoiceId)
  | raffleStatus (raffleId : RaffleId)
  | drawnTicket (raffleId : RaffleId)
  | payoutStatuses (raffleId : RaffleId)
  | proofAvailable (raffleId : RaffleId)
  | publicProof (raffleId : RaffleId)
  | publicProofMetadata (raffleId : RaffleId)
  | publicRefund (refundId : Uuid)
  | operatorJobs

@[reducible] def Statement.Value : Statement → Type
  | consumeOidcLoginAttempt _ => Option OidcLoginAttempt
  | oidcSession _ => Option OidcSession
  | organizerExists _ => Bool
  | createCollectionInvoice _ => PendingCollectionInvoice
  | recordWebhookAndEnqueue _ => Bool
  | retryDeadJob _ => Bool
  | listPublicRaffles => List PublicRaffle
  | organizerRaffles _ => List PublicRaffle
  | publicRaffle _ => PublicRaffle
  | publicPool _ => PublicPool
  | publicEntries .. => EntryPage
  | publicInvoice _ => PublicInvoice
  | raffleStatus _ => RaffleStatus
  | drawnTicket _ => Option UInt64
  | payoutStatuses _ => List PayoutStatus
  | proofAvailable _ => Bool
  | publicProof _ => ProofDocument
  | publicProofMetadata _ => PublicProofMetadata
  | publicRefund _ => PublicRefund
  | operatorJobs => List OperatorJob
  | createOidcLoginAttempt _ | createOidcSession _ | deleteOidcSession _ | createOrganizer _
  | createDraftRaffle _ | updateRaffle .. | transitionRaffle .. | storeCollectionInvoice ..
  | failCollectionInvoice _ => Unit

inductive Request where
  | query (statement : Statement)
  | ask (question : Question)
  | draw (source : Source)

/-- An error of a service outside is its text; a clock has none. -/
@[reducible] def Request.Answer : Request → Type
  | query statement => Except PersistenceError statement.Value
  | ask question => Except String question.Value
  | draw source => source.Value

abbrev Task := Program Request Request.Answer ApiError

/-! ## The configuration -/

/-- The state of the router; the texts and times of other crates are parameters. -/
structure ApiState where
  prim : Primitives
  describe : SqlxError → String
  addressCipher : AddressCipher
  mavapayWebhookSecret : Option (List UInt8)
  developmentIdentityEnabled : Bool
  /-- An OIDC adapter is configured. -/
  oidc : Bool
  secureSessionCookie : Bool
  /-- `Uuid::parse_str`. -/
  parseUuid : String → Option Uuid
  /-- `OffsetDateTime::parse` with `Rfc3339`. -/
  parseRfc3339 : String → Option ℤ
  /-- `serde_json::from_slice`. -/
  fromSlice : List UInt8 → Option JsonValue

end OpenPool.Api
