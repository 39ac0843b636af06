import OpenPool.Library.Process
import OpenPool.Store.Payouts

/-! # What a worker asks for

A job runs as a program. Each of its requests is one transaction of the database, one statement
of a `settle_payout` transaction, or one call of a service outside. -/

namespace OpenPool

/-! ## Services outside -/

structure PayoutId where
  uuid : Uuid
  deriving DecidableEq

inductive PaymentState where
  | pending
  | settled
  | failed
  | expired
  deriving DecidableEq

structure PayoutRequest where
  payoutId : PayoutId
  bolt11 : String
  amountSats : Sats
  idempotencyKey : String
  deriving DecidableEq

structure PayoutAttempt where
  providerReference : String
  deriving DecidableEq

structure ResolvedInvoice where
  bolt11 : String
  amountSats : Sats
  deriving DecidableEq

structure Block where
  height : UInt64
  hash : Hash32
  previousHash : Hash32
  time : ℤ
  deriving DecidableEq

structure PublishedProof where
  uri : String
  versionId : String
  etag : String
  deriving DecidableEq

/-- A call of the Bitcoin source, the proof store, the resolver or the payment provider. -/
inductive Question where
  | tipHeight
  | blockAt (height : UInt64)
  | publishImmutable (proofHash : String) (canonicalJson : List UInt8)
  | resolveExactAmount (address : String) (amountSats : Sats)
  | payInvoice (request : PayoutRequest)
  | getPayment (reference : String)

@[reducible] def Question.Value : Question → Type
  | tipHeight => UInt64
  | blockAt _ => Block
  | publishImmutable _ _ => PublishedProof
  | resolveExactAmount _ _ => ResolvedInvoice
  | payInvoice _ => PayoutAttempt
  | getPayment _ => PaymentState

/-! ## The database -/

inductive Statement where
  | frozenDrawContext (raffleId : RaffleId)
  | recordCanonicalBlock (block : Block)
  | canonicalBlockMatches (height : UInt64) (blockHash : Hash32)
  | createDrawAndPayouts (raffleId : RaffleId) (close randomness : Block)
  | generateTerminalProof (raffleId : RaffleId)
  | recordProofPublication (raffleId : RaffleId) (publication : PublishedProof)
  | claimPayout (raffleId : RaffleId)
  | payoutRecipientCiphertext (payout : ClaimedPayout)
  | failPayout (payoutId : Uuid) (reason : String)
  | beginSettle (payoutId : Uuid) (providerReference : String)
  | countUnsettled (payoutId : Uuid)
  | markPaidOut (payoutId : Uuid)
  | enqueueProof (payoutId : Uuid)
  | commitSettle (payoutId : Uuid)
  | pendingInvoices (raffleId : RaffleId)
  | freezeRaffle (raffleId : RaffleId)
  | collectionPaymentReference (invoiceId : InvoiceId)
  | settleInvoice (invoiceId : InvoiceId)
  | markLateSettlementForRefund (invoiceId : InvoiceId)
  | markCollectionUncollectible (invoiceId : InvoiceId)

@[reducible] def Statement.Value : Statement → Type
  | frozenDrawContext _ => FrozenDrawContext
  | canonicalBlockMatches _ _ => Bool
  | createDrawAndPayouts _ _ _ => DrawResult
  | generateTerminalProof _ => ProofDocument
  | claimPayout _ => Option ClaimedPayout
  | payoutRecipientCiphertext _ => Option (List UInt8)
  | countUnsettled _ => ℕ
  | pendingInvoices _ => ℕ
  | freezeRaffle _ => Hash32
  | collectionPaymentReference _ => Option String
  | settleInvoice _ => LedgerEntry
  | markLateSettlementForRefund _ => Uuid
  | recordCanonicalBlock _ | recordProofPublication _ _ | failPayout _ _ | beginSettle _ _
  | markPaidOut _ | enqueueProof _ | commitSettle _ | markCollectionUncollectible _ => Unit

inductive Request where
  | query (statement : Statement)
  | ask (question : Question)

/-- An error of a service outside is its text. -/
@[reducible] def Request.Answer : Request → Type
  | query statement => Except PersistenceError statement.Value
  | ask question => Except String question.Value

abbrev Task := Program Request Request.Answer String

/-! ## The configuration of a worker -/

structure Services where
  prim : Primitives
  describe : SqlxError → String
  hasBitcoin : Bool
  hasResolver : Bool
  hasProofStore : Bool
  platformAddress : Option String
  decrypt : List UInt8 → Except String String
  toVec : ProofDocument → Except String (List UInt8)

/-- `JobStore::claim` of `run_jobs`. -/
def jobLeaseSeconds : ℤ := 60

/-- `JobStore::fail_or_retry` of `run_jobs`. -/
def retryAfterSeconds : ℤ := 15

end OpenPool
