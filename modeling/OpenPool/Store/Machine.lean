import OpenPool.Library.StateMachine
import OpenPool.Store.Payouts

/-! # The store as a state machine

Every operation is one atomic transaction, except `settle_payout`, whose statements are
separate steps. An operation that fails, and a statement that waits for a lock, leave the
store as it is. A claim skips locked rows: those of open `settle_payout` transactions, and those
that other statements in flight, which may still roll back, have locked. -/

namespace OpenPool

open Fallible

/-- An instant from 2000-01-01 UTC on, as a clock returns it. -/
structure Instant where
  nanos : ℤ
  afterEpoch : postgresEpoch ≤ nanos
  deriving DecidableEq

/-- One transaction, or one statement of a `settle_payout` transaction. -/
inductive Op where
  | createOrganizer (organizer : NewOrganizer)
  | createDraftRaffle (raffle : NewDraftRaffle)
  | transitionRaffle (organizerId : OrganizerId) (raffleId : RaffleId)
      (status : Option RaffleStatus)
  | updateRaffle (organizerId : OrganizerId) (raffle : NewDraftRaffle)
  | createPendingInvoice (invoice : NewInvoice)
  | createCollectionInvoice (invoice : NewCollectionInvoice)
  | storeCollectionInvoice (invoiceId : InvoiceId)
      (providerQuoteId providerPaymentHash bolt11 : String) (expiresAt : ℤ)
  | failCollectionInvoice (invoiceId : InvoiceId)
  | markCollectionUncollectible (invoiceId : InvoiceId)
  | recordWebhookAndEnqueue (event : NewWebhookEvent) (eventRowId jobId : Uuid) (now : ℤ)
  | settleInvoice (invoiceId : InvoiceId) (entryId : EntryId) (settledAt : Instant)
  | createRefundEligibility (raffleId : RaffleId) (invoiceId : InvoiceId)
      (reason : RefundReason) (id : Uuid)
  | markLateSettlementForRefund (invoiceId : InvoiceId) (refundId : Uuid)
  | scheduleDueCloses (jobIds : RaffleId → Uuid) (now : ℤ)
  | freezeRaffle (raffleId : RaffleId) (jobId : Uuid) (now : ℤ)
  | recordCanonicalBlock (height : UInt64) (blockHash previousHash : Hash32) (blockTime : ℤ)
  | createDrawAndPayouts (raffleId : RaffleId) (closeHeight : UInt64) (closeHash : Hash32)
      (randomnessHeight : UInt64) (randomnessHash : Hash32) (ids : DrawIds) (now : ℤ)
  | generateTerminalProof (raffleId : RaffleId) (proofId : Uuid)
  | recordProofPublication (raffleId : RaffleId) (storageUri versionId etag : String) (now : ℤ)
  | claimPayout (raffleId : RaffleId) (workerId : String) (now : ℤ) (locked : List Uuid) (choice : ℕ)
  | failPayout (payoutId : Uuid) (workerId reason : String)
  | beginSettle (payoutId : Uuid) (workerId providerReference : String)
  | countUnsettled (payoutId : Uuid)
  | markPaidOut (payoutId : Uuid)
  | enqueueProof (payoutId jobId : Uuid) (now : ℤ)
  | commitSettle (payoutId : Uuid)
  | rollbackSettle (payoutId : Uuid)
  | claimJob (workerId : String) (leaseSeconds now : ℤ) (locked : List Uuid) (choice : ℕ)
  | succeedJob (jobId : Uuid) (workerId : String)
  | failOrRetryJob (job : ClaimedJob) (workerId : String) (retryAfterSeconds : ℤ)
      (error : String) (now : ℤ)
  | retryDeadJob (id : Uuid) (now : ℤ)

/-- The committed database and the open `settle_payout` transactions. -/
structure Store where
  db : Database
  settling : List SettleTransaction

def Store.empty : Store := ⟨.empty, []⟩

/-- The payout rows that open transactions have locked. -/
def Store.locked (store : Store) : List Uuid := store.settling.map SettleTransaction.payoutId

/-- Run an atomic operation on the committed database. -/
def Store.exec {ε α : Type} (store : Store)
    (operation : Database → Except ε (Database × α)) : Store :=
  { store with db := commit store.db (operation store.db) }

def Store.transaction (store : Store) (payoutId : Uuid) : Option SettleTransaction :=
  store.settling.find? fun transaction => transaction.payoutId = payoutId

/-- The transaction runs its next statement, where it is that statement's turn. -/
def Store.advance (store : Store) (payoutId : Uuid)
    (next : SettleTransaction → Option SettleStage) : Store :=
  { store with
    settling := store.settling.map fun transaction =>
      if transaction.payoutId = payoutId then
        { transaction with stage := (next transaction).getD transaction.stage }
      else transaction }

/-- The transaction ends and releases its lock. -/
def Store.close (store : Store) (payoutId : Uuid) : Store :=
  { store with
    settling := store.settling.filter fun transaction => transaction.payoutId ≠ payoutId }

def Store.beginSettle (store : Store) (payoutId : Uuid) (workerId providerReference : String) :
    Store :=
  if payoutId ∈ store.locked then store
  else match OpenPool.beginSettle payoutId workerId providerReference store.db with
    | .ok transaction => { store with settling := store.settling ++ [transaction] }
    | .error _ => store

/-- The transaction commits after its last statement. -/
def Store.commitSettle (store : Store) (payoutId : Uuid) : Store :=
  match store.transaction payoutId with
  | some transaction =>
      if transaction.stage.done then (store.exec transaction.commit).close payoutId else store
  | none => store

section Step

variable (prim : Primitives)

def Store.step (store : Store) : Op → Store
  | .createOrganizer organizer => store.exec (createOrganizer organizer)
  | .createDraftRaffle raffle => store.exec (createDraftRaffle raffle)
  | .transitionRaffle organizerId raffleId status =>
      store.exec (transitionRaffle organizerId raffleId status)
  | .updateRaffle organizerId raffle => store.exec (updateRaffle organizerId raffle)
  | .createPendingInvoice invoice => store.exec (createPendingInvoice invoice)
  | .createCollectionInvoice invoice => store.exec (createCollectionInvoice invoice)
  | .storeCollectionInvoice invoiceId quoteId paymentHash bolt11 expiresAt =>
      store.exec (storeCollectionInvoice invoiceId quoteId paymentHash bolt11 expiresAt)
  | .failCollectionInvoice invoiceId => store.exec (failCollectionInvoice invoiceId)
  | .markCollectionUncollectible invoiceId => store.exec (markCollectionUncollectible invoiceId)
  | .recordWebhookAndEnqueue event eventRowId jobId now =>
      store.exec (recordWebhookAndEnqueue event eventRowId jobId now)
  | .settleInvoice invoiceId entryId settledAt =>
      store.exec (settleInvoiceAndAppendEntry prim.sha256 invoiceId entryId settledAt.nanos)
  | .createRefundEligibility raffleId invoiceId reason id =>
      store.exec (createRefundEligibility raffleId invoiceId reason id)
  | .markLateSettlementForRefund invoiceId refundId =>
      store.exec (markLateSettlementForRefund invoiceId refundId)
  | .scheduleDueCloses jobIds now => store.exec (scheduleDueCloses jobIds now)
  | .freezeRaffle raffleId jobId now => store.exec (freezeRaffle prim.sha256 raffleId jobId now)
  | .recordCanonicalBlock height blockHash previousHash blockTime =>
      store.exec (recordCanonicalBlock height blockHash previousHash blockTime)
  | .createDrawAndPayouts raffleId closeHeight closeHash randomnessHeight randomnessHash ids now =>
      store.exec (createDrawAndPayouts prim raffleId closeHeight closeHash randomnessHeight
        randomnessHash ids now)
  | .generateTerminalProof raffleId proofId =>
      store.exec (generateTerminalProof prim raffleId proofId)
  | .recordProofPublication raffleId storageUri versionId etag now =>
      store.exec (recordProofPublication raffleId storageUri versionId etag now)
  | .claimPayout raffleId workerId now locked choice =>
      store.exec (claimPayout raffleId workerId now choice (store.locked ++ locked))
  | .failPayout payoutId workerId reason =>
      if payoutId ∈ store.locked then store else store.exec (failPayout payoutId workerId reason)
  | .beginSettle payoutId workerId providerReference =>
      store.beginSettle payoutId workerId providerReference
  | .countUnsettled payoutId =>
      store.advance payoutId fun transaction => transaction.countUnsettled store.db
  | .markPaidOut payoutId => store.advance payoutId SettleTransaction.markPaidOut
  | .enqueueProof payoutId jobId now =>
      store.advance payoutId (SettleTransaction.enqueueProof jobId now)
  | .commitSettle payoutId => store.commitSettle payoutId
  | .rollbackSettle payoutId => store.close payoutId
  | .claimJob workerId leaseSeconds now locked choice =>
      store.exec (claimJob workerId leaseSeconds now locked choice)
  | .succeedJob jobId workerId => store.exec (succeedJob jobId workerId)
  | .failOrRetryJob job workerId retryAfterSeconds error now =>
      store.exec (failOrRetryJob job workerId retryAfterSeconds error now)
  | .retryDeadJob id now => store.exec (retryDeadJob id now)

/-- The store after a list of operations, from the empty database. -/
def Store.after (operations : List Op) : Store :=
  StateMachine.run (Store.step prim) .empty operations

end Step

end OpenPool
