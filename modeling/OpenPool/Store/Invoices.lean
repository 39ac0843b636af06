import OpenPool.Store.Raffles

/-! # Invoices, settlement and refunds -/

namespace OpenPool

open Fallible

structure NewInvoice where
  id : InvoiceId
  raffleId : RaffleId
  participantPublicId : Hash32
  paymentReferenceHash : Hash32
  amountSats : Sats
  ticketCount : UInt64
  deriving DecidableEq

structure NewCollectionInvoice where
  id : InvoiceId
  raffleId : RaffleId
  participantPublicId : Hash32
  paymentReferenceHash : Hash32
  payoutAddressCiphertext : List UInt8
  ticketCount : UInt64
  requestedAt : ℤ
  expiresAt : ℤ
  deriving DecidableEq

structure PendingCollectionInvoice where
  id : InvoiceId
  amountSats : Sats
  expiresAt : ℤ
  deriving DecidableEq

structure NewWebhookEvent where
  providerName : String
  providerEventId : String
  invoiceId : InvoiceId
  payloadHash : Hash32
  deriving DecidableEq

/-- `u64::checked_mul`. -/
def checkedMul (a b : UInt64) : Option UInt64 :=
  if a.toNat * b.toNat < 2 ^ 64 then some (a * b) else none

/-! ## Creating invoices -/

/-- The persistence seam of the tests: no check of the raffle's status, no payout address. -/
def createPendingInvoice (invoice : NewInvoice) (db : Database) :
    Except PersistenceError (Database × Unit) := do
  let amountSats ← asI64 invoice.amountSats.asU64
  let ticketCount ← asI64 invoice.ticketCount
  references (db.raffles.has (·.id = invoice.raffleId))
  let invoices ← sql (db.invoices.insert {
    id := invoice.id
    raffleId := invoice.raffleId
    participantPublicId := invoice.participantPublicId.val
    paymentReferenceHash := invoice.paymentReferenceHash.val
    amountSats, ticketCount })
  return ({ db with invoices }, ())

def createCollectionInvoice (invoice : NewCollectionInvoice) (db : Database) :
    Except PersistenceError (Database × PendingCollectionInvoice) := do
  let raffle ← orElse (db.raffles.find (·.id = invoice.raffleId)) (.notFound "raffle")
  ensure (raffle.status = .opened) .raffleNotOpen
  let endTime := ofTimestamp raffle.endTime
  ensure (invoice.requestedAt < endTime) .raffleClosed
  ensure (invoice.ticketCount ≠ 0) .invalidTicketCount
  let expiresAt := min invoice.expiresAt endTime
  let price ← asU64 raffle.entryPriceSats
  let amountSats ← orElse (checkedMul price invoice.ticketCount) .integerOverflow
  let amount ← asI64 amountSats
  let ticketCount ← asI64 invoice.ticketCount
  let invoices ← sql (db.invoices.insert {
    id := invoice.id
    raffleId := invoice.raffleId
    participantPublicId := invoice.participantPublicId.val
    paymentReferenceHash := invoice.paymentReferenceHash.val
    amountSats := amount
    ticketCount
    payoutAddressCiphertext := some invoice.payoutAddressCiphertext
    expiresAt := some (toTimestamp expiresAt) })
  return ({ db with invoices }, ⟨invoice.id, ⟨amountSats⟩, expiresAt⟩)

def storeCollectionInvoice (invoiceId : InvoiceId)
    (providerQuoteId providerPaymentHash bolt11 : String) (expiresAt : ℤ) (db : Database) :
    Except PersistenceError (Database × Unit) := do
  let (invoices, returned) ← sql (db.invoices.update
    (fun row => row.id = invoiceId ∧ row.status = .pending ∧ row.bolt11 = none)
    fun row => { row with
      providerQuoteId := some providerQuoteId
      providerPaymentHash := some providerPaymentHash
      bolt11 := some bolt11
      expiresAt := some (toTimestamp expiresAt) })
  ensure (returned.length = 1) .invoiceNotEligible
  return ({ db with invoices }, ())

def InvoiceRow.withStatus (status : InvoiceStatus) (row : InvoiceRow) : InvoiceRow :=
  { row with status }

def failCollectionInvoice (invoiceId : InvoiceId) (db : Database) :
    Except PersistenceError (Database × Unit) := do
  let invoices ← execute
    (fun row => row.id = invoiceId ∧ row.status = .pending ∧ row.bolt11 = none)
    (InvoiceRow.withStatus .collectionFailed) db.invoices
  return ({ db with invoices }, ())

/-- A provider-confirmed failed or expired collection can no longer become an entry. -/
def markCollectionUncollectible (invoiceId : InvoiceId) (db : Database) :
    Except PersistenceError (Database × Unit) := do
  let invoices ← execute (fun row => row.id = invoiceId ∧ row.status = .pending)
    (InvoiceRow.withStatus .collectionFailed) db.invoices
  return ({ db with invoices }, ())

def collectionPaymentReference (invoiceId : InvoiceId) (db : Database) :
    Except PersistenceError (Option String) := do
  let row ← orElse (db.invoices.find (·.id = invoiceId)) (.notFound "invoice")
  return if row.status ≠ .pending then none else row.providerPaymentHash

def pendingInvoices (raffleId : RaffleId) (db : Database) : ℕ :=
  db.invoices.count fun row => row.raffleId = raffleId ∧ row.status = .pending

/-! ## Webhooks -/

def recordWebhookAndEnqueue (event : NewWebhookEvent) (eventRowId jobId : Uuid) (now : ℤ)
    (db : Database) : Except PersistenceError (Database × Bool) := do
  let (webhookEvents, inserted) ← sql (db.webhookEvents.insertOrIgnore
    (fun row => row.providerName = event.providerName ∧
      row.providerEventId = event.providerEventId)
    ⟨eventRowId, event.providerName, event.providerEventId, event.payloadHash.val⟩)
  let db ← applyIf (inserted = true)
    (insertJob jobId .paymentReconcile s!"{event.providerName}:{event.providerEventId}"
      (.event event.providerName event.providerEventId event.invoiceId) now)
    { db with webhookEvents }
  return (db, inserted)

/-! ## Settlement -/

section Settlement

variable (sha256 : List UInt8 → Hash32)

/-- The entry an invoice becomes when its raffle has `entryIndex` entries. -/
def entryFor (invoice : InvoiceRow) (raffle : RaffleRow) (entryIndex : ℕ) (entryId : EntryId)
    (settledAt : ℤ) : Except PersistenceError LedgerEntry := do
  let ticketStart ← asU64 raffle.totalTickets
  let ticketCount ← asU64 invoice.ticketCount
  let ticketEnd ← orElse (checkedAdd ticketStart ticketCount) .integerOverflow
  let previousHash ← raffle.chainHead
  let entryIndex ← asU64 entryIndex
  let participantPublicId ← hashFromBytes invoice.participantPublicId
  let paymentReferenceHash ← hashFromBytes invoice.paymentReferenceHash
  let amountSats ← asU64 invoice.amountSats
  let ticketRange ← (TicketRange.new ticketStart ticketEnd).mapError .domain
  return .create sha256 {
    raffleId := invoice.raffleId
    entryId, entryIndex, participantPublicId, paymentReferenceHash
    amountSats := ⟨amountSats⟩
    ticketRange
    settledAtUnixMs := unixMs settledAt } previousHash

/-- The row inserted for an entry. -/
def entryRowFor (invoiceId : InvoiceId) (settledAt : ℤ) (entry : LedgerEntry) :
    Except PersistenceError EntryRow := do
  let entryIndex ← asI64 entry.data.entryIndex
  let amountSats ← asI64 entry.data.amountSats.asU64
  let ticketStart ← asI64 entry.data.ticketRange.start
  let ticketEnd ← asI64 entry.data.ticketRange.stop
  return {
    id := entry.data.entryId
    raffleId := entry.data.raffleId
    invoiceId, entryIndex
    participantPublicId := entry.data.participantPublicId.val
    paymentReferenceHash := entry.data.paymentReferenceHash.val
    amountSats, ticketStart, ticketEnd
    settledAt := toTimestamp settledAt
    previousEntryHash := entry.previousEntryHash.val
    entryHash := entry.entryHash.val }

/-- The branch for an invoice that is already settled. -/
def settledEntry (invoiceId : InvoiceId) (db : Database) : Except PersistenceError LedgerEntry := do
  let row ← fetchOne (db.entries.find (·.invoiceId = invoiceId))
  ledgerEntryFromRow row

/-- The branch for an invoice that is not settled yet. -/
def appendEntry (invoice : InvoiceRow) (entryId : EntryId) (settledAt : ℤ) (db : Database) :
    Except PersistenceError (Database × LedgerEntry) := do
  ensure (invoice.status = .pending) .invoiceNotEligible
  let raffle ← orElse (db.raffles.find (·.id = invoice.raffleId)) (.notFound "raffle")
  ensure (raffle.status = .opened) .raffleNotOpen
  let entryIndex := db.entries.count (·.raffleId = invoice.raffleId)
  let entry ← entryFor sha256 invoice raffle entryIndex entryId settledAt
  let row ← entryRowFor invoice.id settledAt entry
  let entries ← sql (db.entries.insert row)
  let pool ← asU64 raffle.totalPoolSats
  let newPool ← orElse (checkedAdd pool entry.data.amountSats.asU64) .integerOverflow
  let invoices ← execute (fun row => row.id = invoice.id) (InvoiceRow.withStatus .settled)
    db.invoices
  let totalPoolSats ← asI64 newPool
  let totalTickets ← asI64 entry.data.ticketRange.stop
  let raffles ← execute (fun row => row.id = invoice.raffleId)
    (fun row => { row with
      totalPoolSats
      totalTickets
      entryChainHead := some entry.entryHash.val }) db.raffles
  return ({ db with entries, invoices, raffles }, entry)

/-- Locks the invoice and raffle, then makes settlement-to-entry idempotent and atomic. -/
def settleInvoiceAndAppendEntry (invoiceId : InvoiceId) (entryId : EntryId) (settledAt : ℤ)
    (db : Database) : Except PersistenceError (Database × LedgerEntry) := do
  let invoice ← orElse (db.invoices.find (·.id = invoiceId)) (.notFound "invoice")
  if invoice.status = .settled then (settledEntry invoiceId db).map fun entry => (db, entry)
  else appendEntry sha256 invoice entryId settledAt db

end Settlement

/-! ## Refunds -/

/-- Records refund eligibility without touching the immutable entry ledger. -/
def createRefundEligibility (raffleId : RaffleId) (invoiceId : InvoiceId) (reason : RefundReason)
    (id : Uuid) (db : Database) : Except PersistenceError (Database × Uuid) := do
  references (db.raffles.has (·.id = raffleId))
  references (db.invoices.has (·.id = invoiceId))
  let (refunds, _) ← sql (db.refunds.insertOrIgnore
    (fun row => row.invoiceId = invoiceId ∧ row.reason = reason) ⟨id, raffleId, invoiceId, reason⟩)
  let refund ← fetchOne (refunds.find fun row => row.invoiceId = invoiceId ∧ row.reason = reason)
  return ({ db with refunds }, refund.id)

/-- Converts a post-cutoff settled invoice into an idempotent refund obligation. -/
def markLateSettlementForRefund (invoiceId : InvoiceId) (refundId : Uuid) (db : Database) :
    Except PersistenceError (Database × Uuid) := do
  let invoice ← orElse (db.invoices.find (·.id = invoiceId)) (.notFound "invoice")
  let invoices ← applyIf (invoice.status = .pending)
    (execute (fun row => row.id = invoiceId) (InvoiceRow.withStatus .ineligible)) db.invoices
  let (refunds, _) ← sql (db.refunds.insertOrIgnore
    (fun row => row.invoiceId = invoiceId ∧ row.reason = .lateSettlement)
    ⟨refundId, invoice.raffleId, invoiceId, .lateSettlement⟩)
  let refund ← fetchOne
    (refunds.find fun row => row.invoiceId = invoiceId ∧ row.reason = .lateSettlement)
  return ({ db with invoices, refunds }, refund.id)

end OpenPool
