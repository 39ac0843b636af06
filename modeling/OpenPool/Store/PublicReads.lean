import OpenPool.Store.Payouts
import OpenPool.Store.PublicEntries

/-! # What the public reads

The queries behind the public pages. The structures of the stable contract are in their own
namespace. -/

namespace OpenPool

open Fallible

/-! ## Raffles -/

structure PublicRaffle where
  id : RaffleId
  name : String
  entryPriceSats : Sats
  startTime : ℤ
  endTime : ℤ
  status : RaffleStatus
  totalPoolSats : Sats
  totalTickets : UInt64
  winnerBps : ℤ
  organizerBps : ℤ
  platformBps : ℤ
  deriving DecidableEq

structure Contract.PublicRaffle where
  id : Uuid
  name : String
  entryPriceSats : UInt64
  startTime : ℤ
  endTime : ℤ
  status : RaffleStatus
  totalPoolSats : UInt64
  totalTickets : UInt64
  winnerBps : UInt16
  organizerBps : UInt16
  platformBps : UInt16
  deriving DecidableEq

/-- `u16::try_from` on an `INTEGER`. -/
def u16TryFrom (value : ℤ) : Option UInt16 :=
  if 0 ≤ value ∧ value < 2 ^ 16 then some (UInt16.ofNat value.toNat) else none

/-- The conversion for the contract; `none` where an `expect` panics. -/
def PublicRaffle.contract (value : PublicRaffle) : Option Contract.PublicRaffle := do
  let winnerBps ← u16TryFrom value.winnerBps
  let organizerBps ← u16TryFrom value.organizerBps
  let platformBps ← u16TryFrom value.platformBps
  return {
    id := value.id.uuid
    name := value.name
    entryPriceSats := value.entryPriceSats.asU64
    startTime := value.startTime
    endTime := value.endTime
    status := value.status
    totalPoolSats := value.totalPoolSats.asU64
    totalTickets := value.totalTickets
    winnerBps, organizerBps, platformBps }

/-- `raffles JOIN payout_splits ON payout_splits.raffle_id = raffles.id`. -/
def Database.offers (db : Database) : List (RaffleRow × PayoutSplitRow) :=
  db.raffles.rows.flatMap fun raffle =>
    (db.payoutSplits.select (·.raffleId = raffle.id)).map fun split => (raffle, split)

def publicRaffleFromRow (row : RaffleRow × PayoutSplitRow) :
    Except PersistenceError PublicRaffle := do
  let entryPriceSats ← asU64 row.1.entryPriceSats
  let totalPoolSats ← asU64 row.1.totalPoolSats
  let totalTickets ← asU64 row.1.totalTickets
  return {
    id := row.1.id
    name := row.1.name
    entryPriceSats := ⟨entryPriceSats⟩
    startTime := ofTimestamp row.1.startTime
    endTime := ofTimestamp row.1.endTime
    status := row.1.status
    totalPoolSats := ⟨totalPoolSats⟩
    totalTickets
    winnerBps := row.2.winnerBps
    organizerBps := row.2.organizerBps
    platformBps := row.2.platformBps }

section Order

variable (createdAt : RaffleId → ℤ)

/-- `ORDER BY created_at DESC`, for the column that no other query reads. -/
def newestFirst (rows : List (RaffleRow × PayoutSplitRow)) : List (RaffleRow × PayoutSplitRow) :=
  rows.insertionSort fun a b => createdAt b.1.id ≤ createdAt a.1.id

def listPublicRaffles (db : Database) : Except PersistenceError (List PublicRaffle) :=
  (newestFirst createdAt db.offers).mapM publicRaffleFromRow

def organizerRaffles (organizerId : OrganizerId) (db : Database) :
    Except PersistenceError (List PublicRaffle) :=
  (newestFirst createdAt (db.offers.filter fun row => row.1.organizerId = organizerId)).mapM
    publicRaffleFromRow

end Order

def publicRaffle (raffleId : RaffleId) (db : Database) : Except PersistenceError PublicRaffle := do
  let row ← orElse (db.offers.find? fun row => row.1.id = raffleId) (.notFound "raffle")
  publicRaffleFromRow row

structure PublicPool where
  raffleId : Uuid
  totalPoolSats : UInt64
  totalTickets : UInt64
  entryChainHead : Option String
  deriving DecidableEq

def publicPool (raffleId : RaffleId) (db : Database) : Except PersistenceError PublicPool := do
  let row ← orElse (db.raffles.find (·.id = raffleId)) (.notFound "raffle")
  let totalPoolSats ← asU64 row.totalPoolSats
  let totalTickets ← asU64 row.totalTickets
  return {
    raffleId := raffleId.uuid
    totalPoolSats, totalTickets
    entryChainHead := row.entryChainHead.map hexEncode }

/-! ## Invoices -/

structure PublicInvoice where
  id : InvoiceId
  amountSats : Sats
  ticketCount : UInt64
  status : InvoiceStatus
  bolt11 : Option String
  expiresAt : Option ℤ
  ticketStart : Option UInt64
  ticketEnd : Option UInt64
  deriving DecidableEq

/-- `invoices LEFT JOIN entries`: an invoice has at most one entry. -/
def publicInvoice (invoiceId : InvoiceId) (db : Database) :
    Except PersistenceError PublicInvoice := do
  let row ← orElse (db.invoices.find (·.id = invoiceId)) (.notFound "invoice")
  let entry := db.entries.find (·.invoiceId = row.id)
  let amountSats ← asU64 row.amountSats
  let ticketCount ← asU64 row.ticketCount
  let ticketStart ← (entry.map EntryRow.ticketStart).mapM asU64
  let ticketEnd ← (entry.map EntryRow.ticketEnd).mapM asU64
  return {
    id := row.id
    amountSats := ⟨amountSats⟩
    ticketCount
    status := row.status
    bolt11 := row.bolt11
    expiresAt := row.expiresAt.map ofTimestamp
    ticketStart, ticketEnd }

/-! ## Results -/

structure PublicResult where
  raffleId : Uuid
  status : RaffleStatus
  winningTicket : Option UInt64
  payoutStatuses : List PayoutStatus
  proofAvailable : Bool
  deriving DecidableEq

def raffleStatus (raffleId : RaffleId) (db : Database) : Except PersistenceError RaffleStatus := do
  let row ← orElse (db.raffles.find (·.id = raffleId)) (.notFound "raffle")
  return row.status

def drawnTicket (raffleId : RaffleId) (db : Database) : Except PersistenceError (Option UInt64) :=
  ((db.draws.find (·.raffleId = raffleId)).map DrawRow.winningTicket).mapM asU64

/-- `ORDER BY recipient_type`, on the texts of the recipients. -/
def payoutStatuses (raffleId : RaffleId) (db : Database) : List PayoutStatus :=
  ((db.payouts.select (·.raffleId = raffleId)).insertionSort fun a b =>
    a.recipientType.text ≤ b.recipientType.text).map PayoutRow.status

def proofAvailable (raffleId : RaffleId) (db : Database) : Bool :=
  db.proofs.has fun row => row.raffleId = raffleId ∧ row.protocolVersion = protocolVersion

/-- Four queries without a transaction: each one sees what is committed when it runs. -/
def publicResult (raffleId : RaffleId) (first second third fourth : Database) :
    Except PersistenceError PublicResult := do
  let status ← raffleStatus raffleId first
  let winningTicket ← drawnTicket raffleId second
  return {
    raffleId := raffleId.uuid
    status, winningTicket
    payoutStatuses := payoutStatuses raffleId third
    proofAvailable := proofAvailable raffleId fourth }

/-! ## Proofs and refunds -/

/-- The query for the one row that is published. -/
def findProof (raffleId : RaffleId) (db : Database) : Except PersistenceError ProofRow :=
  orElse (db.proofs.find fun row => row.raffleId = raffleId ∧ row.protocolVersion = protocolVersion)
    (.notFound "proof")

def publicProof (raffleId : RaffleId) (db : Database) : Except PersistenceError ProofDocument := do
  let row ← findProof raffleId db
  return row.proofJson

structure PublicProofMetadata where
  raffleId : Uuid
  proofHash : String
  storageUri : Option String
  storageVersionId : Option String
  storageEtag : Option String
  publishedAt : Option ℤ
  deriving DecidableEq

def publicProofMetadata (raffleId : RaffleId) (db : Database) :
    Except PersistenceError PublicProofMetadata := do
  let row ← findProof raffleId db
  let proofHash ← hashFromBytes row.proofHash
  return {
    raffleId := raffleId.uuid
    proofHash := hexEncode proofHash.val
    storageUri := row.storageUri
    storageVersionId := row.storageVersionId
    storageEtag := row.storageEtag
    publishedAt := row.publishedAt.map ofTimestamp }

/-- No statement changes the status of a refund from its default. -/
inductive RefundStatus where
  | awaitingInvoice
  deriving DecidableEq

structure PublicRefund where
  id : Uuid
  status : RefundStatus
  reason : RefundReason
  deriving DecidableEq

def publicRefund (refundId : Uuid) (db : Database) : Except PersistenceError PublicRefund := do
  let row ← orElse (db.refunds.find (·.id = refundId)) (.notFound "refund")
  return ⟨row.id, .awaitingInvoice, row.reason⟩

/-! ## Organizers and operators -/

/-- No statement changes the status of an organizer from its default, `active`. -/
def organizerExists (organizerId : OrganizerId) (db : Database) : Bool :=
  db.organizers.has (·.id = organizerId)

structure OperatorJob where
  id : Uuid
  kind : JobKind
  status : JobStatus
  attempts : ℤ
  maxAttempts : ℤ
  lastError : Option String
  deriving DecidableEq

/-- The first hundred rows in the order of a column that no other query reads. -/
def operatorJobs (updatedAt : Uuid → ℤ) (db : Database) : List OperatorJob :=
  ((db.jobs.rows.insertionSort fun a b => updatedAt b.id ≤ updatedAt a.id).take 100).map fun row =>
    ⟨row.id, row.kind, row.status, row.attempts, row.maxAttempts, row.lastError⟩

end OpenPool
