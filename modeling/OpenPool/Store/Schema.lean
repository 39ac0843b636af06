import OpenPool.Library.Table
import OpenPool.Protocol.Proof

/-! # The database schema

One row type for each table that the modelled operations read, with the constraints of the
migrations. Integer columns are integers; `asI64` bounds everything written to a `BIGINT`.
A `TIMESTAMPTZ` column is the number of microseconds since 2000-01-01 UTC. -/

namespace OpenPool

/-! ## Enumerated columns -/

inductive RaffleStatus where
  | draft
  | scheduled
  | opened
  | closing
  | randomnessPending
  | drawReady
  | winnerSelected
  | payoutPending
  | paidOut
  | cancelled
  | refunding
  | refunded
  deriving DecidableEq

inductive InvoiceStatus where
  | pending
  | settled
  | expired
  | ineligible
  | collectionFailed
  deriving DecidableEq

inductive RecipientType where
  | winner
  | organizer
  | platform
  | refund
  deriving DecidableEq

def RecipientType.text : RecipientType → String
  | winner => "winner"
  | organizer => "organizer"
  | platform => "platform"
  | refund => "refund"

inductive PayoutStatus where
  | pending
  | processing
  | settled
  | failed
  deriving DecidableEq

inductive RefundReason where
  | lateSettlement
  | cancelled
  | minimumNotMet
  | unsafeDraw
  deriving DecidableEq

inductive JobStatus where
  | queued
  | running
  | succeeded
  | dead
  deriving DecidableEq

/-- The kinds of job that the operations create. -/
def createdJobKinds : List String :=
  ["payment.reconcile", "raffle.close", "raffle.draw", "payout.execute", "proof.generate"]

/-- The kind of a job: one that the operations create, or any other text. -/
inductive JobKind where
  | paymentReconcile
  | raffleClose
  | raffleDraw
  | payoutExecute
  | proofGenerate
  | other (text : String) (h : text ∉ createdJobKinds)
  deriving DecidableEq

/-- The JSON payload of a job: one that the operations create, or any other value. -/
inductive JobPayload where
  | raffle (raffleId : RaffleId)
  | event (provider eventId : String) (invoiceId : InvoiceId)
  | other (json : String)
  deriving DecidableEq

/-! ## Rows -/

structure OrganizerRow where
  id : OrganizerId
  displayName : String
  lightningAddressCiphertext : List UInt8
  deriving DecidableEq

structure RaffleRow where
  id : RaffleId
  organizerId : OrganizerId
  name : String
  entryPriceSats : ℤ
  startTime : ℤ
  endTime : ℤ
  status : RaffleStatus := .draft
  randomnessDelayBlocks : ℤ
  totalPoolSats : ℤ := 0
  totalTickets : ℤ := 0
  entryChainHead : Option (List UInt8) := none
  entriesRoot : Option (List UInt8) := none
  closeBlockHeight : Option ℤ := none
  closeBlockHash : Option (List UInt8) := none
  randomnessBlockHeight : Option ℤ := none
  randomnessBlockHash : Option (List UInt8) := none
  deriving DecidableEq

structure PayoutSplitRow where
  raffleId : RaffleId
  winnerBps : ℤ
  organizerBps : ℤ
  platformBps : ℤ
  deriving DecidableEq

structure InvoiceRow where
  id : InvoiceId
  raffleId : RaffleId
  participantPublicId : List UInt8
  paymentReferenceHash : List UInt8
  amountSats : ℤ
  ticketCount : ℤ
  status : InvoiceStatus := .pending
  payoutAddressCiphertext : Option (List UInt8) := none
  bolt11 : Option String := none
  providerQuoteId : Option String := none
  providerPaymentHash : Option String := none
  expiresAt : Option ℤ := none
  deriving DecidableEq

structure EntryRow where
  id : EntryId
  raffleId : RaffleId
  invoiceId : InvoiceId
  entryIndex : ℤ
  participantPublicId : List UInt8
  paymentReferenceHash : List UInt8
  amountSats : ℤ
  ticketStart : ℤ
  ticketEnd : ℤ
  settledAt : ℤ
  previousEntryHash : List UInt8
  entryHash : List UInt8
  deriving DecidableEq

structure BlockRow where
  height : ℤ
  blockHash : List UInt8
  previousHash : List UInt8
  blockTime : ℤ
  isCanonical : Bool
  deriving DecidableEq

structure DrawRow where
  id : Uuid
  raffleId : RaffleId
  entriesRoot : List UInt8
  randomnessBlockHash : List UInt8
  winningTicket : ℤ
  winnerEntryId : EntryId
  deriving DecidableEq

structure PayoutRow where
  id : Uuid
  raffleId : RaffleId
  recipientType : RecipientType
  idempotencyKey : String
  amountSats : ℤ
  status : PayoutStatus := .pending
  providerReference : Option String := none
  failureReason : Option String := none
  leaseOwner : Option String := none
  leaseExpiresAt : Option ℤ := none
  createdAt : ℤ
  deriving DecidableEq

structure ProofRow where
  id : Uuid
  raffleId : RaffleId
  protocolVersion : String
  proofJson : ProofDocument
  proofHash : List UInt8
  storageUri : Option String := none
  storageVersionId : Option String := none
  storageEtag : Option String := none
  publishedAt : Option ℤ := none
  deriving DecidableEq

structure RefundRow where
  id : Uuid
  raffleId : RaffleId
  invoiceId : InvoiceId
  reason : RefundReason
  deriving DecidableEq

structure WebhookEventRow where
  id : Uuid
  providerName : String
  providerEventId : String
  payloadHash : List UInt8
  deriving DecidableEq

structure JobRow where
  id : Uuid
  kind : JobKind
  deduplicationKey : String
  payload : JobPayload
  status : JobStatus := .queued
  attempts : ℤ := 0
  maxAttempts : ℤ := 8
  availableAt : ℤ
  leaseOwner : Option String := none
  leaseExpiresAt : Option ℤ := none
  lastError : Option String := none
  createdAt : ℤ
  deriving DecidableEq

/-! ## Constraints -/

instance : Schema OrganizerRow where
  Check _ := True
  Clash a b := a.id = b.id
  clash_symm _ _ h := h.symm
  decidableCheck _ := instDecidableTrue
  decidableClash _ _ := inferInstance

instance : Schema RaffleRow where
  Check row := 0 < row.entryPriceSats ∧ row.startTime < row.endTime ∧
    0 < row.randomnessDelayBlocks ∧ 0 ≤ row.totalPoolSats ∧ 0 ≤ row.totalTickets ∧
    (∀ hash ∈ row.closeBlockHash, hash.length = 32) ∧
    ∀ hash ∈ row.randomnessBlockHash, hash.length = 32
  Clash a b := a.id = b.id
  clash_symm _ _ h := h.symm
  decidableCheck _ := inferInstance
  decidableClash _ _ := inferInstance

instance : Schema PayoutSplitRow where
  Check row := (0 ≤ row.winnerBps ∧ row.winnerBps ≤ 10000) ∧
    (0 ≤ row.organizerBps ∧ row.organizerBps ≤ 10000) ∧
    (0 ≤ row.platformBps ∧ row.platformBps ≤ 10000) ∧
    row.winnerBps + row.organizerBps + row.platformBps = 10000
  Clash a b := a.raffleId = b.raffleId
  clash_symm _ _ h := h.symm
  decidableCheck _ := inferInstance
  decidableClash _ _ := inferInstance

/-- Equal under a unique index that leaves `NULL` out. -/
def SameNonNull {α : Type} (a b : Option α) : Prop := a = b ∧ a ≠ none

instance {α : Type} [DecidableEq α] : DecidableRel (SameNonNull (α := α)) := fun _ _ =>
  inferInstanceAs (Decidable (_ ∧ _))

theorem SameNonNull.symm {α : Type} {a b : Option α} (h : SameNonNull a b) : SameNonNull b a :=
  ⟨h.1.symm, h.1 ▸ h.2⟩

instance : Schema InvoiceRow where
  Check row := row.participantPublicId.length = 32 ∧ row.paymentReferenceHash.length = 32 ∧
    0 < row.amountSats ∧ 0 < row.ticketCount
  Clash a b := a.id = b.id ∨ a.paymentReferenceHash = b.paymentReferenceHash ∨
    SameNonNull a.providerQuoteId b.providerQuoteId ∨
    SameNonNull a.providerPaymentHash b.providerPaymentHash
  clash_symm _ _ h := h.imp Eq.symm (Or.imp Eq.symm (Or.imp SameNonNull.symm SameNonNull.symm))
  decidableCheck _ := inferInstance
  decidableClash _ _ := inferInstance

instance : Schema EntryRow where
  Check row := 0 ≤ row.entryIndex ∧ row.participantPublicId.length = 32 ∧
    row.paymentReferenceHash.length = 32 ∧ 0 < row.amountSats ∧ 0 ≤ row.ticketStart ∧
    row.ticketStart < row.ticketEnd ∧ row.previousEntryHash.length = 32 ∧
    row.entryHash.length = 32
  Clash a b := a.id = b.id ∨ a.invoiceId = b.invoiceId ∨
    (a.raffleId = b.raffleId ∧ (a.entryIndex = b.entryIndex ∨ a.ticketStart = b.ticketStart ∨
      a.ticketEnd = b.ticketEnd))
  clash_symm _ _ h := h.imp Eq.symm (Or.imp Eq.symm
    (And.imp Eq.symm (Or.imp Eq.symm (Or.imp Eq.symm Eq.symm))))
  decidableCheck _ := inferInstance
  decidableClash _ _ := inferInstance

instance : Schema BlockRow where
  Check row := row.blockHash.length = 32 ∧ row.previousHash.length = 32
  Clash a b := a.blockHash = b.blockHash ∨
    (a.height = b.height ∧ a.isCanonical = true ∧ b.isCanonical = true)
  clash_symm _ _ h := h.imp Eq.symm (And.imp Eq.symm And.symm)
  decidableCheck _ := inferInstance
  decidableClash _ _ := inferInstance

instance : Schema DrawRow where
  Check row := row.entriesRoot.length = 32 ∧ row.randomnessBlockHash.length = 32 ∧
    0 ≤ row.winningTicket
  Clash a b := a.id = b.id ∨ a.raffleId = b.raffleId
  clash_symm _ _ h := h.imp Eq.symm Eq.symm
  decidableCheck _ := inferInstance
  decidableClash _ _ := inferInstance

instance : Schema PayoutRow where
  Check row := 0 < row.amountSats
  Clash a b := a.id = b.id ∨ a.idempotencyKey = b.idempotencyKey
  clash_symm _ _ h := h.imp Eq.symm Eq.symm
  decidableCheck _ := inferInstance
  decidableClash _ _ := inferInstance

instance : Schema ProofRow where
  Check row := row.proofHash.length = 32 ∧
    ((row.storageUri = none ∧ row.storageVersionId = none ∧ row.storageEtag = none ∧
        row.publishedAt = none) ∨
      (row.storageUri ≠ none ∧ row.storageVersionId ≠ none ∧ row.storageEtag ≠ none ∧
        row.publishedAt ≠ none))
  Clash a b := a.id = b.id ∨ (a.raffleId = b.raffleId ∧ a.protocolVersion = b.protocolVersion)
  clash_symm _ _ h := h.imp Eq.symm (And.imp Eq.symm Eq.symm)
  decidableCheck _ := inferInstance
  decidableClash _ _ := inferInstance

instance : Schema RefundRow where
  Check _ := True
  Clash a b := a.id = b.id ∨ (a.invoiceId = b.invoiceId ∧ a.reason = b.reason)
  clash_symm _ _ h := h.imp Eq.symm (And.imp Eq.symm Eq.symm)
  decidableCheck _ := instDecidableTrue
  decidableClash _ _ := inferInstance

instance : Schema WebhookEventRow where
  Check row := row.payloadHash.length = 32
  Clash a b := a.id = b.id ∨
    (a.providerName = b.providerName ∧ a.providerEventId = b.providerEventId)
  clash_symm _ _ h := h.imp Eq.symm (And.imp Eq.symm Eq.symm)
  decidableCheck _ := inferInstance
  decidableClash _ _ := inferInstance

instance : Schema JobRow where
  Check row := 0 ≤ row.attempts ∧ 0 < row.maxAttempts
  Clash a b := a.id = b.id ∨ (a.kind = b.kind ∧ a.deduplicationKey = b.deduplicationKey)
  clash_symm _ _ h := h.imp Eq.symm (And.imp Eq.symm Eq.symm)
  decidableCheck _ := inferInstance
  decidableClash _ _ := inferInstance

/-- The tables. -/
structure Database where
  organizers : Table OrganizerRow
  raffles : Table RaffleRow
  payoutSplits : Table PayoutSplitRow
  invoices : Table InvoiceRow
  entries : Table EntryRow
  blocks : Table BlockRow
  draws : Table DrawRow
  payouts : Table PayoutRow
  proofs : Table ProofRow
  refunds : Table RefundRow
  webhookEvents : Table WebhookEventRow
  jobs : Table JobRow

/-- The database after the migrations. -/
def Database.empty : Database :=
  ⟨.empty, .empty, .empty, .empty, .empty, .empty, .empty, .empty, .empty, .empty, .empty, .empty⟩

end OpenPool
