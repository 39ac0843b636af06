import OpenPool.Store.Machine

/-! # The life of one raffle

The abstract level: what the tables say about one raffle, and the changes it can undergo. -/

namespace OpenPool

/-- The rows of one raffle. -/
structure RaffleView where
  raffle : Option RaffleRow
  split : Option PayoutSplitRow
  invoices : List InvoiceRow
  entries : List EntryRow
  draw : Option DrawRow
  payouts : List PayoutRow
  proofs : List ProofRow
  refunds : List RefundRow
  jobs : List JobRow

/-- A job of the raffle, by its payload or by its key. -/
def JobRow.concerns (raffleId : RaffleId) (row : JobRow) : Bool :=
  row.payload = .raffle raffleId ∨ row.deduplicationKey = raffleId.uuid.toString

def Database.view (db : Database) (raffleId : RaffleId) : RaffleView where
  raffle := db.raffles.find (·.id = raffleId)
  split := db.payoutSplits.find (·.raffleId = raffleId)
  invoices := db.invoices.select (·.raffleId = raffleId)
  entries := db.entries.select (·.raffleId = raffleId)
  draw := db.draws.find (·.raffleId = raffleId)
  payouts := db.payouts.select (·.raffleId = raffleId)
  proofs := db.proofs.select (·.raffleId = raffleId)
  refunds := db.refunds.select (·.raffleId = raffleId)
  jobs := db.jobs.select (JobRow.concerns raffleId)

/-! ## What a change keeps -/

/-- A row as `create_draft_raffle` inserts it. -/
structure RaffleRow.IsNew (row : RaffleRow) : Prop where
  status : row.status = .draft
  totalPoolSats : row.totalPoolSats = 0
  totalTickets : row.totalTickets = 0
  entryChainHead : row.entryChainHead = none
  entriesRoot : row.entriesRoot = none
  closeBlockHeight : row.closeBlockHeight = none

/-- Everything about an invoice but its status and its provider fields. -/
structure InvoiceRow.SameInvoice (a b : InvoiceRow) : Prop where
  id : a.id = b.id
  raffleId : a.raffleId = b.raffleId
  participantPublicId : a.participantPublicId = b.participantPublicId
  paymentReferenceHash : a.paymentReferenceHash = b.paymentReferenceHash
  amountSats : a.amountSats = b.amountSats
  ticketCount : a.ticketCount = b.ticketCount
  payoutAddressCiphertext : a.payoutAddressCiphertext = b.payoutAddressCiphertext

theorem InvoiceRow.SameInvoice.refl (row : InvoiceRow) : row.SameInvoice row :=
  ⟨rfl, rfl, rfl, rfl, rfl, rfl, rfl⟩

/-- The entry row is the one its invoice pays for. -/
structure EntryRow.PaidBy (row : EntryRow) (invoice : InvoiceRow) : Prop where
  invoiceId : row.invoiceId = invoice.id
  raffleId : row.raffleId = invoice.raffleId
  participantPublicId : row.participantPublicId = invoice.participantPublicId
  paymentReferenceHash : row.paymentReferenceHash = invoice.paymentReferenceHash
  amountSats : row.amountSats = invoice.amountSats
  ticketCount : row.ticketEnd = row.ticketStart + invoice.ticketCount

/-- What a payout owes, and under which key. -/
structure PayoutTerms where
  id : Uuid
  raffleId : RaffleId
  recipientType : RecipientType
  idempotencyKey : String
  amountSats : ℤ
  deriving DecidableEq

def PayoutRow.terms (row : PayoutRow) : PayoutTerms :=
  ⟨row.id, row.raffleId, row.recipientType, row.idempotencyKey, row.amountSats⟩

/-- The rows a draw inserts: one for each positive amount. -/
def payoutRows (raffleId : RaffleId) (payoutIds : RecipientType → Uuid) (now : ℤ)
    (amounts : PayoutAmounts) : List PayoutRow :=
  ((payoutList amounts).filter fun payout => 0 < payout.2.toNat).map fun payout =>
    { id := payoutIds payout.1, raffleId, recipientType := payout.1
      idempotencyKey := payoutKey raffleId payout.1, amountSats := payout.2.toNat
      createdAt := now }

/-- The values a draw is computed from, and its result. -/
structure DrawContext where
  closeHeight : UInt64
  randomnessHeight : UInt64
  randomnessHash : Hash32
  root : Hash32
  totalTickets : UInt64
  totalPoolSats : UInt64
  ledger : List LedgerEntry
  split : PayoutSplit
  result : DrawResult

def DrawContext.input (context : DrawContext) (raffleId : RaffleId) : DrawInput where
  raffleId
  entriesRoot := context.root
  closeBlockHeight := context.closeHeight
  randomnessBlockHeight := context.randomnessHeight
  randomnessBlockHash := context.randomnessHash
  totalTickets := context.totalTickets

def DrawContext.amounts (context : DrawContext) : PayoutAmounts :=
  context.split.allocate ⟨context.totalPoolSats⟩

/-- The rows of the raffle hold the values a draw is computed from. -/
structure DrawContext.Reads (sha256 : List UInt8 → Hash32) (raffleId : RaffleId)
    (raffle : RaffleRow) (payoutSplit : Option PayoutSplitRow) (entries : List EntryRow)
    (context : DrawContext) : Prop where
  root : raffle.entriesRoot = some context.root.val
  totalTickets : raffle.totalTickets = context.totalTickets.toNat
  totalPoolSats : raffle.totalPoolSats = context.totalPoolSats.toNat
  ledger : ledgerEntriesFromRows (orderByEntryIndex entries) = .ok context.ledger
  split : ∃ row ∈ payoutSplit, row.read = .ok context.split
  result : draw sha256 context.ledger (context.input raffleId) = .ok context.result

/-- The row of `draws` for a result. -/
def DrawContext.row (context : DrawContext) (raffleId : RaffleId) (id : Uuid) : DrawRow where
  id
  raffleId
  entriesRoot := context.root.val
  randomnessBlockHash := context.randomnessHash.val
  winningTicket := context.result.winningTicket.toNat
  winnerEntryId := context.result.winnerEntryId

/-- The raffle row after its draw. -/
def DrawContext.drawnRow (context : DrawContext) (closeHash : Hash32) (raffle : RaffleRow) :
    RaffleRow :=
  { raffle with
    status := .payoutPending
    closeBlockHeight := some context.closeHeight.toNat
    closeBlockHash := some closeHash.val
    randomnessBlockHeight := some context.randomnessHeight.toNat
    randomnessBlockHash := some context.randomnessHash.val }

/-- The raffle's row stores the block facts of the draw. -/
structure DrawContext.Stored (raffle : RaffleRow) (context : DrawContext) : Prop where
  closeHeight : raffle.closeBlockHeight = some (context.closeHeight.toNat : ℤ)
  randomnessHeight : raffle.randomnessBlockHeight = some (context.randomnessHeight.toNat : ℤ)
  randomnessHash : raffle.randomnessBlockHash = some context.randomnessHash.val

/-- The payload of the terminal proof. -/
def DrawContext.payload (context : DrawContext) (raffleId : RaffleId) (entryCount : ℕ)
    (head : Hash32) : ProofPayload where
  protocolVersion
  raffleId
  payoutSplit := context.split
  entries := context.ledger
  freeze := {
    entryCount := UInt64.ofNat entryCount
    totalTickets := context.totalTickets
    totalPoolSats := ⟨context.totalPoolSats⟩
    entryChainHead := head
    entriesRoot := context.root }
  bitcoin := ⟨context.closeHeight, context.randomnessHeight, context.randomnessHash⟩
  draw := context.result
  payouts := context.amounts

/-! ## The changes -/

/-- The raffle row after an entry. -/
def RaffleRow.withEntry (row : RaffleRow) (pool : ℤ) (entry : LedgerEntry) : RaffleRow :=
  { row with
    totalPoolSats := pool
    totalTickets := entry.data.ticketRange.stop.toNat
    entryChainHead := some entry.entryHash.val }

/-- An entry that continues the raffle's ledger. -/
structure LedgerEntry.Continues (sha256 : List UInt8 → Hash32) (raffle : RaffleRow)
    (position : ℕ) (entry : LedgerEntry) : Prop where
  raffleId : entry.data.raffleId = raffle.id
  index : entry.index = position
  ticketStart : raffle.totalTickets = entry.ticketStart
  nonempty : entry.ticketStart < entry.ticketStop
  previousHash : raffle.chainHead = .ok entry.previousEntryHash
  entryHash : entry.entryHash = entry.digest sha256 entry.previousEntryHash

/-- What the operation of a step is about. -/
structure Scope where
  /-- The payouts that other transactions have locked. -/
  locked : List Uuid
  /-- The payout whose settlement commits. -/
  settled : Option Uuid := none
  /-- The job that is completed. -/
  completed : Option Uuid := none
  /-- The raffle that is drawn, with the heights of its close block and randomness block. -/
  drawn : Option (RaffleId × UInt64 × UInt64) := none
  /-- The invoice that is marked as settled late. -/
  late : Option InvoiceId := none
  /-- The invoice whose payment is settled, and the instant as the database stores it. -/
  settlement : Option (InvoiceId × ℤ) := none
  /-- The raffle that is moved, with its new status. -/
  moved : Option (RaffleId × RaffleStatus) := none
  /-- The instant at which due raffles are closed. -/
  closing : Option ℤ := none
  /-- The raffle that is frozen. -/
  frozen : Option RaffleId := none
  /-- The operation is one that only tests call. -/
  seam : Bool := false

/-- A change of payouts that keeps their terms, and the rows that are locked or settled. -/
structure PayoutChange (scope : Scope) (payouts : List PayoutRow)
    (change : PayoutRow → PayoutRow) : Prop where
  terms : ∀ row, (change row).terms = row.terms
  locked : ∀ row ∈ payouts, row.id ∈ scope.locked → change row = row
  settled : ∀ row ∈ payouts, row.status = .settled → change row = row
  new : ∀ row ∈ payouts, (change row).status = .settled →
    row.status = .settled ∨ scope.settled = some row.id

/-- Everything about a job but how far it has come. -/
structure JobRow.SameJob (a b : JobRow) : Prop where
  id : a.id = b.id
  kind : a.kind = b.kind
  deduplicationKey : a.deduplicationKey = b.deduplicationKey
  payload : a.payload = b.payload

theorem JobRow.SameJob.refl (job : JobRow) : job.SameJob job := ⟨rfl, rfl, rfl, rfl⟩

/-- A job as the statements of the operations insert it for a raffle. -/
structure JobRow.IsNew (raffleId : RaffleId) (kind : JobKind) (row : JobRow) : Prop where
  kind : row.kind = kind
  deduplicationKey : row.deduplicationKey = raffleId.uuid.toString
  payload : row.payload = .raffle raffleId
  status : row.status = .queued

/-- The raffle gets a job of this kind, unless it has one. -/
def JobsGrow (raffleId : RaffleId) (kind : JobKind) (jobs jobs' : List JobRow) : Prop :=
  (jobs' = jobs ∧ ∃ row ∈ jobs, row.kind = kind) ∨ ∃ row : JobRow, row.IsNew raffleId kind ∧
    jobs' = jobs ++ [row]

/-- The changes one raffle can undergo. -/
inductive RaffleStep (prim : Primitives) (scope : Scope) (raffleId : RaffleId)
    (view : RaffleView) : RaffleView → Prop
  | stay : RaffleStep prim scope raffleId view view
  | create (row : RaffleRow) (split : PayoutSplitRow) (habsent : view.raffle = none)
      (hid : row.id = raffleId) (hnew : row.IsNew) :
      RaffleStep prim scope raffleId view
        { view with raffle := some row, split := view.split.or (some split) }
  | edit (row : RaffleRow) (name : String) (price start stop delay : ℤ) (split : PayoutSplitRow)
      (hrow : view.raffle = some row) (hstatus : row.status = .draft ∨ row.status = .scheduled) :
      RaffleStep prim scope raffleId view
        { view with
          raffle := some { row with
            name, entryPriceSats := price, startTime := start, endTime := stop
            randomnessDelayBlocks := delay }
          split := view.split.map fun _ => split }
  | move (row : RaffleRow) (status : RaffleStatus) (hrow : view.raffle = some row)
      (hmove : row.status.mayMove status = true) (hmoved : scope.moved = some (raffleId, status)) :
      RaffleStep prim scope raffleId view { view with raffle := some { row with status } }
  | close (row : RaffleRow) (jobs : List JobRow) (hrow : view.raffle = some row)
      (hopen : row.status = .opened) (hjobs : JobsGrow raffleId .raffleClose view.jobs jobs)
      (hdue : ∃ now ∈ scope.closing, row.endTime ≤ now) :
      RaffleStep prim scope raffleId view
        { view with raffle := some { row with status := .closing }, jobs }
  | pendingInvoice (row : RaffleRow) (invoice : InvoiceRow) (hrow : view.raffle = some row)
      (hid : invoice.raffleId = raffleId) (hstatus : invoice.status = .pending)
      (hseam : scope.seam = true) :
      RaffleStep prim scope raffleId view { view with invoices := view.invoices ++ [invoice] }
  | collectionInvoice (row : RaffleRow) (invoice : InvoiceRow) (hrow : view.raffle = some row)
      (hid : invoice.raffleId = raffleId) (hstatus : invoice.status = .pending)
      (hopen : row.status = .opened)
      (hprice : invoice.amountSats = row.entryPriceSats * invoice.ticketCount)
      (hbound : invoice.amountSats < 2 ^ 63) :
      RaffleStep prim scope raffleId view { view with invoices := view.invoices ++ [invoice] }
  | changeInvoices (change : InvoiceRow → InvoiceRow)
      (hsame : ∀ row : InvoiceRow, row.SameInvoice (change row))
      (hstatus : ∀ row, (change row).status = row.status ∨
        (row.status = .pending ∧ (change row).status = .collectionFailed)) :
      RaffleStep prim scope raffleId view { view with invoices := view.invoices.map change }
  | settle (row : RaffleRow) (invoice : InvoiceRow) (entryRow : EntryRow) (entry : LedgerEntry)
      (pool : ℤ) (hrow : view.raffle = some row) (hopen : row.status = .opened)
      (hinvoice : invoice ∈ view.invoices) (hpending : invoice.status = .pending)
      (hreads : entryRow.Reads entry) (hpaid : entryRow.PaidBy invoice)
      (hcontinues : entry.Continues prim.sha256 row view.entries.length)
      (hpool : pool = row.totalPoolSats + entry.sats) (hbound : pool < 2 ^ 63)
      (hat : scope.settlement = some (invoice.id, entryRow.settledAt)) :
      RaffleStep prim scope raffleId view
        { view with
          raffle := some (row.withEntry pool entry)
          invoices := view.invoices.map fun other =>
            if other.id = invoice.id then other.withStatus .settled else other
          entries := view.entries ++ [entryRow] }
  | late (invoice : InvoiceRow) (refunds : List RefundRow) (hinvoice : invoice ∈ view.invoices)
      (hrefunds : refunds = [] ∨ ∃ id, refunds = [⟨id, raffleId, invoice.id, .lateSettlement⟩])
      (hlate : scope.late = some invoice.id) :
      RaffleStep prim scope raffleId view
        { view with
          invoices := view.invoices.map fun other =>
            if other.id = invoice.id ∧ invoice.status = .pending then
              other.withStatus .ineligible else other
          refunds := view.refunds ++ refunds }
  | refund (row : RefundRow) (hrow : view.raffle ≠ none) (hseam : scope.seam = true) :
      RaffleStep prim scope raffleId view { view with refunds := view.refunds ++ [row] }
  | freeze (row : RaffleRow) (head : Hash32) (count : UInt64) (jobs : List JobRow)
      (hrow : view.raffle = some row) (hclosing : row.status = .closing)
      (hhead : row.chainHead = .ok head) (hcount : count.toNat = view.entries.length)
      (hjobs : if row.totalTickets = 0 then jobs = view.jobs
        else JobsGrow raffleId .raffleDraw view.jobs jobs)
      (hfrozen : scope.frozen = some raffleId) :
      RaffleStep prim scope raffleId view
        { view with
          raffle := some { row with
            status := if row.totalTickets = 0 then .cancelled else .randomnessPending
            entriesRoot := some (entriesRoot prim.sha256 raffleId count head).val }
          jobs }
  | draw (row : RaffleRow) (context : DrawContext) (closeHash : Hash32) (ids : DrawIds) (now : ℤ)
      (jobs : List JobRow) (hrow : view.raffle = some row)
      (hstatus : row.status = .randomnessPending)
      (hreads : context.Reads prim.sha256 raffleId row view.split view.entries)
      (hundrawn : view.draw = none)
      (hdrawn : scope.drawn = some (raffleId, context.closeHeight, context.randomnessHeight))
      (hjobs : JobsGrow raffleId .payoutExecute view.jobs jobs) :
      RaffleStep prim scope raffleId view
        { view with
          raffle := some (context.drawnRow closeHash row)
          draw := some (context.row raffleId ids.draw)
          payouts := view.payouts ++ payoutRows raffleId ids.payout now context.amounts
          jobs }
  | proof (row : RaffleRow) (context : DrawContext) (head : Hash32) (document : ProofDocument)
      (id : Uuid) (hrow : view.raffle = some row) (hstatus : row.status = .paidOut)
      (hreads : context.Reads prim.sha256 raffleId row view.split view.entries)
      (hstored : context.Stored row)
      (hhead : row.chainHead = .ok head)
      (hpayload : document.payload = context.payload raffleId view.entries.length head)
      (hverified : (verify prim document).isVerified = true) :
      RaffleStep prim scope raffleId view
        { view with proofs := view.proofs ++
          [{ id, raffleId, protocolVersion, proofJson := document
             proofHash := document.proofHash.val }] }
  | publish (change : ProofRow → ProofRow)
      (hsame : ∀ row, (change row).proofJson = row.proofJson) :
      RaffleStep prim scope raffleId view { view with proofs := view.proofs.map change }
  | changePayouts (change : PayoutRow → PayoutRow)
      (hchange : PayoutChange scope view.payouts change) :
      RaffleStep prim scope raffleId view { view with payouts := view.payouts.map change }
  | payOut (change : PayoutRow → PayoutRow) (jobs : List JobRow)
      (hchange : PayoutChange scope view.payouts change)
      (hall : ∀ row ∈ view.payouts, (change row).status = .settled)
      (hjobs : JobsGrow raffleId .proofGenerate view.jobs jobs) :
      RaffleStep prim scope raffleId view
        { view with
          payouts := view.payouts.map change
          raffle := view.raffle.map fun row =>
            if row.status = .payoutPending then { row with status := .paidOut } else row
          jobs }
  | changeJobs (change : JobRow → JobRow) (hsame : ∀ row : JobRow, (change row).SameJob row)
      (hdone : ∀ row ∈ view.jobs, (change row).status = .succeeded →
        row.status = .succeeded ∨ scope.completed = some row.id) :
      RaffleStep prim scope raffleId view { view with jobs := view.jobs.map change }

end OpenPool
