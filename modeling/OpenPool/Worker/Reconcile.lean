import OpenPool.Worker.Services

/-! # Running a job

`reconcile_payment`, one definition for each kind of job. -/

namespace OpenPool

/-- How a job goes on after a round of its loop. -/
inductive Round where
  | again
  | finished
  deriving DecidableEq

def JobPayload.raffleId : JobPayload → Option RaffleId
  | raffle raffleId => some raffleId
  | event .. | other _ => none

def JobPayload.invoiceId : JobPayload → Option InvoiceId
  | raffle _ | other _ => none
  | event _ _ invoiceId => some invoiceId

section Requests

variable (services : Services)

/-- A database request whose error the job handles. -/
def tryQuery (statement : Statement) : Task (Except PersistenceError statement.Value) :=
  Program.request (Request.query statement)

/-- A request to a service outside whose error the job handles. -/
def tryAsk (question : Question) : Task (Except String question.Value) :=
  Program.request (Request.ask question)

/-- A database request whose error ends the job. -/
def query (statement : Statement) : Task statement.Value := do
  let answer ← tryQuery statement
  Program.orFail (PersistenceError.toString services.describe) answer

/-- A request to a service outside whose error ends the job. -/
def ask (question : Question) : Task question.Value := do
  let answer ← tryAsk question
  Program.orFail id answer

section Conditions

variable {services} {condition : Request → Prop}

theorem requests_query {statement : Statement} (h : condition (.query statement)) :
    (query services statement).Requests condition :=
  Program.Requests.bind (Program.requests_request h) fun _ => trivial

theorem requests_ask {question : Question} (h : condition (.ask question)) :
    (ask question).Requests condition :=
  Program.Requests.bind (Program.requests_request h) fun _ => trivial

theorem requests_okOrElse {α : Type} {value : Option α} {error : String} :
    (Program.okOrElse value error : Task α).Requests condition := by
  cases value <;> trivial

end Conditions

/-! ## raffle.draw -/

/-- The block after one that lies before the cutoff. -/
def blockAfter (tip height : UInt64) : Task Block :=
  if height = tip then
    Program.fail "no canonical close block has been mined after the raffle cutoff"
  else ask (.blockAt (height + 1))

/-- Searches downwards for the last block before the cutoff; the close block follows it. -/
def closeBlock (endTime : ℤ) (tip : UInt64) : ℕ → Task Block
  | 0 => do
      let block ← ask (.blockAt 0)
      if endTime ≤ block.time then Program.fail "no block exists before raffle cutoff"
      else blockAfter tip 0
  | height + 1 => do
      let block ← ask (.blockAt (.ofNat (height + 1)))
      if endTime ≤ block.time then closeBlock endTime tip height
      else blockAfter tip (.ofNat (height + 1))

def ensureCanonical (block : Block) : Task Unit := do
  let canonical ← query services (.canonicalBlockMatches block.height block.hash)
  if canonical then return () else Program.fail "selected Bitcoin blocks were displaced by a reorg"

/-- The sum of heights wraps, as in a release build. -/
def raffleDraw (job : ClaimedJob) : Task Unit := do
  if services.hasBitcoin = false then Program.fail "Bitcoin source is not configured"
  let raffleId ← Program.okOrElse job.payload.raffleId "raffle.draw missing raffle_id"
  let context ← query services (.frozenDrawContext raffleId)
  let tip ← ask .tipHeight
  let close ← closeBlock context.endTime tip tip.toNat
  if context.randomnessDelayBlocks < 0 then Program.fail "invalid randomness delay"
  let randomnessHeight := close.height + .ofNat context.randomnessDelayBlocks.toNat
  if tip < randomnessHeight + 1 then Program.fail "randomness block lacks one confirmation"
  let randomness ← ask (.blockAt randomnessHeight)
  query services (.recordCanonicalBlock close)
  query services (.recordCanonicalBlock randomness)
  ensureCanonical services close
  ensureCanonical services randomness
  let _ ← query services (.createDrawAndPayouts raffleId close randomness)

/-! ## proof.generate -/

def proofGenerate (job : ClaimedJob) : Task Unit := do
  let raffleId ← Program.okOrElse job.payload.raffleId "proof.generate missing raffle_id"
  let proof ← query services (.generateTerminalProof raffleId)
  if services.hasProofStore = false then
    Program.fail "immutable proof storage is not configured"
  let canonicalJson ← Program.orFail id (services.toVec proof)
  let publication ← ask
    (.publishImmutable (String.ofList (Bytes.toHex proof.proofHash.val)) canonicalJson)
  query services (.recordProofPublication raffleId publication)

/-! ## payout.execute -/

/-- Where a payout goes. -/
def payoutAddress (payout : ClaimedPayout) : Task String :=
  if payout.recipientType = .platform then
    Program.okOrElse services.platformAddress "platform Lightning address is not configured"
  else do
    let ciphertext ← query services (.payoutRecipientCiphertext payout)
    let ciphertext ← Program.okOrElse ciphertext "payout recipient has no address"
    Program.orFail id (services.decrypt ciphertext)

/-- The statements of `settle_payout`. -/
def settlePayout (payoutId : Uuid) (providerReference : String) : Task Unit := do
  query services (.beginSettle payoutId providerReference)
  let remaining ← query services (.countUnsettled payoutId)
  if remaining = 0 then
    query services (.markPaidOut payoutId)
    query services (.enqueueProof payoutId)
  query services (.commitSettle payoutId)

def ClaimedPayout.request (payout : ClaimedPayout) (bolt11 : String) : PayoutRequest where
  payoutId := ⟨payout.id⟩
  bolt11
  amountSats := payout.amountSats
  idempotencyKey := payout.idempotencyKey

/-- Pay a resolved invoice and settle its payout. -/
def payResolved (payout : ClaimedPayout) (bolt11 : String) : Task Round := do
  match ← tryAsk (.payInvoice (payout.request bolt11)) with
  | .ok attempt => do
      settlePayout services payout.id attempt.providerReference
      return .again
  | .error error => do
      let _ ← tryQuery (.failPayout payout.id error)
      Program.fail error

/-- The body of the `while let` loop for a claimed payout. -/
def payClaimed (payout : ClaimedPayout) : Task Round := do
  let address ← payoutAddress services payout
  let invoice ← ask (.resolveExactAmount address payout.amountSats)
  if invoice.amountSats ≠ payout.amountSats then
    let _ ← tryQuery (.failPayout payout.id "resolver returned incorrect amount")
    Program.fail "resolver returned incorrect amount"
  else payResolved services payout invoice.bolt11

/-- One round of the loop. The checks before it have no effects, so a round repeats them. -/
def payoutExecute (job : ClaimedJob) : Task Round := do
  let raffleId ← Program.okOrElse job.payload.raffleId "payout.execute missing raffle_id"
  if services.hasResolver = false then
    Program.fail "Lightning Address resolver is not configured"
  match ← query services (.claimPayout raffleId) with
  | some payout => payClaimed services payout
  | none => return .finished

/-! ## raffle.close -/

def raffleClose (job : ClaimedJob) : Task Unit := do
  let raffleId ← Program.okOrElse job.payload.raffleId "raffle.close missing raffle_id"
  let pending ← query services (.pendingInvoices raffleId)
  if 0 < pending then Program.fail "eligible invoices are still awaiting reconciliation"
  let _ ← query services (.freezeRaffle raffleId)

/-! ## payment.reconcile -/

/-- A settled payment becomes an entry, or a refund where the raffle is no longer open. -/
def settleOrRefund (invoiceId : InvoiceId) : Task Unit := do
  match ← tryQuery (.settleInvoice invoiceId) with
  | .ok _ => return ()
  | .error .raffleNotOpen => do
      let _ ← query services (.markLateSettlementForRefund invoiceId)
  | .error error => Program.fail (error.toString services.describe)

def paymentReconcile (job : ClaimedJob) : Task Unit := do
  let invoiceId ← Program.okOrElse job.payload.invoiceId "payment.reconcile missing invoice_id"
  match ← query services (.collectionPaymentReference invoiceId) with
  | none => return ()
  | some reference =>
    match ← ask (.getPayment reference) with
    | .settled => settleOrRefund services invoiceId
    | .pending => Program.fail "payment is not settled yet"
    | .failed | .expired => query services (.markCollectionUncollectible invoiceId)

/-! ## The job -/

def reconcilePayment (job : ClaimedJob) : Task Round :=
  match job.kind with
  | .raffleDraw => do
      raffleDraw services job
      return .finished
  | .proofGenerate => do
      proofGenerate services job
      return .finished
  | .payoutExecute => payoutExecute services job
  | .raffleClose => do
      raffleClose services job
      return .finished
  | .paymentReconcile => do
      paymentReconcile services job
      return .finished
  | .other .. => return .finished

end Requests

end OpenPool
