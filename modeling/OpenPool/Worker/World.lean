import OpenPool.Worker.Reconcile
import OpenPool.Store.Machine

/-! # Workers, the API and the services outside

Any number of workers run jobs on one store while the API changes it. A step is one request of
one worker, one transaction of the API, or an event: a crash, the rollback of a transaction
whose connection is gone, the arrival or the payment of a request at the payment provider. A
step that is not enabled changes nothing. -/

namespace OpenPool

open Fallible

/-! ## One request -/

/-- A database error, before or after the transaction took effect. -/
structure Fault where
  error : SqlxError
  committed : Bool

/-- What the surroundings decide about one step: the clocks, new identifiers, which of several
first rows a query takes, the rows that other statements in flight have locked, a fault, and the
answers of the services outside. -/
structure Choice where
  now : ℤ
  instant : Instant
  id : Uuid
  drawIds : DrawIds
  pick : ℕ
  locked : List Uuid
  fault : Option Fault
  reply : (question : Question) → Except String question.Value

/-- The open transaction of a worker on a payout. -/
def Store.ownTransaction (store : Store) (workerId : String) (payoutId : Uuid) :
    Option SettleTransaction :=
  (store.transaction payoutId).filter fun transaction => transaction.workerId = workerId

/-- A statement of an open transaction, which needs the transaction to be still open. -/
def Store.own {α : Type} (store : Store) (workerId : String) (payoutId : Uuid)
    (statement : SettleTransaction → Except PersistenceError α) : Except PersistenceError α := do
  let transaction ← orElse (store.ownTransaction workerId payoutId) (.sqlx .io)
  statement transaction

/-- The operation a statement runs; the other statements only read. -/
def Statement.op (store : Store) (workerId : String) (choice : Choice) : Statement → Option Op
  | recordCanonicalBlock block =>
      some (.recordCanonicalBlock block.height block.hash block.previousHash block.time)
  | createDrawAndPayouts raffleId close randomness =>
      some (.createDrawAndPayouts raffleId close.height close.hash randomness.height
        randomness.hash choice.drawIds choice.now)
  | generateTerminalProof raffleId => some (.generateTerminalProof raffleId choice.id)
  | recordProofPublication raffleId publication =>
      some (.recordProofPublication raffleId publication.uri publication.versionId
        publication.etag choice.now)
  | claimPayout raffleId =>
      some (.claimPayout raffleId workerId choice.now choice.locked choice.pick)
  | failPayout payoutId reason => some (.failPayout payoutId workerId reason)
  | beginSettle payoutId providerReference =>
      some (.beginSettle payoutId workerId providerReference)
  | countUnsettled payoutId =>
      (store.ownTransaction workerId payoutId).map fun _ => .countUnsettled payoutId
  | markPaidOut payoutId =>
      (store.ownTransaction workerId payoutId).map fun _ => .markPaidOut payoutId
  | enqueueProof payoutId =>
      (store.ownTransaction workerId payoutId).map fun _ =>
        .enqueueProof payoutId choice.id choice.now
  | commitSettle payoutId =>
      (store.ownTransaction workerId payoutId).map fun _ => .commitSettle payoutId
  | freezeRaffle raffleId => some (.freezeRaffle raffleId choice.id choice.now)
  | settleInvoice invoiceId => some (.settleInvoice invoiceId ⟨choice.id⟩ choice.instant)
  | markLateSettlementForRefund invoiceId =>
      some (.markLateSettlementForRefund invoiceId choice.id)
  | markCollectionUncollectible invoiceId => some (.markCollectionUncollectible invoiceId)
  | frozenDrawContext _ | canonicalBlockMatches _ _ | payoutRecipientCiphertext _
  | pendingInvoices _ | collectionPaymentReference _ => none

/-- What an operation returns. -/
def returned {α : Type} (result : Except PersistenceError (Database × α)) :
    Except PersistenceError α :=
  result.map Prod.snd

/-- What a statement answers. -/
def Statement.answer (prim : Primitives) (store : Store) (workerId : String) (choice : Choice) :
    (statement : Statement) → Except PersistenceError statement.Value
  | frozenDrawContext raffleId => OpenPool.frozenDrawContext raffleId store.db
  | recordCanonicalBlock block =>
      returned (OpenPool.recordCanonicalBlock block.height block.hash block.previousHash block.time
        store.db)
  | canonicalBlockMatches height blockHash =>
      OpenPool.canonicalBlockMatches height blockHash store.db
  | createDrawAndPayouts raffleId close randomness =>
      returned (OpenPool.createDrawAndPayouts prim raffleId close.height close.hash
        randomness.height randomness.hash choice.drawIds choice.now store.db)
  | generateTerminalProof raffleId =>
      returned (OpenPool.generateTerminalProof prim raffleId choice.id store.db)
  | recordProofPublication raffleId publication =>
      returned (OpenPool.recordProofPublication raffleId publication.uri publication.versionId
        publication.etag choice.now store.db)
  | claimPayout raffleId => do
      let row ← returned (OpenPool.claimPayout raffleId workerId choice.now choice.pick
        (store.locked ++ choice.locked) store.db)
      row.mapM ClaimedPayout.ofRow
  | payoutRecipientCiphertext payout => OpenPool.payoutRecipientCiphertext payout store.db
  | failPayout payoutId reason => returned (OpenPool.failPayout payoutId workerId reason store.db)
  | beginSettle payoutId providerReference => do
      let _ ← OpenPool.beginSettle payoutId workerId providerReference store.db
  | countUnsettled payoutId =>
      store.own workerId payoutId fun transaction => .ok (transaction.remaining store.db)
  | markPaidOut payoutId => store.own workerId payoutId fun _ => .ok ()
  | enqueueProof payoutId => store.own workerId payoutId fun _ => .ok ()
  | commitSettle payoutId =>
      store.own workerId payoutId fun transaction =>
        (transaction.commit store.db).map fun _ => ()
  | pendingInvoices raffleId => .ok (OpenPool.pendingInvoices raffleId store.db)
  | freezeRaffle raffleId =>
      returned (OpenPool.freezeRaffle prim.sha256 raffleId choice.id choice.now store.db)
  | collectionPaymentReference invoiceId =>
      OpenPool.collectionPaymentReference invoiceId store.db
  | settleInvoice invoiceId =>
      returned (settleInvoiceAndAppendEntry prim.sha256 invoiceId ⟨choice.id⟩ choice.instant.nanos
        store.db)
  | markLateSettlementForRefund invoiceId =>
      returned (OpenPool.markLateSettlementForRefund invoiceId choice.id store.db)
  | markCollectionUncollectible invoiceId =>
      returned (OpenPool.markCollectionUncollectible invoiceId store.db)

/-- The statement waits for the lock on a payout. -/
def Request.waits (store : Store) : Request → Bool
  | query (.failPayout payoutId _) => payoutId ∈ store.locked
  | query (.beginSettle payoutId _) => payoutId ∈ store.locked
  | _ => false

/-! ## The shared state -/

/-- A request to the payment provider, and the payload of the job that sent it. -/
structure Payment where
  payload : JobPayload
  request : PayoutRequest
  deriving DecidableEq

/-- The store, and the history of payments and claims. -/
structure Shared where
  store : Store
  /-- What was sent to `pay_invoice`. -/
  sent : List Payment
  /-- What the provider has paid. -/
  paid : List Payment
  /-- The idempotency keys for which `pay_invoice` has succeeded. -/
  confirmed : List String
  /-- The raffles for which a claim found nothing while a payout was withheld from it. -/
  missed : List RaffleId
  /-- The invoices that a job found pending without a provider reference. -/
  unreferenced : List InvoiceId

def Shared.empty : Shared := ⟨.empty, [], [], [], [], []⟩

/-- The provider pays at most once for each idempotency key. -/
def Shared.pay (payment : Payment) (shared : Shared) : Shared :=
  if shared.paid.any fun other =>
      other.request.idempotencyKey = payment.request.idempotencyKey then shared
  else { shared with paid := shared.paid ++ [payment] }

def Shared.send (payment : Payment) (shared : Shared) : Shared :=
  { shared with sent := shared.sent ++ [payment] }

def Shared.confirm (key : String) (shared : Shared) : Shared :=
  { shared with confirmed := shared.confirmed ++ [key] }

/-- A payout of the raffle is being processed, or could be claimed if no other statement in flight
had locked it. -/
def Store.Withholds (store : Store) (raffleId : RaffleId) (choice : Choice) : Prop :=
  ∃ payout ∈ store.db.payouts.select (·.raffleId = raffleId), payout.status = .processing ∨
    (payout.claimable raffleId choice.now = true ∧ payout.id ∈ choice.locked)

instance (store : Store) (raffleId : RaffleId) (choice : Choice) :
    Decidable (store.Withholds raffleId choice) :=
  inferInstanceAs (Decidable (∃ payout ∈ _, _))

def Shared.miss (raffleId : RaffleId) (choice : Choice) (shared : Shared) : Shared :=
  if shared.store.Withholds raffleId choice then
    { shared with missed := raffleId :: shared.missed }
  else shared

/-- The invoice is not decided. -/
def Store.Pending (store : Store) (invoiceId : InvoiceId) : Prop :=
  ∃ invoice ∈ store.db.invoices.rows, invoice.id = invoiceId ∧ invoice.status = .pending

instance (store : Store) (invoiceId : InvoiceId) : Decidable (store.Pending invoiceId) :=
  inferInstanceAs (Decidable (∃ invoice ∈ _, _))

def Shared.unreference (invoiceId : InvoiceId) (shared : Shared) : Shared :=
  if shared.store.Pending invoiceId then
    { shared with unreferenced := invoiceId :: shared.unreferenced }
  else shared

section Step

variable (services : Services)

def Shared.run (op : Option Op) (shared : Shared) : Shared :=
  { shared with store := op.elim shared.store (shared.store.step services.prim) }

/-- What the answer to a request adds to the history. -/
def Shared.record (payload : JobPayload) (choice : Choice) (shared : Shared) :
    (request : Request) → request.Answer → Shared
  | .query (.claimPayout raffleId), .ok none => shared.miss raffleId choice
  | .query (.collectionPaymentReference invoiceId), .ok none => shared.unreference invoiceId
  | .ask (.payInvoice request), .ok _ =>
      ((shared.send ⟨payload, request⟩).pay ⟨payload, request⟩).confirm request.idempotencyKey
  | .ask (.payInvoice request), .error _ => shared.send ⟨payload, request⟩
  | _, _ => shared

/-- A request of a worker, executed by the database or by a service outside. -/
def Shared.perform (workerId : String) (payload : JobPayload) (choice : Choice)
    (shared : Shared) : (request : Request) → request.Answer × Shared
  | .query statement =>
      let answer := statement.answer services.prim shared.store workerId choice
      let after := shared.run services (statement.op shared.store workerId choice)
      match choice.fault with
      | some fault => (.error (.sqlx fault.error), if fault.committed then after else shared)
      | none => (answer, after.record payload choice (.query statement) answer)
  | .ask question =>
      (choice.reply question,
        shared.record payload choice (.ask question) (choice.reply question))

/-! ## Workers -/

/-- What a run of a job has been told. -/
structure Memory where
  /-- The payment provider has answered that the payment is settled. -/
  settled : Bool := false
  /-- The blocks that the database has confirmed as canonical. -/
  canonical : List (UInt64 × Hash32) := []

def Request.remember : (request : Request) → request.Answer → Memory → Memory
  | ask (.getPayment _), .ok .settled, memory => { memory with settled := true }
  | query (.canonicalBlockMatches height blockHash), .ok true, memory =>
      { memory with canonical := (height, blockHash) :: memory.canonical }
  | _, _, memory => memory

/-- A worker between two jobs, at work on one, or gone. -/
inductive Worker where
  | idle
  | busy (job : ClaimedJob) (task : Task Round) (memory : Memory)
  | stopped

/-- A worker that is not listed has not worked yet. -/
structure World where
  shared : Shared
  workers : List (String × Worker)

def World.start : World := ⟨.empty, []⟩

def World.worker (world : World) (workerId : String) : Worker :=
  (world.workers.lookup workerId).getD .idle

def World.withWorker (world : World) (workerId : String) (worker : Worker) : World :=
  { world with
    workers := (workerId, worker) :: world.workers.filter fun other => other.1 ≠ workerId }

def World.withShared (world : World) (shared : Shared) : World := { world with shared }

/-- The transactions of the API. -/
def Op.fromApi : Op → Bool
  | createOrganizer _ => true
  | createDraftRaffle _ => true
  | transitionRaffle .. => true
  | updateRaffle .. => true
  | createCollectionInvoice _ => true
  | storeCollectionInvoice .. => true
  | failCollectionInvoice _ => true
  | recordWebhookAndEnqueue .. => true
  | retryDeadJob .. => true
  | _ => false

inductive Action where
  | api (op : Op)
  | schedule (workerId : String) (jobIds : RaffleId → Uuid) (now : ℤ)
  | claim (workerId : String) (choice : Choice)
  | work (workerId : String) (choice : Choice)
  | finish (workerId : String) (choice : Choice)
  | crash (workerId : String)
  | rollback (payoutId : Uuid)
  | deliver (workerId : String)
  | pay (index : ℕ)

/-- A transaction whose answer does not matter. -/
def Shared.transact (choice : Choice) (op : Op) (shared : Shared) : Shared :=
  match choice.fault with
  | some fault => if fault.committed then shared.run services (some op) else shared
  | none => shared.run services (some op)

/-- An idle worker claims a job and starts it. -/
def World.claim (world : World) (workerId : String) (choice : Choice) : World :=
  let shared := world.shared.transact services choice
    (.claimJob workerId jobLeaseSeconds choice.now choice.locked choice.pick)
  match world.worker workerId, choice.fault,
      claimJob workerId jobLeaseSeconds choice.now choice.locked choice.pick
        world.shared.store.db with
  | .idle, none, .ok (_, some job) =>
      (world.withShared shared).withWorker workerId
        (.busy job (reconcilePayment services job) {})
  | .idle, _, _ => world.withShared shared
  | _, _, _ => world

/-- A busy worker makes its next request. -/
def World.work (world : World) (workerId : String) (choice : Choice) : World :=
  match world.worker workerId with
  | .busy job (.call request next) memory =>
      if request.waits world.shared.store then world
      else
        let (answer, shared) := world.shared.perform services workerId job.payload choice request
        (world.withShared shared).withWorker workerId
          (.busy job (next answer) (request.remember answer memory))
  | _ => world

/-- A worker starts the next round of its job, or reports how the job ended. -/
def World.finish (world : World) (workerId : String) (choice : Choice) : World :=
  match world.worker workerId with
  | .busy job (.done (.ok .again)) memory =>
      world.withWorker workerId (.busy job (reconcilePayment services job) memory)
  | .busy job (.done (.ok .finished)) _ =>
      (world.withShared (world.shared.transact services choice
        (.succeedJob job.id workerId))).withWorker workerId .idle
  | .busy job (.done (.error error)) _ =>
      (world.withShared (world.shared.transact services choice
        (.failOrRetryJob job workerId retryAfterSeconds error choice.now))).withWorker workerId
          .idle
  | _ => world

/-- The provider receives a request before it answers. -/
def World.deliver (world : World) (workerId : String) : World :=
  match world.worker workerId with
  | .busy job (.call (.ask (.payInvoice request)) _) _ =>
      world.withShared (world.shared.send ⟨job.payload, request⟩)
  | _ => world

def World.step (world : World) : Action → World
  | .api op => if op.fromApi then world.withShared (world.shared.run services (some op)) else world
  | .schedule workerId jobIds now =>
      match world.worker workerId with
      | .idle => world.withShared (world.shared.run services (some (.scheduleDueCloses jobIds now)))
      | _ => world
  | .claim workerId choice => world.claim services workerId choice
  | .work workerId choice => world.work services workerId choice
  | .finish workerId choice => world.finish services workerId choice
  | .crash workerId => world.withWorker workerId .stopped
  | .rollback payoutId =>
      world.withShared (world.shared.run services (some (.rollbackSettle payoutId)))
  | .deliver workerId => world.deliver workerId
  | .pay index =>
      match world.shared.sent[index]? with
      | some payment => world.withShared (world.shared.pay payment)
      | none => world

/-- The world after a list of actions, from an empty database. -/
def World.after (actions : List Action) : World :=
  StateMachine.run (World.step services) .start actions

end Step

end OpenPool
