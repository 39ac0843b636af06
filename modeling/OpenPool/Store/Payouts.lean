import OpenPool.Store.Draws

/-! # Payouts

`settle_payout` is a transaction of several statements without a lock on the raffle row, so
it is modelled statement by statement. Under `READ COMMITTED` each statement sees what was
committed before it, and the transaction's own writes. The writes of an open transaction
become visible at its commit; until then its payout row is locked. -/

namespace OpenPool

open Fallible

structure ClaimedPayout where
  id : Uuid
  raffleId : RaffleId
  recipientType : RecipientType
  amountSats : Sats
  idempotencyKey : String
  deriving DecidableEq

/-! ## Claiming -/

/-- The rows the `candidate` query of `claim_payout` selects from. -/
def PayoutRow.claimable (raffleId : RaffleId) (now : ℤ) (row : PayoutRow) : Bool :=
  row.raffleId = raffleId ∧ (row.status = .pending ∨ row.status = .failed ∨
    (row.status = .processing ∧ ∃ expiry ∈ row.leaseExpiresAt, expiry < now))

/-- The order of the `candidate` query of `claim_payout`: expired leases first. -/
def PayoutRow.before (a b : PayoutRow) : Bool :=
  let rank (row : PayoutRow) : ℕ := if row.status = .processing then 0 else 1
  rank a < rank b ∨ (rank a = rank b ∧ a.createdAt ≤ b.createdAt)

def PayoutRow.claimed (workerId : String) (now : ℤ) (row : PayoutRow) : PayoutRow :=
  { row with
    status := .processing
    failureReason := none
    leaseOwner := some workerId
    leaseExpiresAt := some (now + 60000000) }

/-- Decodes the row that `claim_payout` returns, after the statement has committed. -/
def ClaimedPayout.ofRow (row : PayoutRow) : Except PersistenceError ClaimedPayout := do
  let amountSats ← asU64 row.amountSats
  return ⟨row.id, row.raffleId, row.recipientType, ⟨amountSats⟩, row.idempotencyKey⟩

/-- The unlocked rows `claim_payout` can pick (`FOR UPDATE SKIP LOCKED`). -/
def payoutCandidates (raffleId : RaffleId) (now : ℤ) (locked : List Uuid) (db : Database) :
    List PayoutRow :=
  db.payouts.select fun row => row.claimable raffleId now ∧ row.id ∉ locked

/-- Atomically claims one retryable payout before any provider call. -/
def claimPayout (raffleId : RaffleId) (workerId : String) (now : ℤ) (choice : ℕ)
    (locked : List Uuid) (db : Database) : Except PersistenceError (Database × Option PayoutRow) :=
  match firstBy PayoutRow.before (payoutCandidates raffleId now locked db) choice with
  | none => .ok (db, none)
  | some candidate => do
      let (payouts, returned) ← sql (db.payouts.update (fun row => row.id = candidate.id)
        (PayoutRow.claimed workerId now))
      return ({ db with payouts }, returned.head?)

/-- The row is being processed by the worker. -/
def PayoutRow.heldBy (id : Uuid) (workerId : String) (row : PayoutRow) : Bool :=
  row.id = id ∧ row.status = .processing ∧ row.leaseOwner = some workerId

def failPayout (payoutId : Uuid) (workerId reason : String) (db : Database) :
    Except PersistenceError (Database × Unit) := do
  let payouts ← execute (PayoutRow.heldBy payoutId workerId)
    (fun row => { row with
      status := .failed
      failureReason := some reason
      leaseOwner := none
      leaseExpiresAt := none }) db.payouts
  return ({ db with payouts }, ())

/-! ## Recipients -/

/-- The first row of the join of a draw with its entry and its invoice. -/
def winnerAddress (raffleId : RaffleId) (db : Database) : Option (Option (List UInt8)) := do
  let draw ← db.draws.find (·.raffleId = raffleId)
  let entry ← db.entries.find (·.id = draw.winnerEntryId)
  let invoice ← db.invoices.find (·.id = entry.invoiceId)
  return invoice.payoutAddressCiphertext

def organizerAddress (raffleId : RaffleId) (db : Database) : Option (Option (List UInt8)) := do
  let raffle ← db.raffles.find (·.id = raffleId)
  let organizer ← db.organizers.find (·.id = raffle.organizerId)
  return some organizer.lightningAddressCiphertext

/-- `fetch_optional` of one `BYTEA` column: a `NULL` in the row does not decode. -/
def decodeAddress : Option (Option (List UInt8)) → Except PersistenceError (Option (List UInt8))
  | none => .ok none
  | some none => .error (.sqlx .columnDecode)
  | some (some ciphertext) => .ok (some ciphertext)

def payoutRecipientCiphertext (payout : ClaimedPayout) (db : Database) :
    Except PersistenceError (Option (List UInt8)) :=
  match payout.recipientType with
  | .winner => decodeAddress (winnerAddress payout.raffleId db)
  | .organizer => decodeAddress (organizerAddress payout.raffleId db)
  | .platform => .ok none
  | .refund => .error .invalidStatus

/-! ## Settling -/

/-- How far a `settle_payout` transaction has come. -/
inductive SettleStage where
  | updated
  | counted (remaining : ℕ)
  | paidOut
  | enqueued (jobId : Uuid) (now : ℤ)
  deriving DecidableEq

structure SettleTransaction where
  payoutId : Uuid
  workerId : String
  providerReference : String
  raffleId : RaffleId
  stage : SettleStage
  deriving DecidableEq

def PayoutRow.settledWith (providerReference : String) (row : PayoutRow) : PayoutRow :=
  { row with
    status := .settled
    providerReference := some providerReference
    leaseOwner := none
    leaseExpiresAt := none }

/-- The first statement: `UPDATE payouts … RETURNING raffle_id`. -/
def beginSettle (payoutId : Uuid) (workerId providerReference : String) (db : Database) :
    Except PersistenceError SettleTransaction := do
  let row ← fetchOne (db.payouts.find (PayoutRow.heldBy payoutId workerId))
  return ⟨payoutId, workerId, providerReference, row.raffleId, .updated⟩

/-- A payout row as the transaction sees it. -/
def SettleTransaction.sees (transaction : SettleTransaction) (row : PayoutRow) : PayoutRow :=
  if row.id = transaction.payoutId then row.settledWith transaction.providerReference else row

/-- The raffle's payouts that are not settled, as the transaction sees them. -/
def SettleTransaction.remaining (transaction : SettleTransaction) (db : Database) : ℕ :=
  (db.payouts.rows.map transaction.sees).countP fun row =>
    row.raffleId = transaction.raffleId ∧ row.status ≠ .settled

/-- The second statement counts them. -/
def SettleTransaction.countUnsettled (db : Database) (transaction : SettleTransaction) :
    Option SettleStage :=
  match transaction.stage with
  | .updated => some (.counted (transaction.remaining db))
  | _ => none

/-- The third statement follows a count of zero. -/
def SettleTransaction.markPaidOut (transaction : SettleTransaction) : Option SettleStage :=
  match transaction.stage with
  | .counted 0 => some .paidOut
  | _ => none

/-- The fourth statement inserts the proof job. -/
def SettleTransaction.enqueueProof (jobId : Uuid) (now : ℤ) (transaction : SettleTransaction) :
    Option SettleStage :=
  match transaction.stage with
  | .paidOut => some (.enqueued jobId now)
  | _ => none

/-- The transaction has made its last statement. -/
def SettleStage.done : SettleStage → Bool
  | .counted remaining => remaining ≠ 0
  | .enqueued _ _ => true
  | _ => false

/-- `UPDATE raffles SET status = 'PAID_OUT' … AND status = 'PAYOUT_PENDING'`. -/
def markPaidOut (raffleId : RaffleId) (db : Database) : Except PersistenceError Database := do
  let raffles ← execute (fun row => row.id = raffleId ∧ row.status = .payoutPending)
    (fun row => { row with status := .paidOut }) db.raffles
  return { db with raffles }

/-- The writes that follow the count, where the transaction has made them. -/
def SettleStage.finish (raffleId : RaffleId) : SettleStage → Database →
    Except PersistenceError (Database × Bool)
  | .enqueued jobId now, db => do
      let db ← markPaidOut raffleId db
      let db ← insertRaffleJob jobId .proofGenerate raffleId now db
      return (db, true)
  | _, db => .ok (db, false)

/-- The database with the writes of the transaction, whose row is still locked. -/
def SettleTransaction.commit (transaction : SettleTransaction) (db : Database) :
    Except PersistenceError (Database × Bool) := do
  let payouts ← execute (PayoutRow.heldBy transaction.payoutId transaction.workerId)
    (PayoutRow.settledWith transaction.providerReference) db.payouts
  transaction.stage.finish transaction.raffleId { db with payouts }

end OpenPool
