import OpenPool.Store.Jobs

/-! # Organizers and raffles -/

namespace OpenPool

open Fallible

structure NewOrganizer where
  id : OrganizerId
  displayName : String
  lightningAddressCiphertext : List UInt8
  deriving DecidableEq

structure NewDraftRaffle where
  id : RaffleId
  organizerId : OrganizerId
  name : String
  entryPriceSats : Sats
  startTime : ℤ
  endTime : ℤ
  randomnessDelayBlocks : ℤ
  payoutSplit : PayoutSplit
  deriving DecidableEq

def createOrganizer (organizer : NewOrganizer) (db : Database) :
    Except PersistenceError (Database × Unit) := do
  let organizers ← sql (db.organizers.insert
    ⟨organizer.id, organizer.displayName, organizer.lightningAddressCiphertext⟩)
  return ({ db with organizers }, ())

/-- The row of `payout_splits` for a split. -/
def PayoutSplit.row (split : PayoutSplit) (raffleId : RaffleId) : PayoutSplitRow where
  raffleId
  winnerBps := i32From split.winner.asU16
  organizerBps := i32From split.organizer.asU16
  platformBps := i32From split.platform.asU16

def createDraftRaffle (raffle : NewDraftRaffle) (db : Database) :
    Except PersistenceError (Database × Unit) := do
  let entryPriceSats ← asI64 raffle.entryPriceSats.asU64
  references (db.organizers.has (·.id = raffle.organizerId))
  let raffles ← sql (db.raffles.insert {
    id := raffle.id
    organizerId := raffle.organizerId
    name := raffle.name
    entryPriceSats
    startTime := toTimestamp raffle.startTime
    endTime := toTimestamp raffle.endTime
    randomnessDelayBlocks := raffle.randomnessDelayBlocks })
  let payoutSplits ← sql (db.payoutSplits.insert (raffle.payoutSplit.row raffle.id))
  return ({ db with raffles, payoutSplits }, ())

/-- The moves `transition_raffle` makes. -/
def RaffleStatus.mayMove (current target : RaffleStatus) : Bool :=
  (current = .draft ∧ target = .scheduled) ∨ (current = .scheduled ∧ target = .opened) ∨
    ((current = .draft ∨ current = .scheduled ∨ current = .opened) ∧ target = .cancelled)

/-- A target that is no status text is `none`; it matches no row. -/
def transitionRaffle (organizerId : OrganizerId) (raffleId : RaffleId)
    (status : Option RaffleStatus) (db : Database) : Except PersistenceError (Database × Unit) := do
  let status ← orElse status .invalidStatus
  let (raffles, returned) ← sql (db.raffles.update
    (fun row => row.id = raffleId ∧ row.organizerId = organizerId ∧ row.status.mayMove status)
    fun row => { row with status })
  ensure (returned.length = 1) .invalidStatus
  return ({ db with raffles }, ())

def updateRaffle (organizerId : OrganizerId) (raffle : NewDraftRaffle) (db : Database) :
    Except PersistenceError (Database × Unit) := do
  let entryPriceSats ← asI64 raffle.entryPriceSats.asU64
  let (raffles, returned) ← sql (db.raffles.update
    (fun row => row.id = raffle.id ∧ row.organizerId = organizerId ∧
      (row.status = .draft ∨ row.status = .scheduled))
    fun row => { row with
      name := raffle.name
      entryPriceSats
      startTime := toTimestamp raffle.startTime
      endTime := toTimestamp raffle.endTime
      randomnessDelayBlocks := raffle.randomnessDelayBlocks })
  ensure (returned.length = 1) .invalidStatus
  let payoutSplits ← execute (fun row => row.raffleId = raffle.id)
    (fun _ => raffle.payoutSplit.row raffle.id) db.payoutSplits
  return ({ db with raffles, payoutSplits }, ())

/-- The job of `kind` that exists once for the raffle. -/
def insertRaffleJob (id : Uuid) (kind : JobKind) (raffleId : RaffleId) (now : ℤ)
    (db : Database) : Except PersistenceError Database :=
  insertJob id kind raffleId.uuid.toString (.raffle raffleId) now db

/-- The job inserts of `schedule_due_closes`, one for each returned raffle. -/
def insertCloseJobs (jobIds : RaffleId → Uuid) (now : ℤ) :
    Database → List RaffleRow → Except PersistenceError Database
  | db, [] => .ok db
  | db, row :: rows => do
      let db ← insertRaffleJob (jobIds row.id) .raffleClose row.id now db
      insertCloseJobs jobIds now db rows

def scheduleDueCloses (jobIds : RaffleId → Uuid) (now : ℤ) (db : Database) :
    Except PersistenceError (Database × ℕ) := do
  let (raffles, returned) ← sql (db.raffles.update
    (fun row => row.status = .opened ∧ row.endTime ≤ now)
    fun row => { row with status := .closing })
  let db ← insertCloseJobs jobIds now { db with raffles } returned
  return (db, returned.length)

section Freeze

variable (sha256 : List UInt8 → Hash32)

/-- The stored chain head, or the zero hash of an empty ledger. -/
def RaffleRow.chainHead (row : RaffleRow) : Except PersistenceError Hash32 :=
  match row.entryChainHead with
  | some value => hashFromBytes value
  | none => .ok zeroHash

def freezeRaffle (raffleId : RaffleId) (jobId : Uuid) (now : ℤ) (db : Database) :
    Except PersistenceError (Database × Hash32) := do
  let row ← fetchOne (db.raffles.find (·.id = raffleId))
  ensure (row.status = .closing) .invalidStatus
  let count ← asU64 (db.entries.count (·.raffleId = raffleId))
  let chainHead ← row.chainHead
  let root := entriesRoot sha256 raffleId count chainHead
  let status : RaffleStatus := if row.totalTickets = 0 then .cancelled else .randomnessPending
  let raffles ← execute (fun row => row.id = raffleId)
    (fun row => { row with status, entriesRoot := some root.val }) db.raffles
  let db ← applyIf (row.totalTickets ≠ 0) (insertRaffleJob jobId .raffleDraw raffleId now)
    { db with raffles }
  return (db, root)

end Freeze

structure FrozenDrawContext where
  endTime : ℤ
  randomnessDelayBlocks : ℤ
  deriving DecidableEq

def frozenDrawContext (raffleId : RaffleId) (db : Database) :
    Except PersistenceError FrozenDrawContext := do
  let row ← orElse
    (db.raffles.find fun row => row.id = raffleId ∧ row.status = .randomnessPending)
    .invalidStatus
  return ⟨ofTimestamp row.endTime, row.randomnessDelayBlocks⟩

end OpenPool
