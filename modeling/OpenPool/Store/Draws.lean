import OpenPool.Store.Invoices
import OpenPool.Verifier.Semantics

/-! # Bitcoin blocks, draws and proofs -/

namespace OpenPool

open Fallible

/-! ## Canonical blocks -/

/-- `INSERT INTO bitcoin_blocks … ON CONFLICT (block_hash) DO UPDATE`. -/
def upsertBlock (row : BlockRow) (blocks : Table BlockRow) :
    Except PersistenceError (Table BlockRow) :=
  if blocks.has (·.blockHash = row.blockHash) then
    execute (·.blockHash = row.blockHash) (fun existing => { existing with
      previousHash := row.previousHash
      blockTime := row.blockTime
      isCanonical := true }) blocks
  else sql (blocks.insert row)

/-- Persists an observed canonical block; a changed height displaces its descendants too. -/
def recordCanonicalBlock (height : UInt64) (blockHash previousHash : Hash32) (blockTime : ℤ)
    (db : Database) : Except PersistenceError (Database × Unit) := do
  let height ← asI64 height
  let existing := (db.blocks.find fun row => row.height = height ∧ row.isCanonical).map
    BlockRow.blockHash
  let blocks ← applyIf (existing ≠ some blockHash.val)
    (execute (fun row => row.isCanonical ∧ height ≤ row.height)
      fun row => { row with isCanonical := false }) db.blocks
  let blocks ← upsertBlock
    ⟨height, blockHash.val, previousHash.val, toTimestamp blockTime, true⟩ blocks
  return ({ db with blocks }, ())

def canonicalBlockMatches (height : UInt64) (blockHash : Hash32) (db : Database) :
    Except PersistenceError Bool := do
  let height ← asI64 height
  return db.blocks.has fun row =>
    row.height = height ∧ row.blockHash = blockHash.val ∧ row.isCanonical

/-! ## Shared reads -/

/-- The entries of a raffle in the order of their index. -/
def readEntries (raffleId : RaffleId) (db : Database) :
    Except PersistenceError (List LedgerEntry) :=
  ledgerEntriesFromRows (orderByEntryIndex (db.entries.select (·.raffleId = raffleId)))

def PayoutSplitRow.read (row : PayoutSplitRow) : Except PersistenceError PayoutSplit := do
  let winner ← (BasisPoints.new (castU16 row.winnerBps)).mapError .domain
  let organizer ← (BasisPoints.new (castU16 row.organizerBps)).mapError .domain
  let platform ← (BasisPoints.new (castU16 row.platformBps)).mapError .domain
  (PayoutSplit.new winner organizer platform).mapError .domain

def readSplit (raffleId : RaffleId) (db : Database) : Except PersistenceError PayoutSplit := do
  let row ← fetchOne (db.payoutSplits.find (·.raffleId = raffleId))
  row.read

/-- A hash column that may be `NULL`, where the operation needs a value. -/
def requireHash (value : Option (List UInt8)) : Except PersistenceError Hash32 := do
  let value ← orElse value .invalidStatus
  hashFromBytes value

/-! ## The draw -/

def payoutKey (raffleId : RaffleId) (recipient : RecipientType) : String :=
  s!"openpool:{raffleId.uuid.toString}:{recipient.text}"

/-- The recipients in the order in which their payouts are inserted. -/
def payoutList (amounts : PayoutAmounts) : List (RecipientType × UInt64) :=
  [(.winner, amounts.winner.asU64), (.organizer, amounts.organizer.asU64),
    (.platform, amounts.platform.asU64)]

/-- `INSERT INTO payouts … ON CONFLICT (idempotency_key) DO NOTHING` for every positive amount. -/
def insertPayouts (raffleId : RaffleId) (payoutIds : RecipientType → Uuid) (now : ℤ) :
    Database → List (RecipientType × UInt64) → Except PersistenceError Database
  | db, [] => .ok db
  | db, (recipient, amount) :: rest =>
      if 0 < amount.toNat then do
        let amountSats ← asI64 amount
        let (payouts, _) ← sql (db.payouts.insertOrIgnore
          (fun row => row.idempotencyKey = payoutKey raffleId recipient)
          { id := payoutIds recipient, raffleId, recipientType := recipient
            idempotencyKey := payoutKey raffleId recipient, amountSats, createdAt := now })
        insertPayouts raffleId payoutIds now { db with payouts } rest
      else insertPayouts raffleId payoutIds now db rest

/-- The identifiers a draw creates. -/
structure DrawIds where
  draw : Uuid
  payout : RecipientType → Uuid
  job : Uuid

section Operations

variable (prim : Primitives)

/-- Stores exactly one deterministic draw and creates the corresponding payout work. -/
def createDrawAndPayouts (raffleId : RaffleId) (closeHeight : UInt64) (closeHash : Hash32)
    (randomnessHeight : UInt64) (randomnessHash : Hash32) (ids : DrawIds) (now : ℤ)
    (db : Database) : Except PersistenceError (Database × DrawResult) := do
  let raffle ← fetchOne (db.raffles.find (·.id = raffleId))
  ensure (raffle.status = .randomnessPending) .invalidStatus
  let root ← requireHash raffle.entriesRoot
  let entries ← readEntries raffleId db
  let totalTickets ← asU64 raffle.totalTickets
  let result ← (draw prim.sha256 entries {
    raffleId
    entriesRoot := root
    closeBlockHeight := closeHeight
    randomnessBlockHeight := randomnessHeight
    randomnessBlockHash := randomnessHash
    totalTickets }).mapError .protocol
  let split ← readSplit raffleId db
  let totalPoolSats ← asU64 raffle.totalPoolSats
  let amounts := split.allocate ⟨totalPoolSats⟩
  let winningTicket ← asI64 result.winningTicket
  references (db.entries.has (·.id = result.winnerEntryId))
  let draws ← sql (db.draws.insert ⟨ids.draw, raffleId, root.val, randomnessHash.val,
    winningTicket, result.winnerEntryId⟩)
  let db ← insertPayouts raffleId ids.payout now { db with draws } (payoutList amounts)
  let db ← insertRaffleJob ids.job .payoutExecute raffleId now db
  let closeBlockHeight ← asI64 closeHeight
  let randomnessBlockHeight ← asI64 randomnessHeight
  let raffles ← execute (fun row => row.id = raffleId)
    (fun row => { row with
      status := .payoutPending
      closeBlockHeight := some closeBlockHeight
      closeBlockHash := some closeHash.val
      randomnessBlockHeight := some randomnessBlockHeight
      randomnessBlockHash := some randomnessHash.val }) db.raffles
  return ({ db with raffles }, result)

/-- Constructs the canonical terminal proof exclusively from immutable database facts. -/
def generateTerminalProof (raffleId : RaffleId) (proofId : Uuid) (db : Database) :
    Except PersistenceError (Database × ProofDocument) := do
  let raffle ← fetchOne (db.raffles.find (·.id = raffleId))
  ensure (raffle.status = .paidOut) .invalidStatus
  let entries ← readEntries raffleId db
  let root ← requireHash raffle.entriesRoot
  let head ← raffle.chainHead
  let closeHeight ← orElse raffle.closeBlockHeight (.unexpectedNull "close_block_height")
  let closeHeight ← asU64 closeHeight
  let randomnessHeight ← orElse raffle.randomnessBlockHeight
    (.unexpectedNull "randomness_block_height")
  let randomnessHeight ← asU64 randomnessHeight
  let randomnessHash ← requireHash raffle.randomnessBlockHash
  let totalTickets ← asU64 raffle.totalTickets
  let result ← (draw prim.sha256 entries {
    raffleId
    entriesRoot := root
    closeBlockHeight := closeHeight
    randomnessBlockHeight := randomnessHeight
    randomnessBlockHash := randomnessHash
    totalTickets }).mapError .protocol
  let split ← readSplit raffleId db
  let totalPoolSats ← asU64 raffle.totalPoolSats
  let payload : ProofPayload := {
    protocolVersion
    raffleId
    payoutSplit := split
    entries
    freeze := {
      entryCount := UInt64.ofNat (db.entries.count (·.raffleId = raffleId))
      totalTickets
      totalPoolSats := ⟨totalPoolSats⟩
      entryChainHead := head
      entriesRoot := root }
    bitcoin := ⟨closeHeight, randomnessHeight, randomnessHash⟩
    draw := result
    payouts := split.allocate ⟨totalPoolSats⟩ }
  let proof ← (ProofDocument.create prim payload).mapError .protocol
  ensure ((verify prim proof).isVerified = true) .proofInvalid
  let proofs ← sql (db.proofs.insert
    { id := proofId, raffleId, protocolVersion, proofJson := proof
      proofHash := proof.proofHash.val })
  return ({ db with proofs }, proof)

end Operations

/-- A publication that updated no row has to repeat the recorded one. -/
def ensurePublished (raffleId : RaffleId) (storageUri versionId etag : String) (updated : ℕ)
    (proofs : Table ProofRow) : Except PersistenceError Unit :=
  if updated = 1 then .ok ()
  else do
    let existing ← orElse
      (proofs.find fun row => row.raffleId = raffleId ∧ row.protocolVersion = protocolVersion)
      (.notFound "proof")
    ensure (existing.storageUri = some storageUri ∧ existing.storageVersionId = some versionId ∧
      existing.storageEtag = some etag) .proofAlreadyPublished

/-- Commits the identity of a published object; a retry may repeat the exact values. -/
def recordProofPublication (raffleId : RaffleId) (storageUri versionId etag : String) (now : ℤ)
    (db : Database) : Except PersistenceError (Database × Unit) := do
  let (proofs, returned) ← sql (db.proofs.update
    (fun row => row.raffleId = raffleId ∧ row.protocolVersion = protocolVersion ∧
      row.storageUri = none)
    fun row => { row with
      storageUri := some storageUri
      storageVersionId := some versionId
      storageEtag := some etag
      publishedAt := some now })
  ensurePublished raffleId storageUri versionId etag returned.length proofs
  return ({ db with proofs }, ())

end OpenPool
