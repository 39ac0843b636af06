import OpenPool.Library.Json
import OpenPool.Library.Sha256
import OpenPool.Protocol.Draw

/-! # Proof documents -/

namespace OpenPool

open Fallible

def protocolVersion : String := "OPENPOOL-1"

structure FreezeFacts where
  entryCount : UInt64
  totalTickets : UInt64
  totalPoolSats : Sats
  entryChainHead : Hash32
  entriesRoot : Hash32
  deriving DecidableEq

structure BitcoinFacts where
  closeBlockHeight : UInt64
  randomnessBlockHeight : UInt64
  randomnessBlockHash : Hash32
  deriving DecidableEq

structure ProofPayload where
  protocolVersion : String
  raffleId : RaffleId
  payoutSplit : PayoutSplit
  entries : List LedgerEntry
  freeze : FreezeFacts
  bitcoin : BitcoinFacts
  draw : DrawResult
  payouts : PayoutAmounts
  deriving DecidableEq

structure ProofDocument where
  payload : ProofPayload
  proofHash : Hash32
  deriving DecidableEq

/-- The external functions: SHA-256, and the JSON canonicalisation of `serde_jcs`. -/
structure Primitives where
  sha256 : List UInt8 → Hash32
  jcs : ProofPayload → Except String (List UInt8)

def canonicalProofJson (prim : Primitives) (payload : ProofPayload) :
    Except ProtocolError (List UInt8) :=
  (prim.jcs payload).mapError .proofSerialization

def proofHash (prim : Primitives) (payload : ProofPayload) : Except ProtocolError Hash32 := do
  let canonicalJson ← canonicalProofJson prim payload
  return prim.sha256 canonicalJson

def ProofDocument.create (prim : Primitives) (payload : ProofPayload) :
    Except ProtocolError ProofDocument := do
  let proofHash ← OpenPool.proofHash prim payload
  return ⟨payload, proofHash⟩

theorem proofHash_eq_ok_iff (prim : Primitives) (payload : ProofPayload) (hash : Hash32) :
    proofHash prim payload = .ok hash ↔ ∃ json, prim.jcs payload = .ok json ∧
      prim.sha256 json = hash := by
  simp only [proofHash, canonicalProofJson, bind_eq_ok_iff, pure_eq_ok_iff, mapError_eq_ok_iff]

theorem ProofDocument.create_eq_ok_iff (prim : Primitives) (payload : ProofPayload)
    (document : ProofDocument) :
    ProofDocument.create prim payload = .ok document ↔
      document.payload = payload ∧ OpenPool.proofHash prim payload = .ok document.proofHash := by
  simp only [create, bind_eq_ok_iff, pure_eq_ok_iff]
  constructor
  · rintro ⟨hash, hhash, rfl⟩
    exact ⟨rfl, hhash⟩
  · rintro ⟨rfl, hhash⟩
    exact ⟨_, hhash, rfl⟩

/-! ## Serialisation

The derived `Serialize` instances, written as canonical JSON. -/

def jsonHash (hash : Hash32) : List UInt8 := Json.string (String.ofList (Bytes.toHex hash.val))

def jsonUuid (uuid : Uuid) : List UInt8 := Json.string uuid.toString

def jsonU64 (value : UInt64) : List UInt8 := Json.number value.toNat

def TicketRange.toJson (range : TicketRange) : List UInt8 :=
  Json.object [("start", jsonU64 range.start), ("end", jsonU64 range.stop)]

/-- The entry data is flattened into the entry. -/
def LedgerEntry.toJson (entry : LedgerEntry) : List UInt8 :=
  Json.object [
    ("raffle_id", jsonUuid entry.data.raffleId.uuid),
    ("entry_id", jsonUuid entry.data.entryId.uuid),
    ("entry_index", jsonU64 entry.data.entryIndex),
    ("participant_public_id", jsonHash entry.data.participantPublicId),
    ("payment_reference_hash", jsonHash entry.data.paymentReferenceHash),
    ("amount_sats", jsonU64 entry.data.amountSats.asU64),
    ("ticket_range", entry.data.ticketRange.toJson),
    ("settled_at_unix_ms", Json.number entry.data.settledAtUnixMs.toInt),
    ("previous_entry_hash", jsonHash entry.previousEntryHash),
    ("entry_hash", jsonHash entry.entryHash)]

def PayoutSplit.toJson (split : PayoutSplit) : List UInt8 :=
  Json.object [
    ("winner", Json.number split.winner.asU16.toNat),
    ("organizer", Json.number split.organizer.asU16.toNat),
    ("platform", Json.number split.platform.asU16.toNat)]

def FreezeFacts.toJson (freeze : FreezeFacts) : List UInt8 :=
  Json.object [
    ("entry_count", jsonU64 freeze.entryCount),
    ("total_tickets", jsonU64 freeze.totalTickets),
    ("total_pool_sats", jsonU64 freeze.totalPoolSats.asU64),
    ("entry_chain_head", jsonHash freeze.entryChainHead),
    ("entries_root", jsonHash freeze.entriesRoot)]

def BitcoinFacts.toJson (bitcoin : BitcoinFacts) : List UInt8 :=
  Json.object [
    ("close_block_height", jsonU64 bitcoin.closeBlockHeight),
    ("randomness_block_height", jsonU64 bitcoin.randomnessBlockHeight),
    ("randomness_block_hash", jsonHash bitcoin.randomnessBlockHash)]

def DrawResult.toJson (result : DrawResult) : List UInt8 :=
  Json.object [
    ("seed", jsonHash result.seed),
    ("winning_ticket", jsonU64 result.winningTicket),
    ("winner_entry_id", jsonUuid result.winnerEntryId.uuid),
    ("winner_ticket_range", result.winnerTicketRange.toJson)]

def PayoutAmounts.toJson (amounts : PayoutAmounts) : List UInt8 :=
  Json.object [
    ("winner", jsonU64 amounts.winner.asU64),
    ("organizer", jsonU64 amounts.organizer.asU64),
    ("platform", jsonU64 amounts.platform.asU64)]

def ProofPayload.toJson (payload : ProofPayload) : List UInt8 :=
  Json.object [
    ("protocol_version", Json.string payload.protocolVersion),
    ("raffle_id", jsonUuid payload.raffleId.uuid),
    ("payout_split", payload.payoutSplit.toJson),
    ("entries", Json.array (payload.entries.map LedgerEntry.toJson)),
    ("freeze", payload.freeze.toJson),
    ("bitcoin", payload.bitcoin.toJson),
    ("draw", payload.draw.toJson),
    ("payouts", payload.payouts.toJson)]

/-- SHA-256 and canonical JSON as the dependencies compute them. -/
def Primitives.standard : Primitives where
  sha256 := Sha256.digest
  jcs := fun payload => .ok payload.toJson

end OpenPool
