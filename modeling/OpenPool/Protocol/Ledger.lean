import Mathlib.Algebra.BigOperators.Group.List.Basic
import OpenPool.Library.HashChain
import OpenPool.Library.Tiling
import OpenPool.Protocol.Domain

/-! # The entry ledger

Canonical encodings, hashes and the summary of a ledger, over an abstract SHA-256. -/

namespace OpenPool

open Fallible

inductive ProtocolError where
  | invalidHashEncoding
  | emptyLedger
  | mixedRaffleIds
  | nonConsecutiveEntryIndex (expected actual : UInt64)
  | nonContiguousTicketRange (expected actual : UInt64)
  | previousHashMismatch (index : UInt64)
  | entryHashMismatch (index : UInt64)
  | invalidTicketCount (index : UInt64)
  | satsOverflow
  | entryCountOverflow
  | zeroTickets
  | totalTicketsMismatch (expected actual : UInt64)
  | entriesRootMismatch
  | winningEntryNotFound (ticket : UInt64)
  | proofSerialization (error : String)
  deriving DecidableEq

/-- The texts of `Display`. -/
def ProtocolError.toString : ProtocolError → String
  | invalidHashEncoding => "hash must be a 32-byte hexadecimal string"
  | emptyLedger => "ledger cannot be empty"
  | mixedRaffleIds => "ledger contains entries from different raffles"
  | nonConsecutiveEntryIndex expected actual =>
      s!"entry index must be consecutive: expected {expected}, got {actual}"
  | nonContiguousTicketRange expected actual =>
      s!"ticket ranges must be contiguous: expected start {expected}, got {actual}"
  | previousHashMismatch index => s!"entry {index} previous hash does not match the chain"
  | entryHashMismatch index => s!"entry {index} hash does not match canonical input"
  | invalidTicketCount index => s!"entry {index} has an invalid ticket count"
  | satsOverflow => "satoshi total overflowed u64"
  | entryCountOverflow => "entry count overflowed u64"
  | zeroTickets => "winner selection requires at least one ticket"
  | totalTicketsMismatch expected actual =>
      s!"ledger has {expected} tickets but draw input has {actual}"
  | entriesRootMismatch => "draw input entries root does not match the ledger"
  | winningEntryNotFound ticket => s!"no entry owns winning ticket {ticket}"
  | proofSerialization error => s!"proof serialization failed: {error}"

def zeroHash : Hash32 := ⟨List.replicate 32 0, rfl⟩

structure EntryData where
  raffleId : RaffleId
  entryId : EntryId
  entryIndex : UInt64
  participantPublicId : Hash32
  paymentReferenceHash : Hash32
  amountSats : Sats
  ticketRange : TicketRange
  settledAtUnixMs : Int64
  deriving DecidableEq

structure LedgerEntry where
  data : EntryData
  previousEntryHash : Hash32
  entryHash : Hash32
  deriving DecidableEq

structure LedgerSummary where
  entryCount : UInt64
  totalTickets : UInt64
  totalPoolSats : Sats
  entryChainHead : Hash32
  entriesRoot : Hash32
  deriving DecidableEq

/-! ## Encodings -/

def entryTag : List UInt8 := "OPENPOOL-ENTRY-V1".toUTF8.toList ++ [0]

def entriesTag : List UInt8 := "OPENPOOL-ENTRIES-V1".toUTF8.toList ++ [0]

/-- The fields an entry hash covers, in order. The entry id is not among them. -/
def entryFields (data : EntryData) (previousEntryHash : Hash32) : List (List UInt8) :=
  [entryTag,
    data.raffleId.uuid.val,
    toBeBytes data.entryIndex,
    data.participantPublicId.val,
    data.paymentReferenceHash.val,
    toBeBytes data.amountSats.asU64,
    toBeBytes data.ticketRange.count,
    toBeBytes data.ticketRange.start,
    toBeBytes data.ticketRange.stop,
    i64ToBeBytes data.settledAtUnixMs,
    previousEntryHash.val]

def entryPreimage (data : EntryData) (previousEntryHash : Hash32) : List UInt8 :=
  (entryFields data previousEntryHash).flatten

def entriesRootFields (raffleId : RaffleId) (entryCount : UInt64) (entryChainHead : Hash32) :
    List (List UInt8) :=
  [entriesTag, raffleId.uuid.val, toBeBytes entryCount, entryChainHead.val]

def entriesRootPreimage (raffleId : RaffleId) (entryCount : UInt64) (entryChainHead : Hash32) :
    List UInt8 :=
  (entriesRootFields raffleId entryCount entryChainHead).flatten

/-- The part of an entry that its hash covers besides the previous hash. -/
structure HashedFields where
  raffleId : RaffleId
  entryIndex : UInt64
  participantPublicId : Hash32
  paymentReferenceHash : Hash32
  amountSats : Sats
  ticketRange : TicketRange
  settledAtUnixMs : Int64
  deriving DecidableEq

def EntryData.hashed (data : EntryData) : HashedFields :=
  ⟨data.raffleId, data.entryIndex, data.participantPublicId, data.paymentReferenceHash,
    data.amountSats, data.ticketRange, data.settledAtUnixMs⟩

theorem entryPreimage_inj {a b : EntryData} {p q : Hash32} :
    entryPreimage a p = entryPreimage b q ↔ a.hashed = b.hashed ∧ p = q := by
  have hwidth : (entryFields a p).map List.length = (entryFields b q).map List.length := by
    simp [entryFields]
  rw [entryPreimage, entryPreimage, Bytes.flatten_inj hwidth]
  obtain ⟨⟨ar⟩, ae, ai, ap, ah, ⟨aa⟩, ⟨as, at_⟩, am⟩ := a
  obtain ⟨⟨br⟩, be, bi, bp, bh, ⟨ba⟩, ⟨bs, bt⟩, bm⟩ := b
  simp only [entryFields, EntryData.hashed, List.cons.injEq, true_and, and_true, toBeBytes_inj,
    Subtype.val_inj, HashedFields.mk.injEq, RaffleId.mk.injEq, Sats.mk.injEq,
    TicketRange.mk.injEq, i64ToBeBytes_inj]
  constructor
  · rintro ⟨rfl, rfl, rfl, rfl, rfl, -, rfl, rfl, rfl, rfl⟩
    simp
  · rintro ⟨⟨rfl, rfl, rfl, rfl, rfl, ⟨rfl, rfl⟩, rfl⟩, rfl⟩
    simp

theorem entriesRootPreimage_inj {r s : RaffleId} {m n : UInt64} {g h : Hash32} :
    entriesRootPreimage r m g = entriesRootPreimage s n h ↔ r = s ∧ m = n ∧ g = h := by
  have hwidth : (entriesRootFields r m g).map List.length =
      (entriesRootFields s n h).map List.length := by
    simp [entriesRootFields]
  rw [entriesRootPreimage, entriesRootPreimage, Bytes.flatten_inj hwidth]
  obtain ⟨r⟩ := r
  obtain ⟨s⟩ := s
  simp [entriesRootFields, toBeBytes_inj, Subtype.val_inj]

/-! ## The summary -/

section Summary

variable (sha256 : List UInt8 → Hash32)

def entryHash (data : EntryData) (previousEntryHash : Hash32) : Hash32 :=
  sha256 (entryPreimage data previousEntryHash)

def entriesRoot (raffleId : RaffleId) (entryCount : UInt64) (entryChainHead : Hash32) : Hash32 :=
  sha256 (entriesRootPreimage raffleId entryCount entryChainHead)

def LedgerEntry.create (data : EntryData) (previousEntryHash : Hash32) : LedgerEntry :=
  ⟨data, previousEntryHash, OpenPool.entryHash sha256 data previousEntryHash⟩

/-- The variables of the loop in `summarizeLedger`. -/
structure LedgerCursor where
  expectedTicketStart : UInt64
  previousHash : Hash32
  totalPoolSats : UInt64
  deriving DecidableEq

def LedgerCursor.start : LedgerCursor := ⟨0, zeroHash, 0⟩

/-- The loop body, for the entry at `position`. -/
def summarizeEntry (raffleId : RaffleId) (position : ℕ) (cursor : LedgerCursor)
    (entry : LedgerEntry) : Except ProtocolError LedgerCursor := do
  let expectedIndex ← orElse (u64TryFrom position) .entryCountOverflow
  ensure (entry.data.raffleId = raffleId) .mixedRaffleIds
  ensure (entry.data.entryIndex = expectedIndex)
    (.nonConsecutiveEntryIndex expectedIndex entry.data.entryIndex)
  ensure (entry.data.ticketRange.isValid = true) (.invalidTicketCount expectedIndex)
  ensure (entry.data.ticketRange.start = cursor.expectedTicketStart)
    (.nonContiguousTicketRange cursor.expectedTicketStart entry.data.ticketRange.start)
  ensure (entry.previousEntryHash = cursor.previousHash) (.previousHashMismatch expectedIndex)
  ensure (entry.entryHash = entryHash sha256 entry.data cursor.previousHash)
    (.entryHashMismatch expectedIndex)
  let totalPoolSats ←
    orElse (checkedAdd cursor.totalPoolSats entry.data.amountSats.asU64) .satsOverflow
  return ⟨entry.data.ticketRange.stop, entry.entryHash, totalPoolSats⟩

def summarizeEntries (raffleId : RaffleId) :
    ℕ → LedgerCursor → List LedgerEntry → Except ProtocolError LedgerCursor
  | _, cursor, [] => .ok cursor
  | position, cursor, entry :: entries => do
      let cursor ← summarizeEntry sha256 raffleId position cursor entry
      summarizeEntries raffleId (position + 1) cursor entries

def summarizeLedger (entries : List LedgerEntry) : Except ProtocolError LedgerSummary := do
  let first ← orElse entries.head? .emptyLedger
  let raffleId := first.data.raffleId
  let cursor ← summarizeEntries sha256 raffleId 0 .start entries
  let entryCount ← orElse (u64TryFrom entries.length) .entryCountOverflow
  return {
    entryCount
    totalTickets := cursor.expectedTicketStart
    totalPoolSats := ⟨cursor.totalPoolSats⟩
    entryChainHead := cursor.previousHash
    entriesRoot := entriesRoot sha256 raffleId entryCount cursor.previousHash }

def LedgerEntry.index (entry : LedgerEntry) : ℕ := entry.data.entryIndex.toNat

theorem map_index_eq_range_iff (entries : List LedgerEntry) :
    entries.map LedgerEntry.index = List.range entries.length ↔
      ∀ i (h : i < entries.length), entries[i].index = i := by
  constructor
  · intro h i hi
    have hget := congrArg (fun indices => indices[i]?) h
    simpa [hi] using hget
  · intro h
    apply List.ext_getElem
    · simp
    · intro i hi _
      simpa using h i (by simpa using hi)

def LedgerEntry.ticketStart (entry : LedgerEntry) : ℕ := entry.data.ticketRange.start.toNat

def LedgerEntry.ticketStop (entry : LedgerEntry) : ℕ := entry.data.ticketRange.stop.toNat

def LedgerEntry.sats (entry : LedgerEntry) : ℕ := entry.data.amountSats.asU64.toNat

/-- The hash an entry should carry after `previous`. -/
def LedgerEntry.digest (entry : LedgerEntry) (previous : Hash32) : Hash32 :=
  OpenPool.entryHash sha256 entry.data previous

/-- A stretch of a ledger that takes the totals from `before` to `after`, in exact arithmetic. -/
structure LedgerSegment (raffleId : RaffleId) (position : ℕ) (before : LedgerCursor)
    (entries : List LedgerEntry) (after : LedgerCursor) : Prop where
  raffle : ∀ entry ∈ entries, entry.data.raffleId = raffleId
  index : entries.map LedgerEntry.index = List.range' position entries.length
  tiles : Tiling.Tiles LedgerEntry.ticketStart LedgerEntry.ticketStop
    before.expectedTicketStart.toNat entries after.expectedTicketStart.toNat
  chained : HashChain.Chained LedgerEntry.previousEntryHash LedgerEntry.entryHash
    (LedgerEntry.digest sha256) before.previousHash entries
  head : after.previousHash = HashChain.head LedgerEntry.entryHash before.previousHash entries
  pool : before.totalPoolSats.toNat + (entries.map LedgerEntry.sats).sum =
    after.totalPoolSats.toNat

variable {sha256}

theorem summarizeEntry_eq_ok_iff (raffleId : RaffleId) (position : ℕ) (before after : LedgerCursor)
    (entry : LedgerEntry) :
    summarizeEntry sha256 raffleId position before entry = .ok after ↔
      entry.data.raffleId = raffleId ∧ entry.index = position ∧
      entry.ticketStart = before.expectedTicketStart.toNat ∧
      entry.ticketStart < entry.ticketStop ∧
      entry.previousEntryHash = before.previousHash ∧
      entry.entryHash = entry.digest sha256 before.previousHash ∧
      after.totalPoolSats.toNat = before.totalPoolSats.toNat + entry.sats ∧
      after.expectedTicketStart = entry.data.ticketRange.stop ∧
      after.previousHash = entry.entryHash := by
  obtain ⟨start, head, pool⟩ := after
  simp only [summarizeEntry, bind_eq_ok_iff, orElse_eq_ok_iff, ensure_eq_ok_iff, pure_eq_ok_iff,
    u64TryFrom_eq_some_iff, checkedAdd_eq_some_iff, TicketRange.isValid_iff, LedgerCursor.mk.injEq,
    exists_const, LedgerEntry.index, LedgerEntry.ticketStart, LedgerEntry.ticketStop,
    LedgerEntry.sats, LedgerEntry.digest]
  constructor
  · rintro ⟨_, rfl, hraffle, rfl, hvalid, hstart, hprevious, hhash, _, hpool, rfl, rfl, rfl⟩
    exact ⟨hraffle, rfl, by rw [hstart], hvalid, hprevious, hhash, hpool, rfl, rfl⟩
  · rintro ⟨hraffle, hindex, hstart, hvalid, hprevious, hhash, hpool, rfl, rfl⟩
    exact ⟨_, hindex, hraffle, rfl, hvalid, UInt64.toNat_inj.mp hstart, hprevious, hhash, _, hpool,
      rfl, rfl, rfl⟩

theorem ledgerSegment_nil (raffleId : RaffleId) (position : ℕ) (before after : LedgerCursor) :
    LedgerSegment sha256 raffleId position before [] after ↔ before = after := by
  constructor
  · intro h
    obtain ⟨start, head, pool⟩ := before
    obtain ⟨start', head', pool'⟩ := after
    have hstart := h.tiles
    have hhead := h.head
    have hpool := h.pool
    simp only [Tiling.tiles_nil, HashChain.head_nil, List.map_nil, List.sum_nil,
      Nat.add_zero, UInt64.toNat_inj] at hstart hhead hpool
    rw [hstart, hhead, hpool]
  · rintro rfl
    exact ⟨by simp, rfl, rfl, trivial, rfl, rfl⟩

theorem ledgerSegment_cons (raffleId : RaffleId) (position : ℕ) (before after : LedgerCursor)
    (entry : LedgerEntry) (entries : List LedgerEntry) :
    LedgerSegment sha256 raffleId position before (entry :: entries) after ↔
      ∃ middle, summarizeEntry sha256 raffleId position before entry = .ok middle ∧
        LedgerSegment sha256 raffleId (position + 1) middle entries after := by
  simp only [summarizeEntry_eq_ok_iff]
  constructor
  · intro h
    obtain ⟨hstart, hvalid, htiles⟩ := h.tiles
    obtain ⟨hprevious, hhash, hchained⟩ := h.chained
    have hindex := h.index
    have hpool := h.pool
    simp only [List.map_cons, List.length_cons, List.range'_succ, List.cons.injEq,
      List.sum_cons] at hindex hpool
    have hlt := after.totalPoolSats.toNat_lt
    have hmiddle : (UInt64.ofNat (before.totalPoolSats.toNat + entry.sats)).toNat =
        before.totalPoolSats.toNat + entry.sats := UInt64.toNat_ofNat_of_lt' (by
      change _ < 2 ^ 64
      omega)
    refine ⟨⟨entry.data.ticketRange.stop, entry.entryHash, _⟩,
      ⟨h.raffle entry (by simp), hindex.1, hstart, hvalid, hprevious, hhash, hmiddle, rfl, rfl⟩, ?_⟩
    exact {
      raffle := fun other hmem => h.raffle other (by simp [hmem])
      index := hindex.2
      tiles := htiles
      chained := hchained
      head := h.head
      pool := by
        rwa [← Nat.add_assoc, ← hmiddle] at hpool }
  · rintro ⟨⟨start, head, pool⟩,
      ⟨hraffle, hindex, hstart, hvalid, hprevious, hhash, hpool, rfl, rfl⟩, h⟩
    exact {
      raffle := by simpa [hraffle] using h.raffle
      index := by simp [List.range'_succ, hindex, h.index]
      tiles := ⟨hstart, hvalid, h.tiles⟩
      chained := ⟨hprevious, hhash, h.chained⟩
      head := h.head
      pool := by
        have := h.pool
        simp only [List.map_cons, List.sum_cons] at this hpool ⊢
        omega }

/-- The loop accepts a stretch of entries exactly when it is a segment. -/
theorem summarizeEntries_eq_ok_iff (raffleId : RaffleId) (position : ℕ)
    (before after : LedgerCursor) (entries : List LedgerEntry) :
    summarizeEntries sha256 raffleId position before entries = .ok after ↔
      LedgerSegment sha256 raffleId position before entries after := by
  induction entries generalizing position before with
  | nil => simp [summarizeEntries, ledgerSegment_nil]
  | cons entry entries ih =>
      simp only [summarizeEntries, bind_eq_ok_iff, ih, ledgerSegment_cons]

theorem ledgerSegment_append (raffleId : RaffleId) (position : ℕ) (before after : LedgerCursor)
    (front back : List LedgerEntry) :
    LedgerSegment sha256 raffleId position before (front ++ back) after ↔
      ∃ middle, LedgerSegment sha256 raffleId position before front middle ∧
        LedgerSegment sha256 raffleId (position + front.length) middle back after := by
  induction front generalizing position before with
  | nil => simp [ledgerSegment_nil]
  | cons entry front ih =>
      simp only [List.cons_append, ledgerSegment_cons, ih, List.length_cons]
      constructor
      · rintro ⟨first, hfirst, middle, hfront, hback⟩
        exact ⟨middle, ⟨first, hfirst, hfront⟩, by rwa [Nat.add_comm front.length, ← Nat.add_assoc]⟩
      · rintro ⟨middle, ⟨first, hfirst, hfront⟩, hback⟩
        exact ⟨first, hfirst, middle, hfront, by rwa [Nat.add_assoc, Nat.add_comm 1]⟩

/-- What the summary of an accepted ledger says about its entries. -/
structure LedgerAccepted (sha256 : List UInt8 → Hash32) (raffleId : RaffleId)
    (entries : List LedgerEntry) (summary : LedgerSummary) : Prop where
  nonempty : entries ≠ []
  raffle : ∀ entry ∈ entries, entry.data.raffleId = raffleId
  index : entries.map LedgerEntry.index = List.range entries.length
  tiles : Tiling.Tiles LedgerEntry.ticketStart LedgerEntry.ticketStop
    0 entries summary.totalTickets.toNat
  chained : HashChain.Chained LedgerEntry.previousEntryHash LedgerEntry.entryHash
    (LedgerEntry.digest sha256) zeroHash entries
  count : summary.entryCount.toNat = entries.length
  pool : (entries.map LedgerEntry.sats).sum = summary.totalPoolSats.asU64.toNat
  head : summary.entryChainHead = HashChain.head LedgerEntry.entryHash zeroHash entries
  root : summary.entriesRoot = entriesRoot sha256 raffleId summary.entryCount summary.entryChainHead

/-- The totals an accepted ledger ends with. -/
def LedgerSummary.cursor (summary : LedgerSummary) : LedgerCursor :=
  ⟨summary.totalTickets, summary.entryChainHead, summary.totalPoolSats.asU64⟩

theorem ledgerAccepted_iff_segment (raffleId : RaffleId) (entries : List LedgerEntry)
    (summary : LedgerSummary) :
    LedgerAccepted sha256 raffleId entries summary ↔
      entries ≠ [] ∧ LedgerSegment sha256 raffleId 0 .start entries summary.cursor ∧
        summary.entryCount.toNat = entries.length ∧
        summary.entriesRoot =
          entriesRoot sha256 raffleId summary.entryCount summary.entryChainHead := by
  have hzero : LedgerCursor.start.totalPoolSats.toNat = 0 := rfl
  constructor
  · intro h
    refine ⟨h.nonempty, ⟨h.raffle, ?_, h.tiles, h.chained, h.head, ?_⟩, h.count, h.root⟩
    · rw [h.index, List.range_eq_range']
    · rw [hzero, Nat.zero_add]
      exact h.pool
  · rintro ⟨hne, h, hcount, hroot⟩
    refine ⟨hne, h.raffle, ?_, h.tiles, h.chained, hcount, ?_, h.head, hroot⟩
    · rw [h.index, List.range_eq_range']
    · have hpool := h.pool
      rwa [hzero, Nat.zero_add] at hpool

/-- The summary exists exactly for the ledgers described by `LedgerAccepted`. -/
theorem summarizeLedger_eq_ok_iff (entries : List LedgerEntry) (summary : LedgerSummary) :
    summarizeLedger sha256 entries = .ok summary ↔
      ∃ raffleId, LedgerAccepted sha256 raffleId entries summary := by
  simp only [ledgerAccepted_iff_segment, summarizeLedger, bind_eq_ok_iff, orElse_eq_ok_iff,
    pure_eq_ok_iff, summarizeEntries_eq_ok_iff, u64TryFrom_eq_some_iff]
  constructor
  · rintro ⟨first, hfirst, cursor, hsegment, count, hcount, rfl⟩
    have hne : entries ≠ [] := by
      rintro rfl
      cases hfirst
    exact ⟨first.data.raffleId, hne, hsegment, hcount, rfl⟩
  · rintro ⟨raffleId, hne, hsegment, hcount, hroot⟩
    have hraffle : (entries.head hne).data.raffleId = raffleId :=
      hsegment.raffle _ (List.head_mem hne)
    obtain ⟨count, tickets, ⟨pool⟩, head, root⟩ := summary
    refine ⟨entries.head hne, List.head?_eq_some_head hne, _, by rwa [hraffle], count, hcount, ?_⟩
    simp only at hroot
    rw [hraffle, hroot]
    rfl

theorem LedgerAccepted.summarizeLedger_eq {raffleId : RaffleId} {entries : List LedgerEntry}
    {summary : LedgerSummary} (h : LedgerAccepted sha256 raffleId entries summary) :
    summarizeLedger sha256 entries = .ok summary :=
  (summarizeLedger_eq_ok_iff entries summary).mpr ⟨raffleId, h⟩

/-- The end of a tiling is a `u64`, so an entry count never overflows one. -/
theorem LedgerSegment.length_lt {raffleId : RaffleId} {position : ℕ} {before after : LedgerCursor}
    {entries : List LedgerEntry} (h : LedgerSegment sha256 raffleId position before entries after) :
    entries.length < 2 ^ 64 := by
  have hlength := h.tiles.length_le
  have hlt := after.expectedTicketStart.toNat_lt
  omega

end Summary

end OpenPool
