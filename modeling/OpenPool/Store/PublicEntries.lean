import OpenPool.Store.Draws

/-! # The public list of entries -/

namespace OpenPool

open Fallible

/-! ## Pages -/

structure PublicEntry where
  entryIndex : UInt64
  participantPublicId : String
  paymentReferenceHash : String
  amountSats : UInt64
  ticketStart : UInt64
  ticketEnd : UInt64
  settledAt : ℤ
  entryHash : String
  deriving DecidableEq

structure EntryPage where
  entries : List PublicEntry
  nextCursor : Option UInt64
  deriving DecidableEq

/-- `hex::encode`. -/
def hexEncode (bytes : List UInt8) : String := String.ofList (Bytes.toHex bytes)

/-- The body of the loop of `public_entries`. -/
def publicEntry (row : EntryRow) : Except PersistenceError PublicEntry := do
  let entryIndex ← asU64 row.entryIndex
  let amountSats ← asU64 row.amountSats
  let ticketStart ← asU64 row.ticketStart
  let ticketEnd ← asU64 row.ticketEnd
  return {
    entryIndex, amountSats, ticketStart, ticketEnd
    participantPublicId := hexEncode row.participantPublicId
    paymentReferenceHash := hexEncode row.paymentReferenceHash
    settledAt := ofTimestamp row.settledAt
    entryHash := hexEncode row.entryHash }

/-- One page, with one row more than the limit read to see whether there is another. -/
def publicEntries (raffleId : RaffleId) (cursor : UInt64) (limit : UInt32) (db : Database) :
    Except PersistenceError EntryPage := do
  let first ← asI64 cursor
  let rows := (orderByEntryIndex (db.entries.select fun row =>
    row.raffleId = raffleId ∧ first ≤ row.entryIndex)).take (limit + 1).toNat
  let entries ← (rows.take limit.toNat).mapM publicEntry
  return {
    entries
    nextCursor := if limit.toNat < rows.length then some (cursor + limit.toUInt64) else none }

/-- The query string of `GET /v1/raffles/{id}/entries`. -/
structure EntryQuery where
  cursor : Option UInt64
  limit : Option UInt32

/-- A limit a page can be asked for with. -/
structure PageLimit where
  value : UInt32
  bounds : 1 ≤ value ∧ value ≤ 100

/-- `clamp(1, 100)`. -/
def PageLimit.clamp (limit : UInt32) : PageLimit where
  value := if limit < 1 then 1 else if 100 < limit then 100 else limit
  bounds := by
    split
    · decide
    · split
      · decide
      · exact ⟨UInt32.not_lt.mp ‹_›, UInt32.not_lt.mp ‹_›⟩

/-- Every entry of a raffle in the order of the index, as the pages show it. -/
def publicLedger (raffleId : RaffleId) (db : Database) : Except PersistenceError (List PublicEntry) :=
  (orderByEntryIndex (db.entries.select (·.raffleId = raffleId))).mapM publicEntry

/-! ## The rows of a page -/

theorem PageLimit.one_le (limit : PageLimit) : 1 ≤ limit.value.toNat :=
  UInt32.le_iff_toNat_le.mp limit.bounds.1

theorem PageLimit.le_hundred (limit : PageLimit) : limit.value.toNat ≤ 100 :=
  UInt32.le_iff_toNat_le.mp limit.bounds.2

/-- The query reads one row more than the limit. -/
theorem PageLimit.toNat_succ (limit : PageLimit) :
    (limit.value + 1).toNat = limit.value.toNat + 1 := by
  have hle := limit.le_hundred
  rw [UInt32.toNat_add]
  change (limit.value.toNat + 1) % 2 ^ 32 = _
  omega

/-- Rows numbered in order from `start` on: those with a number from `start + count` on are the
rows after the first `count`. -/
theorem filter_eq_drop {α : Type} {number : α → ℤ} {rows : List α} (start count : ℕ)
    (h : rows.map number = (List.range' start rows.length).map Nat.cast) :
    rows.filter (fun row => (start + count : ℤ) ≤ number row) = rows.drop count := by
  induction rows generalizing start count with
  | nil => simp
  | cons row rows ih =>
      rw [List.length_cons, List.range'_succ, List.map_cons, List.map_cons, List.cons.injEq] at h
      obtain ⟨hrow, hrows⟩ := h
      cases count with
      | zero =>
          rw [List.drop_zero, List.filter_eq_self]
          intro other hmem
          have hnumber : number other ∈ (row :: rows).map number := List.mem_map_of_mem hmem
          rw [List.map_cons, hrow, hrows, ← List.map_cons, ← List.range'_succ] at hnumber
          obtain ⟨n, hn, heq⟩ := List.mem_map.mp hnumber
          have := (List.mem_range'_1.mp hn).1
          exact decide_eq_true (by omega)
      | succ count =>
          have hfirst : ¬ (start + (count + 1 : ℕ) : ℤ) ≤ number row := by omega
          have htail := ih (start + 1) count hrows
          rw [List.filter_cons_of_neg (by simpa using hfirst), List.drop_succ_cons, ← htail]
          refine List.filter_congr fun other _ => ?_
          congr 1
          push_cast
          rw [add_assoc, add_comm (1 : ℤ)]

theorem publicEntry_entryIndex {row : EntryRow} {entry : PublicEntry}
    (h : publicEntry row = .ok entry) : row.entryIndex = entry.entryIndex.toNat := by
  simp only [publicEntry, bind_eq_ok_iff, asU64_eq_ok_iff, pure_eq_ok_iff] at h
  obtain ⟨index, hindex, -, -, -, -, -, -, rfl⟩ := h
  exact hindex

section Pages

variable {raffleId : RaffleId} {db : Database} {all : List PublicEntry}

/-- Where the indices of a raffle have no gaps, a page is the stretch of the ledger from its
cursor on, and its cursor for the next page is there exactly if entries follow. -/
theorem publicEntries_eq (hall : publicLedger raffleId db = .ok all)
    (hindex : (db.entries.select (·.raffleId = raffleId)).map EntryRow.entryIndex =
      (List.range all.length).map Nat.cast)
    {cursor : UInt64} (hcursor : cursor.toNat < 2 ^ 63) (limit : PageLimit) :
    publicEntries raffleId cursor limit.value db =
      .ok ⟨(all.drop cursor.toNat).take limit.value.toNat,
        if cursor.toNat + limit.value.toNat < all.length then
          some (cursor + limit.value.toUInt64) else none⟩ := by
  have hsorted := sorted_of_indices hindex
  rw [publicLedger, orderByEntryIndex_eq_self hsorted, mapM_eq_ok_iff] at hall
  have hrows : (db.entries.select fun row =>
      row.raffleId = raffleId ∧ (cursor.toNat : ℤ) ≤ row.entryIndex) =
      (db.entries.select (·.raffleId = raffleId)).drop cursor.toNat := by
    have hrange := List.range_eq_range' ▸ hall.length_eq ▸ hindex
    rw [← filter_eq_drop 0 cursor.toNat hrange]
    simp only [Table.select, List.filter_filter, Nat.cast_zero, zero_add, Bool.decide_and]
    exact List.filter_congr fun row _ => Bool.and_comm ..
  have hpage : (((db.entries.select (·.raffleId = raffleId)).drop cursor.toNat).take
      limit.value.toNat).mapM publicEntry =
      .ok ((all.drop cursor.toNat).take limit.value.toNat) :=
    (mapM_eq_ok_iff _ _).mpr (List.forall₂_take _ (List.forall₂_drop _ hall))
  have hmore : limit.value.toNat < min (limit.value.toNat + 1) (all.length - cursor.toNat) ↔
      cursor.toNat + limit.value.toNat < all.length := by
    omega
  rw [publicEntries, (asI64_eq_ok_iff cursor _).mpr ⟨rfl, hcursor⟩, ok_bind]
  simp only [hrows, orderByEntryIndex_eq_self (hsorted.drop), limit.toNat_succ, List.take_take,
    List.length_take, List.length_drop, hall.length_eq, hmore]
  rw [Nat.min_eq_left (Nat.le_succ _), hpage]
  rfl

end Pages

end OpenPool
