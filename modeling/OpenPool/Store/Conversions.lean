import OpenPool.Store.Schema

/-! # Reading and writing columns -/

namespace OpenPool

open Fallible

inductive SqlxError where
  | rowNotFound
  | columnDecode
  | io
  | violation (kind : Table.Violation)
  deriving DecidableEq

/-- `unexpectedNull` is the panic of `row.get` on `NULL`, which also rolls back. -/
inductive PersistenceError where
  | sqlx (error : SqlxError)
  | domain (error : DomainError)
  | protocol (error : ProtocolError)
  | proofInvalid
  | proofAlreadyPublished
  | notFound (what : String)
  | invoiceNotEligible
  | raffleNotOpen
  | raffleClosed
  | invalidTicketCount
  | invalidStatus
  | integerOverflow
  | invalidHashLength
  | unexpectedNull (column : String)
  deriving DecidableEq

/-- The texts of `Display`, with the texts of `sqlx` as a parameter. -/
def PersistenceError.toString (describe : SqlxError → String) : PersistenceError → String
  | sqlx error => describe error
  | domain error => error.toString
  | protocol error => error.toString
  | proofInvalid => "generated proof did not pass the native verifier"
  | proofAlreadyPublished =>
      "proof was already published with different immutable object metadata"
  | notFound what => s!"{what} was not found"
  | invoiceNotEligible => "invoice is not eligible for settlement"
  | raffleNotOpen => "raffle is not open"
  | raffleClosed => "raffle is closed for new invoices"
  | invalidTicketCount => "ticket count must be positive"
  | invalidStatus => "raffle is not in the required state"
  | integerOverflow => "integer conversion or addition overflowed"
  | invalidHashLength => "database hash is not 32 bytes"
  | unexpectedNull column => s!"unexpected null in {column}"

/-- A statement whose constraint violation ends the operation. -/
def sql {α : Type} (statement : Except Table.Violation α) : Except PersistenceError α :=
  statement.mapError fun kind => .sqlx (.violation kind)

/-- An `UPDATE` whose rows are not returned. -/
def execute {Row : Type} [Schema Row] (filter : Row → Bool) (set : Row → Row)
    (table : Table Row) : Except PersistenceError (Table Row) := do
  let (table, _) ← sql (table.update filter set)
  return table

/-- A foreign key to a row that has to exist. -/
def references (condition : Bool) : Except PersistenceError Unit :=
  ensure (condition = true) (.sqlx (.violation .foreignKey))

/-- `fetch_one`. -/
def fetchOne {α : Type} (row : Option α) : Except PersistenceError α :=
  orElse row (.sqlx .rowNotFound)

@[simp] theorem sql_eq_ok_iff {α : Type} (statement : Except Table.Violation α) (a : α) :
    sql statement = .ok a ↔ statement = .ok a :=
  mapError_eq_ok_iff _ _ _

theorem execute_eq_ok_iff {Row : Type} [Schema Row] (filter : Row → Bool) (set : Row → Row)
    (table table' : Table Row) :
    execute filter set table = .ok table' ↔
      ∃ returned, table.update filter set = .ok (table', returned) := by
  simp only [execute, bind_eq_ok_iff, sql_eq_ok_iff, pure_eq_ok_iff]
  constructor
  · rintro ⟨⟨_, returned⟩, hupdate, rfl⟩
    exact ⟨returned, hupdate⟩
  · rintro ⟨returned, hupdate⟩
    exact ⟨_, hupdate, rfl⟩

@[simp] theorem references_eq_ok_iff (condition : Bool) (u : Unit) :
    references condition = .ok u ↔ condition = true :=
  ensure_eq_ok_iff _ _ _

@[simp] theorem fetchOne_eq_ok_iff {α : Type} (row : Option α) (a : α) :
    fetchOne row = .ok a ↔ row = some a :=
  orElse_eq_ok_iff _ _ _

/-! ## Integers -/

/-- `u64::try_from` on a `BIGINT`. -/
def asU64 (value : ℤ) : Except PersistenceError UInt64 :=
  if 0 ≤ value ∧ value < 2 ^ 64 then .ok (UInt64.ofNat value.toNat) else .error .integerOverflow

/-- `i64::try_from` on a `u64`. -/
def asI64 (value : UInt64) : Except PersistenceError ℤ :=
  if value.toNat < 2 ^ 63 then .ok value.toNat else .error .integerOverflow

/-- The cast `as u16` on an `INTEGER`. -/
def castU16 (value : ℤ) : UInt16 := UInt16.ofNat (value % 2 ^ 16).toNat

/-- `i32::from` on a `u16`. -/
def i32From (value : UInt16) : ℤ := value.toNat

theorem asU64_eq_ok_iff (value : ℤ) (result : UInt64) :
    asU64 value = .ok result ↔ value = result.toNat := by
  have hlt := result.toNat_lt
  unfold asU64
  split
  · rename_i h
    have hvalue : (UInt64.ofNat value.toNat).toNat = value.toNat :=
      UInt64.toNat_ofNat_of_lt' (by change _ < 2 ^ 64; omega)
    rw [Except.ok.injEq, ← UInt64.toNat_inj, hvalue]
    omega
  · simp only [reduceCtorEq, false_iff]
    omega

theorem asI64_eq_ok_iff (value : UInt64) (result : ℤ) :
    asI64 value = .ok result ↔ result = value.toNat ∧ value.toNat < 2 ^ 63 := by
  unfold asI64
  split
  · rename_i h
    rw [Except.ok.injEq, eq_comm]
    exact ⟨fun heq => ⟨heq, h⟩, And.left⟩
  · rename_i h
    simp only [reduceCtorEq, false_iff, not_and]
    exact fun _ => h

/-! ## Byte strings -/

def hashFromBytes (value : List UInt8) : Except PersistenceError Hash32 :=
  if h : value.length = 32 then .ok ⟨value, h⟩ else .error .invalidHashLength

theorem hashFromBytes_eq_ok_iff (value : List UInt8) (hash : Hash32) :
    hashFromBytes value = .ok hash ↔ value = hash.val := by
  unfold hashFromBytes
  split
  · rw [Except.ok.injEq, ← Subtype.val_inj]
  · rename_i h
    simp only [reduceCtorEq, false_iff]
    rintro rfl
    exact h hash.property

/-! ## Instants

An `OffsetDateTime` is the number of nanoseconds since the Unix epoch. -/

/-- 2000-01-01 UTC. -/
def postgresEpoch : ℤ := 946684800000000000

/-- Binding an instant truncates it to whole microseconds, towards the epoch. -/
def toTimestamp (instant : ℤ) : ℤ := (instant - postgresEpoch).tdiv 1000

def ofTimestamp (timestamp : ℤ) : ℤ := postgresEpoch + timestamp * 1000

/-- `unix_timestamp_nanos().div_euclid(1_000_000) as i64`. -/
def unixMs (instant : ℤ) : Int64 := Int64.ofInt (instant / 1000000)

/-- Storing an instant after the epoch keeps its millisecond. -/
theorem unixMs_ofTimestamp_toTimestamp {instant : ℤ} (h : postgresEpoch ≤ instant) :
    unixMs (ofTimestamp (toTimestamp instant)) = unixMs instant := by
  unfold unixMs ofTimestamp toTimestamp
  rw [Int.tdiv_eq_ediv_of_nonneg (by omega)]
  congr 1
  unfold postgresEpoch at h ⊢
  omega

/-! ## Ledger entries -/

def ledgerEntryFromRow (row : EntryRow) : Except PersistenceError LedgerEntry := do
  let entryIndex ← asU64 row.entryIndex
  let participantPublicId ← hashFromBytes row.participantPublicId
  let paymentReferenceHash ← hashFromBytes row.paymentReferenceHash
  let amountSats ← asU64 row.amountSats
  let ticketStart ← asU64 row.ticketStart
  let ticketEnd ← asU64 row.ticketEnd
  let ticketRange ← (TicketRange.new ticketStart ticketEnd).mapError .domain
  let previousEntryHash ← hashFromBytes row.previousEntryHash
  let entryHash ← hashFromBytes row.entryHash
  return {
    data := {
      raffleId := row.raffleId
      entryId := row.id
      entryIndex, participantPublicId, paymentReferenceHash
      amountSats := ⟨amountSats⟩
      ticketRange
      settledAtUnixMs := unixMs (ofTimestamp row.settledAt) }
    previousEntryHash, entryHash }

/-- The row says what the ledger entry says. -/
structure EntryRow.Reads (row : EntryRow) (entry : LedgerEntry) : Prop where
  id : row.id = entry.data.entryId
  raffleId : row.raffleId = entry.data.raffleId
  entryIndex : row.entryIndex = entry.data.entryIndex.toNat
  participantPublicId : row.participantPublicId = entry.data.participantPublicId.val
  paymentReferenceHash : row.paymentReferenceHash = entry.data.paymentReferenceHash.val
  amountSats : row.amountSats = entry.data.amountSats.asU64.toNat
  ticketStart : row.ticketStart = entry.data.ticketRange.start.toNat
  ticketEnd : row.ticketEnd = entry.data.ticketRange.stop.toNat
  nonempty : entry.data.ticketRange.start.toNat < entry.data.ticketRange.stop.toNat
  settledAt : unixMs (ofTimestamp row.settledAt) = entry.data.settledAtUnixMs
  previousEntryHash : row.previousEntryHash = entry.previousEntryHash.val
  entryHash : row.entryHash = entry.entryHash.val

theorem ledgerEntryFromRow_eq_ok_iff (row : EntryRow) (entry : LedgerEntry) :
    ledgerEntryFromRow row = .ok entry ↔ row.Reads entry := by
  simp only [ledgerEntryFromRow, bind_eq_ok_iff, asU64_eq_ok_iff, hashFromBytes_eq_ok_iff,
    mapError_eq_ok_iff, TicketRange.new_eq_ok_iff, pure_eq_ok_iff]
  constructor
  · rintro ⟨index, hindex, participant, hparticipant, reference, hreference, amount, hamount,
      start, hstart, stop, hstop, range, ⟨rfl, hlt⟩, previous, hprevious, hash, hhash, rfl⟩
    exact ⟨rfl, rfl, hindex, hparticipant, hreference, hamount, hstart, hstop, hlt, rfl, hprevious,
      hhash⟩
  · obtain ⟨⟨raffleId, id, index, participant, reference, ⟨amount⟩, ⟨start, stop⟩, settled⟩,
      previous, hash⟩ := entry
    rintro ⟨rfl, rfl, hindex, hparticipant, hreference, hamount, hstart, hstop, hlt, rfl, hprevious,
      hhash⟩
    exact ⟨index, hindex, participant, hparticipant, reference, hreference, amount, hamount,
      start, hstart, stop, hstop, _, ⟨rfl, hlt⟩, previous, hprevious, hash, hhash, rfl⟩

/-- The rows in the order of a query with `ORDER BY entry_index`. -/
def orderByEntryIndex (rows : List EntryRow) : List EntryRow :=
  rows.insertionSort fun a b => a.entryIndex ≤ b.entryIndex

/-- Rows with the indices from zero on, without gaps, stand in the order of their index. -/
theorem sorted_of_indices {rows : List EntryRow} {count : ℕ}
    (h : rows.map EntryRow.entryIndex = (List.range count).map Nat.cast) :
    rows.Pairwise fun a b => a.entryIndex ≤ b.entryIndex := by
  rw [← List.pairwise_map (f := EntryRow.entryIndex) (R := (· ≤ ·)), h]
  refine List.pairwise_map.mpr (List.pairwise_lt_range.imp fun hlt => ?_)
  exact_mod_cast hlt.le

theorem orderByEntryIndex_eq_self {rows : List EntryRow}
    (h : rows.Pairwise fun a b => a.entryIndex ≤ b.entryIndex) : orderByEntryIndex rows = rows :=
  h.insertionSort_eq

/-- All rows of a query, or the error of the first one that cannot be read. -/
def ledgerEntriesFromRows : List EntryRow → Except PersistenceError (List LedgerEntry)
  | [] => .ok []
  | row :: rows => do
      let entry ← ledgerEntryFromRow row
      let entries ← ledgerEntriesFromRows rows
      return entry :: entries

theorem ledgerEntriesFromRows_eq_mapM (rows : List EntryRow) :
    ledgerEntriesFromRows rows = rows.mapM ledgerEntryFromRow := by
  induction rows with
  | nil => rfl
  | cons row rows ih => rw [ledgerEntriesFromRows, List.mapM_cons, ih]

theorem ledgerEntriesFromRows_eq_ok_iff (rows : List EntryRow) (entries : List LedgerEntry) :
    ledgerEntriesFromRows rows = .ok entries ↔ List.Forall₂ EntryRow.Reads rows entries := by
  rw [ledgerEntriesFromRows_eq_mapM, mapM_eq_ok_iff]
  simp only [ledgerEntryFromRow_eq_ok_iff]

end OpenPool
