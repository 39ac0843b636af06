import OpenPool.Protocol.Encoding
import OpenPool.Store.CloseCorrectness
import OpenPool.Store.PagingCorrectness
import OpenPool.Store.PublicReads

/-! # Auditing the pool

A reader who has the public entries recomputes the hash chain and the totals, and compares them
with the pool that is shown. -/

namespace OpenPool

open Fallible

/-! ## The reader's computation -/

/-- The id of an entry is neither hashed nor shown. -/
def LedgerEntry.anonymous (entry : LedgerEntry) : LedgerEntry :=
  { entry with data := { entry.data with entryId := ⟨.replicate 16 0⟩ } }

/-- The entry that is shown, after an entry with the hash `previous`. -/
def PublicEntry.decode (raffleId : RaffleId) (previous : Hash32) (shown : PublicEntry) :
    Except ProtocolError LedgerEntry := do
  let participantPublicId ← Hash32.fromHex shown.participantPublicId
  let paymentReferenceHash ← Hash32.fromHex shown.paymentReferenceHash
  let entryHash ← Hash32.fromHex shown.entryHash
  return {
    data := {
      raffleId
      entryId := ⟨.replicate 16 0⟩
      entryIndex := shown.entryIndex
      participantPublicId, paymentReferenceHash
      amountSats := ⟨shown.amountSats⟩
      ticketRange := ⟨shown.ticketStart, shown.ticketEnd⟩
      settledAtUnixMs := unixMs shown.settledAt }
    previousEntryHash := previous
    entryHash }

def decodeEntries (raffleId : RaffleId) : Hash32 → List PublicEntry →
    Except ProtocolError (List LedgerEntry)
  | _, [] => .ok []
  | previous, shown :: rest => do
      let entry ← shown.decode raffleId previous
      let entries ← decodeEntries raffleId entry.entryHash rest
      return entry :: entries

/-- The pool that follows from the public entries alone. -/
def auditPool (sha256 : List UInt8 → Hash32) (raffleId : RaffleId) (shown : List PublicEntry) :
    Except ProtocolError PublicPool :=
  if shown = [] then .ok ⟨raffleId.uuid, 0, 0, none⟩
  else do
    let entries ← decodeEntries raffleId zeroHash shown
    let summary ← summarizeLedger sha256 entries
    return ⟨raffleId.uuid, summary.totalPoolSats.asU64, summary.totalTickets,
      some (Hash32.toHex summary.entryChainHead)⟩

/-! ## Decoding what is shown -/

section Decoding

variable {sha256 : List UInt8 → Hash32} {raffleId : RaffleId}

theorem LedgerSegment.anonymous {position : ℕ} {before after : LedgerCursor}
    {entries : List LedgerEntry} (h : LedgerSegment sha256 raffleId position before entries after) :
    LedgerSegment sha256 raffleId position before (entries.map LedgerEntry.anonymous) after := by
  induction entries generalizing position before with
  | nil => exact h
  | cons entry entries ih =>
      obtain ⟨middle, hentry, hrest⟩ := (ledgerSegment_cons ..).mp h
      exact (ledgerSegment_cons ..).mpr ⟨middle, hentry, ih hrest⟩

/-- Decoding a shown row loses its id only. -/
theorem PublicEntry.decode_of_shown {row : EntryRow} {entry : LedgerEntry} {shown : PublicEntry}
    (hreads : row.Reads entry) (hshown : publicEntry row = .ok shown)
    (hraffle : entry.data.raffleId = raffleId) :
    shown.decode raffleId entry.previousEntryHash = .ok entry.anonymous := by
  simp only [publicEntry, bind_eq_ok_iff, asU64_eq_ok_iff, pure_eq_ok_iff] at hshown
  obtain ⟨index, hindex, amount, hamount, start, hstart, stop, hstop, rfl⟩ := hshown
  have hfield : ∀ {a b : UInt64} {column : ℤ}, column = a.toNat → column = b.toNat → a = b :=
    fun ha hb => UInt64.toNat_inj.mp (by exact_mod_cast ha.symm.trans hb)
  obtain rfl := hfield hindex hreads.entryIndex
  obtain rfl := hfield hamount hreads.amountSats
  obtain rfl := hfield hstart hreads.ticketStart
  obtain rfl := hfield hstop hreads.ticketEnd
  have hhex : ∀ hash : Hash32,
      Hash32.fromHex (String.ofList (Bytes.toHex hash.val)) = .ok hash := Hash32.fromHex_toHex
  simp only [PublicEntry.decode, hexEncode, hreads.participantPublicId,
    hreads.paymentReferenceHash, hreads.entryHash, hreads.settledAt, hhex, ok_bind, ← hraffle]
  rfl

/-- Decoding the entries of a ledger restores their chain. -/
theorem decodeEntries_of_shown {position : ℕ} {before after : LedgerCursor} {rows : List EntryRow}
    {ledger : List LedgerEntry} {shown : List PublicEntry}
    (hreads : List.Forall₂ EntryRow.Reads rows ledger) (hshown : rows.mapM publicEntry = .ok shown)
    (hsegment : LedgerSegment sha256 raffleId position before ledger after) :
    decodeEntries raffleId before.previousHash shown =
      .ok (ledger.map LedgerEntry.anonymous) := by
  induction hreads generalizing position before shown with
  | nil =>
      rw [mapM_eq_ok_iff] at hshown
      cases hshown
      rfl
  | cons hread _ ih =>
      rename_i row entry rows ledger _
      rw [mapM_eq_ok_iff] at hshown
      cases hshown with
      | cons hfirst hrest =>
        obtain ⟨middle, hentry, htail⟩ := (ledgerSegment_cons ..).mp hsegment
        obtain ⟨hraffle, -, -, -, hprevious, -, -, -, hmiddle⟩ :=
          (summarizeEntry_eq_ok_iff ..).mp hentry
        have hdecoded := PublicEntry.decode_of_shown hread hfirst hraffle
        have hothers := ih ((mapM_eq_ok_iff _ _).mpr hrest) htail
        rw [hmiddle] at hothers
        rw [decodeEntries, ← hprevious, hdecoded, ok_bind]
        change (decodeEntries raffleId entry.entryHash _ >>= _) = _
        rw [hothers]
        rfl

/-- The audit of a tracked ledger gives its totals. -/
theorem Tracks.auditPool {row : RaffleRow} {entries : List EntryRow} {ledger : List LedgerEntry}
    {cursor : LedgerCursor} {shown : List PublicEntry}
    (h : Tracks sha256 raffleId row.columns entries ledger cursor)
    (hshown : entries.mapM publicEntry = .ok shown) :
    auditPool sha256 raffleId shown = .ok ⟨raffleId.uuid, cursor.totalPoolSats,
      cursor.expectedTicketStart, row.entryChainHead.map hexEncode⟩ := by
  have hlength := ((mapM_eq_ok_iff _ _).mp hshown).length_eq
  have hhead : row.entryChainHead = _ := h.head
  unfold OpenPool.auditPool
  by_cases hempty : entries = []
  · have hnil : shown = [] := List.length_eq_zero_iff.mp (by rw [← hlength, hempty]; rfl)
    have hsegment := h.segment
    rw [h.ledger_eq_nil_iff.mpr hempty, ledgerSegment_nil] at hsegment
    rw [if_pos hempty] at hhead
    rw [if_pos hnil, hhead, ← hsegment]
    rfl
  · have hne : shown ≠ [] := fun hnil =>
      hempty (List.length_eq_zero_iff.mp (by rw [hlength, hnil]; rfl))
    have hledger : ledger.map LedgerEntry.anonymous ≠ [] := fun hnil =>
      hempty (h.ledger_eq_nil_iff.mp (List.map_eq_nil_iff.mp hnil))
    have hcount : (UInt64.ofNat ledger.length).toNat = ledger.length :=
      UInt64.toNat_ofNat_of_lt' h.segment.length_lt
    have haccepted : LedgerAccepted sha256 raffleId (ledger.map LedgerEntry.anonymous)
        (cursor.summary sha256 raffleId (UInt64.ofNat ledger.length)) := by
      refine (ledgerAccepted_iff_segment _ _ _).mpr ⟨hledger, h.segment.anonymous, ?_, rfl⟩
      rw [List.length_map]
      exact hcount
    rw [if_neg hempty] at hhead
    rw [if_neg hne, show zeroHash = LedgerCursor.start.previousHash from rfl,
      decodeEntries_of_shown h.reads hshown h.segment, ok_bind, haccepted.summarizeLedger_eq, hhead]
    rfl

end Decoding

/-! ## Runs -/

section Runs

variable {prim : Primitives} {raffleId : RaffleId}

theorem Store.poolBound_after (prim : Primitives) (operations : List Op) (raffleId : RaffleId) :
    PoolBound ((Store.after prim operations).db.view raffleId) := by
  have hstep : ∀ (store : Store) (op : Op),
      (store.Sound prim ∧ PoolBound (store.db.view raffleId)) →
      (store.step prim op).Sound prim ∧ PoolBound ((store.step prim op).db.view raffleId) :=
    fun store op ⟨hsound, hbound⟩ =>
      ⟨hsound.step op, (store.step_raffleStep hsound op).poolBound hbound⟩
  exact (StateMachine.invariant hstep ⟨Store.sound_empty, fun _ hrow => nomatch hrow⟩
    operations).2

theorem Store.entries_run {store : Store} (hsound : store.Sound prim) (operations : List Op) :
    (store.db.view raffleId).entries <+:
      ((StateMachine.run (Store.step prim) store operations).db.view raffleId).entries :=
  StateMachine.run_related (P := Store.Sound prim)
    (R := fun a b => (a.db.view raffleId).entries <+: (b.db.view raffleId).entries)
    (fun _ => List.prefix_rfl) (fun _ _ _ => List.IsPrefix.trans) (fun _ op h => h.step op)
    (fun store op h => (store.step_raffleStep h op).entries_grow) hsound operations

end Runs

/-- The pool that is shown at any time can be recomputed from the public entries, also from a list
that is read later and has grown: the entries that were there give exactly its satoshis, its
tickets and its chain head. -/
theorem public_entries_audit_pool (prim : Primitives) (front back : List Op) (raffleId : RaffleId)
    (pool : PublicPool) (hpool : publicPool raffleId (Store.after prim front).db = .ok pool) :
    ∃ all, publicLedger raffleId (Store.after prim (front ++ back)).db = .ok all ∧
      auditPool prim.sha256 raffleId (all.take ((Store.after prim front).db.entries.count
        (·.raffleId = raffleId))) = .ok pool := by
  have hsound := Store.sound_after prim front
  have hlater := Store.sound_after prim (front ++ back)
  obtain ⟨shown, hshown⟩ := hsound.exists_numberedLedger (Store.poolBound_after prim front raffleId)
  obtain ⟨all, hall⟩ :=
    hlater.exists_numberedLedger (Store.poolBound_after prim (front ++ back) raffleId)
  have hgrow : ((Store.after prim front).db.view raffleId).entries <+:
      ((Store.after prim (front ++ back)).db.view raffleId).entries := by
    rw [Store.after_append]
    exact Store.entries_run hsound back
  refine ⟨all, hall.publicLedger_eq, ?_⟩
  have hcount : (Store.after prim front).db.entries.count (·.raffleId = raffleId) =
      shown.length := by
    rw [Table.count_eq_length, ← ((mapM_eq_ok_iff _ _).mp hshown.shown).length_eq]
    rfl
  rw [hcount, List.prefix_iff_eq_take.mp (hshown.grow hall hgrow) |>.symm]
  simp only [publicPool, bind_eq_ok_iff, orElse_eq_ok_iff, asU64_eq_ok_iff,
    pure_eq_ok_iff] at hpool
  obtain ⟨row, hrow, sats, hsats, tickets, htickets, rfl⟩ := hpool
  obtain ⟨-, ledger, cursor, htracks⟩ := hsound.tracks hrow
  have hcursorSats : row.totalPoolSats = cursor.totalPoolSats.toNat := htracks.pool
  have hcursorTickets : row.totalTickets = cursor.expectedTicketStart.toNat := htracks.tickets
  obtain rfl : sats = cursor.totalPoolSats := UInt64.toNat_inj.mp (by omega)
  obtain rfl : tickets = cursor.expectedTicketStart := UInt64.toNat_inj.mp (by omega)
  exact htracks.auditPool hshown.shown

theorem public_entries_audit_sold_pool : ∃ pool all,
    publicPool SampleRun.raffleId (Store.after .standard SampleRun.sold).db = .ok pool ∧
      publicLedger SampleRun.raffleId (Store.after .standard SampleRun.frozen).db = .ok all ∧
      auditPool Sha256.digest SampleRun.raffleId (all.take ((Store.after .standard
        SampleRun.sold).db.entries.count (·.raffleId = SampleRun.raffleId))) = .ok pool := by
  obtain ⟨pool, hpool⟩ : ∃ pool, publicPool SampleRun.raffleId
      (Store.after .standard SampleRun.sold).db = .ok pool :=
    exists_of_isOk (by decide +kernel)
  obtain ⟨all, hall, haudit⟩ := public_entries_audit_pool .standard SampleRun.sold [
    .scheduleDueCloses (fun _ => SampleRun.uuid 7) 100000000,
    .freezeRaffle SampleRun.raffleId (SampleRun.uuid 8) 100000001] SampleRun.raffleId pool hpool
  exact ⟨pool, all, hpool, hall, haudit⟩

end OpenPool
