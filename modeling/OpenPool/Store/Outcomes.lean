import OpenPool.Store.Reachable

/-! # What an answer of the store means

The postconditions of the operations whose answers decide how a job goes on. -/

namespace OpenPool

open Fallible

variable {db db' : Database}

/-! ## Payouts -/

theorem PayoutRow.before_total (a b : PayoutRow) : a.before b = true ∨ b.before a = true := by
  simp only [PayoutRow.before, decide_eq_true_eq]
  omega

theorem PayoutRow.before_trans (a b c : PayoutRow) (h : a.before b = true)
    (h' : b.before c = true) : a.before c = true := by
  simp only [PayoutRow.before, decide_eq_true_eq] at h h' ⊢
  omega

/-- A claim that finds nothing has no candidate, and changes nothing. -/
theorem claimPayout_none {raffleId : RaffleId} {workerId : String} {now : ℤ} {choice : ℕ}
    {locked : List Uuid} (h : claimPayout raffleId workerId now choice locked db = .ok (db', none)) :
    db' = db ∧ payoutCandidates raffleId now locked db = [] := by
  unfold claimPayout at h
  split at h
  · rename_i hnone
    cases h
    exact ⟨rfl, eq_nil_of_firstBy PayoutRow.before_total PayoutRow.before_trans hnone⟩
  · rename_i candidate hcandidate
    simp only [bind_eq_ok_iff, sql_eq_ok_iff, pure_eq_ok_iff, Prod.mk.injEq] at h
    obtain ⟨⟨payouts, returned⟩, hpayouts, -, hreturned⟩ := h
    have hmem := (Table.mem_select.mp (firstBy_mem hcandidate)).1
    have hfound : candidate ∈ db.payouts.rows.filter (·.id = candidate.id) :=
      List.mem_filter.mpr ⟨hmem, decide_eq_true rfl⟩
    obtain rfl : returned = [] := List.head?_eq_none_iff.mp hreturned
    rw [List.map_eq_nil_iff.mp (Table.rows_of_update hpayouts).2.symm] at hfound
    cases hfound

/-- A claim returns a row of the raffle. -/
theorem claimPayout_some {raffleId : RaffleId} {workerId : String} {now : ℤ} {choice : ℕ}
    {locked : List Uuid} {row : PayoutRow}
    (h : claimPayout raffleId workerId now choice locked db = .ok (db', some row)) :
    row ∈ db'.payouts.rows ∧ row.raffleId = raffleId := by
  unfold claimPayout at h
  split at h
  · cases h
  · rename_i candidate hcandidate
    simp only [bind_eq_ok_iff, sql_eq_ok_iff, pure_eq_ok_iff, Prod.mk.injEq] at h
    obtain ⟨⟨payouts, returned⟩, hpayouts, rfl, hreturned⟩ := h
    obtain ⟨hcandidateMem, hfilter⟩ := Table.mem_select.mp (firstBy_mem hcandidate)
    have hclaimable := (of_decide_eq_true hfilter).1
    obtain ⟨hrows, hreturnedRows⟩ := Table.rows_of_update hpayouts
    have hmem := List.mem_of_head? hreturned
    rw [hreturnedRows] at hmem
    obtain ⟨old, hold, rfl⟩ := List.mem_map.mp hmem
    obtain ⟨holdMem, hid⟩ := List.mem_filter.mp hold
    refine ⟨?_, ?_⟩
    · change old.claimed workerId now ∈ payouts.rows
      rw [hrows]
      exact List.mem_map.mpr ⟨old, holdMem, if_pos hid⟩
    · rw [← (of_decide_eq_true hclaimable).1,
        ← eq_of_payout_id holdMem hcandidateMem (of_decide_eq_true hid)]
      rfl

/-! ## Settlement of invoices -/

/-- A settlement that succeeds leaves an entry. -/
theorem settleInvoice_entry {sha256 : List UInt8 → Hash32} {invoiceId : InvoiceId}
    {entryId : EntryId} {settledAt : ℤ} {entry : LedgerEntry}
    (h : settleInvoiceAndAppendEntry sha256 invoiceId entryId settledAt db = .ok (db', entry)) :
    ∃ row ∈ db'.entries.rows, row.invoiceId = invoiceId := by
  obtain ⟨invoice, hinvoice, hcases⟩ := settleInvoice_cases h
  obtain rfl : invoice.id = invoiceId := by simpa using (Table.mem_of_find hinvoice).2
  rcases hcases with ⟨-, rfl, hentry⟩ | ⟨-, happend⟩
  · simp only [settledEntry, bind_eq_ok_iff, fetchOne_eq_ok_iff] at hentry
    obtain ⟨row, hrow, -⟩ := hentry
    obtain ⟨hmem, hid⟩ := Table.mem_of_find hrow
    exact ⟨row, hmem, of_decide_eq_true hid⟩
  · obtain ⟨row, hmem, hrow⟩ := row_of_appendEntry happend
    exact ⟨row, hmem, (keys_of_entryRowFor hrow).1⟩

/-! ## The error of a settlement in a raffle that is not open -/

section NotOpen

theorem avoids_sql {α : Type} {statement : Except Table.Violation α} :
    Avoids .raffleNotOpen (sql statement) :=
  avoids_mapError fun _ => nofun

theorem avoids_execute {Row : Type} [Schema Row] {filter : Row → Bool} {set : Row → Row}
    {table : Table Row} : Avoids .raffleNotOpen (execute filter set table) :=
  avoids_sql.bind fun _ _ => avoids_ok _

theorem avoids_asU64 {value : ℤ} : Avoids .raffleNotOpen (asU64 value) := by
  unfold asU64
  split <;> exact nofun

theorem avoids_asI64 {value : UInt64} : Avoids .raffleNotOpen (asI64 value) := by
  unfold asI64
  split <;> exact nofun

theorem avoids_hashFromBytes {value : List UInt8} :
    Avoids .raffleNotOpen (hashFromBytes value) := by
  unfold hashFromBytes
  split <;> exact nofun

theorem avoids_ledgerEntryFromRow {row : EntryRow} :
    Avoids .raffleNotOpen (ledgerEntryFromRow row) :=
  avoids_asU64.bind fun _ _ => avoids_hashFromBytes.bind fun _ _ =>
    avoids_hashFromBytes.bind fun _ _ => avoids_asU64.bind fun _ _ => avoids_asU64.bind fun _ _ =>
      avoids_asU64.bind fun _ _ => Avoids.bind (avoids_mapError fun _ => nofun) fun _ _ =>
        avoids_hashFromBytes.bind fun _ _ => avoids_hashFromBytes.bind fun _ _ => avoids_ok _

theorem avoids_entryFor {sha256 : List UInt8 → Hash32} {invoice : InvoiceRow} {raffle : RaffleRow}
    {entryIndex : ℕ} {entryId : EntryId} {settledAt : ℤ} :
    Avoids .raffleNotOpen (entryFor sha256 invoice raffle entryIndex entryId settledAt) := by
  have hhead : Avoids .raffleNotOpen raffle.chainHead := by
    unfold RaffleRow.chainHead
    split
    · exact avoids_hashFromBytes
    · exact avoids_ok _
  exact avoids_asU64.bind fun _ _ => avoids_asU64.bind fun _ _ =>
    Avoids.bind (avoids_orElse nofun) fun _ _ => hhead.bind fun _ _ => avoids_asU64.bind fun _ _ =>
      avoids_hashFromBytes.bind fun _ _ => avoids_hashFromBytes.bind fun _ _ =>
        avoids_asU64.bind fun _ _ => Avoids.bind (avoids_mapError fun _ => nofun) fun _ _ =>
          avoids_ok _

theorem avoids_entryRowFor {invoiceId : InvoiceId} {settledAt : ℤ} {entry : LedgerEntry} :
    Avoids .raffleNotOpen (entryRowFor invoiceId settledAt entry) :=
  avoids_asI64.bind fun _ _ => avoids_asI64.bind fun _ _ => avoids_asI64.bind fun _ _ =>
    avoids_asI64.bind fun _ _ => avoids_ok _

/-- Where the raffle is open, a new entry fails in other ways only. -/
theorem avoids_appendEntry {sha256 : List UInt8 → Hash32} {invoice : InvoiceRow}
    {entryId : EntryId} {settledAt : ℤ}
    (hopen : ∀ raffle, db.raffles.find (·.id = invoice.raffleId) = some raffle →
      raffle.status = .opened) :
    Avoids .raffleNotOpen (appendEntry sha256 invoice entryId settledAt db) := by
  refine Avoids.bind (avoids_ensure nofun) fun _ _ => Avoids.bind (avoids_orElse nofun)
    fun raffle hraffle => ?_
  have hstatus := hopen raffle ((orElse_eq_ok_iff _ _ _).mp hraffle)
  rw [ensure_of _ _ hstatus, ok_bind]
  exact avoids_entryFor.bind fun _ _ => avoids_entryRowFor.bind fun _ _ => avoids_sql.bind fun _ _ =>
    avoids_asU64.bind fun _ _ => Avoids.bind (avoids_orElse nofun) fun _ _ =>
      avoids_execute.bind fun _ _ => avoids_asI64.bind fun _ _ => avoids_asI64.bind fun _ _ =>
        avoids_execute.bind fun _ _ => avoids_ok _

/-- The invoice is not settled and its raffle is not open. -/
theorem settleInvoice_notOpen {sha256 : List UInt8 → Hash32} {invoiceId : InvoiceId}
    {entryId : EntryId} {settledAt : ℤ}
    (h : settleInvoiceAndAppendEntry sha256 invoiceId entryId settledAt db =
      .error .raffleNotOpen) :
    ∃ invoice ∈ db.invoices.rows, invoice.id = invoiceId ∧ invoice.status ≠ .settled ∧
      ∃ raffle, db.raffles.find (·.id = invoice.raffleId) = some raffle ∧
        raffle.status ≠ .opened := by
  by_contra hnone
  push Not at hnone
  suffices havoids : Avoids .raffleNotOpen
      (settleInvoiceAndAppendEntry sha256 invoiceId entryId settledAt db) from havoids h
  refine Avoids.bind (avoids_orElse nofun) fun invoice hinvoice => ?_
  obtain ⟨hmem, hid⟩ := Table.mem_of_find ((orElse_eq_ok_iff _ _ _).mp hinvoice)
  split
  · cases hentry : settledEntry invoiceId db with
    | ok entry => exact nofun
    | error error =>
        intro heq
        obtain rfl : error = .raffleNotOpen := Except.error.inj heq
        have havoids : Avoids .raffleNotOpen (settledEntry invoiceId db) :=
          Avoids.bind (avoids_orElse nofun) fun _ _ => avoids_ledgerEntryFromRow
        exact havoids hentry
  · rename_i hunsettled
    exact avoids_appendEntry (hnone invoice hmem (of_decide_eq_true hid) hunsettled)

end NotOpen

/-! ## Refunds and final statuses -/

theorem markLateSettlementForRefund_refund {invoiceId : InvoiceId} {refundId result : Uuid}
    (h : markLateSettlementForRefund invoiceId refundId db = .ok (db', result)) :
    ∃ refund ∈ db'.refunds.rows, refund.invoiceId = invoiceId ∧ refund.reason = .lateSettlement := by
  simp only [markLateSettlementForRefund, bind_eq_ok_iff, fetchOne_eq_ok_iff, pure_eq_ok_iff,
    Prod.mk.injEq] at h
  obtain ⟨invoice, -, invoices, -, ⟨refunds, inserted⟩, -, refund, hrefund, rfl, -⟩ := h
  obtain ⟨hmem, hfilter⟩ := Table.mem_of_find hrefund
  exact ⟨refund, hmem, of_decide_eq_true hfilter⟩

theorem InvoiceStatus.isFinal_iff {status : InvoiceStatus} :
    status.isFinal = true ↔ status ≠ .pending := by
  cases status <;> simp [InvoiceStatus.isFinal]

/-- An invoice that is marked uncollectible is final. -/
theorem markCollectionUncollectible_final {invoiceId : InvoiceId} {u : Unit} {invoice : InvoiceRow}
    (h : markCollectionUncollectible invoiceId db = .ok (db', u))
    (hmem : invoice ∈ db.invoices.rows) (hid : invoice.id = invoiceId) :
    ∃ invoice' ∈ db'.invoices.rows, invoice'.id = invoiceId ∧ invoice'.status.isFinal = true := by
  simp only [markCollectionUncollectible, bind_eq_ok_iff, execute_eq_ok_iff, pure_eq_ok_iff,
    Prod.mk.injEq] at h
  obtain ⟨invoices, ⟨returned, hinvoices⟩, rfl, -⟩ := h
  refine ⟨if invoice.id = invoiceId ∧ invoice.status = .pending then
    invoice.withStatus .collectionFailed else invoice, ?_, ?_⟩
  · change _ ∈ invoices.rows
    rw [(Table.rows_of_update hinvoices).1]
    exact List.mem_map.mpr ⟨invoice, hmem, by simp only [decide_eq_true_eq]⟩
  · by_cases hpending : invoice.status = .pending
    · rw [if_pos ⟨hid, hpending⟩]
      exact ⟨hid, rfl⟩
    · rw [if_neg fun hboth => hpending hboth.2]
      exact ⟨hid, InvoiceStatus.isFinal_iff.mpr hpending⟩

/-- Without pending invoices every invoice of the raffle is final. -/
theorem final_of_pendingInvoices {raffleId : RaffleId} (h : pendingInvoices raffleId db = 0) :
    ∀ invoice ∈ (db.view raffleId).invoices, invoice.status.isFinal = true := by
  intro invoice hmem
  obtain ⟨hrow, hraffle⟩ := Table.mem_select.mp hmem
  refine InvoiceStatus.isFinal_iff.mpr fun hpending => ?_
  have hnone := List.countP_eq_zero.mp h invoice hrow
  exact hnone (decide_eq_true ⟨of_decide_eq_true hraffle, hpending⟩)

theorem collectionPaymentReference_found {invoiceId : InvoiceId} {reference : Option String}
    (h : collectionPaymentReference invoiceId db = .ok reference) :
    ∃ invoice ∈ db.invoices.rows, invoice.id = invoiceId := by
  simp only [collectionPaymentReference, bind_eq_ok_iff, orElse_eq_ok_iff] at h
  obtain ⟨invoice, hinvoice, -⟩ := h
  obtain ⟨hmem, hid⟩ := Table.mem_of_find hinvoice
  exact ⟨invoice, hmem, of_decide_eq_true hid⟩

end OpenPool
