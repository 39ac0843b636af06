import OpenPool.Store.Monotone
import OpenPool.Store.LedgerCorrectness

/-! # A settlement is repeated with its first answer

The first answer is built in memory, later ones are read back from the row; the row loses
nothing the answer shows, and neither the row nor the status of its invoice ever changes. -/

namespace OpenPool

open Fallible

/-- The invoice is settled, and its row reads as the entry. -/
structure SettledAs (db : Database) (invoiceId : InvoiceId) (entry : LedgerEntry) : Prop where
  invoice : ∃ invoice ∈ db.invoices.rows, invoice.id = invoiceId ∧ invoice.status = .settled
  entry : ∃ row ∈ db.entries.rows, row.invoiceId = invoiceId ∧ row.Reads entry

section Settlement

variable {sha256 : List UInt8 → Hash32} {db db' : Database} {invoiceId : InvoiceId}
  {entryId : EntryId} {settledAt : ℤ} {entry : LedgerEntry}

theorem settledEntry_settledAs {invoice : InvoiceRow}
    (hinvoice : db.invoices.find (·.id = invoiceId) = some invoice)
    (hsettled : invoice.status = .settled) (h : settledEntry invoiceId db = .ok entry) :
    SettledAs db invoiceId entry := by
  simp only [settledEntry, bind_eq_ok_iff, fetchOne_eq_ok_iff, ledgerEntryFromRow_eq_ok_iff] at h
  obtain ⟨row, hrow, hreads⟩ := h
  obtain ⟨hmem, hid⟩ := Table.mem_of_find hinvoice
  obtain ⟨hrowMem, hrowId⟩ := Table.mem_of_find hrow
  exact ⟨⟨invoice, hmem, of_decide_eq_true hid, hsettled⟩,
    row, hrowMem, of_decide_eq_true hrowId, hreads⟩

/-- A new entry is stored without loss, because its instant is later than the database's epoch. -/
theorem appendEntry_settledAs {invoice : InvoiceRow} (hepoch : postgresEpoch ≤ settledAt)
    (hinvoice : invoice ∈ db.invoices.rows)
    (h : appendEntry sha256 invoice entryId settledAt db = .ok (db', entry)) :
    SettledAs db' invoice.id entry := by
  obtain ⟨row, hmem, hrow⟩ := row_of_appendEntry h
  simp only [appendEntry, bind_eq_ok_iff, orElse_eq_ok_iff, execute_eq_ok_iff, pure_eq_ok_iff,
    Prod.mk.injEq] at h
  obtain ⟨-, -, raffle, hraffle, -, -, entry, hentry, -, -, entries, -, -, -, -, -,
    invoices, ⟨returned, hinvoices⟩, -, -, -, -, raffles, -, rfl, rfl⟩ := h
  have hraffleId : raffle.id = invoice.raffleId := view_raffle_id hraffle
  obtain ⟨hcontinues, -, -, -, -, -, -, hsettled⟩ := entryFor_spec hentry hraffleId.symm
  constructor
  · refine ⟨invoice.withStatus .settled, ?_, rfl, rfl⟩
    change invoice.withStatus .settled ∈ invoices.rows
    rw [(Table.rows_of_update hinvoices).1]
    exact List.mem_map.mpr ⟨invoice, hinvoice, if_pos (decide_eq_true rfl)⟩
  · exact ⟨row, hmem, (keys_of_entryRowFor hrow).1,
      entryRowFor_spec hrow hepoch hsettled hcontinues.nonempty⟩

theorem settleInvoice_settledAs (hepoch : postgresEpoch ≤ settledAt)
    (h : settleInvoiceAndAppendEntry sha256 invoiceId entryId settledAt db = .ok (db', entry)) :
    SettledAs db' invoiceId entry := by
  obtain ⟨invoice, hinvoice, hcases⟩ := settleInvoice_cases h
  rcases hcases with ⟨hsettled, rfl, hentry⟩ | ⟨-, happend⟩
  · exact settledEntry_settledAs hinvoice hsettled hentry
  · obtain ⟨hmem, hid⟩ := Table.mem_of_find hinvoice
    rw [← of_decide_eq_true hid]
    exact appendEntry_settledAs hepoch hmem happend

/-- A settled invoice is answered with its entry, whatever entry id and instant are passed. -/
theorem SettledAs.settleInvoice (h : SettledAs db invoiceId entry) (entryId : EntryId)
    (settledAt : ℤ) :
    settleInvoiceAndAppendEntry sha256 invoiceId entryId settledAt db = .ok (db, entry) := by
  obtain ⟨⟨invoice, hinvoice, hid, hsettled⟩, row, hrow, hrowId, hreads⟩ := h
  have hfindInvoice : db.invoices.find (·.id = invoiceId) = some invoice := by
    apply Table.find_eq_some hinvoice (decide_eq_true hid)
    intro a b ha hb
    exact .inl ((of_decide_eq_true ha).trans (of_decide_eq_true hb).symm)
  have hfindRow : db.entries.find (·.invoiceId = invoiceId) = some row := by
    apply Table.find_eq_some hrow (decide_eq_true hrowId)
    intro a b ha hb
    exact .inr (.inl ((of_decide_eq_true ha).trans (of_decide_eq_true hb).symm))
  have hread := (ledgerEntryFromRow_eq_ok_iff row entry).mpr hreads
  simp [settleInvoiceAndAppendEntry, settledEntry, hfindInvoice, hsettled, hfindRow, fetchOne,
    hread, Except.map]

end Settlement

section Runs

variable {prim : Primitives} {store : Store} {invoiceId : InvoiceId} {entry : LedgerEntry}

/-- No step changes an entry or the status of a settled invoice. -/
theorem SettledAs.step (h : SettledAs store.db invoiceId entry) (hsound : store.Sound prim)
    (op : Op) : SettledAs (store.step prim op).db invoiceId entry := by
  obtain ⟨⟨invoice, hinvoice, hid, hsettled⟩, row, hrow, hrowId, hreads⟩ := h
  constructor
  · have hstep : RaffleStep prim (op.scope store) invoice.raffleId _ _ :=
      store.step_raffleStep hsound op
    have hview : invoice ∈ (store.db.view invoice.raffleId).invoices :=
      Table.mem_select.mpr ⟨hinvoice, decide_eq_true rfl⟩
    obtain ⟨invoice', hmem, hsame, hstatus⟩ := hstep.invoice_kept (view_invoices_keyed _ _) hview
    refine ⟨invoice', (Table.mem_select.mp hmem).1, hsame.id.symm.trans hid, ?_⟩
    exact (hstatus (by rw [hsettled]; rfl)).trans hsettled
  · have hstep : RaffleStep prim (op.scope store) row.raffleId _ _ :=
      store.step_raffleStep hsound op
    have hview : row ∈ (store.db.view row.raffleId).entries :=
      Table.mem_select.mpr ⟨hrow, decide_eq_true rfl⟩
    exact ⟨row, (Table.mem_select.mp (hstep.entries_grow.subset hview)).1, hrowId, hreads⟩

theorem SettledAs.run (h : SettledAs store.db invoiceId entry) (hsound : store.Sound prim)
    (operations : List Op) :
    SettledAs (StateMachine.run (Store.step prim) store operations).db invoiceId entry := by
  have hstep : ∀ (store : Store) (op : Op),
      store.Sound prim ∧ SettledAs store.db invoiceId entry →
        (store.step prim op).Sound prim ∧ SettledAs (store.step prim op).db invoiceId entry :=
    fun _ op ⟨hsound, hsettled⟩ => ⟨hsound.step op, hsettled.step hsound op⟩
  exact (StateMachine.invariant hstep ⟨hsound, h⟩ operations).2

end Runs

/-- After a settlement has succeeded, every later one of the invoice, with whatever entry id and
instant and after whatever other operations, returns the same entry and changes nothing. -/
theorem settle_repeats_answer (prim : Primitives) (front back : List Op) (invoiceId : InvoiceId)
    (entryId entryId' : EntryId) (settledAt settledAt' : Instant) (db' : Database)
    (entry : LedgerEntry)
    (h : settleInvoiceAndAppendEntry prim.sha256 invoiceId entryId settledAt.nanos
      (Store.after prim front).db = .ok (db', entry)) :
    settleInvoiceAndAppendEntry prim.sha256 invoiceId entryId' settledAt'.nanos
        (Store.after prim (front ++ .settleInvoice invoiceId entryId settledAt :: back)).db =
      .ok ((Store.after prim (front ++ .settleInvoice invoiceId entryId settledAt :: back)).db,
        entry) := by
  have hsound := (Store.sound_after prim front).step (.settleInvoice invoiceId entryId settledAt)
  have hdb : ((Store.after prim front).step prim
      (.settleInvoice invoiceId entryId settledAt)).db = db' := by
    change commit _ (settleInvoiceAndAppendEntry _ _ _ _ _) = _
    rw [h, commit_ok]
  have hsettled : SettledAs ((Store.after prim front).step prim
      (.settleInvoice invoiceId entryId settledAt)).db invoiceId entry := by
    rw [hdb]
    exact settleInvoice_settledAs settledAt.afterEpoch h
  rw [Store.after, StateMachine.run_append]
  exact (hsettled.run hsound back).settleInvoice entryId' settledAt'.nanos

/-- The sale is repeated after the freeze, with another entry id and a second later. -/
theorem settle_repeats_answer_sample :
    ∃ entry, settleInvoiceAndAppendEntry Sha256.digest SampleRun.invoiceId ⟨SampleRun.uuid 9⟩
        (SampleRun.secondsAfter 3) (Store.after .standard SampleRun.frozen).db =
          .ok ((Store.after .standard SampleRun.frozen).db, entry) ∧
      entry.data.entryId = SampleRun.entryId := by
  have hfirst : ((settleInvoiceAndAppendEntry Sha256.digest SampleRun.invoiceId SampleRun.entryId
      (SampleRun.secondsAfter 2) (Store.after .standard (SampleRun.sold.take 6)).db).map
        fun answer => answer.2.data.entryId).toOption = some SampleRun.entryId := by
    decide +kernel
  cases hanswer : settleInvoiceAndAppendEntry Sha256.digest SampleRun.invoiceId SampleRun.entryId
      (SampleRun.secondsAfter 2) (Store.after .standard (SampleRun.sold.take 6)).db with
  | error error =>
      rw [hanswer] at hfirst
      cases hfirst
  | ok answer =>
      obtain ⟨db', entry⟩ := answer
      rw [hanswer] at hfirst
      exact ⟨entry, settle_repeats_answer .standard (SampleRun.sold.take 6)
        [.settleInvoice SampleRun.secondInvoiceId SampleRun.secondEntryId
            ⟨SampleRun.secondsAfter 3, by decide⟩,
          .scheduleDueCloses (fun _ => SampleRun.uuid 7) 100000000,
          .freezeRaffle SampleRun.raffleId (SampleRun.uuid 8) 100000001]
        SampleRun.invoiceId SampleRun.entryId ⟨SampleRun.uuid 9⟩
        ⟨SampleRun.secondsAfter 2, by decide⟩ ⟨SampleRun.secondsAfter 3, by decide⟩ db' entry
        hanswer, Option.some.inj hfirst⟩

end OpenPool
