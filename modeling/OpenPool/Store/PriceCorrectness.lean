import OpenPool.Store.LedgerCorrectness

/-! # One price for every ticket

The price is read when an invoice is made and the tickets are allotted when it is settled; in
between nobody can change it, because a raffle with an invoice has left the statuses in which
its terms can be edited. -/

namespace OpenPool

open Fallible

/-- The rows of a raffle bill its current price for each ticket. -/
structure Priced (row : RaffleRow) (view : RaffleView) : Prop where
  invoice : ∀ invoice ∈ view.invoices,
    invoice.amountSats = row.entryPriceSats * invoice.ticketCount ∧ invoice.amountSats < 2 ^ 63
  entry : ∀ entry ∈ view.entries,
    entry.amountSats = row.entryPriceSats * (entry.ticketEnd - entry.ticketStart) ∧
      entry.amountSats < 2 ^ 63
  pool : row.totalPoolSats = row.entryPriceSats * row.totalTickets ∧ row.totalPoolSats < 2 ^ 63
  /-- Nothing is sold while the price can change. -/
  unsold : row.status = .draft ∨ row.status = .scheduled →
    view.invoices = [] ∧ view.entries = [] ∧ row.totalTickets = 0

def PriceInv (view : RaffleView) : Prop := ∀ row, view.raffle = some row → Priced row view

section Steps

variable {prim : Primitives} {scope : Scope} {raffleId : RaffleId} {view view' : RaffleView}
  {row : RaffleRow}

/-- A raffle in which nothing is sold is priced, whatever its price. -/
theorem priced_of_unsold (hinvoices : view.invoices = []) (hentries : view.entries = [])
    (htickets : row.totalTickets = 0) (hpool : row.totalPoolSats = 0) : Priced row view where
  invoice _ hmem := by simp [hinvoices] at hmem
  entry _ hmem := by simp [hentries] at hmem
  pool := by simp [htickets, hpool]
  unsold _ := ⟨hinvoices, hentries, htickets⟩

/-- A change of the row that keeps price and totals, and reopens no edit, keeps it priced. -/
theorem Priced.withRow (h : Priced row view) {row' : RaffleRow}
    (hprice : row'.entryPriceSats = row.entryPriceSats)
    (hpool : row'.totalPoolSats = row.totalPoolSats)
    (htickets : row'.totalTickets = row.totalTickets)
    (hstatus : row'.status = .draft ∨ row'.status = .scheduled →
      row.status = .draft ∨ row.status = .scheduled)
    (hinvoices : view'.invoices = view.invoices) (hentries : view'.entries = view.entries) :
    Priced row' view' where
  invoice invoice hmem := by
    rw [hprice]
    exact h.invoice invoice (hinvoices ▸ hmem)
  entry entry hmem := by
    rw [hprice]
    exact h.entry entry (hentries ▸ hmem)
  pool := by
    rw [hprice, hpool, htickets]
    exact h.pool
  unsold hbefore := by
    rw [hinvoices, hentries, htickets]
    exact h.unsold (hstatus hbefore)

theorem Priced.mapInvoices (h : Priced row view) {change : InvoiceRow → InvoiceRow}
    (hsame : ∀ invoice : InvoiceRow, invoice.SameInvoice (change invoice))
    (hinvoices : view'.invoices = view.invoices.map change)
    (hentries : view'.entries = view.entries) : Priced row view' where
  invoice invoice hmem := by
    rw [hinvoices] at hmem
    obtain ⟨old, hold, rfl⟩ := List.mem_map.mp hmem
    rw [← (hsame old).amountSats, ← (hsame old).ticketCount]
    exact h.invoice old hold
  entry entry hmem := h.entry entry (hentries ▸ hmem)
  pool := h.pool
  unsold hbefore := by
    obtain ⟨hnone, hempty, htickets⟩ := h.unsold hbefore
    rw [hinvoices, hentries, hnone]
    exact ⟨rfl, hempty, htickets⟩

/-- The tickets of a settled invoice are added at the price they were billed at. -/
theorem Priced.settle (h : Priced row view) {invoice : InvoiceRow} {entryRow : EntryRow}
    {entry : LedgerEntry} {pool : ℤ} (hinvoice : invoice ∈ view.invoices)
    (hreads : entryRow.Reads entry) (hpaid : entryRow.PaidBy invoice) {sha256 : List UInt8 → Hash32}
    (hcontinues : entry.Continues sha256 row view.entries.length)
    (hpool : pool = row.totalPoolSats + entry.sats) (hbound : pool < 2 ^ 63)
    (hopen : row.status = .opened) {change : InvoiceRow → InvoiceRow}
    (hsame : ∀ invoice : InvoiceRow, invoice.SameInvoice (change invoice)) :
    Priced (row.withEntry pool entry)
      { view with
        raffle := some (row.withEntry pool entry)
        invoices := view.invoices.map change
        entries := view.entries ++ [entryRow] } where
  invoice other hmem := by
    obtain ⟨old, hold, rfl⟩ := List.mem_map.mp hmem
    rw [← (hsame old).amountSats, ← (hsame old).ticketCount]
    exact h.invoice old hold
  entry other hmem := by
    rcases List.mem_append.mp hmem with hmem | hmem
    · exact h.entry other hmem
    · rw [List.mem_singleton.mp hmem, hpaid.amountSats, hpaid.ticketCount, add_sub_cancel_left]
      exact h.invoice invoice hinvoice
  pool := by
    refine ⟨?_, hbound⟩
    have hsats : (entry.sats : ℤ) = invoice.amountSats :=
      hreads.amountSats.symm.trans hpaid.amountSats
    have hstart : row.totalTickets = entryRow.ticketStart :=
      hcontinues.ticketStart.trans hreads.ticketStart.symm
    have hstop : (entry.data.ticketRange.stop.toNat : ℤ) = entryRow.ticketEnd :=
      hreads.ticketEnd.symm
    calc pool = row.totalPoolSats + entry.sats := hpool
      _ = row.entryPriceSats * row.totalTickets + row.entryPriceSats * invoice.ticketCount := by
        rw [h.pool.1, hsats, (h.invoice invoice hinvoice).1]
      _ = row.entryPriceSats * (row.totalTickets + invoice.ticketCount) := by rw [mul_add]
      _ = row.entryPriceSats * entry.data.ticketRange.stop.toNat := by
        rw [hstop, hpaid.ticketCount, hstart]
  unsold hbefore := by
    have hstatus : (row.withEntry pool entry).status = .opened := hopen
    rw [hstatus] at hbefore
    rcases hbefore with hbefore | hbefore <;> cases hbefore

theorem RaffleStep.priceInv (hstep : RaffleStep prim scope raffleId view view')
    (hseam : scope.seam = false) (hbilled : InvoiceInv view) (h : PriceInv view) :
    PriceInv view' := by
  intro row' hrow'
  cases hstep with
  | create row split habsent hid hnew =>
      obtain rfl := Option.some.inj hrow'
      have hinvoices := hbilled.absent habsent
      have hentries : view.entries = [] := by
        apply List.eq_nil_iff_forall_not_mem.mpr
        intro entry hmem
        obtain ⟨invoice, hinvoice, -⟩ := hbilled.paid entry hmem
        simp [hinvoices] at hinvoice
      exact priced_of_unsold hinvoices hentries hnew.totalTickets hnew.totalPoolSats
  | edit row name price start stop delay split hrow hstatus =>
      obtain rfl := Option.some.inj hrow'
      obtain ⟨hinvoices, hentries, htickets⟩ := (h row hrow).unsold hstatus
      have hpool : row.totalPoolSats = 0 := by
        rw [(h row hrow).pool.1, htickets, mul_zero]
      exact priced_of_unsold hinvoices hentries htickets hpool
  | move row status hrow hmove =>
      obtain rfl := Option.some.inj hrow'
      refine (h row hrow).withRow rfl rfl rfl (fun hbefore => ?_) rfl rfl
      rcases of_decide_eq_true hmove with ⟨hdraft, -⟩ | ⟨-, rfl⟩ | ⟨-, rfl⟩
      · exact .inl hdraft
      · rcases hbefore with hbefore | hbefore <;> cases hbefore
      · rcases hbefore with hbefore | hbefore <;> cases hbefore
  | close row jobs hrow hopen =>
      obtain rfl := Option.some.inj hrow'
      exact (h row hrow).withRow rfl rfl rfl (by rintro (hbefore | hbefore) <;> cases hbefore)
        rfl rfl
  | freeze row head count jobs hrow hclosing =>
      obtain rfl := Option.some.inj hrow'
      refine (h row hrow).withRow rfl rfl rfl ?_ rfl rfl
      dsimp only
      split <;> rintro (hbefore | hbefore) <;> cases hbefore
  | draw row context closeHash ids now jobs hrow hstatus =>
      obtain rfl := Option.some.inj hrow'
      exact (h row hrow).withRow rfl rfl rfl (by rintro (hbefore | hbefore) <;> cases hbefore)
        rfl rfl
  | payOut change jobs =>
      obtain ⟨row, hrow, rfl⟩ := Option.map_eq_some_iff.mp hrow'
      by_cases hpending : row.status = .payoutPending
      · rw [if_pos hpending]
        exact (h row hrow).withRow rfl rfl rfl (by rintro (hbefore | hbefore) <;> cases hbefore)
          rfl rfl
      · rw [if_neg hpending]
        exact (h row hrow).withRow rfl rfl rfl id rfl rfl
  | pendingInvoice row invoice hrow hid hstatus hpending =>
      rw [hseam] at hpending
      cases hpending
  | collectionInvoice row invoice hrow hid hstatus hopen hprice hbound =>
      obtain rfl : row = row' := Option.some.inj (hrow.symm.trans hrow')
      refine { (h row hrow) with invoice := fun other hmem => ?_, unsold := fun hbefore => ?_ }
      · rcases List.mem_append.mp hmem with hmem | hmem
        · exact (h row hrow).invoice other hmem
        · rw [List.mem_singleton.mp hmem]
          exact ⟨hprice, hbound⟩
      · rw [hopen] at hbefore
        rcases hbefore with hbefore | hbefore <;> cases hbefore
  | changeInvoices change hsame => exact (h row' hrow').mapInvoices hsame rfl rfl
  | late invoice refunds =>
      exact (h row' hrow').mapInvoices (fun other => other.sameInvoice_ite _ _) rfl rfl
  | settle row invoice entryRow entry pool hrow hopen hinvoice hpending hreads hpaid hcontinues
      hpool hbound =>
      obtain rfl := Option.some.inj hrow'
      exact (h row hrow).settle hinvoice hreads hpaid hcontinues hpool hbound hopen
        fun other => other.sameInvoice_ite _ _
  | stay | refund | proof | publish | changePayouts | changeJobs =>
      exact (h row' hrow').withRow rfl rfl rfl id rfl rfl

end Steps

/-! ## Runs -/

section Runs

variable {prim : Primitives} {store : Store} {raffleId : RaffleId}

/-- A refund row touches neither invoices nor entries. -/
theorem createRefundEligibility_keeps_view (db : Database) (owner : RaffleId)
    (invoiceId : InvoiceId) (reason : RefundReason) (refundId : Uuid) :
    Keeps (fun db : Database =>
        ((db.view raffleId).raffle, (db.view raffleId).invoices, (db.view raffleId).entries))
      db (createRefundEligibility owner invoiceId reason refundId db) := by
  simp only [createRefundEligibility, keeps_bind_iff, keeps_pure_iff]
  intros
  rfl

theorem Store.Sound.step_priceInv (hsound : store.Sound prim) (op : Op)
    (hop : ∀ invoice, op ≠ .createPendingInvoice invoice) (h : PriceInv (store.db.view raffleId)) :
    PriceInv ((store.step prim op).db.view raffleId) := by
  by_cases hseam : (op.scope store).seam = false
  · exact (store.step_raffleStep hsound op).priceInv hseam (hsound.invoices raffleId) h
  · cases op with
    | createPendingInvoice invoice => exact absurd rfl (hop invoice)
    | createRefundEligibility owner invoiceId reason refundId =>
        intro row hrow
        obtain ⟨hraffle, hsame⟩ := Prod.mk.inj
          (createRefundEligibility_keeps_view store.db owner invoiceId reason refundId).commit
        obtain ⟨hinvoices, hentries⟩ := Prod.mk.inj hsame
        exact (h row (hraffle.symm.trans hrow)).withRow rfl rfl rfl id hinvoices hentries
    | _ => exact absurd rfl hseam

theorem Store.priceInv_after (prim : Primitives) (operations : List Op)
    (h : ∀ op ∈ operations, ∀ invoice, op ≠ .createPendingInvoice invoice) (raffleId : RaffleId) :
    PriceInv ((Store.after prim operations).db.view raffleId) := by
  induction operations using List.reverseRecOn with
  | nil => exact fun _ hrow => by cases hrow
  | append_singleton operations op ih =>
      rw [Store.after, StateMachine.run_concat]
      apply (Store.sound_after prim operations).step_priceInv op (h op (by simp))
      exact ih fun other hmem => h other (List.mem_append_left [op] hmem)

end Runs

/-- In every run whose invoices come from `create_collection_invoice`, all amounts of a raffle
are its current price times a number of tickets, within an `i64`. -/
theorem tickets_cost_the_same (prim : Primitives) (operations : List Op)
    (h : ∀ op ∈ operations, ∀ invoice, op ≠ .createPendingInvoice invoice)
    (raffle : RaffleRow) (hraffle : raffle ∈ (Store.after prim operations).db.raffles.rows) :
    (∀ invoice ∈ (Store.after prim operations).db.invoices.rows, invoice.raffleId = raffle.id →
      invoice.amountSats = raffle.entryPriceSats * invoice.ticketCount ∧
        invoice.amountSats < 2 ^ 63) ∧
    (∀ entry ∈ (Store.after prim operations).db.entries.rows, entry.raffleId = raffle.id →
      entry.amountSats = raffle.entryPriceSats * (entry.ticketEnd - entry.ticketStart) ∧
        entry.amountSats < 2 ^ 63) ∧
    raffle.totalPoolSats = raffle.entryPriceSats * raffle.totalTickets ∧
      raffle.totalPoolSats < 2 ^ 63 := by
  have hfind : (Store.after prim operations).db.raffles.find (·.id = raffle.id) = some raffle := by
    apply Table.find_eq_some hraffle (decide_eq_true rfl)
    intro a b ha hb
    exact (of_decide_eq_true ha).trans (of_decide_eq_true hb).symm
  have hpriced := Store.priceInv_after prim operations h raffle.id raffle hfind
  refine ⟨?_, ?_, hpriced.pool⟩
  · intro invoice hmem hid
    exact hpriced.invoice invoice (Table.mem_select.mpr ⟨hmem, decide_eq_true hid⟩)
  · intro entry hmem hid
    exact hpriced.entry entry (Table.mem_select.mpr ⟨hmem, decide_eq_true hid⟩)

/-- Five tickets at a thousand satoshis. -/
theorem tickets_cost_the_same_sample :
    ∃ raffle, raffle ∈ (Store.after .standard SampleRun.sold).db.raffles.rows ∧
      raffle.totalTickets = 5 ∧ raffle.totalPoolSats = raffle.entryPriceSats * 5 := by
  obtain ⟨raffle, hraffle, htickets⟩ :
      ∃ raffle ∈ (Store.after .standard SampleRun.sold).db.raffles.rows,
        raffle.totalTickets = 5 := by
    decide +kernel
  have hseam : ∀ op ∈ SampleRun.sold, ∀ invoice, op ≠ .createPendingInvoice invoice := by
    simp [SampleRun.sold]
  refine ⟨raffle, hraffle, htickets, ?_⟩
  rw [← htickets]
  exact (tickets_cost_the_same .standard SampleRun.sold hseam raffle hraffle).2.2.1

end OpenPool
