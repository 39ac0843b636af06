import OpenPool.Worker.Runs

/-! # Settlements

A payment that was collected becomes one entry or one refund. Whether it comes before the end of
its raffle is decided by the status of the raffle alone, not by its end time. -/

namespace OpenPool

section Settlements

variable {prim : Primitives} {store : Store} {invoice : InvoiceRow}

/-! ## Exactly-once settlement -/

/-- The refunds for a late settlement of the invoice. -/
def RefundRow.isLate (invoiceId : InvoiceId) (row : RefundRow) : Bool :=
  row.invoiceId = invoiceId ∧ row.reason = .lateSettlement

/-- How payments are settled and compensated. -/
structure World.SettlesOnce (world : World) : Prop where
  entries : ∀ invoice ∈ world.shared.store.db.invoices.rows,
    world.shared.store.db.entries.count (·.invoiceId = invoice.id) =
      if invoice.status = .settled then 1 else 0
  refunds : ∀ invoice ∈ world.shared.store.db.invoices.rows,
    world.shared.store.db.entries.count (·.invoiceId = invoice.id) +
      world.shared.store.db.refunds.count (RefundRow.isLate invoice.id) ≤ 1
  compensated : ∀ workerId job memory,
    world.worker workerId = .busy job (.done (.ok .finished)) memory →
    job.kind = .paymentReconcile → memory.settled = true →
    ∀ invoiceId, job.payload.invoiceId = some invoiceId → world.shared.Compensated invoiceId

/-- A final status is never left. -/
def Shared.KeepsDecisions (shared shared' : Shared) : Prop :=
  ∀ invoice ∈ shared.store.db.invoices.rows, invoice.status.isFinal = true →
    ∃ invoice' ∈ shared'.store.db.invoices.rows, invoice'.id = invoice.id ∧
      invoice'.status = invoice.status

theorem eq_of_invoice {db : Database} {a b : InvoiceRow} (ha : a ∈ db.invoices.rows)
    (hb : b ∈ db.invoices.rows) (hid : a.id = b.id) : a = b :=
  db.invoices.eq_of_clash ha hb (.inl hid)

/-- The entry of an invoice is there exactly when the invoice is settled. -/
theorem Store.Sound.settled_iff (hsound : store.Sound prim)
    (hmem : invoice ∈ store.db.invoices.rows) :
    (∃ entry ∈ store.db.entries.rows, entry.invoiceId = invoice.id) ↔
      invoice.status = .settled := by
  constructor
  · rintro ⟨entry, hentry, hid⟩
    obtain ⟨paying, hpaying, hpaid, hstatus⟩ := (hsound.invoices entry.raffleId).paid entry
      (Table.mem_select.mpr ⟨hentry, decide_eq_true rfl⟩)
    rwa [← eq_of_invoice (mem_invoices hpaying) hmem (hpaid.invoiceId.symm.trans hid)]
  · intro hstatus
    obtain ⟨entry, hentry, hpaid⟩ :=
      (hsound.invoices invoice.raffleId).settled invoice (mem_view_invoices hmem) hstatus
    exact ⟨entry, (Table.mem_select.mp hentry).1, hpaid.invoiceId⟩

theorem Store.Sound.count_entries (hsound : store.Sound prim)
    (hmem : invoice ∈ store.db.invoices.rows) :
    store.db.entries.count (·.invoiceId = invoice.id) =
      if invoice.status = .settled then 1 else 0 := by
  have hiff := hsound.settled_iff hmem
  have hone : store.db.entries.count (·.invoiceId = invoice.id) ≤ 1 :=
    store.db.entries.count_le_one fun a b ha hb =>
      .inr (.inl ((of_decide_eq_true ha).trans (of_decide_eq_true hb).symm))
  have hzero : store.db.entries.count (·.invoiceId = invoice.id) = 0 ↔
      ¬ ∃ entry ∈ store.db.entries.rows, entry.invoiceId = invoice.id := by
    rw [Table.count_eq_zero_iff]
    simp
  rw [hiff] at hzero
  by_cases hsettled : invoice.status = .settled
  · rw [if_pos hsettled]
    have hsome := mt hzero.mp (not_not.mpr hsettled)
    omega
  · rw [if_neg hsettled]
    exact hzero.mpr hsettled

/-- Where workers record the refunds, a refund belongs to an invoice that is not settled. -/
theorem Store.Lawful.unsettled_of_refund (hlawful : store.Lawful prim)
    (hmem : invoice ∈ store.db.invoices.rows) {refund : RefundRow}
    (hrefund : refund ∈ store.db.refunds.rows) (hid : refund.invoiceId = invoice.id) :
    invoice.status ≠ .settled := by
  obtain ⟨other, hother, hsame, -, hunsettled⟩ := (hlawful.late refund.raffleId).late refund
    (Table.mem_select.mpr ⟨hrefund, decide_eq_true rfl⟩)
  rwa [← eq_of_invoice (mem_invoices hother) hmem (hsame.trans hid)]

theorem Store.Lawful.count_refunds (hlawful : store.Lawful prim)
    (hmem : invoice ∈ store.db.invoices.rows) :
    store.db.entries.count (·.invoiceId = invoice.id) +
      store.db.refunds.count (RefundRow.isLate invoice.id) ≤ 1 := by
  have hone : store.db.refunds.count (RefundRow.isLate invoice.id) ≤ 1 :=
    store.db.refunds.count_le_one fun a b ha hb => by
      obtain ⟨hid, hreason⟩ := of_decide_eq_true ha
      obtain ⟨hid', hreason'⟩ := of_decide_eq_true hb
      exact .inr ⟨hid.trans hid'.symm, hreason.trans hreason'.symm⟩
  rw [hlawful.sound.count_entries hmem]
  split
  · rename_i hsettled
    have hnone : store.db.refunds.count (RefundRow.isLate invoice.id) = 0 :=
      Table.count_eq_zero_iff.mpr fun refund hrefund hlate =>
        hlawful.unsettled_of_refund hmem hrefund (of_decide_eq_true hlate).1 hsettled
    omega
  · omega

end Settlements

theorem World.Valid.settlesOnce {services : Services} {world : World}
    (hvalid : world.Valid services) : world.SettlesOnce where
  entries _ hmem := hvalid.shared.lawful.sound.count_entries hmem
  refunds _ hmem := hvalid.shared.lawful.count_refunds hmem
  compensated workerId job memory hworker hkind hsettled := by
    obtain ⟨-, hsafe⟩ := hvalid.workers workerId _ _ _ hworker
    exact (hsafe.result hvalid.shared).2 hkind hsettled

theorem Shared.Extends.keepsDecisions {shared shared' : Shared} (h : shared.Extends shared') :
    shared.KeepsDecisions shared' := by
  intro invoice hmem hfinal
  obtain ⟨invoice', hmem', hsame, hkept⟩ := h.invoice hmem
  exact ⟨invoice', hmem', hsame.id.symm, hkept hfinal⟩

/-- Payments are settled at most once after every run, and a longer run keeps what is decided. -/
theorem payments_settled_once (services : Services) (actions more : List Action) :
    (World.after services actions).SettlesOnce ∧
      (World.after services actions).shared.KeepsDecisions
        (World.after services (actions ++ more)).shared :=
  ⟨(World.valid_after services actions).settlesOnce,
    (World.extends_after services actions more).keepsDecisions⟩

/-! ## Undecided invoices -/

/-- A raffle that waits for its draw, or is drawn, has no pending invoice. -/
def Shared.DecidedAtDraw (shared : Shared) : Prop :=
  ∀ raffle ∈ shared.store.db.raffles.rows,
    raffle.status = .randomnessPending ∨ raffle.status = .payoutPending ∨
      raffle.status = .paidOut →
    ∀ invoice ∈ shared.store.db.invoices.rows, invoice.raffleId = raffle.id →
      invoice.status ≠ .pending

theorem Shared.Valid.decidedAtDraw {prim : Primitives} {shared : Shared}
    (hvalid : shared.Valid prim) : shared.DecidedAtDraw := by
  intro raffle hraffle hstatus invoice hinvoice hof hpending
  have hfrozen : raffle.status.afterFreeze = true := by
    rcases hstatus with hstatus | hstatus | hstatus <;> rw [hstatus] <;> rfl
  have hfinal := hvalid.lawful.decided raffle.id raffle (view_raffle_of_mem hraffle) hfrozen invoice
    (hof ▸ mem_view_invoices hinvoice)
  rw [hpending] at hfinal
  cases hfinal

theorem no_pending_at_draw (services : Services) (actions : List Action) :
    (World.after services actions).shared.DecidedAtDraw :=
  (World.valid_after services actions).shared.decidedAtDraw

/-! ## The end of a raffle

`settle_invoice_and_append_entry` looks at the status of the raffle. Between its end time and the
next `schedule_due_closes` a raffle is still open. -/

/-- Every entry of the raffle was settled before its end. -/
def CutoffInv (view : RaffleView) : Prop :=
  ∀ row, view.raffle = some row → ∀ entry ∈ view.entries, entry.settledAt < row.endTime

/-- The settlement of a pending invoice comes before the end of its raffle. -/
def Scope.InTime (scope : Scope) (view : RaffleView) : Prop :=
  ∀ row, view.raffle = some row → row.status = .opened →
    ∀ invoice ∈ view.invoices, invoice.status = .pending →
      ∀ settledAt, scope.settlement = some (invoice.id, settledAt) → settledAt < row.endTime

section Cutoff

variable {prim : Primitives} {scope : Scope} {raffleId : RaffleId} {view view' : RaffleView}

/-- A raffle with entries is no longer edited. -/
theorem LateInv.opened_of_entry (hlate : LateInv view) (hinvoices : InvoiceInv view)
    {entry : EntryRow} (hentry : entry ∈ view.entries) {row : RaffleRow}
    (hrow : view.raffle = some row) : row.status ≠ .draft ∧ row.status ≠ .scheduled := by
  obtain ⟨invoice, hmem, -⟩ := hinvoices.paid entry hentry
  obtain ⟨other, hother, hopened⟩ := hlate.opened invoice hmem
  obtain rfl : row = other := Option.some.inj (hrow.symm.trans hother)
  exact hopened

theorem RaffleStep.cutoffInv (hstep : RaffleStep prim scope raffleId view view')
    (hinvoices : InvoiceInv view) (hlate : LateInv view) (hintime : scope.InTime view)
    (h : CutoffInv view) : CutoffInv view' := by
  cases hstep with
  | create row split habsent =>
      intro row' hrow' entry hentry
      obtain ⟨invoice, hmem, -⟩ := hinvoices.paid entry hentry
      rw [hinvoices.absent habsent] at hmem
      cases hmem
  | edit row name price start stop delay split hrow hstatus =>
      intro row' hrow' entry hentry
      obtain ⟨hdraft, hscheduled⟩ := hlate.opened_of_entry hinvoices hentry hrow
      exact (hstatus.elim hdraft hscheduled).elim
  | move row status hrow =>
      rintro _ ⟨⟩
      exact h row hrow
  | close row jobs hrow =>
      rintro _ ⟨⟩
      exact h row hrow
  | freeze row head count jobs hrow =>
      rintro _ ⟨⟩
      exact h row hrow
  | draw row context closeHash ids now jobs hrow =>
      rintro _ ⟨⟩
      exact h row hrow
  | payOut change jobs =>
      intro row' hrow'
      obtain ⟨row, hrow, rfl⟩ := Option.map_eq_some_iff.mp hrow'
      have hend := h row hrow
      split
      · exact hend
      · exact hend
  | settle row invoice entryRow entry pool hrow hopen hinvoice hpending hreads hpaid hcontinues
      hpool hbound hat =>
      rintro _ ⟨⟩ other hmem
      rcases List.mem_append.mp hmem with hmem | hmem
      · exact h row hrow other hmem
      · rw [List.mem_singleton.mp hmem]
        exact hintime row hrow hopen invoice hinvoice hpending entryRow.settledAt hat
  | stay | pendingInvoice | collectionInvoice | changeInvoices | late | refund | proof | publish
  | changePayouts | changeJobs => exact h

end Cutoff

/-- The step settles a pending invoice of an open raffle at or after its end. -/
def World.settlesLate (world : World) (action : Action) : Bool :=
  match world.op action with
  | some (.settleInvoice invoiceId _ settledAt) =>
      decide (∃ invoice ∈ world.shared.store.db.invoices.rows, invoice.id = invoiceId ∧
        invoice.status = .pending ∧ ∃ raffle ∈ world.shared.store.db.raffles.rows,
          raffle.id = invoice.raffleId ∧ raffle.status = .opened ∧
            raffle.endTime ≤ toTimestamp settledAt.nanos)
  | _ => false

/-- The entry was settled before the end of its raffle. -/
def Database.SettledInTime (db : Database) (entry : EntryRow) : Prop :=
  ∃ raffle ∈ db.raffles.rows, raffle.id = entry.raffleId ∧ entry.settledAt < raffle.endTime

/-- Entries are settled before the end, and every other payment becomes a late refund. -/
structure World.MeetsCutoff (world : World) : Prop where
  entries : ∀ entry ∈ world.shared.store.db.entries.rows, world.shared.store.db.SettledInTime entry
  late : ∀ workerId job memory,
    world.worker workerId = .busy job (.done (.ok .finished)) memory →
    job.kind = .paymentReconcile → memory.settled = true →
    ∀ invoiceId, job.payload.invoiceId = some invoiceId →
      (∃ entry ∈ world.shared.store.db.entries.rows, entry.invoiceId = invoiceId ∧
        world.shared.store.db.SettledInTime entry) ∨ world.shared.HasLateRefund invoiceId

section Runs

variable {services : Services} {world : World} {action : Action}

theorem World.inTime_of_op {op : Op} (hop : world.op action = some op)
    (hintime : world.settlesLate action = false) (raffleId : RaffleId) :
    (op.scope world.shared.store).InTime (world.shared.store.db.view raffleId) := by
  intro row hrow hopen invoice hmem hpending settledAt hsettlement
  by_contra hlate
  cases op with
  | settleInvoice invoiceId entryId instant =>
      obtain ⟨rfl, rfl⟩ := Prod.mk.inj (Option.some.inj hsettlement)
      simp only [settlesLate, hop, decide_eq_false_iff_not] at hintime
      refine hintime ⟨invoice, mem_invoices hmem, rfl, hpending, row, (Table.mem_of_find hrow).1,
        ?_, hopen, not_lt.mp hlate⟩
      rw [view_raffle_id hrow]
      exact (of_decide_eq_true (Table.mem_select.mp hmem).2).symm
  | _ => cases hsettlement

theorem World.cutoff_step (hvalid : world.Valid services)
    (hintime : world.settlesLate action = false)
    (h : ∀ raffleId, CutoffInv (world.shared.store.db.view raffleId)) (raffleId : RaffleId) :
    CutoffInv ((world.step services action).shared.store.db.view raffleId) := by
  rcases World.step_view hvalid action raffleId with hsame | ⟨op, hop, hstep⟩
  · rw [hsame]
    exact h raffleId
  · exact hstep.cutoffInv (hvalid.shared.lawful.sound.invoices raffleId)
      (hvalid.shared.lawful.late raffleId) (World.inTime_of_op hop hintime raffleId) (h raffleId)

theorem World.Valid.meetsCutoff (hvalid : world.Valid services)
    (h : ∀ raffleId, CutoffInv (world.shared.store.db.view raffleId)) : world.MeetsCutoff := by
  have hentries : ∀ entry ∈ world.shared.store.db.entries.rows,
      world.shared.store.db.SettledInTime entry := by
    intro entry hentry
    have hview : entry ∈ (world.shared.store.db.view entry.raffleId).entries :=
      Table.mem_select.mpr ⟨hentry, decide_eq_true rfl⟩
    obtain ⟨invoice, hinvoice, -⟩ :=
      (hvalid.shared.lawful.sound.invoices entry.raffleId).paid entry hview
    obtain ⟨row, hrow, -⟩ := (hvalid.shared.lawful.late entry.raffleId).opened invoice hinvoice
    exact ⟨row, (Table.mem_of_find hrow).1, view_raffle_id hrow, h _ row hrow entry hview⟩
  refine ⟨hentries, fun workerId job memory hworker hkind hsettled invoiceId hpayload => ?_⟩
  rcases hvalid.settlesOnce.compensated workerId job memory hworker hkind hsettled invoiceId
    hpayload with ⟨entry, hentry, hid⟩ | hlate
  · exact .inl ⟨entry, hentry, hid, hentries entry hentry⟩
  · exact .inr hlate

end Runs

/-- In every run in which no payment is settled at or after the end of a raffle that is still
open, every entry was settled before the end. -/
theorem entries_before_end (services : Services) (actions : List Action)
    (hintime : StateMachine.Meets (World.step services)
      (fun world action => world.settlesLate action = false) .start actions) :
    (World.after services actions).MeetsCutoff := by
  have hstep : ∀ (world : World) (action : Action), world.settlesLate action = false →
      (world.Valid services ∧ ∀ raffleId, CutoffInv (world.shared.store.db.view raffleId)) →
      (world.step services action).Valid services ∧
        ∀ raffleId, CutoffInv ((world.step services action).shared.store.db.view raffleId) :=
    fun world action hlate h => ⟨(h.1.step action).1, World.cutoff_step h.1 hlate h.2⟩
  have hstart : ∀ raffleId, CutoffInv (World.start.shared.store.db.view raffleId) :=
    fun raffleId row hrow => by
      change (Database.empty.view raffleId).raffle = some row at hrow
      rw [view_empty] at hrow
      cases hrow
  obtain ⟨hvalid, hcutoff⟩ := StateMachine.Meets.invariant (P := fun world : World =>
    world.Valid services ∧ ∀ raffleId, CutoffInv (world.shared.store.db.view raffleId)) hstep
    hintime ⟨World.valid_start services, hstart⟩
  exact hvalid.meetsCutoff hcutoff

theorem entries_before_end_sample :
    (World.after WorldSample.services WorldSample.frozen).MeetsCutoff :=
  entries_before_end WorldSample.services WorldSample.frozen (by decide +kernel)

namespace WorldSample

open SampleRun

/-- The payment is settled 20 seconds after the end, before the scheduler runs. -/
def settledLate : List Action := reported ++ runJob 3 (choiceAt 120 (uuid 4))

end WorldSample

/-- An entry that was settled after the end of its raffle. -/
theorem entry_after_end : ¬ (World.after WorldSample.services WorldSample.settledLate).MeetsCutoff := by
  intro hcutoff
  have hlate : ∃ entry ∈
      (World.after WorldSample.services WorldSample.settledLate).shared.store.db.entries.rows,
      ∀ raffle ∈
        (World.after WorldSample.services WorldSample.settledLate).shared.store.db.raffles.rows,
        raffle.id = entry.raffleId → raffle.endTime ≤ entry.settledAt := by
    decide +kernel
  obtain ⟨entry, hentry, hlate⟩ := hlate
  obtain ⟨raffle, hraffle, hid, hearly⟩ := hcutoff.entries entry hentry
  exact not_lt.mpr (hlate raffle hraffle hid) hearly

end OpenPool
