import OpenPool.Worker.Runs

/-! # Closing raffles

A raffle that closes waits for its pending invoices, and only a webhook enqueues the job that
decides one. Invoices without such a job, and jobs that end before the provider's reference is
stored, leave the raffle waiting. -/

namespace OpenPool

/-- A reconciliation of the invoice that is not completed. -/
def Shared.Awaits (shared : Shared) (invoiceId : InvoiceId) : Prop :=
  ∃ job ∈ shared.store.db.jobs.rows, job.kind = .paymentReconcile ∧
    job.payload.invoiceId = some invoiceId ∧ job.status ≠ .succeeded

instance (shared : Shared) (invoiceId : InvoiceId) : Decidable (shared.Awaits invoiceId) :=
  inferInstanceAs (Decidable (∃ job ∈ _, _))

/-- Every pending invoice of a closing raffle can still be decided. -/
def Shared.Drivable (shared : Shared) : Prop :=
  ∀ raffle ∈ shared.store.db.raffles.rows, raffle.status = .closing →
    ∀ invoice ∈ shared.store.db.invoices.rows, invoice.raffleId = raffle.id →
      invoice.status = .pending → shared.Awaits invoice.id

/-- A webhook has enqueued a reconciliation of the invoice. -/
def Shared.Reconciles (shared : Shared) (invoiceId : InvoiceId) : Prop :=
  ∃ job ∈ shared.store.db.jobs.rows, job.kind = .paymentReconcile ∧
    job.payload.invoiceId = some invoiceId

instance (shared : Shared) (invoiceId : InvoiceId) : Decidable (shared.Reconciles invoiceId) :=
  inferInstanceAs (Decidable (∃ job ∈ _, _))

/-- The step closes a raffle with a pending invoice that has no reconciliation. -/
def World.closesUndriven (world : World) (action : Action) : Bool :=
  match world.op action with
  | some (.scheduleDueCloses _ now) =>
      decide (∃ raffle ∈ world.shared.store.db.raffles.rows, raffle.status = .opened ∧
        raffle.endTime ≤ now ∧ ∃ invoice ∈ world.shared.store.db.invoices.rows,
          invoice.raffleId = raffle.id ∧ invoice.status = .pending ∧
            ¬ world.shared.Reconciles invoice.id)
  | _ => false

/-- A job reads a pending invoice whose reference is not stored yet. -/
def World.readsUnreferenced (world : World) (action : Action) : Bool :=
  match world.request action with
  | some (choice, .query (.collectionPaymentReference invoiceId)) =>
      choice.fault.isNone && decide (∃ invoice ∈ world.shared.store.db.invoices.rows,
        invoice.id = invoiceId ∧ invoice.status = .pending ∧ invoice.providerPaymentHash = none)
  | _ => false

section Closing

variable {prim : Primitives} {scope : Scope} {raffleId : RaffleId} {view view' : RaffleView}

/-- A raffle is closing because it was, or because this step closes it. -/
theorem RaffleStep.closing_from (hstep : RaffleStep prim scope raffleId view view')
    {row' : RaffleRow} (hrow' : view'.raffle = some row') (hclosing : row'.status = .closing) :
    (∃ row, view.raffle = some row ∧ row.status = .closing) ∨
      (view'.invoices = view.invoices ∧ ∃ row now, view.raffle = some row ∧
        row.status = .opened ∧ scope.closing = some now ∧ row.endTime ≤ now) := by
  cases hstep with
  | create row split habsent hid hnew =>
      cases hrow'
      cases hnew.status.symm.trans hclosing
  | edit row _ _ _ _ _ _ hrow | settle row _ _ _ _ hrow =>
      cases hrow'
      exact .inl ⟨row, hrow, hclosing⟩
  | move row status hrow hmove =>
      cases hrow'
      obtain rfl : status = .closing := hclosing
      simp [RaffleStatus.mayMove] at hmove
  | close row jobs hrow hopen hjobs hdue =>
      obtain ⟨now, hnow, hend⟩ := hdue
      exact .inr ⟨rfl, row, now, hrow, hopen, hnow, hend⟩
  | freeze row head count jobs hrow hstatus => exact .inl ⟨row, hrow, hstatus⟩
  | draw =>
      cases hrow'
      cases hclosing
  | payOut change jobs =>
      obtain ⟨row, hrow, rfl⟩ := Option.map_eq_some_iff.mp hrow'
      split at hclosing
      · cases hclosing
      · exact .inl ⟨row, hrow, hclosing⟩
  | stay | pendingInvoice | collectionInvoice | changeInvoices | late | refund | proof | publish
  | changePayouts | changeJobs => exact .inl ⟨row', hrow', hclosing⟩

end Closing

/-- A pending invoice of a closing raffle has a reconciliation. -/
def Shared.Enqueued (shared : Shared) : Prop :=
  ∀ raffleId row, (shared.store.db.view raffleId).raffle = some row → row.status = .closing →
    ∀ invoice ∈ (shared.store.db.view raffleId).invoices, invoice.status = .pending →
      shared.Reconciles invoice.id

section Runs

variable {services : Services} {world : World} {action : Action} {shared shared' : Shared}

theorem Shared.Extends.reconciles (h : shared.Extends shared') {invoiceId : InvoiceId}
    (hjob : shared.Reconciles invoiceId) : shared'.Reconciles invoiceId := by
  obtain ⟨job, hmem, hkind, hpayload⟩ := hjob
  obtain ⟨job', hmem', hsame⟩ := h.jobs job hmem
  exact ⟨job', hmem', hsame.kind.trans hkind, by rw [hsame.payload, hpayload]⟩

/-- Where no job has ended without a reference, a reconciliation of a pending invoice goes on. -/
theorem Shared.Valid.awaits {prim : Primitives} (hvalid : shared.Valid prim)
    (hreferenced : shared.unreferenced = []) {invoice : InvoiceRow}
    (hmem : invoice ∈ shared.store.db.invoices.rows) (hpending : invoice.status = .pending)
    (hjob : shared.Reconciles invoice.id) : shared.Awaits invoice.id := by
  obtain ⟨job, hjobs, hkind, hpayload⟩ := hjob
  refine ⟨job, hjobs, hkind, hpayload, fun hsucceeded => ?_⟩
  have hcompleted := hvalid.completed job hjobs hsucceeded
  rw [hkind] at hcompleted
  cases hevent : job.payload with
  | raffle _ | other _ =>
      rw [hevent] at hpayload
      cases hpayload
  | event provider eventId invoiceId =>
      rw [hevent] at hpayload hcompleted
      obtain rfl : invoiceId = invoice.id := Option.some.inj hpayload
      rcases hcompleted with ⟨decided, hdecided, hid, hfinal⟩ | hunreferenced
      · obtain rfl : decided = invoice := shared.store.db.invoices.eq_of_clash hdecided hmem (.inl hid)
        rw [hpending] at hfinal
        cases hfinal
      · rw [hreferenced] at hunreferenced
        cases hunreferenced

/-- A read without a reference is a read of an invoice that is decided, or that has none. -/
theorem collectionPaymentReference_none {db : Database} {invoice : InvoiceRow}
    (h : collectionPaymentReference invoice.id db = .ok none) (hmem : invoice ∈ db.invoices.rows)
    (hpending : invoice.status = .pending) : invoice.providerPaymentHash = none := by
  simp only [collectionPaymentReference, Fallible.bind_eq_ok_iff, Fallible.orElse_eq_ok_iff,
    Fallible.pure_eq_ok_iff] at h
  obtain ⟨other, hother, hreference⟩ := h
  obtain ⟨hother, hid⟩ := Table.mem_of_find hother
  obtain rfl : other = invoice :=
    db.invoices.eq_of_clash hother hmem (.inl (of_decide_eq_true hid))
  rwa [if_neg (not_not.mpr hpending)] at hreference

theorem World.referenced_kept (hreads : world.readsUnreferenced action = false) :
    (world.step services action).shared.unreferenced = world.shared.unreferenced := by
  refine World.unreferenced_step fun choice invoiceId hrequest hfault hnone => ?_
  rintro ⟨invoice, hmem, rfl, hpending⟩
  rw [readsUnreferenced, hrequest] at hreads
  have hhash := collectionPaymentReference_none hnone hmem hpending
  simp only [hfault, Option.isNone_none, Bool.true_and, decide_eq_false_iff_not] at hreads
  exact hreads ⟨invoice, hmem, rfl, hpending, hhash⟩

theorem World.enqueued_step (hvalid : world.Valid services)
    (hdriven : world.closesUndriven action = false) (h : world.shared.Enqueued) :
    (world.step services action).shared.Enqueued := by
  intro raffleId row' hrow' hclosing invoice' hmem' hpending'
  obtain ⟨-, hextends⟩ := hvalid.step action
  rcases World.step_view hvalid action raffleId with hsame | ⟨op, hop, hstep⟩
  · rw [hsame] at hrow' hmem'
    exact hextends.reconciles (h raffleId row' hrow' hclosing invoice' hmem' hpending')
  · rcases hstep.closing_from hrow' hclosing with
      ⟨row, hrow, hstatus⟩ | ⟨hinvoices, row, now, hrow, hopen, hnow, hend⟩
    · obtain ⟨invoice, hmem, hsame, hkept⟩ := (hextends.view raffleId).billed
        ⟨row, hrow, by rw [hstatus]; rfl⟩ invoice' hmem'
      have hpending : invoice.status = .pending := by
        by_contra hdecided
        exact hdecided ((hkept (InvoiceStatus.isFinal_iff.mpr hdecided)).symm.trans hpending')
      rw [← hsame.id]
      exact hextends.reconciles (h raffleId row hrow hstatus invoice hmem hpending)
    · rw [hinvoices] at hmem'
      refine hextends.reconciles ?_
      by_contra hundriven
      cases op with
      | scheduleDueCloses jobIds instant =>
          obtain rfl : instant = now := Option.some.inj hnow
          simp only [closesUndriven, hop, decide_eq_false_iff_not] at hdriven
          refine hdriven ⟨row, (Table.mem_of_find hrow).1, hopen, hend, invoice',
            mem_invoices hmem', ?_, hpending', hundriven⟩
          rw [view_raffle_id hrow]
          exact of_decide_eq_true (Table.mem_select.mp hmem').2
      | _ => cases hnow

theorem World.Valid.drivable (hvalid : world.Valid services)
    (hreferenced : world.shared.unreferenced = []) (henqueued : world.shared.Enqueued) :
    world.shared.Drivable := by
  intro raffle hraffle hclosing invoice hinvoice hof hpending
  refine hvalid.shared.awaits hreferenced hinvoice hpending ?_
  exact henqueued raffle.id raffle (view_raffle_of_mem hraffle) hclosing invoice
    (hof ▸ mem_view_invoices hinvoice) hpending

end Runs

/-- In every run in which no raffle closes before a webhook has come for each of its pending
invoices, and no job reads a pending invoice before its reference is stored, a closing raffle can
be driven on. -/
theorem closing_raffle_drivable (services : Services) (actions : List Action)
    (hdriven : StateMachine.Meets (World.step services)
      (fun world action => world.closesUndriven action = false ∧
        world.readsUnreferenced action = false) .start actions) :
    (World.after services actions).shared.Drivable := by
  have hstep : ∀ (world : World) (action : Action),
      (world.closesUndriven action = false ∧ world.readsUnreferenced action = false) →
      (world.Valid services ∧ world.shared.unreferenced = [] ∧ world.shared.Enqueued) →
      (world.step services action).Valid services ∧
        (world.step services action).shared.unreferenced = [] ∧
        (world.step services action).shared.Enqueued :=
    fun world action hcond h => ⟨(h.1.step action).1,
      (World.referenced_kept hcond.2).trans h.2.1, World.enqueued_step h.1 hcond.1 h.2.2⟩
  have hstart : World.start.shared.Enqueued := fun raffleId row hrow => by
    change (Database.empty.view raffleId).raffle = some row at hrow
    rw [view_empty] at hrow
    cases hrow
  obtain ⟨hvalid, hreferenced, henqueued⟩ := StateMachine.Meets.invariant
    (P := fun world : World => world.Valid services ∧ world.shared.unreferenced = [] ∧
      world.shared.Enqueued) hstep hdriven ⟨World.valid_start services, rfl, hstart⟩
  exact hvalid.drivable hreferenced henqueued

namespace WorldSample

/-- The raffle closes while the payment of its invoice is still to be reconciled. -/
def closing : List Action := reported ++ [schedule 100]

/-- The raffle closes, and no webhook has come for its invoice. -/
def undriven : List Action := invoiced ++ [schedule 100]

end WorldSample

theorem closing_raffle_drivable_sample :
    (World.after WorldSample.services WorldSample.closing).shared.Drivable :=
  closing_raffle_drivable WorldSample.services WorldSample.closing (by decide +kernel)

/-- A closing raffle that waits for an invoice without a job. -/
theorem closing_raffle_waits :
    ¬ (World.after WorldSample.services WorldSample.undriven).shared.Drivable := by
  unfold Shared.Drivable
  decide +kernel

end OpenPool
