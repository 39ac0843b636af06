import OpenPool.Worker.SettlementCorrectness

/-! # Cancelled raffles

A raffle that is cancelled keeps the payments that it has collected. Workers record a refund only
for a payment that comes too late to be settled, so nothing records what a cancelled raffle owes. -/

namespace OpenPool

open Fallible

/-- A refund is owed for the invoice. -/
def Database.HasRefund (db : Database) (invoiceId : InvoiceId) : Prop :=
  ∃ refund ∈ db.refunds.rows, refund.invoiceId = invoiceId

instance (db : Database) (invoiceId : InvoiceId) : Decidable (db.HasRefund invoiceId) :=
  inferInstanceAs (Decidable (∃ refund ∈ _, _))

/-- Every payment of a cancelled raffle is owed back. -/
def Database.CancelledOwed (db : Database) : Prop :=
  ∀ raffle ∈ db.raffles.rows, raffle.status = .cancelled →
    ∀ invoice ∈ db.invoices.rows, invoice.raffleId = raffle.id → invoice.status = .settled →
      db.HasRefund invoice.id

/-- The organizer cancels a raffle that has collected a payment. -/
def World.cancelsSettled (world : World) (action : Action) : Bool :=
  match world.op action with
  | some (.transitionRaffle organizerId raffleId (some .cancelled)) =>
      decide (∃ raffle ∈ world.shared.store.db.raffles.rows, raffle.id = raffleId ∧
        raffle.organizerId = organizerId ∧ raffle.status.mayMove .cancelled = true ∧
        ∃ invoice ∈ world.shared.store.db.invoices.rows, invoice.raffleId = raffleId ∧
          invoice.status = .settled)
  | _ => false

/-! ## What a cancelled raffle has collected -/

/-- A cancelled raffle has collected nothing. -/
def CancelledInv (view : RaffleView) : Prop :=
  ∀ row, view.raffle = some row → row.status = .cancelled →
    ∀ invoice ∈ view.invoices, invoice.status ≠ .settled

section Steps

variable {prim : Primitives} {scope : Scope} {raffleId : RaffleId} {view view' : RaffleView}
  {db db' : Database} {store : Store}

/-- How a raffle with this row comes to be cancelled: it was, it is frozen empty, or it is moved. -/
inductive CancelledFrom (scope : Scope) (raffleId : RaffleId) (view view' : RaffleView)
    (row : RaffleRow) : Prop
  | kept (hcancelled : row.status = .cancelled)
  | frozen (hclosing : row.status = .closing) (htickets : row.totalTickets = 0)
  | moved (hinvoices : view'.invoices = view.invoices)
      (hmoved : scope.moved = some (raffleId, .cancelled))
      (hmove : row.status.mayMove .cancelled = true)

theorem RaffleStep.cancelled_from (hstep : RaffleStep prim scope raffleId view view')
    {row' : RaffleRow} (hrow' : view'.raffle = some row') (hcancelled : row'.status = .cancelled) :
    ∃ row, view.raffle = some row ∧ CancelledFrom scope raffleId view view' row := by
  cases hstep with
  | create row split habsent hid hnew =>
      cases hrow'
      cases hnew.status.symm.trans hcancelled
  | edit row _ _ _ _ _ _ hrow | settle row _ _ _ _ hrow =>
      cases hrow'
      exact ⟨row, hrow, .kept hcancelled⟩
  | move row status hrow hmove hmoved =>
      cases hrow'
      obtain rfl : status = .cancelled := hcancelled
      exact ⟨row, hrow, .moved rfl hmoved hmove⟩
  | close | draw =>
      cases hrow'
      cases hcancelled
  | freeze row head count jobs hrow hclosing =>
      cases hrow'
      refine ⟨row, hrow, .frozen hclosing ?_⟩
      by_contra htickets
      have hpending : (if row.totalTickets = 0 then RaffleStatus.cancelled
          else .randomnessPending) = .cancelled := hcancelled
      rw [if_neg htickets] at hpending
      cases hpending
  | payOut change jobs =>
      obtain ⟨row, hrow, rfl⟩ := Option.map_eq_some_iff.mp hrow'
      split at hcancelled
      · cases hcancelled
      · exact ⟨row, hrow, .kept hcancelled⟩
  | stay | pendingInvoice | collectionInvoice | changeInvoices | late | refund | proof | publish
  | changePayouts | changeJobs => exact ⟨row', hrow', .kept hcancelled⟩

/-- The payment of a closed raffle was settled before the step. -/
theorem RaffleStep.settled_closed (hstep : RaffleStep prim scope raffleId view view')
    (hbefore : InvoiceInv view) (hafter : InvoiceInv view') (hclosed : view.IsClosed)
    {invoice' : InvoiceRow} (hmem' : invoice' ∈ view'.invoices)
    (hsettled' : invoice'.status = .settled) :
    ∃ invoice ∈ view.invoices, invoice.status = .settled := by
  obtain ⟨entry, hentry, -⟩ := hafter.settled invoice' hmem' hsettled'
  rw [hstep.entries_ended hclosed] at hentry
  obtain ⟨invoice, hmem, -, hsettled⟩ := hbefore.paid entry hentry
  exact ⟨invoice, hmem, hsettled⟩

/-- A raffle without tickets has collected nothing. -/
theorem Store.Sound.unsettled_of_empty (hsound : store.Sound prim) {row : RaffleRow}
    (hrow : (store.db.view raffleId).raffle = some row) (htickets : row.totalTickets = 0)
    {invoice : InvoiceRow} (hmem : invoice ∈ (store.db.view raffleId).invoices) :
    invoice.status ≠ .settled := by
  intro hsettled
  obtain ⟨entry, hentry, -⟩ := (hsound.invoices raffleId).settled invoice hmem hsettled
  obtain ⟨-, ledger, cursor, htracks⟩ := hsound.tracks hrow
  exact htracks.tickets_pos.mp (List.ne_nil_of_mem hentry) htickets

/-- A transition moves the raffle of its organizer. -/
theorem transitionRaffle_organizer {organizerId : OrganizerId} {status : Option RaffleStatus}
    {u : Unit} (h : transitionRaffle organizerId raffleId status db = .ok (db', u)) :
    ∃ row, (db.view raffleId).raffle = some row ∧ row.organizerId = organizerId := by
  simp only [transitionRaffle, bind_eq_ok_iff, sql_eq_ok_iff, orElse_eq_ok_iff, ensure_eq_ok_iff,
    pure_eq_ok_iff, Prod.mk.injEq] at h
  obtain ⟨target, -, ⟨raffles, returned⟩, hraffles, -, hone, -⟩ := h
  have hlength : 0 < returned.length := hone ▸ Nat.zero_lt_one
  rw [(Table.rows_of_update hraffles).2, List.length_map] at hlength
  obtain ⟨row, hmem⟩ := List.exists_mem_of_length_pos hlength
  obtain ⟨hrow, hfilter⟩ := List.mem_filter.mp hmem
  obtain ⟨rfl, horganizer, -⟩ := of_decide_eq_true hfilter
  exact ⟨row, view_raffle_of_mem hrow, horganizer⟩

/-- The organizer may always cancel a raffle that is not closed. -/
theorem transitionRaffle_cancels {row : RaffleRow} (hmem : row ∈ db.raffles.rows)
    (hmove : row.status.mayMove .cancelled = true) :
    ∃ raffles : Table RaffleRow, { row with status := .cancelled } ∈ raffles.rows ∧
      transitionRaffle row.organizerId row.id (some .cancelled) db =
        .ok ({ db with raffles }, ()) := by
  obtain ⟨raffles, hraffles, hreplaces⟩ := db.raffles.update_one RaffleRow.id
    (fun other => other.id = row.id ∧ other.organizerId = row.organizerId ∧
      other.status.mayMove .cancelled)
    (fun other => { other with status := .cancelled }) (fun _ _ => id) (fun _ => id)
    (fun _ _ => id) (fun _ => rfl)
    (fun _ _ ha hb => (of_decide_eq_true ha).1.trans (of_decide_eq_true hb).1.symm) hmem
    (decide_eq_true ⟨rfl, rfl, hmove⟩)
  refine ⟨raffles, hreplaces.new_mem, ?_⟩
  simp only [transitionRaffle, bind_eq_ok_iff, sql_eq_ok_iff, orElse_eq_ok_iff, ensure_eq_ok_iff,
    pure_eq_ok_iff]
  exact ⟨_, rfl, _, hraffles, (), rfl, rfl⟩

end Steps

section Cancelled

variable {services : Services} {world : World} {action : Action} {raffleId : RaffleId}

/-- Where workers record the refunds, what is owed is that nothing was collected. -/
theorem Store.Lawful.cancelledOwed_iff {prim : Primitives} {store : Store}
    (hlawful : store.Lawful prim) :
    store.db.CancelledOwed ↔ ∀ raffleId, CancelledInv (store.db.view raffleId) := by
  constructor
  · intro howed raffleId row hrow hcancelled invoice hmem hsettled
    obtain ⟨hinvoice, hof⟩ := Table.mem_select.mp hmem
    have hid : invoice.raffleId = row.id :=
      (of_decide_eq_true hof).trans (view_raffle_id hrow).symm
    obtain ⟨refund, hrefund, hrefunded⟩ :=
      howed row (Table.mem_of_find hrow).1 hcancelled invoice hinvoice hid hsettled
    exact hlawful.unsettled_of_refund hinvoice hrefund hrefunded hsettled
  · intro hnone raffle hraffle hcancelled invoice hinvoice hof hsettled
    exact absurd hsettled (hnone raffle.id raffle (view_raffle_of_mem hraffle) hcancelled invoice
      (hof ▸ mem_view_invoices hinvoice))

/-- A transition that changes the store has moved a raffle that has collected nothing. -/
theorem World.moved_cancelled {op : Op} (hop : world.op action = some op)
    (hunsettled : world.cancelsSettled action = false)
    (hscope : (op.scope world.shared.store).moved = some (raffleId, .cancelled)) {row : RaffleRow}
    (hrow : (world.shared.store.db.view raffleId).raffle = some row)
    (hmove : row.status.mayMove .cancelled = true) :
    world.shared.store.step services.prim op = world.shared.store ∨
      ∀ invoice ∈ (world.shared.store.db.view raffleId).invoices, invoice.status ≠ .settled := by
  cases op with
  | transitionRaffle organizerId id status =>
      obtain ⟨target, rfl, hmoved⟩ := Option.map_eq_some_iff.mp hscope
      obtain ⟨rfl, rfl⟩ := Prod.mk.inj hmoved
      rcases commit_cases world.shared.store.db
          (transitionRaffle organizerId id (some .cancelled) world.shared.store.db) with
        hsame | ⟨u, hok⟩
      · exact .inl (congrArg (fun db => { world.shared.store with db }) hsame)
      · obtain ⟨other, hother, horganizer⟩ := transitionRaffle_organizer hok
        obtain rfl : other = row := Option.some.inj (hother.symm.trans hrow)
        refine .inr fun invoice hmem hsettled => ?_
        obtain ⟨hinvoice, hof⟩ := Table.mem_select.mp hmem
        simp only [cancelsSettled, hop, decide_eq_false_iff_not] at hunsettled
        exact hunsettled ⟨other, (Table.mem_of_find hrow).1, view_raffle_id hrow, horganizer,
          hmove, invoice, hinvoice, of_decide_eq_true hof, hsettled⟩
  | _ => cases hscope

theorem World.cancelled_step (hvalid : world.Valid services)
    (hunsettled : world.cancelsSettled action = false)
    (h : ∀ raffleId, CancelledInv (world.shared.store.db.view raffleId)) (raffleId : RaffleId) :
    CancelledInv ((world.step services action).shared.store.db.view raffleId) := by
  intro row' hrow' hcancelled invoice' hmem' hsettled'
  rcases World.step_view hvalid action raffleId with hsame | ⟨op, hop, hstep⟩
  · rw [hsame] at hrow' hmem'
    exact h raffleId row' hrow' hcancelled invoice' hmem' hsettled'
  · have hbefore := hvalid.shared.lawful.sound
    have hafter := (hvalid.step action).1.shared.lawful.sound
    have hcollected : ∀ {row : RaffleRow},
        (world.shared.store.db.view raffleId).raffle = some row → row.status.beforeClose = false →
        ∃ invoice ∈ (world.shared.store.db.view raffleId).invoices, invoice.status = .settled :=
      fun hrow hclosed => hstep.settled_closed (hbefore.invoices raffleId)
        (hafter.invoices raffleId) ⟨_, hrow, hclosed⟩ hmem' hsettled'
    obtain ⟨row, hrow, hfrom⟩ := hstep.cancelled_from hrow' hcancelled
    cases hfrom with
    | kept hstatus =>
        obtain ⟨invoice, hmem, hsettled⟩ := hcollected hrow (by rw [hstatus]; rfl)
        exact h raffleId row hrow hstatus invoice hmem hsettled
    | frozen hclosing htickets =>
        obtain ⟨invoice, hmem, hsettled⟩ := hcollected hrow (by rw [hclosing]; rfl)
        exact hbefore.unsettled_of_empty hrow htickets hmem hsettled
    | moved hinvoices hscope hmove =>
        have hmoved : world.shared.store.step services.prim op = world.shared.store ∨ _ :=
          World.moved_cancelled hop hunsettled hscope hrow hmove
        rcases hmoved with hsame | hnone
        · have hstore : (world.step services action).shared.store = world.shared.store := by
            rw [World.store_step, hop]
            exact hsame
          rw [hstore] at hrow' hmem'
          exact h raffleId row' hrow' hcancelled invoice' hmem' hsettled'
        · rw [hinvoices] at hmem'
          exact hnone invoice' hmem' hsettled'

/-- A raffle that is cancelled with a payment has collected one. -/
theorem World.not_cancelledInv (hsettled : world.cancelsSettled action = true) :
    ∃ raffleId, ¬ CancelledInv ((world.step services action).shared.store.db.view raffleId) := by
  unfold cancelsSettled at hsettled
  split at hsettled
  · rename_i organizerId raffleId hop
    obtain ⟨row, hrow, rfl, rfl, hmove, invoice, hinvoice, hof, hstatus⟩ :=
      of_decide_eq_true hsettled
    obtain ⟨raffles, hcancelled, hcall⟩ := transitionRaffle_cancels hrow hmove
    have hdb : (world.step services action).shared.store.db =
        { world.shared.store.db with raffles } := by
      rw [World.store_step, hop]
      exact exec_db hcall
    have hmem : { row with status := .cancelled } ∈
        (world.step services action).shared.store.db.raffles.rows := by
      rw [hdb]
      exact hcancelled
    have hkept : invoice ∈ (world.step services action).shared.store.db.invoices.rows := by
      rw [hdb]
      exact hinvoice
    have hfound := view_raffle_of_mem hmem
    exact ⟨row.id, fun hinv => hinv _ hfound rfl invoice
      (hof ▸ mem_view_invoices hkept) hstatus⟩
  · cases hsettled

/-- A step keeps what is owed exactly where it cancels no raffle with a payment. -/
theorem World.cancelledOwed_step_iff (hvalid : world.Valid services)
    (h : world.shared.store.db.CancelledOwed) :
    (world.step services action).shared.store.db.CancelledOwed ↔
      world.cancelsSettled action = false := by
  rw [(hvalid.step action).1.shared.lawful.cancelledOwed_iff]
  rw [hvalid.shared.lawful.cancelledOwed_iff] at h
  refine ⟨fun hinv => ?_, fun hunsettled => World.cancelled_step hvalid hunsettled h⟩
  by_contra hsettled
  have hbroken : ∃ raffleId,
      ¬ CancelledInv ((world.step services action).shared.store.db.view raffleId) :=
    World.not_cancelledInv (Bool.of_not_eq_false hsettled)
  obtain ⟨raffleId, hbroken⟩ := hbroken
  exact hbroken (hinv raffleId)

end Cancelled

/-- All along a run every payment of a cancelled raffle is owed back, exactly when the run cancels
no raffle that has collected a payment. -/
theorem cancelled_payments_owed (services : Services) (actions : List Action) :
    (∀ front, front <+: actions → (World.after services front).shared.store.db.CancelledOwed) ↔
      StateMachine.Meets (World.step services)
        (fun world action => world.cancelsSettled action = false) .start actions :=
  StateMachine.prefixes_iff_meets (A := fun _ => True)
    (P := fun world : World => world.Valid services)
    (Q := fun world : World => world.shared.store.db.CancelledOwed)
    (fun _ action _ hvalid => (World.Valid.step hvalid action).1)
    (fun _ _ _ hvalid howed => World.cancelledOwed_step_iff hvalid howed)
    (World.valid_start services) (fun _ hmem => absurd hmem List.not_mem_nil)
    fun _ _ => trivial

namespace WorldSample

open SampleRun

/-- The organizer cancels the raffle. -/
def cancelling : Action := .api (.transitionRaffle organizerId raffleId (some .cancelled))

/-- A worker has settled the payment before. -/
def cancelled : List Action := reported ++ runJob 3 (choiceAt 3 (uuid 4)) ++ [cancelling]

/-- A worker comes to the payment only afterwards, and records a refund. -/
def refunded : List Action := reported ++ cancelling :: runJob 4 (choiceAt 3 (uuid 4))

end WorldSample

theorem cancelled_payments_owed_sample :
    (World.after WorldSample.services WorldSample.refunded).shared.store.db.CancelledOwed ∧
      ∃ raffle ∈ (World.after WorldSample.services WorldSample.refunded).shared.store.db.raffles.rows,
        raffle.status = .cancelled ∧ ∃ invoice ∈
          (World.after WorldSample.services WorldSample.refunded).shared.store.db.invoices.rows,
          invoice.raffleId = raffle.id ∧
            (World.after WorldSample.services WorldSample.refunded).shared.store.db.HasRefund
              invoice.id :=
  ⟨(cancelled_payments_owed WorldSample.services WorldSample.refunded).mpr (by decide +kernel)
    WorldSample.refunded (List.prefix_refl _), by decide +kernel⟩

/-- A payment of a cancelled raffle for which no refund is owed. -/
theorem cancelled_payment_lost :
    ¬ (World.after WorldSample.services WorldSample.cancelled).shared.store.db.CancelledOwed := by
  unfold Database.CancelledOwed
  decide +kernel

end OpenPool
