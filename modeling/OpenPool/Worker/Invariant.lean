import OpenPool.Store.Monotone
import OpenPool.Store.Frames
import OpenPool.Worker.World

/-! # What holds between two requests

Every transaction and every call keeps the invariant of the shared state, and takes nothing
back. Three operations need a condition: a settlement of a payout needs its payment, a late
settlement an invoice that is not settled, and the completion of a payout job its payouts. -/

namespace OpenPool

/-- The payment is the one that a payout owes. -/
structure Payment.IsFor (payment : Payment) (terms : PayoutTerms) : Prop where
  payload : payment.payload = .raffle terms.raffleId
  payoutId : payment.request.payoutId.uuid = terms.id
  idempotencyKey : payment.request.idempotencyKey = terms.idempotencyKey
  amountSats : (payment.request.amountSats.asU64.toNat : ℤ) = terms.amountSats

/-- Every payout of the raffle is settled, unless a claim has missed one. -/
def Shared.Executed (shared : Shared) (raffleId : RaffleId) : Prop :=
  (∀ payout ∈ (shared.store.db.view raffleId).payouts, payout.status = .settled) ∨
    raffleId ∈ shared.missed

/-- The invoice is decided, unless a job has found it without a provider reference. -/
def Shared.Decided (shared : Shared) (invoiceId : InvoiceId) : Prop :=
  (∃ invoice ∈ shared.store.db.invoices.rows, invoice.id = invoiceId ∧
    invoice.status.isFinal = true) ∨ invoiceId ∈ shared.unreferenced

/-- What the end of a job means for the rows it is about. -/
def Shared.Completed (shared : Shared) : JobKind → JobPayload → Prop
  | .payoutExecute, .raffle raffleId => shared.Executed raffleId
  | .paymentReconcile, .event _ _ invoiceId => shared.Decided invoiceId
  | _, _ => True

/-- The invariants of the rows of each raffle. -/
structure Store.Lawful (prim : Primitives) (store : Store) : Prop where
  sound : store.Sound prim
  late : ∀ raffleId, LateInv (store.db.view raffleId)
  closing : ∀ raffleId, CloseInv (store.db.view raffleId)
  decided : ∀ raffleId, DecidedInv (store.db.view raffleId)

structure Shared.Valid (prim : Primitives) (shared : Shared) : Prop where
  lawful : shared.store.Lawful prim
  sent : ∀ payment ∈ shared.sent, ∃ payout ∈ shared.store.db.payouts.rows,
    payment.IsFor payout.terms
  paid : shared.paid ⊆ shared.sent
  paidOnce : (shared.paid.map fun payment => payment.request.idempotencyKey).Nodup
  confirmed : ∀ key ∈ shared.confirmed, ∃ payment ∈ shared.paid,
    payment.request.idempotencyKey = key
  settled : ∀ payout ∈ shared.store.db.payouts.rows, payout.status = .settled →
    payout.idempotencyKey ∈ shared.confirmed
  settling : ∀ transaction ∈ shared.store.settling, ∃ payout ∈ shared.store.db.payouts.rows,
    payout.id = transaction.payoutId ∧ payout.idempotencyKey ∈ shared.confirmed
  completed : ∀ job ∈ shared.store.db.jobs.rows, job.status = .succeeded →
    shared.Completed job.kind job.payload

/-- What every change of the shared state keeps. -/
structure Shared.Extends (shared shared' : Shared) : Prop where
  view : ∀ raffleId,
    (shared.store.db.view raffleId).Extends (shared'.store.db.view raffleId)
  jobs : ∀ job ∈ shared.store.db.jobs.rows, ∃ job' ∈ shared'.store.db.jobs.rows,
    job'.SameJob job
  confirmed : shared.confirmed ⊆ shared'.confirmed
  missed : shared.missed ⊆ shared'.missed
  unreferenced : shared.unreferenced ⊆ shared'.unreferenced

/-- What an operation needs to keep the invariant. -/
def Op.Allowed (shared : Shared) : Op → Prop
  | beginSettle payoutId _ _ => ∃ payout ∈ shared.store.db.payouts.rows, payout.id = payoutId ∧
      payout.idempotencyKey ∈ shared.confirmed
  | markLateSettlementForRefund invoiceId _ => ∀ invoice ∈ shared.store.db.invoices.rows,
      invoice.id = invoiceId → invoice.status ≠ .settled
  | succeedJob jobId _ => ∀ job ∈ shared.store.db.jobs.rows, job.id = jobId →
      shared.Completed job.kind job.payload
  | freezeRaffle raffleId _ _ => ∀ invoice ∈ (shared.store.db.view raffleId).invoices,
      invoice.status.isFinal = true
  | createPendingInvoice _ | createRefundEligibility .. => False
  | _ => True

/-- A change of the history alone. -/
theorem Shared.extends_of_store {shared shared' : Shared} (hstore : shared'.store = shared.store)
    (hconfirmed : shared.confirmed ⊆ shared'.confirmed) (hmissed : shared.missed ⊆ shared'.missed)
    (hunreferenced : shared.unreferenced ⊆ shared'.unreferenced) : shared.Extends shared' where
  view raffleId := by
    rw [hstore]
    exact .refl _
  jobs job hmem := ⟨job, hstore ▸ hmem, .refl job⟩
  confirmed := hconfirmed
  missed := hmissed
  unreferenced := hunreferenced

theorem Shared.Extends.refl (shared : Shared) : shared.Extends shared :=
  extends_of_store rfl (List.Subset.refl _) (List.Subset.refl _) (List.Subset.refl _)

theorem Shared.Extends.trans {a b c : Shared} (h : a.Extends b) (h' : b.Extends c) :
    a.Extends c where
  view raffleId := (h.view raffleId).trans (h'.view raffleId)
  jobs job hmem := by
    obtain ⟨job', hmem', hsame⟩ := h.jobs job hmem
    obtain ⟨job'', hmem'', hsame'⟩ := h'.jobs job' hmem'
    exact ⟨job'', hmem'', hsame'.trans hsame⟩
  confirmed := List.Subset.trans h.confirmed h'.confirmed
  missed := List.Subset.trans h.missed h'.missed
  unreferenced := List.Subset.trans h.unreferenced h'.unreferenced

section Kept

variable {db db' : Database} {shared shared' : Shared} {raffleId : RaffleId}

theorem mem_view_payouts {payout : PayoutRow} (hmem : payout ∈ db.payouts.rows) :
    payout ∈ (db.view payout.raffleId).payouts :=
  Table.mem_select.mpr ⟨hmem, decide_eq_true rfl⟩

theorem mem_payouts {payout : PayoutRow} (hmem : payout ∈ (db.view raffleId).payouts) :
    payout ∈ db.payouts.rows :=
  (Table.mem_select.mp hmem).1

theorem Shared.Extends.payout (h : shared.Extends shared') {payout : PayoutRow}
    (hmem : payout ∈ shared.store.db.payouts.rows) :
    ∃ payout' ∈ shared'.store.db.payouts.rows, payout'.terms = payout.terms := by
  obtain ⟨payout', hmem', hterms⟩ := (h.view payout.raffleId).payout payout (mem_view_payouts hmem)
  exact ⟨payout', mem_payouts hmem', hterms⟩

/-- Settled payouts stay settled, and a drawn raffle gets no new ones. -/
theorem Shared.Extends.executed (h : shared.Extends shared')
    (hdrawn : (shared.store.db.view raffleId).IsDrawn) (hexecuted : shared.Executed raffleId) :
    shared'.Executed raffleId := by
  rcases hexecuted with hsettled | hmissed
  · refine .inl fun payout' hmem' => ?_
    have hterms := List.mem_map_of_mem (f := PayoutRow.terms) hmem'
    rw [(h.view raffleId).terms hdrawn] at hterms
    obtain ⟨payout, hmem, hterms⟩ := List.mem_map.mp hterms
    have hkept := (h.view raffleId).settled payout hmem (hsettled payout hmem)
    rw [← eq_of_payout_id (mem_payouts hkept) (mem_payouts hmem')
      (congrArg PayoutTerms.id hterms)]
    exact hsettled payout hmem
  · exact .inr (h.missed hmissed)

/-- An invoice is kept, and a final status with it. -/
theorem Shared.Extends.invoice (h : shared.Extends shared') {invoice : InvoiceRow}
    (hmem : invoice ∈ shared.store.db.invoices.rows) :
    ∃ invoice' ∈ shared'.store.db.invoices.rows, invoice.SameInvoice invoice' ∧
      (invoice.status.isFinal = true → invoice'.status = invoice.status) := by
  obtain ⟨invoice', hmem', hsame⟩ := (h.view invoice.raffleId).invoice invoice (mem_view_invoices hmem)
  exact ⟨invoice', mem_invoices hmem', hsame⟩

theorem Shared.Extends.decided (h : shared.Extends shared') {invoiceId : InvoiceId}
    (hdecided : shared.Decided invoiceId) : shared'.Decided invoiceId := by
  rcases hdecided with ⟨invoice, hmem, hid, hfinal⟩ | hunreferenced
  · obtain ⟨invoice', hmem', hsame, hkept⟩ := h.invoice hmem
    exact .inl ⟨invoice', hmem', hsame.id.symm.trans hid, (hkept hfinal).symm ▸ hfinal⟩
  · exact .inr (h.unreferenced hunreferenced)

/-- The end of a job keeps its meaning. -/
theorem Shared.Extends.completed (h : shared.Extends shared') {kind : JobKind}
    {payload : JobPayload} (hdrawn : ∀ raffleId, kind = .payoutExecute →
      payload = .raffle raffleId → (shared.store.db.view raffleId).IsDrawn)
    (hcompleted : shared.Completed kind payload) : shared'.Completed kind payload := by
  unfold Shared.Completed at hcompleted ⊢
  split
  · exact h.executed (hdrawn _ rfl rfl) hcompleted
  · exact h.decided hcompleted
  · trivial

theorem concerns_of_payload {job : JobRow} (h : job.payload = .raffle raffleId) :
    job.concerns raffleId = true :=
  decide_eq_true (.inl h)

/-- A payout job belongs to a drawn raffle. -/
theorem Store.Sound.drawn {prim : Primitives} {store : Store} (hsound : store.Sound prim)
    {job : JobRow} (hmem : job ∈ store.db.jobs.rows) (hkind : job.kind = .payoutExecute)
    (hpayload : job.payload = .raffle raffleId) : (store.db.view raffleId).IsDrawn :=
  (hsound.jobs raffleId job
    (Table.mem_select.mpr ⟨hmem, concerns_of_payload hpayload⟩)).2.2 hkind

end Kept

/-! ## Operations -/

section Operations

variable {prim : Primitives} {shared : Shared} {op : Op} {store : Store}

theorem Op.of_completed {jobId : Uuid} (h : (op.scope store).completed = some jobId) :
    ∃ workerId, op = .succeedJob jobId workerId := by
  cases op <;> cases h
  exact ⟨_, rfl⟩

theorem Op.of_settled {payoutId : Uuid} (h : (op.scope store).settled = some payoutId) :
    op = .commitSettle payoutId := by
  cases op <;> cases h
  rfl

theorem Op.of_late {invoiceId : InvoiceId} (h : (op.scope store).late = some invoiceId) :
    ∃ refundId, op = .markLateSettlementForRefund invoiceId refundId := by
  cases op <;> cases h
  exact ⟨_, rfl⟩

theorem Op.of_frozen {raffleId : RaffleId} (h : (op.scope store).frozen = some raffleId) :
    ∃ jobId now, op = .freezeRaffle raffleId jobId now := by
  cases op <;> cases h
  exact ⟨_, _, rfl⟩

theorem Op.Allowed.seam (h : op.Allowed shared) : (op.scope store).seam = false := by
  cases op <;> first | rfl | exact h.elim

/-- An open transaction was open before, or the operation opens it. -/
theorem Store.settling_from {transaction' : SettleTransaction}
    (hmem : transaction' ∈ (store.step prim op).settling) :
    (∃ transaction ∈ store.settling, transaction'.payoutId = transaction.payoutId) ∨
      ∃ workerId providerReference,
        op = .beginSettle transaction'.payoutId workerId providerReference := by
  have hold : transaction' ∈ store.settling → ∃ transaction ∈ store.settling,
      transaction'.payoutId = transaction.payoutId := fun hmem => ⟨transaction', hmem, rfl⟩
  have hadvance : ∀ {payoutId : Uuid} {next : SettleTransaction → Option SettleStage},
      transaction' ∈ (store.advance payoutId next).settling → ∃ transaction ∈ store.settling,
        transaction'.payoutId = transaction.payoutId := by
    intro payoutId next hmem
    obtain ⟨transaction, htransaction, rfl⟩ := List.mem_map.mp hmem
    refine ⟨transaction, htransaction, ?_⟩
    split <;> rfl
  cases op with
  | beginSettle payoutId workerId providerReference =>
      change transaction' ∈ (store.beginSettle _ _ _).settling at hmem
      unfold Store.beginSettle at hmem
      split at hmem
      · exact .inl (hold hmem)
      · split at hmem
        · rename_i transaction hok
          rcases List.mem_append.mp hmem with hmem | hmem
          · exact .inl (hold hmem)
          · obtain rfl := List.mem_singleton.mp hmem
            obtain ⟨-, rfl, -⟩ := beginSettle_sound hok
            exact .inr ⟨_, _, rfl⟩
        · exact .inl (hold hmem)
  | countUnsettled => exact .inl (hadvance hmem)
  | markPaidOut => exact .inl (hadvance hmem)
  | enqueueProof => exact .inl (hadvance hmem)
  | rollbackSettle => exact .inl (hold (List.mem_of_mem_filter hmem))
  | commitSettle payoutId =>
      change transaction' ∈ (store.commitSettle payoutId).settling at hmem
      rcases commitSettle_cases store payoutId with hsame | ⟨transaction, -, -, hcommit⟩
      · exact .inl (hold (hsame ▸ hmem))
      · rw [hcommit] at hmem
        exact .inl (hold (List.mem_of_mem_filter hmem))
  | failPayout payoutId workerId reason =>
      change transaction' ∈ (ite _ _ _ : Store).settling at hmem
      split at hmem
      · exact .inl (hold hmem)
      · exact .inl (hold hmem)
  | _ => exact .inl (hold hmem)

theorem Shared.Valid.extends (hvalid : shared.Valid prim) (hallowed : op.Allowed shared) :
    shared.Extends { shared with store := shared.store.step prim op } where
  view _ := (shared.store.step_raffleStep hvalid.lawful.sound op).extends (view_invoices_keyed _ _)
    hallowed.seam
  jobs := (shared.store.step_queue prim op).2.kept
  confirmed := List.Subset.refl _
  missed := List.Subset.refl _
  unreferenced := List.Subset.refl _

theorem Store.Lawful.step (hlawful : shared.store.Lawful prim) (hallowed : op.Allowed shared) :
    (shared.store.step prim op).Lawful prim := by
  have hstep : ∀ raffleId, RaffleStep prim (op.scope shared.store) raffleId
      (shared.store.db.view raffleId) ((shared.store.step prim op).db.view raffleId) :=
    fun _ => shared.store.step_raffleStep hlawful.sound op
  refine ⟨hlawful.sound.step op, fun raffleId => ?_,
    fun raffleId => (hstep raffleId).closeInv (hlawful.closing raffleId), fun raffleId => ?_⟩
  · refine (hstep raffleId).lateInv (view_invoices_keyed _ _) hallowed.seam ?_
      (hlawful.late raffleId)
    intro invoice hmem hscope
    obtain ⟨refundId, rfl⟩ := Op.of_late hscope
    exact hallowed invoice (mem_invoices hmem) rfl
  · refine (hstep raffleId).decidedInv ((hstep raffleId).extends (view_invoices_keyed _ _)
      hallowed.seam) ?_ (hlawful.decided raffleId)
    intro hscope
    obtain ⟨jobId, now, rfl⟩ := Op.of_frozen hscope
    exact hallowed

/-- A payout that is settled has been paid. -/
theorem Shared.Valid.settled_step (hvalid : shared.Valid prim) {payout' : PayoutRow}
    (hmem' : payout' ∈ (shared.store.step prim op).db.payouts.rows)
    (hstatus : payout'.status = .settled) : payout'.idempotencyKey ∈ shared.confirmed := by
  have hstep : RaffleStep prim (op.scope shared.store) payout'.raffleId _ _ :=
    shared.store.step_raffleStep hvalid.lawful.sound op
  obtain ⟨payout, hmem, hterms, hsettled⟩ :=
    hstep.settled_from (mem_view_payouts hmem') hstatus
  have hkey : payout'.idempotencyKey = payout.idempotencyKey :=
    congrArg PayoutTerms.idempotencyKey hterms
  rcases hsettled with hsettled | hscope
  · rw [hkey]
    exact hvalid.settled payout (mem_payouts hmem) hsettled
  · obtain rfl := Op.of_settled hscope
    change payout' ∈ (shared.store.commitSettle payout.id).db.payouts.rows at hmem'
    rcases commitSettle_cases shared.store payout.id with hsame | ⟨transaction, hopen, -⟩
    · rw [hsame] at hmem'
      exact hvalid.settled payout' hmem' hstatus
    · obtain ⟨htransaction, hid⟩ := mem_of_transaction hopen
      obtain ⟨paid, hpaid, hpaidId, hconfirmed⟩ := hvalid.settling transaction htransaction
      rw [hkey, ← eq_of_payout_id hpaid (mem_payouts hmem) (hpaidId.trans hid)]
      exact hconfirmed

/-- A job that is completed was, or this operation completes it. -/
theorem Shared.Valid.completed_step (hvalid : shared.Valid prim) (hallowed : op.Allowed shared)
    {job' : JobRow} (hmem' : job' ∈ (shared.store.step prim op).db.jobs.rows)
    (hstatus : job'.status = .succeeded) :
    Shared.Completed { shared with store := shared.store.step prim op } job'.kind job'.payload := by
  obtain ⟨job, hmem, hsame, hsucceeded⟩ := (shared.store.step_queue prim op).2.succeeded job' hmem' hstatus
  rw [hsame.kind, hsame.payload]
  refine (hvalid.extends hallowed).completed
    (fun raffleId => hvalid.lawful.sound.drawn hmem) ?_
  rcases hsucceeded with hsucceeded | hscope
  · exact hvalid.completed job hmem hsucceeded
  · obtain ⟨workerId, rfl⟩ := Op.of_completed hscope
    exact hallowed job hmem rfl

/-- An allowed operation keeps the invariant. -/
theorem Shared.Valid.step (hvalid : shared.Valid prim) (hallowed : op.Allowed shared) :
    Shared.Valid prim { shared with store := shared.store.step prim op } := by
  have hextends := hvalid.extends hallowed
  refine ⟨hvalid.lawful.step hallowed, fun payment hmem => ?_, hvalid.paid, hvalid.paidOnce,
    hvalid.confirmed, fun _ => hvalid.settled_step, fun transaction hmem => ?_,
    fun _ => hvalid.completed_step hallowed⟩
  · obtain ⟨payout, hpayout, hfor⟩ := hvalid.sent payment hmem
    obtain ⟨payout', hpayout', hterms⟩ := hextends.payout hpayout
    exact ⟨payout', hpayout', hterms ▸ hfor⟩
  · have hpaid : ∃ payout ∈ shared.store.db.payouts.rows, payout.id = transaction.payoutId ∧
        payout.idempotencyKey ∈ shared.confirmed := by
      rcases Store.settling_from hmem with ⟨old, hold, hid⟩ | ⟨workerId, reference, rfl⟩
      · rw [hid]
        exact hvalid.settling old hold
      · exact hallowed
    obtain ⟨payout, hpayout, hid, hkey⟩ := hpaid
    obtain ⟨payout', hpayout', hterms⟩ := hextends.payout hpayout
    have hsame : payout'.idempotencyKey = payout.idempotencyKey :=
      congrArg PayoutTerms.idempotencyKey hterms
    exact ⟨payout', hpayout', (congrArg PayoutTerms.id hterms).trans hid, hsame ▸ hkey⟩

end Operations

/-! ## Calls and requests -/

section Requests

variable {services : Services} {prim : Primitives} {shared : Shared} {payment : Payment}

theorem Shared.extends_send (shared : Shared) (payment : Payment) :
    shared.Extends (shared.send payment) :=
  extends_of_store rfl (List.Subset.refl _) (List.Subset.refl _) (List.Subset.refl _)

theorem Shared.Valid.send (hvalid : shared.Valid prim)
    (hfor : ∃ payout ∈ shared.store.db.payouts.rows, payment.IsFor payout.terms) :
    (shared.send payment).Valid prim where
  lawful := hvalid.lawful
  sent other hmem := by
    rcases List.mem_append.mp hmem with hmem | hmem
    · exact hvalid.sent other hmem
    · exact List.mem_singleton.mp hmem ▸ hfor
  paid := List.Subset.trans hvalid.paid (List.subset_append_left _ _)
  paidOnce := hvalid.paidOnce
  confirmed := hvalid.confirmed
  settled := hvalid.settled
  settling := hvalid.settling
  completed := hvalid.completed

theorem Shared.extends_pay (shared : Shared) (payment : Payment) :
    shared.Extends (shared.pay payment) := by
  unfold Shared.pay
  split
  · exact .refl _
  · exact extends_of_store rfl (List.Subset.refl _) (List.Subset.refl _) (List.Subset.refl _)

theorem Shared.Valid.pay (hvalid : shared.Valid prim) (hsent : payment ∈ shared.sent) :
    (shared.pay payment).Valid prim := by
  unfold Shared.pay
  split
  · exact hvalid
  · rename_i hnew
    refine ⟨hvalid.lawful, hvalid.sent, ?_, ?_, fun key hmem => ?_, hvalid.settled,
      hvalid.settling, hvalid.completed⟩
    · exact List.append_subset.mpr ⟨hvalid.paid, by simpa using hsent⟩
    · rw [List.map_append]
      refine List.nodup_append.mpr ⟨hvalid.paidOnce, List.nodup_singleton _, ?_⟩
      rintro key hkey _ hsingle rfl
      obtain ⟨other, hother, rfl⟩ := List.mem_map.mp hkey
      exact hnew (List.any_eq_true.mpr
        ⟨other, hother, decide_eq_true (List.mem_singleton.mp hsingle)⟩)
    · obtain ⟨other, hother, hkey⟩ := hvalid.confirmed key hmem
      exact ⟨other, List.mem_append_left _ hother, hkey⟩

/-- The key of a payment has been paid. -/
theorem Shared.mem_pay (shared : Shared) (payment : Payment) :
    ∃ other ∈ (shared.pay payment).paid,
      other.request.idempotencyKey = payment.request.idempotencyKey := by
  unfold Shared.pay
  split
  · rename_i hpaid
    obtain ⟨other, hother, hkey⟩ := List.any_eq_true.mp hpaid
    exact ⟨other, hother, of_decide_eq_true hkey⟩
  · exact ⟨payment, by simp, rfl⟩

theorem Shared.extends_confirm (shared : Shared) (key : String) :
    shared.Extends (shared.confirm key) :=
  extends_of_store rfl (List.subset_append_left _ _) (List.Subset.refl _) (List.Subset.refl _)

theorem Shared.Valid.confirm {key : String} (hvalid : shared.Valid prim)
    (hpaid : ∃ payment ∈ shared.paid, payment.request.idempotencyKey = key) :
    (shared.confirm key).Valid prim where
  lawful := hvalid.lawful
  sent := hvalid.sent
  paid := hvalid.paid
  paidOnce := hvalid.paidOnce
  confirmed other hmem := by
    rcases List.mem_append.mp hmem with hmem | hmem
    · exact hvalid.confirmed other hmem
    · exact List.mem_singleton.mp hmem ▸ hpaid
  settled payout hmem hstatus := List.mem_append_left _ (hvalid.settled payout hmem hstatus)
  settling transaction hmem := by
    obtain ⟨payout, hpayout, hid, hkey⟩ := hvalid.settling transaction hmem
    exact ⟨payout, hpayout, hid, List.mem_append_left _ hkey⟩
  completed := hvalid.completed

theorem Shared.extends_miss (shared : Shared) (raffleId : RaffleId) (choice : Choice) :
    shared.Extends (shared.miss raffleId choice) := by
  unfold Shared.miss
  split
  · exact extends_of_store rfl (List.Subset.refl _) (List.subset_cons_self _ _)
      (List.Subset.refl _)
  · exact .refl _

theorem Shared.extends_unreference (shared : Shared) (invoiceId : InvoiceId) :
    shared.Extends (shared.unreference invoiceId) := by
  unfold Shared.unreference
  split
  · exact extends_of_store rfl (List.Subset.refl _) (List.Subset.refl _)
      (List.subset_cons_self _ _)
  · exact .refl _

/-- The invariant speaks of none of the notes on what workers did not find. -/
theorem Shared.Valid.withHistory (hvalid : shared.Valid prim) {shared' : Shared}
    (hextends : shared.Extends shared') (hstore : shared'.store = shared.store)
    (hsent : shared'.sent = shared.sent) (hpaid : shared'.paid = shared.paid)
    (hconfirmed : shared'.confirmed = shared.confirmed) : shared'.Valid prim := by
  refine ⟨hstore ▸ hvalid.lawful, ?_, ?_, ?_, ?_, ?_, ?_, fun job hmem hstatus => ?_⟩
  · rw [hsent, hstore]
    exact hvalid.sent
  · rw [hsent, hpaid]
    exact hvalid.paid
  · rw [hpaid]
    exact hvalid.paidOnce
  · rw [hconfirmed, hpaid]
    exact hvalid.confirmed
  · rw [hstore, hconfirmed]
    exact hvalid.settled
  · rw [hstore, hconfirmed]
    exact hvalid.settling
  · rw [hstore] at hmem
    exact hextends.completed (fun raffleId => hvalid.lawful.sound.drawn hmem)
      (hvalid.completed job hmem hstatus)

theorem Shared.Valid.miss (hvalid : shared.Valid prim) (raffleId : RaffleId) (choice : Choice) :
    (shared.miss raffleId choice).Valid prim := by
  refine hvalid.withHistory (shared.extends_miss raffleId choice) ?_ ?_ ?_ ?_ <;>
    unfold Shared.miss <;> split <;> rfl

theorem Shared.Valid.unreference (hvalid : shared.Valid prim) (invoiceId : InvoiceId) :
    (shared.unreference invoiceId).Valid prim := by
  refine hvalid.withHistory (shared.extends_unreference invoiceId) ?_ ?_ ?_ ?_ <;>
    unfold Shared.unreference <;> split <;> rfl

theorem Shared.Valid.run (hvalid : shared.Valid services.prim) {op : Option Op}
    (hallowed : ∀ operation ∈ op, operation.Allowed shared) :
    (shared.run services op).Valid services.prim ∧ shared.Extends (shared.run services op) := by
  cases op with
  | none => exact ⟨hvalid, .refl _⟩
  | some operation =>
      exact ⟨hvalid.step (hallowed operation rfl), hvalid.extends (hallowed operation rfl)⟩

/-- What a request needs to keep the invariant. -/
def Request.Allowed (workerId : String) (payload : JobPayload) (memory : Memory)
    (shared : Shared) : Request → Prop
  | query (.createDrawAndPayouts _ close randomness) =>
      (close.height, close.hash) ∈ memory.canonical ∧
        (randomness.height, randomness.hash) ∈ memory.canonical
  | query statement => ∀ choice, ∀ op ∈ statement.op shared.store workerId choice, op.Allowed shared
  | ask (.payInvoice request) => ∃ payout ∈ shared.store.db.payouts.rows,
      Payment.IsFor ⟨payload, request⟩ payout.terms
  | ask _ => True

variable {workerId : String} {payload : JobPayload} {memory : Memory}

/-- An allowed statement runs an allowed operation. -/
theorem Request.Allowed.op {statement : Statement}
    (h : Request.Allowed workerId payload memory shared (.query statement)) (choice : Choice) :
    ∀ op ∈ statement.op shared.store workerId choice, op.Allowed shared := by
  cases statement with
  | createDrawAndPayouts raffleId close randomness =>
      intro op hop
      obtain rfl := Option.mem_some_iff.mp hop
      trivial
  | _ => exact h choice

theorem Shared.Valid.record (hvalid : shared.Valid prim) (choice : Choice)
    (request : Request) (answer : request.Answer)
    (hpayment : ∀ sent, request = .ask (.payInvoice sent) →
      ∃ payout ∈ shared.store.db.payouts.rows, Payment.IsFor ⟨payload, sent⟩ payout.terms) :
    (shared.record payload choice request answer).Valid prim ∧
      shared.Extends (shared.record payload choice request answer) := by
  unfold Shared.record
  split
  · exact ⟨hvalid.miss _ _, Shared.extends_miss _ _ _⟩
  · exact ⟨hvalid.unreference _, Shared.extends_unreference _ _⟩
  · rename_i request _
    have hsent := hvalid.send (hpayment request rfl)
    have hmem : ⟨payload, request⟩ ∈ (shared.send ⟨payload, request⟩).sent := by
      simp [Shared.send]
    have hpaid := hsent.pay hmem
    exact ⟨hpaid.confirm (Shared.mem_pay _ _), ((Shared.extends_send _ _).trans
      (Shared.extends_pay _ _)).trans (Shared.extends_confirm _ _)⟩
  · exact ⟨hvalid.send (hpayment _ rfl), Shared.extends_send _ _⟩
  · exact ⟨hvalid, .refl _⟩

/-- A request that is allowed keeps the invariant. -/
theorem Shared.Valid.perform {request : Request} (hvalid : shared.Valid services.prim)
    (hallowed : request.Allowed workerId payload memory shared) (choice : Choice) :
    (shared.perform services workerId payload choice request).2.Valid services.prim ∧
      shared.Extends (shared.perform services workerId payload choice request).2 := by
  cases request with
  | query statement =>
      obtain ⟨hafter, hextends⟩ := hvalid.run (hallowed.op choice)
      simp only [Shared.perform]
      split
      · split
        · exact ⟨hafter, hextends⟩
        · exact ⟨hvalid, .refl _⟩
      · obtain ⟨hrecord, hextends'⟩ := hafter.record choice (.query statement) _ nofun
        exact ⟨hrecord, hextends.trans hextends'⟩
  | ask question =>
      refine hvalid.record choice (.ask question) _ fun sent heq => ?_
      obtain rfl : question = .payInvoice sent := Request.ask.inj heq
      exact hallowed

end Requests

end OpenPool
