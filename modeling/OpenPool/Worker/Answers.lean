import OpenPool.Store.Outcomes
import OpenPool.Worker.Invariant

/-! # What a worker learns from an answer

Each fact holds when the answer comes, and no later change falsifies it. -/

namespace OpenPool

open Fallible

/-! ## Facts -/

/-- The payout that a claim returned is one of the raffle's payouts. -/
structure ClaimedPayout.IsFor (payout : ClaimedPayout) (raffleId : RaffleId) (terms : PayoutTerms) :
    Prop where
  raffleId : terms.raffleId = raffleId
  id : terms.id = payout.id
  idempotencyKey : terms.idempotencyKey = payout.idempotencyKey
  amountSats : terms.amountSats = payout.amountSats.asU64.toNat

def Shared.Claimed (shared : Shared) (raffleId : RaffleId) (payout : ClaimedPayout) : Prop :=
  ∃ row ∈ shared.store.db.payouts.rows, payout.IsFor raffleId row.terms

/-- The provider has confirmed the payment of a payout. -/
def Shared.Confirmed (shared : Shared) (payoutId : Uuid) : Prop :=
  ∃ row ∈ shared.store.db.payouts.rows, row.id = payoutId ∧
    row.idempotencyKey ∈ shared.confirmed

def Shared.HasInvoice (shared : Shared) (invoiceId : InvoiceId) : Prop :=
  ∃ invoice ∈ shared.store.db.invoices.rows, invoice.id = invoiceId

def Shared.HasEntry (shared : Shared) (invoiceId : InvoiceId) : Prop :=
  ∃ entry ∈ shared.store.db.entries.rows, entry.invoiceId = invoiceId

def Shared.HasLateRefund (shared : Shared) (invoiceId : InvoiceId) : Prop :=
  ∃ refund ∈ shared.store.db.refunds.rows, refund.invoiceId = invoiceId ∧
    refund.reason = .lateSettlement

/-- The invoice will never get an entry. -/
def Shared.TooLate (shared : Shared) (invoiceId : InvoiceId) : Prop :=
  ∃ raffleId, (shared.store.db.view raffleId).IsClosed ∧
    (∃ invoice ∈ (shared.store.db.view raffleId).invoices, invoice.id = invoiceId) ∧
    ∀ entry ∈ (shared.store.db.view raffleId).entries, entry.invoiceId ≠ invoiceId

/-- The raffle is closed, and every invoice of it is decided. -/
def Shared.Freezable (shared : Shared) (raffleId : RaffleId) : Prop :=
  (shared.store.db.view raffleId).IsClosed ∧
    ∀ invoice ∈ (shared.store.db.view raffleId).invoices, invoice.status.isFinal = true

section Stable

variable {shared shared' : Shared} {raffleId : RaffleId} {invoiceId : InvoiceId}

theorem Shared.Extends.claimed (h : shared.Extends shared') {payout : ClaimedPayout}
    (hclaimed : shared.Claimed raffleId payout) : shared'.Claimed raffleId payout := by
  obtain ⟨row, hmem, hfor⟩ := hclaimed
  obtain ⟨row', hmem', hterms⟩ := h.payout hmem
  exact ⟨row', hmem', hterms ▸ hfor⟩

theorem Shared.Extends.confirmed_payout (h : shared.Extends shared') {payoutId : Uuid}
    (hconfirmed : shared.Confirmed payoutId) : shared'.Confirmed payoutId := by
  obtain ⟨row, hmem, hid, hkey⟩ := hconfirmed
  obtain ⟨row', hmem', hterms⟩ := h.payout hmem
  have hsame : row'.idempotencyKey = row.idempotencyKey :=
    congrArg PayoutTerms.idempotencyKey hterms
  exact ⟨row', hmem', (congrArg PayoutTerms.id hterms).trans hid, hsame ▸ h.confirmed hkey⟩

theorem Shared.Extends.hasInvoice (h : shared.Extends shared')
    (hinvoice : shared.HasInvoice invoiceId) : shared'.HasInvoice invoiceId := by
  obtain ⟨invoice, hmem, hid⟩ := hinvoice
  obtain ⟨invoice', hmem', hsame, -⟩ := h.invoice hmem
  exact ⟨invoice', hmem', hsame.id.symm.trans hid⟩

theorem Shared.Extends.hasEntry (h : shared.Extends shared')
    (hentry : shared.HasEntry invoiceId) : shared'.HasEntry invoiceId := by
  obtain ⟨entry, hmem, hid⟩ := hentry
  have hview : entry ∈ (shared.store.db.view entry.raffleId).entries :=
    Table.mem_select.mpr ⟨hmem, decide_eq_true rfl⟩
  exact ⟨entry, (Table.mem_select.mp ((h.view entry.raffleId).entries hview)).1, hid⟩

theorem Shared.Extends.hasLateRefund (h : shared.Extends shared')
    (hrefund : shared.HasLateRefund invoiceId) : shared'.HasLateRefund invoiceId := by
  obtain ⟨refund, hmem, hid⟩ := hrefund
  have hview : refund ∈ (shared.store.db.view refund.raffleId).refunds :=
    Table.mem_select.mpr ⟨hmem, decide_eq_true rfl⟩
  exact ⟨refund, (Table.mem_select.mp ((h.view refund.raffleId).refunds hview)).1, hid⟩

theorem Shared.Extends.tooLate (h : shared.Extends shared')
    (hlate : shared.TooLate invoiceId) : shared'.TooLate invoiceId := by
  obtain ⟨raffleId, hclosed, ⟨invoice, hmem, hid⟩, hentries⟩ := hlate
  obtain ⟨invoice', hmem', hsame, -⟩ := (h.view raffleId).invoice invoice hmem
  refine ⟨raffleId, (h.view raffleId).closed hclosed, ⟨invoice', hmem', hsame.id.symm.trans hid⟩, ?_⟩
  rw [(h.view raffleId).ended hclosed]
  exact hentries

theorem Shared.Extends.freezable (h : shared.Extends shared')
    (hfreezable : shared.Freezable raffleId) : shared'.Freezable raffleId := by
  refine ⟨(h.view raffleId).closed hfreezable.1, fun invoice' hmem' => ?_⟩
  obtain ⟨invoice, hmem, -, hkept⟩ := (h.view raffleId).billed hfreezable.1 invoice' hmem'
  have hfinal := hfreezable.2 invoice hmem
  rw [hkept hfinal]
  exact hfinal

end Stable

/-! ## Answers -/

section Answers

variable {services : Services} {workerId : String} {payload : JobPayload} {choice : Choice}
  {before after : Shared} {raffleId : RaffleId} {invoiceId : InvoiceId}

/-- A statement that answers has run its operation. -/
theorem Shared.perform_ok {statement : Statement} {value : statement.Value}
    (h : before.perform services workerId payload choice (.query statement) = (.ok value, after)) :
    statement.answer services.prim before.store workerId choice = .ok value ∧
      after = (before.run services (statement.op before.store workerId choice)).record payload
        choice (.query statement) (.ok value) := by
  simp only [Shared.perform] at h
  split at h
  · cases h
  · obtain ⟨hanswer, rfl⟩ := Prod.mk.inj h
    exact ⟨hanswer, by rw [hanswer]⟩

/-- A statement with a fault does not answer. -/
theorem Shared.fault_none {statement : Statement} {value : statement.Value}
    (h : before.perform services workerId payload choice (.query statement) = (.ok value, after)) :
    choice.fault = none := by
  simp only [Shared.perform] at h
  split at h
  · cases h
  · assumption

theorem returned_eq_ok_iff {α : Type} {result : Except PersistenceError (Database × α)} {value : α} :
    returned result = .ok value ↔ ∃ db', result = .ok (db', value) := by
  rcases result with error | ⟨db', other⟩ <;> simp [returned, Except.map]

/-- The database after an operation that succeeds. -/
theorem exec_db {ε α : Type} {store : Store} {operation : Database → Except ε (Database × α)}
    {db' : Database} {value : α} (h : operation store.db = .ok (db', value)) :
    (store.exec operation).db = db' := by
  simp [Store.exec, h]

/-- Where a claim finds nothing and nothing is withheld from it, every payout is settled. -/
theorem Store.Sound.settled_of_claim {prim : Primitives} {store : Store} (hsound : store.Sound prim)
    (hempty : payoutCandidates raffleId choice.now (store.locked ++ choice.locked) store.db = [])
    (hfree : ¬ store.Withholds raffleId choice) :
    ∀ payout ∈ (store.db.view raffleId).payouts, payout.status = .settled := by
  intro payout hmem
  have hprocessing : payout.status ≠ .processing := fun hstatus => hfree ⟨payout, hmem, .inl hstatus⟩
  obtain ⟨hrow, hraffle⟩ := Table.mem_select.mp hmem
  by_contra hunsettled
  -- a payout that is not settled could have been claimed, unless its row is locked
  have hclaimable : payout.claimable raffleId choice.now = true := by
    refine decide_eq_true ⟨of_decide_eq_true hraffle, ?_⟩
    cases hstatus : payout.status <;> simp_all
  have hunlocked : payout.id ∉ store.locked ++ choice.locked := fun hlocked =>
    (List.mem_append.mp hlocked).elim
      (fun hsettling => hprocessing (hsound.processing_of_locked hrow hsettling))
      (fun hother => hfree ⟨payout, hmem, .inr ⟨hclaimable, hother⟩⟩)
  have hcandidate :
      payout ∈ payoutCandidates raffleId choice.now (store.locked ++ choice.locked) store.db :=
    Table.mem_select.mpr ⟨hrow, decide_eq_true ⟨hclaimable, hunlocked⟩⟩
  rw [hempty] at hcandidate
  cases hcandidate

/-- A claim that finds nothing changes nothing, and may miss a payout. -/
theorem Shared.claim_none
    (h : before.perform services workerId payload choice (.query (.claimPayout raffleId)) =
      (.ok none, after)) :
    payoutCandidates raffleId choice.now (before.store.locked ++ choice.locked) before.store.db =
        [] ∧
      after = before.miss raffleId choice := by
  obtain ⟨hanswer, rfl⟩ := Shared.perform_ok h
  obtain ⟨row, hrow, hdecoded⟩ := (bind_eq_ok_iff _ _ _).mp hanswer
  obtain ⟨db', hclaim⟩ := returned_eq_ok_iff.mp hrow
  obtain rfl : row = none := by
    cases row with
    | none => rfl
    | some row => cases hread : ClaimedPayout.ofRow row <;> simp [hread] at hdecoded
  obtain ⟨rfl, hempty⟩ := claimPayout_none hclaim
  have hstore : before.store.exec (claimPayout raffleId workerId choice.now choice.pick
      (before.store.locked ++ choice.locked)) = before.store := by
    simp [Store.exec, hclaim]
  have hrun : before.run services (Statement.op before.store workerId choice
      (.claimPayout raffleId)) = before :=
    congrArg (fun store => { before with store }) hstore
  rw [hrun]
  exact ⟨hempty, rfl⟩

/-- A claim that finds nothing ends the payouts of the raffle, unless it misses one. -/
theorem Shared.Valid.executed_of_claim (hvalid : before.Valid services.prim)
    (h : before.perform services workerId payload choice (.query (.claimPayout raffleId)) =
      (.ok none, after)) : after.Executed raffleId := by
  obtain ⟨hempty, rfl⟩ := Shared.claim_none h
  unfold Shared.miss
  split
  · exact .inr (List.mem_cons_self ..)
  · rename_i hfree
    exact .inl (hvalid.lawful.sound.settled_of_claim hempty hfree)

/-- A claim returns a row of the raffle. -/
theorem Shared.row_of_claim {payout : ClaimedPayout}
    (h : before.perform services workerId payload choice (.query (.claimPayout raffleId)) =
      (.ok (some payout), after)) :
    ∃ row ∈ after.store.db.payouts.rows, row.raffleId = raffleId ∧
      ClaimedPayout.ofRow row = .ok payout := by
  obtain ⟨hanswer, rfl⟩ := Shared.perform_ok h
  obtain ⟨row, hrow, hdecoded⟩ := (bind_eq_ok_iff _ _ _).mp hanswer
  obtain ⟨db', hclaim⟩ := returned_eq_ok_iff.mp hrow
  cases row with
  | none => simp at hdecoded
  | some row =>
      obtain ⟨hmem, hraffle⟩ := claimPayout_some hclaim
      have hread : ClaimedPayout.ofRow row = .ok payout := by
        cases hread : ClaimedPayout.ofRow row <;> simp_all
      have hdb : (before.store.exec (claimPayout raffleId workerId choice.now choice.pick
          (before.store.locked ++ choice.locked))).db = db' := exec_db hclaim
      refine ⟨row, ?_, hraffle, hread⟩
      change row ∈ (before.store.exec _).db.payouts.rows
      rw [hdb]
      exact hmem

/-- A claim returns a payout of the raffle. -/
theorem Shared.claimed_of_claim {payout : ClaimedPayout}
    (h : before.perform services workerId payload choice (.query (.claimPayout raffleId)) =
      (.ok (some payout), after)) : after.Claimed raffleId payout := by
  obtain ⟨row, hmem, hraffle, hread⟩ := Shared.row_of_claim h
  simp only [ClaimedPayout.ofRow, bind_eq_ok_iff, asU64_eq_ok_iff, pure_eq_ok_iff] at hread
  obtain ⟨amount, hamount, rfl⟩ := hread
  exact ⟨row, hmem, hraffle, rfl, rfl, hamount⟩

/-- A payment that succeeds is confirmed. -/
theorem Shared.confirmed_of_pay {payout : ClaimedPayout} {bolt11 : String}
    {attempt : PayoutAttempt} (hclaimed : before.Claimed raffleId payout)
    (h : before.perform services workerId payload choice
      (.ask (.payInvoice (payout.request bolt11))) = (.ok attempt, after)) :
    after.Confirmed payout.id := by
  obtain ⟨hreply, rfl⟩ := Prod.mk.inj h
  rw [hreply]
  obtain ⟨row, hmem, hfor⟩ := hclaimed
  refine ⟨row, ?_, hfor.id, ?_⟩
  · change row ∈ (Shared.pay _ _).store.db.payouts.rows
    unfold Shared.pay
    split <;> exact hmem
  · have hkey : row.idempotencyKey = payout.idempotencyKey := hfor.idempotencyKey
    rw [hkey]
    exact List.mem_append_right _ (List.mem_singleton_self _)

/-- A read that finds no reference changes nothing, and may find the invoice pending. -/
theorem Shared.reference_none
    (h : before.perform services workerId payload choice
      (.query (.collectionPaymentReference invoiceId)) = (.ok none, after)) :
    collectionPaymentReference invoiceId before.store.db = .ok none ∧
      after = before.unreference invoiceId :=
  Shared.perform_ok h

/-- Without a reference the invoice is decided, or it is noted that it has none. -/
theorem Shared.decided_of_reference
    (h : before.perform services workerId payload choice
      (.query (.collectionPaymentReference invoiceId)) = (.ok none, after)) :
    after.Decided invoiceId := by
  obtain ⟨hanswer, rfl⟩ := Shared.reference_none h
  obtain ⟨invoice, hmem, hid⟩ := collectionPaymentReference_found hanswer
  unfold Shared.unreference
  split
  · exact .inr (List.mem_cons_self ..)
  · rename_i hdecided
    exact .inl ⟨invoice, hmem, hid, InvoiceStatus.isFinal_iff.mpr fun hpending =>
      hdecided ⟨invoice, hmem, hid, hpending⟩⟩

theorem Shared.hasInvoice_of_reference {reference : String}
    (h : before.perform services workerId payload choice
      (.query (.collectionPaymentReference invoiceId)) = (.ok (some reference), after)) :
    after.HasInvoice invoiceId := by
  obtain ⟨hanswer, rfl⟩ := Shared.perform_ok h
  exact collectionPaymentReference_found hanswer

theorem Shared.hasEntry_of_settle {entry : LedgerEntry}
    (h : before.perform services workerId payload choice (.query (.settleInvoice invoiceId)) =
      (.ok entry, after)) : after.HasEntry invoiceId := by
  obtain ⟨hanswer, rfl⟩ := Shared.perform_ok h
  obtain ⟨db', hsettle⟩ := returned_eq_ok_iff.mp hanswer
  have hdb : (before.store.exec (settleInvoiceAndAppendEntry services.prim.sha256 invoiceId
      ⟨choice.id⟩ choice.instant.nanos)).db = db' := exec_db hsettle
  obtain ⟨row, hmem, hid⟩ := settleInvoice_entry hsettle
  exact ⟨row, hdb ▸ hmem, hid⟩

/-- A settlement that finds its raffle not open comes too late. -/
theorem Shared.Valid.tooLate_of_settle (hvalid : before.Valid services.prim)
    (h : before.perform services workerId payload choice (.query (.settleInvoice invoiceId)) =
      (.error .raffleNotOpen, after)) : before.TooLate invoiceId := by
  obtain ⟨invoice, hmem, hid, hunsettled, raffle, hraffle, hstatus⟩ :
      ∃ invoice ∈ before.store.db.invoices.rows, invoice.id = invoiceId ∧
        invoice.status ≠ .settled ∧ ∃ raffle,
          before.store.db.raffles.find (·.id = invoice.raffleId) = some raffle ∧
            raffle.status ≠ .opened := by
    simp only [Shared.perform] at h
    split at h
    · cases h
    · have hanswer := (Prod.mk.inj h).1
      simp only [Statement.answer, returned] at hanswer
      cases hsettle : settleInvoiceAndAppendEntry services.prim.sha256 invoiceId ⟨choice.id⟩
          choice.instant.nanos before.store.db with
      | ok result => simp [hsettle, Except.map] at hanswer
      | error error =>
          obtain rfl : error = .raffleNotOpen := by simpa [hsettle, Except.map] using hanswer
          exact settleInvoice_notOpen hsettle
  have hview := mem_view_invoices hmem
  refine ⟨invoice.raffleId, ?_, ⟨invoice, hview, hid⟩, fun entry hentry heq => ?_⟩
  · obtain ⟨row, hrow, hdraft, hscheduled⟩ :=
      (hvalid.lawful.late invoice.raffleId).opened invoice hview
    obtain rfl : raffle = row := Option.some.inj (hraffle.symm.trans hrow)
    refine ⟨raffle, hrow, ?_⟩
    cases hcase : raffle.status <;> first | rfl | exact absurd hcase ‹_›
  · obtain ⟨paid, hpaid, hpaidBy, hsettled⟩ :=
      (hvalid.lawful.sound.invoices invoice.raffleId).paid entry hentry
    have hsame : paid = invoice := view_invoices_keyed _ _ paid hpaid invoice hview
      (hpaidBy.invoiceId.symm.trans (heq.trans hid.symm))
    exact hunsettled (hsame ▸ hsettled)

/-- An invoice that comes too late may be marked as such. -/
theorem Shared.Valid.unsettled_of_tooLate (hvalid : before.Valid services.prim)
    (hlate : before.TooLate invoiceId) : ∀ invoice ∈ before.store.db.invoices.rows,
      invoice.id = invoiceId → invoice.status ≠ .settled := by
  intro invoice hmem hid hstatus
  obtain ⟨raffleId, -, ⟨other, hother, hotherId⟩, hentries⟩ := hlate
  obtain rfl : invoice = other :=
    before.store.db.invoices.eq_of_clash hmem (mem_invoices hother) (.inl (hid.trans hotherId.symm))
  obtain ⟨entry, hentry, hpaid⟩ :=
    (hvalid.lawful.sound.invoices raffleId).settled invoice hother hstatus
  exact hentries entry hentry (hpaid.invoiceId.trans hid)

theorem Shared.hasLateRefund_of_mark {refundId : Uuid}
    (h : before.perform services workerId payload choice
      (.query (.markLateSettlementForRefund invoiceId)) = (.ok refundId, after)) :
    after.HasLateRefund invoiceId := by
  obtain ⟨hanswer, rfl⟩ := Shared.perform_ok h
  obtain ⟨db', hmark⟩ := returned_eq_ok_iff.mp hanswer
  have hdb : (before.store.exec (markLateSettlementForRefund invoiceId choice.id)).db = db' :=
    exec_db hmark
  obtain ⟨refund, hmem, hrefund⟩ := markLateSettlementForRefund_refund hmark
  exact ⟨refund, hdb ▸ hmem, hrefund⟩

theorem Shared.decided_of_uncollectible (hinvoice : before.HasInvoice invoiceId)
    {u : Unit} (h : before.perform services workerId payload choice
      (.query (.markCollectionUncollectible invoiceId)) = (.ok u, after)) :
    after.Decided invoiceId := by
  obtain ⟨hanswer, rfl⟩ := Shared.perform_ok h
  obtain ⟨db', hmark⟩ := returned_eq_ok_iff.mp hanswer
  have hdb : (before.store.exec (markCollectionUncollectible invoiceId)).db = db' := exec_db hmark
  obtain ⟨invoice, hmem, hid⟩ := hinvoice
  obtain ⟨invoice', hmem', hfinal⟩ := markCollectionUncollectible_final hmark hmem hid
  exact .inl ⟨invoice', hdb ▸ hmem', hfinal⟩

/-- A closed raffle without pending invoices may be frozen. -/
theorem Shared.freezable_of_pending (hclosed : (before.store.db.view raffleId).IsClosed)
    {pending : ℕ} (hzero : ¬ 0 < pending)
    (h : before.perform services workerId payload choice (.query (.pendingInvoices raffleId)) =
      (.ok pending, after)) : after.Freezable raffleId := by
  obtain ⟨hanswer, rfl⟩ := Shared.perform_ok h
  refine ⟨hclosed, final_of_pendingInvoices ?_⟩
  have hcount : pendingInvoices raffleId before.store.db = pending := Except.ok.inj hanswer
  change pendingInvoices raffleId before.store.db = 0
  omega

/-- An entry decides its invoice. -/
theorem Shared.Valid.decided_of_entry (hvalid : after.Valid services.prim)
    (hentry : after.HasEntry invoiceId) : after.Decided invoiceId := by
  obtain ⟨entry, hmem, rfl⟩ := hentry
  obtain ⟨invoice, hinvoice, hpaid, hstatus⟩ :=
    (hvalid.lawful.sound.invoices entry.raffleId).paid entry
      (Table.mem_select.mpr ⟨hmem, decide_eq_true rfl⟩)
  exact .inl ⟨invoice, mem_invoices hinvoice, hpaid.invoiceId.symm, by rw [hstatus]; rfl⟩

/-- A late refund decides its invoice. -/
theorem Shared.Valid.decided_of_refund (hvalid : after.Valid services.prim)
    (hrefund : after.HasLateRefund invoiceId) : after.Decided invoiceId := by
  obtain ⟨refund, hmem, rfl, -⟩ := hrefund
  obtain ⟨invoice, hinvoice, hid, hfinal, -⟩ := (hvalid.lawful.late refund.raffleId).late refund
    (Table.mem_select.mpr ⟨hmem, decide_eq_true rfl⟩)
  exact .inl ⟨invoice, mem_invoices hinvoice, hid, hfinal⟩

end Answers

end OpenPool
