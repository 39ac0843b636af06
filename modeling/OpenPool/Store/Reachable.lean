import OpenPool.Store.DrawInvariant
import OpenPool.Store.InvoiceInvariant
import OpenPool.Store.JobSteps

/-! # Reachable stores

Every step of the store is a step of each raffle, so the invariants of raffles hold in every
store that operations reach. -/

namespace OpenPool

open Fallible

/-- What an operation may touch. -/
def Op.scope (store : Store) : Op → Scope
  | .commitSettle payoutId =>
      { locked := (store.close payoutId).locked, settled := some payoutId }
  | .succeedJob jobId _ => { locked := store.locked, completed := some jobId }
  | .createDrawAndPayouts raffleId closeHeight _ randomnessHeight _ _ _ =>
      { locked := store.locked, drawn := some (raffleId, closeHeight, randomnessHeight) }
  | .markLateSettlementForRefund invoiceId _ => { locked := store.locked, late := some invoiceId }
  | .settleInvoice invoiceId _ settledAt =>
      { locked := store.locked, settlement := some (invoiceId, toTimestamp settledAt.nanos) }
  | .transitionRaffle _ raffleId status =>
      { locked := store.locked, moved := status.map fun status => (raffleId, status) }
  | .freezeRaffle raffleId _ _ => { locked := store.locked, frozen := some raffleId }
  | .scheduleDueCloses _ now => { locked := store.locked, closing := some now }
  | .createPendingInvoice _ | .createRefundEligibility .. => { locked := store.locked, seam := true }
  | _ => { locked := store.locked }

/-- The invariant of the store. -/
structure Store.Sound (prim : Primitives) (store : Store) : Prop where
  ledger : ∀ raffleId, LedgerInv prim.sha256 raffleId (store.db.view raffleId).raffle
    (store.db.view raffleId).entries
  draw : ∀ raffleId, DrawInv prim raffleId (store.db.view raffleId)
  invoices : ∀ raffleId, InvoiceInv (store.db.view raffleId)
  jobs : ∀ raffleId, JobInv raffleId (store.db.view raffleId)
  settling : ∀ transaction ∈ store.settling, transaction.Sound store.db
  nodup : store.locked.Nodup

section Steps

variable {prim : Primitives} {store : Store} {raffleId : RaffleId} {scope : Scope}

theorem exec_step {ε α : Type} {operation : Database → Except ε (Database × α)}
    (h : ∀ db' a, operation store.db = .ok (db', a) →
      RaffleStep prim scope raffleId (store.db.view raffleId) (db'.view raffleId)) :
    RaffleStep prim scope raffleId (store.db.view raffleId)
      ((store.exec operation).db.view raffleId) := by
  rcases commit_cases store.db (operation store.db) with hsame | ⟨a, hok⟩
  · change RaffleStep prim scope raffleId _ (Database.view (commit _ _) raffleId)
    rw [hsame]
    exact .stay
  · exact h _ a hok

/-- A raffle without payouts has used none of its keys. -/
theorem Store.Sound.keysFree (hsound : store.Sound prim) (id : RaffleId)
    (hempty : (store.db.view id).payouts = []) : store.db.KeysFree id := by
  intro row hmem recipient hkey
  have hrow : row ∈ (store.db.view row.raffleId).payouts :=
    Table.mem_select.mpr ⟨hmem, decide_eq_true rfl⟩
  have hkeyed := ((hsound.draw row.raffleId).key row hrow).2
  rw [hkeyed] at hkey
  rw [(payoutKey_inj hkey).1, hempty] at hrow
  cases hrow

theorem beginSettle_db (payoutId : Uuid) (workerId providerReference : String) :
    (store.beginSettle payoutId workerId providerReference).db = store.db := by
  unfold Store.beginSettle
  split
  · rfl
  · split <;> rfl

theorem mem_of_transaction {payoutId : Uuid} {transaction : SettleTransaction}
    (h : store.transaction payoutId = some transaction) :
    transaction ∈ store.settling ∧ transaction.payoutId = payoutId := by
  unfold Store.transaction at h
  exact ⟨List.mem_of_find?_eq_some h, by simpa using List.find?_some h⟩

theorem locked_advance (payoutId : Uuid) (next : SettleTransaction → Option SettleStage) :
    (store.advance payoutId next).locked = store.locked := by
  unfold Store.locked Store.advance
  rw [List.map_map]
  refine List.map_congr_left fun transaction _ => ?_
  simp only [Function.comp_apply]
  split <;> rfl

theorem not_mem_locked_close (payoutId : Uuid) : payoutId ∉ (store.close payoutId).locked := by
  simp [Store.locked, Store.close]

theorem commitSettle_cases (store : Store) (payoutId : Uuid) :
    store.commitSettle payoutId = store ∨
      ∃ transaction, store.transaction payoutId = some transaction ∧
        transaction.stage.done = true ∧
        store.commitSettle payoutId = (store.exec transaction.commit).close payoutId := by
  unfold Store.commitSettle
  split
  · rename_i transaction htransaction
    split
    · rename_i hdone
      exact .inr ⟨transaction, htransaction, hdone, rfl⟩
    · exact .inl rfl
  · exact .inl rfl

/-- A commit settles its payout and perhaps closes the raffle, or changes nothing. -/
theorem commitSettle_step {payoutId : Uuid} (hsound : store.Sound prim)
    (hunlocked : payoutId ∉ scope.locked) (hscope : scope.settled = some payoutId) :
    RaffleStep prim scope raffleId (store.db.view raffleId)
      ((store.commitSettle payoutId).db.view raffleId) := by
  rcases commitSettle_cases store payoutId with
    hsame | ⟨transaction, htransaction, -, hcommit⟩
  · rw [hsame]
    exact .stay
  · obtain ⟨hmem, rfl⟩ := mem_of_transaction htransaction
    rw [hcommit]
    exact exec_step fun db' paidOut hok =>
      commit_step (hsound.settling transaction hmem) hunlocked hscope hok

/-- What one step of the store does to one raffle. -/
theorem Store.step_raffleStep (hsound : store.Sound prim) (op : Op) :
    RaffleStep prim (op.scope store) raffleId (store.db.view raffleId)
      ((store.step prim op).db.view raffleId) := by
  cases op with
  | createOrganizer => exact exec_step fun _ _ => createOrganizer_step
  | createDraftRaffle => exact exec_step fun _ _ => createDraftRaffle_step
  | transitionRaffle => exact exec_step fun _ _ => transitionRaffle_step rfl
  | updateRaffle => exact exec_step fun _ _ => updateRaffle_step
  | createPendingInvoice => exact exec_step fun _ _ => createPendingInvoice_step rfl
  | createCollectionInvoice => exact exec_step fun _ _ => createCollectionInvoice_step
  | storeCollectionInvoice => exact exec_step fun _ _ => storeCollectionInvoice_step
  | failCollectionInvoice => exact exec_step fun _ _ => failCollectionInvoice_step
  | markCollectionUncollectible => exact exec_step fun _ _ => markCollectionUncollectible_step
  | recordWebhookAndEnqueue => exact exec_step fun _ _ => recordWebhookAndEnqueue_step
  | settleInvoice invoiceId entryId settledAt =>
      exact exec_step fun _ _ => settleInvoice_step settledAt.afterEpoch rfl
  | createRefundEligibility => exact exec_step fun _ _ => createRefundEligibility_step rfl
  | markLateSettlementForRefund => exact exec_step fun _ _ => markLateSettlementForRefund_step rfl
  | scheduleDueCloses => exact exec_step fun _ _ => scheduleDueCloses_step rfl
  | freezeRaffle => exact exec_step fun _ _ => freezeRaffle_step rfl
  | recordCanonicalBlock => exact exec_step fun _ _ => recordCanonicalBlock_step
  | createDrawAndPayouts id =>
      refine exec_step fun _ _ => createDrawAndPayouts_step (hsound.keysFree id) ?_ rfl
      intro row hrow hstatus
      exact (((hsound.draw id).present hrow).undrawn (by rw [hstatus]; rfl)).2.1
  | generateTerminalProof => exact exec_step fun _ _ => generateTerminalProof_step
  | recordProofPublication => exact exec_step fun _ _ => recordProofPublication_step
  | claimPayout id workerId now locked choice =>
      exact exec_step fun _ _ hok => claimPayout_step (List.subset_append_left _ _) hok
  | failPayout payoutId workerId reason =>
      change RaffleStep prim _ raffleId _ (Database.view (ite _ _ _ : Store).db raffleId)
      split
      · exact .stay
      · rename_i hunlocked
        exact exec_step fun _ _ => failPayout_step hunlocked
  | beginSettle payoutId workerId providerReference =>
      change RaffleStep prim _ raffleId _ (Database.view (store.beginSettle _ _ _).db raffleId)
      rw [beginSettle_db]
      exact .stay
  | countUnsettled | markPaidOut | enqueueProof | rollbackSettle => exact .stay
  | commitSettle payoutId =>
      exact commitSettle_step hsound (not_mem_locked_close payoutId) rfl
  | claimJob => exact exec_step fun _ _ => claimJob_step
  | succeedJob => exact exec_step fun _ _ => succeedJob_step rfl
  | failOrRetryJob => exact exec_step fun _ _ => failOrRetryJob_step
  | retryDeadJob => exact exec_step fun _ _ => retryDeadJob_step

/-! ## Open transactions -/

variable {view view' : RaffleView}

/-- A locked payout stays as it is. -/
theorem RaffleStep.locked_kept (hstep : RaffleStep prim scope raffleId view view')
    {row : PayoutRow} (hmem : row ∈ view.payouts) (hlocked : row.id ∈ scope.locked) :
    row ∈ view'.payouts := by
  cases hstep with
  | draw => exact List.mem_append_left _ hmem
  | changePayouts change hchange =>
      rw [← hchange.locked row hmem hlocked]
      exact List.mem_map_of_mem hmem
  | payOut change jobs hchange =>
      rw [← hchange.locked row hmem hlocked]
      exact List.mem_map_of_mem hmem
  | create | edit | move | close | settle | freeze | stay | pendingInvoice | collectionInvoice
  | changeInvoices | late | refund | proof | publish | changeJobs => exact hmem

/-- Payouts are only added by a draw, which finds none. -/
theorem RaffleStep.payout_from (hstep : RaffleStep prim scope raffleId view view')
    (hdraw : DrawInv prim raffleId view) (hne : view.payouts ≠ []) {row' : PayoutRow}
    (hmem : row' ∈ view'.payouts) :
    ∃ row ∈ view.payouts, row'.terms = row.terms ∧ (row.status = .settled → row' = row) := by
  have hmap : ∀ change : PayoutRow → PayoutRow, PayoutChange scope view.payouts change →
      row' ∈ view.payouts.map change →
      ∃ row ∈ view.payouts, row'.terms = row.terms ∧ (row.status = .settled → row' = row) := by
    intro change hchange hmem
    obtain ⟨row, hrow, rfl⟩ := List.mem_map.mp hmem
    exact ⟨row, hrow, hchange.terms row, hchange.settled row hrow⟩
  cases hstep with
  | draw row context closeHash ids now jobs hrow hstatus =>
      exact absurd ((hdraw.present hrow).undrawn (by rw [hstatus]; rfl)).2.1 hne
  | changePayouts change hchange => exact hmap change hchange hmem
  | payOut change jobs hchange => exact hmap change hchange hmem
  | create | edit | move | close | settle | freeze | stay | pendingInvoice | collectionInvoice
  | changeInvoices | late | refund | proof | publish | changeJobs =>
      exact ⟨row', hmem, rfl, fun _ => rfl⟩

/-- The payouts that are locked are being processed. -/
theorem Store.Sound.processing_of_locked (hsound : store.Sound prim) {payout : PayoutRow}
    (hmem : payout ∈ store.db.payouts.rows) (hlocked : payout.id ∈ store.locked) :
    payout.status = .processing := by
  obtain ⟨transaction, htransaction, hid⟩ := List.mem_map.mp hlocked
  obtain ⟨held, hheldMem, hheld, -⟩ := (hsound.settling transaction htransaction).held
  obtain ⟨hheldId, hstatus, -⟩ := heldBy_iff.mp hheld
  rw [eq_of_payout_id hmem hheldMem (hid.symm.trans hheldId.symm), hstatus]

variable {db db' : Database} {transaction : SettleTransaction}

theorem SettleTransaction.Sound.mem_view (h : transaction.Sound db) :
    ∃ row ∈ (db.view transaction.raffleId).payouts,
      row.heldBy transaction.payoutId transaction.workerId = true := by
  obtain ⟨row, hmem, hheld, hraffleId⟩ := h.held
  exact ⟨row, Table.mem_select.mpr ⟨hmem, decide_eq_true hraffleId⟩, hheld⟩

theorem SettleTransaction.Sound.step (h : transaction.Sound db)
    (hstep : RaffleStep prim scope transaction.raffleId (db.view transaction.raffleId)
      (db'.view transaction.raffleId))
    (hdraw : DrawInv prim transaction.raffleId (db.view transaction.raffleId))
    (hlocked : transaction.payoutId ∈ scope.locked) : transaction.Sound db' := by
  obtain ⟨held, hmem, hheld⟩ := h.mem_view
  refine ⟨?_, fun hcloses row' hrow' => ?_⟩
  · have hkept := hstep.locked_kept hmem ((heldBy_iff.mp hheld).1 ▸ hlocked)
    exact ⟨held, (Table.mem_select.mp hkept).1, hheld,
      of_decide_eq_true (Table.mem_select.mp hkept).2⟩
  · obtain ⟨row, hrow, hterms, hsettled⟩ :=
      hstep.payout_from hdraw (List.ne_nil_of_mem hmem) hrow'
    have hid : row'.id = row.id := congrArg PayoutTerms.id hterms
    rcases h.last hcloses row hrow with hlast | hstatus
    · exact .inl (hid.trans hlast)
    · rw [hsettled hstatus]
      exact .inr hstatus

/-- A new stage is sound if it closes only where the transaction has seen the last payout. -/
theorem SettleTransaction.Sound.withStage (h : transaction.Sound db) {stage : SettleStage}
    (hlast : stage.closes = true → ∀ row ∈ (db.view transaction.raffleId).payouts,
      row.id = transaction.payoutId ∨ row.status = .settled) :
    SettleTransaction.Sound db { transaction with stage } :=
  ⟨h.held, hlast⟩

theorem settled_of_remaining (hzero : transaction.remaining db = 0) :
    ∀ row ∈ (db.view transaction.raffleId).payouts,
      row.id = transaction.payoutId ∨ row.status = .settled := by
  intro row hrow
  obtain ⟨hmem, hraffleId⟩ := Table.mem_select.mp hrow
  by_cases hid : row.id = transaction.payoutId
  · exact .inl hid
  · have hnone := List.countP_eq_zero.mp hzero _ (List.mem_map_of_mem hmem)
    simp only [SettleTransaction.sees, if_neg hid, of_decide_eq_true hraffleId, ne_eq, true_and,
      decide_eq_true_eq, not_not] at hnone
    exact .inr hnone

/-- The next statement keeps a transaction sound. -/
theorem SettleTransaction.Sound.next (h : transaction.Sound db) {stage : SettleStage}
    (hnext : transaction.countUnsettled db = some stage ∨ transaction.markPaidOut = some stage ∨
      ∃ jobId now, transaction.enqueueProof jobId now = some stage) :
    SettleTransaction.Sound db { transaction with stage } := by
  refine h.withStage fun hcloses => ?_
  rcases hnext with hnext | hnext | ⟨jobId, now, hnext⟩
  · unfold countUnsettled at hnext
    split at hnext
    · cases hnext
      exact settled_of_remaining (of_decide_eq_true hcloses)
    · cases hnext
  · unfold markPaidOut at hnext
    split at hnext
    · rename_i hstage
      exact h.last (by rw [hstage]; rfl)
    · cases hnext
  · unfold enqueueProof at hnext
    split at hnext
    · rename_i hstage
      exact h.last (by rw [hstage]; rfl)
    · cases hnext

theorem beginSettle_sound {payoutId : Uuid} {workerId providerReference : String}
    (h : beginSettle payoutId workerId providerReference db = .ok transaction) :
    transaction.Sound db ∧ transaction.payoutId = payoutId ∧ transaction.stage = .updated := by
  simp only [beginSettle, bind_eq_ok_iff, fetchOne_eq_ok_iff, pure_eq_ok_iff] at h
  obtain ⟨row, hrow, rfl⟩ := h
  obtain ⟨hmem, hheld⟩ := Table.mem_of_find hrow
  refine ⟨⟨⟨row, hmem, hheld, rfl⟩, ?_⟩, rfl, rfl⟩
  intro hcloses
  cases hcloses

theorem Store.Sound.kept (hsound : store.Sound prim) (op : Op) (hmem : transaction ∈ store.settling)
    (hlocked : transaction.payoutId ∈ (op.scope store).locked) :
    transaction.Sound (store.step prim op).db :=
  (hsound.settling transaction hmem).step (store.step_raffleStep hsound op)
    (hsound.draw transaction.raffleId) hlocked

theorem Store.Sound.advance (hsound : store.Sound prim) {payoutId : Uuid}
    {next : SettleTransaction → Option SettleStage}
    (hnext : ∀ transaction stage, next transaction = some stage →
      transaction.countUnsettled store.db = some stage ∨ transaction.markPaidOut = some stage ∨
        ∃ jobId now, transaction.enqueueProof jobId now = some stage) :
    ∀ transaction ∈ (store.advance payoutId next).settling, transaction.Sound store.db := by
  intro transaction' hmem'
  obtain ⟨transaction, hmem, rfl⟩ := List.mem_map.mp hmem'
  have h := hsound.settling transaction hmem
  split
  · cases hstage : next transaction with
    | none => exact h
    | some stage => exact h.next (hnext transaction stage hstage)
  · exact h

theorem nodup_close (hnodup : store.locked.Nodup) (payoutId : Uuid) :
    (store.close payoutId).locked.Nodup :=
  hnodup.sublist (List.filter_sublist.map _)

/-- Open transactions stay sound, whatever statement runs next. -/
theorem Store.Sound.step_settling (hsound : store.Sound prim) (op : Op) :
    (∀ transaction ∈ (store.step prim op).settling,
      transaction.Sound (store.step prim op).db) ∧ (store.step prim op).locked.Nodup := by
  cases op with
  | beginSettle payoutId workerId providerReference =>
      change (∀ transaction ∈ (store.beginSettle _ _ _).settling,
        transaction.Sound (store.beginSettle _ _ _).db) ∧ (store.beginSettle _ _ _).locked.Nodup
      rw [beginSettle_db]
      unfold Store.beginSettle
      split
      · exact ⟨hsound.settling, hsound.nodup⟩
      · rename_i hunlocked
        split
        · rename_i transaction hok
          obtain ⟨hnew, hid, -⟩ := beginSettle_sound hok
          refine ⟨fun other hmem => ?_, ?_⟩
          · rcases List.mem_append.mp hmem with hmem | hmem
            · exact hsound.settling other hmem
            · rw [List.mem_singleton.mp hmem]
              exact hnew
          · simp only [Store.locked, List.map_append, List.map_cons, List.map_nil, hid]
            exact List.nodup_append.mpr ⟨hsound.nodup, List.nodup_singleton _, by
              rintro other hmem _ hsingle rfl
              exact hunlocked (List.mem_singleton.mp hsingle ▸ hmem)⟩
        · exact ⟨hsound.settling, hsound.nodup⟩
  | countUnsettled payoutId =>
      refine ⟨hsound.advance fun _ _ => .inl, ?_⟩
      exact (locked_advance ..).symm ▸ hsound.nodup
  | markPaidOut payoutId =>
      refine ⟨hsound.advance fun _ _ hstage => .inr (.inl hstage), ?_⟩
      exact (locked_advance ..).symm ▸ hsound.nodup
  | enqueueProof payoutId jobId now =>
      refine ⟨hsound.advance fun _ _ hstage => .inr (.inr ⟨jobId, now, hstage⟩), ?_⟩
      exact (locked_advance ..).symm ▸ hsound.nodup
  | rollbackSettle payoutId =>
      exact ⟨fun transaction hmem => hsound.settling transaction (List.mem_of_mem_filter hmem),
        nodup_close hsound.nodup payoutId⟩
  | commitSettle payoutId =>
      have hkept : ∀ transaction ∈ store.settling,
          transaction.payoutId ∈ (store.close payoutId).locked →
          transaction.Sound (store.commitSettle payoutId).db :=
        fun transaction => hsound.kept (.commitSettle payoutId)
      change (∀ transaction ∈ (store.commitSettle payoutId).settling,
        transaction.Sound (store.commitSettle payoutId).db) ∧
          (store.commitSettle payoutId).locked.Nodup
      rcases commitSettle_cases store payoutId with hsame | ⟨transaction, -, -, hcommit⟩
      · rw [hsame]
        exact ⟨hsound.settling, hsound.nodup⟩
      · have hsettling : (store.commitSettle payoutId).settling =
            (store.close payoutId).settling := by
          rw [hcommit]
          rfl
        refine ⟨fun other hmem => ?_, ?_⟩
        · rw [hsettling] at hmem
          exact hkept other (List.mem_of_mem_filter hmem) (List.mem_map_of_mem hmem)
        · rw [Store.locked, hsettling]
          exact nodup_close hsound.nodup payoutId
  | failPayout payoutId workerId reason =>
      have hsettling : (store.step prim (.failPayout payoutId workerId reason)).settling =
          store.settling := by
        change (ite _ _ _ : Store).settling = _
        split <;> rfl
      refine ⟨fun transaction hmem => ?_, ?_⟩
      · rw [hsettling] at hmem
        exact hsound.kept _ hmem (List.mem_map_of_mem hmem)
      · rw [Store.locked, hsettling]
        exact hsound.nodup
  | _ => exact ⟨fun transaction hmem => hsound.kept _ hmem (List.mem_map_of_mem hmem), hsound.nodup⟩

/-! ## Runs -/

theorem view_invoices_keyed (db : Database) (raffleId : RaffleId) :
    ∀ a ∈ (db.view raffleId).invoices, ∀ b ∈ (db.view raffleId).invoices, a.id = b.id → a = b :=
  fun _ ha _ hb hid =>
    db.invoices.eq_of_clash (Table.mem_select.mp ha).1 (Table.mem_select.mp hb).1 (.inl hid)

/-- The view of a raffle that does not exist. -/
theorem view_empty : Database.empty.view raffleId = ⟨none, none, [], [], none, [], [], [], []⟩ := rfl

theorem Store.sound_empty : Store.empty.Sound prim where
  ledger raffleId := by
    change LedgerInv _ _ (Database.empty.view raffleId).raffle _
    rw [view_empty]
    rfl
  draw raffleId := by
    change DrawInv _ _ (Database.empty.view raffleId)
    rw [view_empty]
    exact ⟨rfl, rfl, rfl⟩
  invoices raffleId := by
    change InvoiceInv (Database.empty.view raffleId)
    rw [view_empty]
    exact ⟨fun _ => rfl, fun _ hmem => absurd hmem List.not_mem_nil,
      fun _ hmem => absurd hmem List.not_mem_nil⟩
  jobs _ _ hmem := absurd hmem List.not_mem_nil
  settling _ hmem := absurd hmem List.not_mem_nil
  nodup := List.nodup_nil

theorem Store.Sound.step (hsound : store.Sound prim) (op : Op) : (store.step prim op).Sound prim where
  ledger _ := (store.step_raffleStep hsound op).ledgerInv (hsound.ledger _)
  draw _ := (store.step_raffleStep hsound op).drawInv (hsound.draw _)
  invoices _ := (store.step_raffleStep hsound op).invoiceInv (view_invoices_keyed _ _)
    (hsound.invoices _)
  jobs _ := (store.step_raffleStep hsound op).jobInv (hsound.jobs _)
  settling := (hsound.step_settling op).1
  nodup := (hsound.step_settling op).2

theorem Store.sound_after (prim : Primitives) (operations : List Op) :
    (Store.after prim operations).Sound prim :=
  StateMachine.invariant (fun _ op hsound => hsound.step op) Store.sound_empty operations

end Steps

end OpenPool
