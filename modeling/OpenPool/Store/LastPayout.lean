import OpenPool.Store.ProofCorrectness

/-! # The last payout closes the raffle

`settle_payout` counts the unsettled payouts of the raffle without a lock on the raffle.
Transactions that settle the last payouts at the same time do not see each other's writes, so
each may count one that remains. The raffle is closed in every run where each count leaves a
payout to a later transaction, or leaves none. -/

namespace OpenPool

open Fallible

/-! ## The pool -/

section Pool

variable {prim : Primitives} {store : Store} {raffleId : RaffleId} {row : RaffleRow}

/-- Every entry pays, so a raffle with tickets has a pool. -/
theorem Store.Sound.pool_pos (hsound : store.Sound prim)
    (hrow : store.db.raffles.find (·.id = raffleId) = some row) (htickets : row.totalTickets ≠ 0) :
    0 < row.totalPoolSats := by
  obtain ⟨-, ledger, cursor, htracks⟩ := hsound.tracks hrow
  have hpool := htracks.segment.pool
  have hcolumn : row.totalPoolSats = _ := htracks.pool
  have hzero : LedgerCursor.start.totalPoolSats.toNat = 0 := rfl
  have hreads := htracks.reads
  cases hentries : (store.db.view raffleId).entries with
  | nil => exact absurd hentries (htracks.tickets_pos.mpr htickets)
  | cons entryRow rest =>
      have hmem : entryRow ∈ (store.db.view raffleId).entries := by simp [hentries]
      have hpositive : 0 < entryRow.amountSats :=
        (store.db.entries.checked entryRow (Table.mem_select.mp hmem).1).2.2.2.1
      rw [hentries] at hreads
      obtain ⟨entry, entries, hread, -, rfl⟩ := List.forall₂_cons_left_iff.mp hreads
      have hamount : entryRow.amountSats = (entry.sats : ℤ) := hread.amountSats
      simp only [List.map_cons, List.sum_cons] at hpool
      omega

/-- A positive pool leaves a positive amount to some recipient. -/
theorem payoutRows_ne_nil {payoutIds : RecipientType → Uuid} {now : ℤ} {split : PayoutSplit}
    {pool : Sats} {amounts : PayoutAmounts} (hallocated : Allocated split pool amounts)
    (hpool : 0 < pool.asU64.toNat) : payoutRows raffleId payoutIds now amounts ≠ [] := by
  intro hnil
  have hnone := List.filter_eq_nil_iff.mp (List.map_eq_nil_iff.mp hnil)
  have hwinner := hnone (.winner, amounts.winner.asU64) (by simp [payoutList])
  have horganizer := hnone (.organizer, amounts.organizer.asU64) (by simp [payoutList])
  have hplatform := hnone (.platform, amounts.platform.asU64) (by simp [payoutList])
  simp only [decide_eq_true_eq] at hwinner horganizer hplatform
  have := hallocated.total
  omega

end Pool

/-! ## The condition -/

/-- A payout that is neither settled nor being settled. -/
def Store.HasFreePayout (store : Store) (raffleId : RaffleId) : Prop :=
  ∃ payout ∈ store.db.payouts.select (·.raffleId = raffleId),
    payout.status ≠ .settled ∧ payout.id ∉ store.locked

/-- A count either sees every other payout settled, or leaves one to a later transaction. -/
def Op.CountsAlone (store : Store) : Op → Prop
  | .countUnsettled payoutId => ∀ transaction ∈ store.transaction payoutId,
      (∀ payout ∈ store.db.payouts.select (·.raffleId = transaction.raffleId),
        payout.id ≠ payoutId → payout.status = .settled) ∨
      store.HasFreePayout transaction.raffleId
  | _ => True

instance (store : Store) (raffleId : RaffleId) : Decidable (store.HasFreePayout raffleId) :=
  inferInstanceAs (Decidable (∃ payout ∈ _, _))

instance (store : Store) (op : Op) : Decidable (op.CountsAlone store) := by
  unfold Op.CountsAlone
  split <;> infer_instance

/-! ## The invariant -/

/-- Some transaction will close a raffle that is being paid. -/
def ClosingInv (store : Store) : Prop :=
  ∀ raffleId row, (store.db.view raffleId).raffle = some row → row.status = .payoutPending →
    store.HasFreePayout raffleId ∨ ∃ transaction ∈ store.settling,
      transaction.raffleId = raffleId ∧
        (transaction.stage = .updated ∨ transaction.stage.closes = true)

section Steps

variable {prim : Primitives} {scope : Scope} {raffleId : RaffleId} {view view' : RaffleView}
  {store store' : Store}

/-- An unsettled payout stays unsettled unless the step settles it. -/
theorem RaffleStep.unsettled_kept (hstep : RaffleStep prim scope raffleId view view')
    {payout : PayoutRow} (hmem : payout ∈ view.payouts) (hstatus : payout.status ≠ .settled)
    (hscope : scope.settled ≠ some payout.id) :
    ∃ payout' ∈ view'.payouts, payout'.id = payout.id ∧ payout'.status ≠ .settled := by
  have hmap : ∀ change : PayoutRow → PayoutRow, PayoutChange scope view.payouts change →
      ∃ payout' ∈ view.payouts.map change, payout'.id = payout.id ∧
        payout'.status ≠ .settled := by
    intro change hchange
    refine ⟨change payout, List.mem_map_of_mem hmem, ?_, fun hsettled => ?_⟩
    · exact congrArg PayoutTerms.id (hchange.terms payout)
    · exact (hchange.new payout hmem hsettled).elim hstatus hscope
  cases hstep with
  | draw => exact ⟨payout, List.mem_append_left _ hmem, rfl, hstatus⟩
  | changePayouts change hchange => exact hmap change hchange
  | payOut change jobs hchange => exact hmap change hchange
  | create | edit | move | close | settle | freeze | stay | pendingInvoice | collectionInvoice
  | changeInvoices | late | refund | proof | publish | changeJobs =>
      exact ⟨payout, hmem, rfl, hstatus⟩

/-- A raffle is being paid because it was, or because it has just been drawn. -/
theorem RaffleStep.payoutPending_from (hstep : RaffleStep prim scope raffleId view view')
    (hpool : ∀ row, view.raffle = some row → row.status = .randomnessPending →
      0 < row.totalPoolSats) {row' : RaffleRow} (hrow' : view'.raffle = some row')
    (hstatus' : row'.status = .payoutPending) :
    (∃ row, view.raffle = some row ∧ row.status = .payoutPending) ∨
      ∃ payout ∈ view'.payouts, payout.status = .pending := by
  cases hstep with
  | create row split habsent hid hnew =>
      cases hrow'
      cases hnew.status.symm.trans hstatus'
  | edit row _ _ _ _ _ _ hrow | settle row _ _ _ _ hrow =>
      cases hrow'
      exact .inl ⟨row, hrow, hstatus'⟩
  | move row status hrow hmove =>
      cases hrow'
      obtain rfl : status = .payoutPending := hstatus'
      rcases (RaffleStatus.mayMove_cases hmove).2 with hafter | hafter <;> cases hafter
  | close =>
      cases hrow'
      cases hstatus'
  | freeze row head count jobs hrow =>
      cases hrow'
      change (if row.totalTickets = 0 then RaffleStatus.cancelled else _) = _ at hstatus'
      split at hstatus' <;> cases hstatus'
  | draw row context closeHash ids now jobs hrow hstatus hreads =>
      have hpositive := hpool row hrow hstatus
      have hcolumn := hreads.totalPoolSats
      have hne : payoutRows raffleId ids.payout now context.amounts ≠ [] :=
        payoutRows_ne_nil hreads.allocated.2 (by change 0 < context.totalPoolSats.toNat; omega)
      obtain ⟨payout, hpayout⟩ := List.exists_mem_of_ne_nil _ hne
      refine .inr ⟨payout, List.mem_append_right _ hpayout, ?_⟩
      obtain ⟨source, -, rfl⟩ := List.mem_map.mp hpayout
      rfl
  | payOut change jobs hchange hall hjobs =>
      obtain ⟨row, hrow, rfl⟩ := Option.map_eq_some_iff.mp hrow'
      refine .inl ⟨row, hrow, ?_⟩
      split at hstatus'
      · cases hstatus'
      · exact hstatus'
  | stay | pendingInvoice | collectionInvoice | changeInvoices | late | refund | proof | publish
  | changePayouts | changeJobs => exact .inl ⟨row', hrow', hstatus'⟩

/-- The pool of a frozen raffle is positive. -/
theorem Store.Sound.frozen_pool_pos (hsound : store.Sound prim) {row : RaffleRow}
    (hrow : store.db.raffles.find (·.id = raffleId) = some row)
    (hstatus : row.status = .randomnessPending) : 0 < row.totalPoolSats := by
  obtain ⟨hfrozen, -⟩ := hsound.tracks hrow
  exact hsound.pool_pos hrow (hfrozen.frozen (.inl hstatus)).2

/-! ## One step -/

/-- A step that keeps the locks and settles nothing leaves free payouts free. -/
theorem ClosingInv.exec (hsound : store.Sound prim) (hsound' : store'.Sound prim)
    (hstep : ∀ raffleId, RaffleStep prim scope raffleId (store.db.view raffleId)
      (store'.db.view raffleId))
    (hscope : scope.settled = none) (hsettling : store'.settling = store.settling)
    (h : ClosingInv store) : ClosingInv store' := by
  intro raffleId row' hrow' hstatus'
  have hlocked : store'.locked = store.locked := by
    rw [Store.locked, hsettling, Store.locked]
  rcases (hstep raffleId).payoutPending_from (fun row hrow => hsound.frozen_pool_pos hrow)
    hrow' hstatus' with ⟨row, hrow, hstatus⟩ | ⟨payout, hmem, hpending⟩
  · rcases h raffleId row hrow hstatus with ⟨payout, hmem, hunsettled, hfree⟩ | hclosing
    · obtain ⟨payout', hmem', hid, hunsettled'⟩ :=
        (hstep raffleId).unsettled_kept hmem hunsettled (by simp [hscope])
      exact .inl ⟨payout', hmem', hunsettled', by rwa [hlocked, hid]⟩
    · exact .inr (by rwa [hsettling])
  · refine .inl ⟨payout, hmem, by rw [hpending]; decide, fun hmemLocked => ?_⟩
    have := hsound'.processing_of_locked (Table.mem_select.mp hmem).1 hmemLocked
    cases hpending.symm.trans this

/-- Releasing a lock frees its payout. -/
theorem ClosingInv.close (hsound : store.Sound prim) (h : ClosingInv store) (payoutId : Uuid) :
    ClosingInv (store.close payoutId) := by
  intro raffleId row hrow hstatus
  have hlocked : (store.close payoutId).locked ⊆ store.locked :=
    (List.filter_sublist.map _).subset
  rcases h raffleId row hrow hstatus with ⟨payout, hmem, hunsettled, hfree⟩ |
    ⟨transaction, hmem, hid, hstage⟩
  · exact .inl ⟨payout, hmem, hunsettled, fun hmemLocked => hfree (hlocked hmemLocked)⟩
  · by_cases heq : transaction.payoutId = payoutId
    · obtain ⟨payout, hpayout, hheld⟩ := (hsound.settling transaction hmem).mem_view
      obtain ⟨hheldId, hprocessing, -⟩ := heldBy_iff.mp hheld
      refine .inl ⟨payout, hid ▸ hpayout, by rw [hprocessing]; exact nofun, ?_⟩
      rw [hheldId, heq]
      exact not_mem_locked_close payoutId
    · exact .inr ⟨transaction, List.mem_filter.mpr ⟨hmem, decide_eq_true heq⟩, hid, hstage⟩

theorem ClosingInv.begin {payoutId : Uuid} {workerId providerReference : String}
    (h : ClosingInv store) :
    ClosingInv (store.beginSettle payoutId workerId providerReference) := by
  unfold Store.beginSettle
  split
  · exact h
  · split
    · rename_i transaction hok
      obtain ⟨hnew, hid, hstage⟩ := beginSettle_sound hok
      obtain ⟨held, hheldMem, hheld, hraffleId⟩ := hnew.held
      intro raffleId row hrow hstatus
      by_cases heq : transaction.raffleId = raffleId
      · exact .inr ⟨transaction, by simp, heq, .inl hstage⟩
      · rcases h raffleId row hrow hstatus with ⟨payout, hmem, hunsettled, hfree⟩ |
          ⟨other, hmem, hother⟩
        · refine .inl ⟨payout, hmem, hunsettled, ?_⟩
          simp only [Store.locked, List.map_append, List.map_cons, List.map_nil, List.mem_append,
            List.mem_singleton, not_or]
          refine ⟨hfree, fun hpayoutId => heq ?_⟩
          obtain ⟨hpayout, hpayoutRaffle⟩ := Table.mem_select.mp hmem
          rw [← hraffleId, ← eq_of_payout_id hpayout hheldMem
            (hpayoutId.trans (heldBy_iff.mp hheld).1.symm)]
          exact of_decide_eq_true hpayoutRaffle
        · exact .inr ⟨other, List.mem_append_left _ hmem, hother⟩
    · exact h

/-- A statement of an open transaction keeps the invariant if the transaction, where it was one
that will close its raffle, still is one, or leaves a free payout. -/
theorem ClosingInv.advance {payoutId : Uuid} {next : SettleTransaction → Option SettleStage}
    (hnext : ∀ transaction ∈ store.settling, transaction.payoutId = payoutId →
      (transaction.stage = .updated ∨ transaction.stage.closes = true) →
      ∀ stage, next transaction = some stage →
        stage.closes = true ∨ store.HasFreePayout transaction.raffleId)
    (h : ClosingInv store) : ClosingInv (store.advance payoutId next) := by
  intro raffleId row hrow hstatus
  have hfreeAfter : store.HasFreePayout raffleId →
      (store.advance payoutId next).HasFreePayout raffleId := by
    rintro ⟨payout, hmem, hunsettled, hfree⟩
    exact ⟨payout, hmem, hunsettled, by rwa [locked_advance]⟩
  rcases h raffleId row hrow hstatus with hfree | ⟨transaction, hmem, hid, hstage⟩
  · exact .inl (hfreeAfter hfree)
  · have hmem' := List.mem_map_of_mem (f := fun transaction : SettleTransaction =>
      if transaction.payoutId = payoutId then
        { transaction with stage := (next transaction).getD transaction.stage }
      else transaction) hmem
    by_cases heq : transaction.payoutId = payoutId
    · cases hstep : next transaction with
      | none =>
          refine .inr ⟨_, hmem', ?_⟩
          simp only [heq, if_true, hstep, Option.getD_none]
          exact ⟨hid, hstage⟩
      | some stage =>
          rcases hnext transaction hmem heq hstage stage hstep with hcloses | hfree
          · refine .inr ⟨_, hmem', ?_⟩
            simp only [heq, if_true, hstep, Option.getD_some]
            exact ⟨hid, .inr hcloses⟩
          · exact .inl (hfreeAfter (hid ▸ hfree))
    · refine .inr ⟨_, hmem', ?_⟩
      simp only [heq, if_false]
      exact ⟨hid, hstage⟩

theorem eq_of_transaction_id (hsound : store.Sound prim) {a b : SettleTransaction}
    (ha : a ∈ store.settling) (hb : b ∈ store.settling) (hid : a.payoutId = b.payoutId) : a = b :=
  List.inj_on_of_nodup_map hsound.nodup ha hb hid

theorem transaction_eq_some (hsound : store.Sound prim) {transaction : SettleTransaction}
    (hmem : transaction ∈ store.settling) :
    store.transaction transaction.payoutId = some transaction := by
  cases hfind : store.transaction transaction.payoutId with
  | none =>
      have := List.find?_eq_none.mp hfind transaction hmem
      simp at this
  | some other =>
      obtain ⟨hother, hid⟩ := mem_of_transaction hfind
      rw [eq_of_transaction_id hsound hother hmem hid]

theorem remaining_eq_zero {db : Database} {transaction : SettleTransaction}
    (h : ∀ payout ∈ db.payouts.select (·.raffleId = transaction.raffleId),
      payout.id ≠ transaction.payoutId → payout.status = .settled) :
    transaction.remaining db = 0 := by
  refine List.countP_eq_zero.mpr fun seen hseen => ?_
  obtain ⟨payout, hmem, rfl⟩ := List.mem_map.mp hseen
  intro hcounted
  obtain ⟨hraffleId, hunsettled⟩ := of_decide_eq_true hcounted
  unfold SettleTransaction.sees at hraffleId hunsettled
  split at hunsettled
  · exact hunsettled rfl
  · rename_i hid
    rw [if_neg hid] at hraffleId
    exact hunsettled (h payout (Table.mem_select.mpr ⟨hmem, decide_eq_true hraffleId⟩) hid)

/-- A transaction that closes its raffle leaves no raffle to pay. -/
theorem commit_closes {db db' : Database} {transaction : SettleTransaction} {paidOut : Bool}
    (h : transaction.commit db = .ok (db', paidOut)) (hdone : transaction.stage.done = true)
    (hcloses : transaction.stage = .updated ∨ transaction.stage.closes = true) {row' : RaffleRow}
    (hrow' : (db'.view transaction.raffleId).raffle = some row') :
    row'.status ≠ .payoutPending := by
  cases hstage : transaction.stage with
  | updated => cases hstage ▸ hdone
  | counted remaining =>
      rw [hstage] at hdone hcloses
      have hzero : remaining = 0 := by
        simpa [SettleStage.closes] using hcloses
      simp [SettleStage.done, hzero] at hdone
  | paidOut => cases hstage ▸ hdone
  | enqueued jobId now =>
      simp only [SettleTransaction.commit, hstage, SettleStage.finish, OpenPool.markPaidOut,
        bind_eq_ok_iff, execute_eq_ok_iff, pure_eq_ok_iff, Prod.mk.injEq] at h
      obtain ⟨payouts, -, _, ⟨raffles, ⟨returned, hraffles⟩, rfl⟩, _, hjob, rfl, -⟩ := h
      obtain ⟨jobs, rfl, -⟩ := insertRaffleJob_spec hjob
      have hfind : raffles.find (·.id = transaction.raffleId) = some row' := hrow'
      rw [Table.find_of_update hraffles fun _ _ => rfl] at hfind
      obtain ⟨row, hrow, rfl⟩ := Option.map_eq_some_iff.mp hfind
      split
      · intro hpending
        cases hpending
      · rename_i hnot
        exact fun hpending => hnot (decide_eq_true
          ⟨of_decide_eq_true (Table.mem_of_find hrow).2, hpending⟩)

theorem ClosingInv.commit (hsound : store.Sound prim) (h : ClosingInv store) (payoutId : Uuid) :
    ClosingInv (store.commitSettle payoutId) := by
  have hsound' : (store.commitSettle payoutId).Sound prim := hsound.step (.commitSettle payoutId)
  rcases commitSettle_cases store payoutId with hsame | ⟨transaction, hfound, hdone, hcommit⟩
  · rwa [hsame]
  obtain ⟨hmem, hid⟩ := mem_of_transaction hfound
  have hsettling : (store.commitSettle payoutId).settling = (store.close payoutId).settling := by
    rw [hcommit]
    rfl
  have hlocked : (store.commitSettle payoutId).locked ⊆ store.locked := by
    rw [Store.locked, hsettling]
    exact (List.filter_sublist.map _).subset
  have hdb : (store.commitSettle payoutId).db =
      Fallible.commit store.db (transaction.commit store.db) := by
    rw [hcommit]
    rfl
  rcases commit_cases store.db (transaction.commit store.db) with hfailed | ⟨paidOut, hok⟩
  · -- a failed commit is a rollback
    have hclosed : store.commitSettle payoutId = store.close payoutId := by
      rw [hcommit, Store.exec, hfailed]
    rw [hclosed]
    exact h.close hsound payoutId
  · rw [← hdb] at hok
    intro raffleId row' hrow' hstatus'
    let scope : Scope :=
      { locked := (store.close payoutId).locked, settled := some payoutId }
    have hstep : RaffleStep prim scope raffleId (store.db.view raffleId)
        ((store.commitSettle payoutId).db.view raffleId) :=
      commitSettle_step hsound (not_mem_locked_close payoutId) rfl
    rcases hstep.payoutPending_from (fun row hrow => hsound.frozen_pool_pos hrow) hrow' hstatus' with
      ⟨row, hrow, hstatus⟩ | ⟨payout, hpayout, hpending⟩
    · rcases h raffleId row hrow hstatus with ⟨payout, hpayout, hunsettled, hfree⟩ |
        ⟨other, hother, hotherId, hstage⟩
      · have hne : scope.settled ≠ some payout.id := fun heq =>
          hfree (Option.some.inj heq ▸ hid ▸ List.mem_map_of_mem hmem)
        obtain ⟨payout', hpayout', hsame, hunsettled'⟩ :=
          hstep.unsettled_kept hpayout hunsettled hne
        exact .inl ⟨payout', hpayout', hunsettled', fun hlock => hfree (hsame ▸ hlocked hlock)⟩
      · by_cases heq : other.payoutId = payoutId
        · obtain rfl := eq_of_transaction_id hsound hother hmem (heq.trans hid.symm)
          subst hotherId
          exact absurd hstatus' (commit_closes hok hdone hstage hrow')
        · refine .inr ⟨other, ?_, hotherId, hstage⟩
          rw [hsettling]
          exact List.mem_filter.mpr ⟨hother, decide_eq_true heq⟩
    · refine .inl ⟨payout, hpayout, by rw [hpending]; decide, fun hmemLocked => ?_⟩
      have := hsound'.processing_of_locked (Table.mem_select.mp hpayout).1 hmemLocked
      cases hpending.symm.trans this

theorem Op.CountsAlone.closingInv {op : Op} (hcounts : op.CountsAlone store)
    (hsound : store.Sound prim) (h : ClosingInv store) : ClosingInv (store.step prim op) := by
  have hsound' := hsound.step op
  cases op with
  | beginSettle => exact h.begin
  | countUnsettled payoutId =>
      refine h.advance fun transaction hmem hid hstage stage hnext => ?_
      unfold SettleTransaction.countUnsettled at hnext
      split at hnext
      · cases hnext
        rcases hcounts transaction (hid ▸ transaction_eq_some hsound hmem) with hlast | hfree
        · subst hid
          exact .inl (decide_eq_true (remaining_eq_zero hlast))
        · exact .inr hfree
      · cases hnext
  | markPaidOut payoutId =>
      refine h.advance fun transaction hmem hid hstage stage hnext => .inl ?_
      unfold SettleTransaction.markPaidOut at hnext
      split at hnext <;> cases hnext
      rfl
  | enqueueProof payoutId jobId now =>
      refine h.advance fun transaction hmem hid hstage stage hnext => .inl ?_
      unfold SettleTransaction.enqueueProof at hnext
      split at hnext <;> cases hnext
      rfl
  | commitSettle payoutId => exact h.commit hsound payoutId
  | rollbackSettle payoutId => exact h.close hsound payoutId
  | failPayout payoutId workerId reason =>
      refine h.exec hsound hsound' (fun _ => store.step_raffleStep hsound _) rfl ?_
      change (ite _ _ _ : Store).settling = _
      split <;> rfl
  | _ => exact h.exec hsound hsound' (fun _ => store.step_raffleStep hsound _) rfl rfl

end Steps

/-! ## Runs -/

/-- With no settlement in flight, a drawn raffle whose payouts are settled is closed. -/
def Store.LastPayoutCloses (store : Store) : Prop :=
  store.settling = [] → ∀ row ∈ store.db.raffles.rows,
    store.db.draws.has (·.raffleId = row.id) = true →
    (∀ payout ∈ store.db.payouts.select (·.raffleId = row.id), payout.status = .settled) →
    row.status = .paidOut ∧
      store.db.jobs.has (JobRow.isFor .proofGenerate row.id.uuid.toString) = true

instance (store : Store) : Decidable store.LastPayoutCloses :=
  inferInstanceAs (Decidable (_ → ∀ row ∈ _, _ → _ → _))

theorem ClosingInv.lastPayoutCloses {prim : Primitives} {store : Store}
    (hsound : store.Sound prim) (h : ClosingInv store) : store.LastPayoutCloses := by
  intro hidle row hmem hdraw hsettled
  have hrow : store.db.raffles.find (·.id = row.id) = some row :=
    Table.find_eq_some hmem (decide_eq_true rfl) fun _ _ ha hb =>
      (of_decide_eq_true ha).trans (of_decide_eq_true hb).symm
  have hstate := hsound.drawState hrow
  have hdrawn : row.status.drawn = true := by
    by_contra hbefore
    obtain ⟨drawRow, hfind⟩ := Table.find_of_has hdraw
    obtain ⟨hnone, -⟩ := hstate.undrawn (Bool.eq_false_iff.mpr hbefore)
    cases hnone.symm.trans hfind
  have hpaid : row.status = .paidOut := by
    cases hstatus : row.status <;> rw [hstatus] at hdrawn <;> cases hdrawn
    rcases h row.id row hrow hstatus with ⟨payout, hpayout, hunsettled, -⟩ |
      ⟨transaction, hopen, -⟩
    · exact absurd (hsettled payout hpayout) hunsettled
    · rw [hidle] at hopen
      cases hopen
  obtain ⟨-, job, hjob, hkind⟩ := hstate.paid hpaid
  have hkey := (hsound.jobs row.id job hjob).2.1
  exact ⟨hpaid, List.any_eq_true.mpr
    ⟨job, (Table.mem_select.mp hjob).1, decide_eq_true ⟨hkind, hkey⟩⟩⟩

/-- Where every count leaves a payout to a later transaction or leaves none, the last payout
closes the raffle. -/
theorem lastPayout_closes (prim : Primitives) (operations : List Op)
    (hcounts : StateMachine.Meets (Store.step prim) Op.CountsAlone .empty operations) :
    (Store.after prim operations).LastPayoutCloses := by
  have hstep : ∀ (store : Store) (op : Op), op.CountsAlone store →
      (store.Sound prim ∧ ClosingInv store) →
      (store.step prim op).Sound prim ∧ ClosingInv (store.step prim op) :=
    fun store op hcounts ⟨hsound, h⟩ => ⟨hsound.step op, hcounts.closingInv hsound h⟩
  have hend := hcounts.invariant hstep ⟨Store.sound_empty, fun _ row hrow => nomatch hrow⟩
  exact hend.2.lastPayoutCloses hend.1

/-! ## Two runs -/

theorem lastPayout_closes_sample : (Store.after .standard SampleRun.paidOut).LastPayoutCloses :=
  lastPayout_closes .standard SampleRun.paidOut (by decide +kernel)

namespace SampleRun

/-- Two workers settle the last two payouts at the same time. -/
def raced : List Op := drawn ++ pay (uuid 21) ++ [
  .claimPayout raffleId "left" 100000005 [] 0,
  .claimPayout raffleId "right" 100000005 [] 0,
  .beginSettle (uuid 22) "left" "left payment",
  .beginSettle (uuid 23) "right" "right payment",
  .countUnsettled (uuid 22),
  .countUnsettled (uuid 23),
  .commitSettle (uuid 22),
  .commitSettle (uuid 23)]

end SampleRun

/-- Both transactions count the other's payout, and none closes the raffle. -/
theorem lastPayout_race : ¬ (Store.after .standard SampleRun.raced).LastPayoutCloses := by
  decide +kernel

end OpenPool
