import OpenPool.Store.LedgerCorrectness
import OpenPool.Store.Monotone

/-! # Closed raffles

What a raffle sold when it left its open status is what it is drawn and paid with. -/

namespace OpenPool

open Fallible

/-! ## Terms -/

/-- The columns that a close freezes. -/
structure RaffleRow.SameTerms (a b : RaffleRow) : Prop where
  entryPriceSats : a.entryPriceSats = b.entryPriceSats
  endTime : a.endTime = b.endTime
  randomnessDelayBlocks : a.randomnessDelayBlocks = b.randomnessDelayBlocks
  totalTickets : a.totalTickets = b.totalTickets
  totalPoolSats : a.totalPoolSats = b.totalPoolSats
  entryChainHead : a.entryChainHead = b.entryChainHead

/-- What a later view keeps of a closed raffle. -/
structure RaffleView.KeepsClosed (view view' : RaffleView) : Prop where
  raffle : ∃ row ∈ view.raffle, ∃ row' ∈ view'.raffle, row'.SameTerms row ∧
    (row'.status ≠ .draft ∧ row'.status ≠ .scheduled ∧ row'.status ≠ .opened) ∧
    ∀ root, row.entriesRoot = some root → row'.entriesRoot = some root
  split : view'.split = view.split
  entries : view'.entries = view.entries

section Terms

variable {prim : Primitives} {scope : Scope} {raffleId : RaffleId} {view view' view'' : RaffleView}
  {row : RaffleRow}

theorem RaffleRow.SameTerms.refl (row : RaffleRow) : row.SameTerms row :=
  ⟨rfl, rfl, rfl, rfl, rfl, rfl⟩

theorem RaffleRow.SameTerms.trans {a b c : RaffleRow} (h : a.SameTerms b) (h' : b.SameTerms c) :
    a.SameTerms c :=
  ⟨h.entryPriceSats.trans h'.entryPriceSats, h.endTime.trans h'.endTime,
    h.randomnessDelayBlocks.trans h'.randomnessDelayBlocks, h.totalTickets.trans h'.totalTickets,
    h.totalPoolSats.trans h'.totalPoolSats, h.entryChainHead.trans h'.entryChainHead⟩

theorem beforeClose_eq_false_iff {status : RaffleStatus} : status.beforeClose = false ↔
    status ≠ .draft ∧ status ≠ .scheduled ∧ status ≠ .opened := by
  cases status <;> simp [RaffleStatus.beforeClose]

theorem RaffleView.KeepsClosed.refl (h : view.IsClosed) : view.KeepsClosed view := by
  obtain ⟨row, hrow, hclosed⟩ := h
  exact ⟨⟨row, hrow, row, hrow, .refl row, beforeClose_eq_false_iff.mp hclosed, fun _ => id⟩, rfl,
    rfl⟩

theorem RaffleView.KeepsClosed.trans (h : view.KeepsClosed view') (h' : view'.KeepsClosed view'') :
    view.KeepsClosed view'' := by
  obtain ⟨row, hrow, middle, hmiddle, hterms, -, hroot⟩ := h.raffle
  obtain ⟨middle', hmiddle', row'', hrow'', hterms', hstatus, hroot'⟩ := h'.raffle
  obtain rfl : middle = middle' := Option.mem_unique hmiddle hmiddle'
  exact ⟨⟨row, hrow, row'', hrow'', hterms'.trans hterms, hstatus,
    fun root hwritten => hroot' root (hroot root hwritten)⟩, h'.split.trans h.split,
    h'.entries.trans h.entries⟩

theorem RaffleView.KeepsClosed.isClosed (h : view.KeepsClosed view') : view'.IsClosed := by
  obtain ⟨-, -, row', hrow', -, hstatus, -⟩ := h.raffle
  exact ⟨row', hrow', beforeClose_eq_false_iff.mpr hstatus⟩

/-- No step changes the terms of a closed raffle. -/
theorem RaffleStep.terms_closed (hstep : RaffleStep prim scope raffleId view view')
    (hrow : view.raffle = some row) (hclosed : row.status.beforeClose = false) :
    (∃ row', view'.raffle = some row' ∧ row'.SameTerms row) ∧ view'.split = view.split := by
  have hother : ∀ {other}, view.raffle = some other → other.status.beforeClose = true → False := by
    intro other hview hstatus
    obtain rfl : other = row := Option.some.inj (hview.symm.trans hrow)
    cases hstatus.symm.trans hclosed
  have hsame : ∀ {other}, view.raffle = some other → other = row := fun hview =>
    Option.some.inj (hview.symm.trans hrow)
  cases hstep with
  | create other split habsent => cases habsent.symm.trans hrow
  | edit other _ _ _ _ _ _ hview hstatus =>
      exact (hother hview (by rcases hstatus with hstatus | hstatus <;> rw [hstatus] <;> rfl)).elim
  | settle other _ _ _ _ hview hopen => exact (hother hview (by rw [hopen]; rfl)).elim
  | move other status hview | close other _ hview | freeze other _ _ _ hview =>
      obtain rfl := hsame hview
      exact ⟨⟨_, rfl, rfl, rfl, rfl, rfl, rfl, rfl⟩, rfl⟩
  | draw other _ _ _ _ _ hview =>
      obtain rfl := hsame hview
      exact ⟨⟨_, rfl, rfl, rfl, rfl, rfl, rfl, rfl⟩, rfl⟩
  | payOut change jobs =>
      refine ⟨⟨_, by rw [hrow]; rfl, ?_⟩, rfl⟩
      beta_reduce
      split
      · exact ⟨rfl, rfl, rfl, rfl, rfl, rfl⟩
      · exact .refl row
  | stay | pendingInvoice | collectionInvoice | changeInvoices | late | refund | proof | publish
  | changePayouts | changeJobs => exact ⟨⟨row, hrow, .refl row⟩, rfl⟩

theorem RaffleStep.keepsClosed (hstep : RaffleStep prim scope raffleId view view')
    (hledger : LedgerInv prim.sha256 raffleId view.raffle view.entries) (hclosed : view.IsClosed) :
    view.KeepsClosed view' := by
  obtain ⟨row, hrow, hstatus⟩ := hclosed
  obtain ⟨⟨row', hrow', hterms⟩, hsplit⟩ := hstep.terms_closed hrow hstatus
  obtain ⟨after, hafter, hstatus'⟩ := hstep.isClosed ⟨row, hrow, hstatus⟩
  obtain rfl : after = row' := Option.some.inj (hafter.symm.trans hrow')
  refine ⟨⟨row, hrow, after, hrow', hterms, beforeClose_eq_false_iff.mp hstatus',
    fun root hroot => ?_⟩, hsplit, hstep.entries_ended ⟨row, hrow, hstatus⟩⟩
  obtain ⟨other, hother, hkept⟩ := hstep.root_kept hledger hrow hroot
  rwa [← Option.some.inj (hother.symm.trans hrow')]

end Terms

section Runs

variable {prim : Primitives} {store : Store} {raffleId : RaffleId}

theorem Store.after_append (prim : Primitives) (front back : List Op) :
    Store.after prim (front ++ back) = StateMachine.run (Store.step prim) (.after prim front) back :=
  StateMachine.run_append _ _ _

/-- Later operations keep what a closed raffle has sold. -/
theorem Store.keepsClosed_run (hsound : store.Sound prim)
    (hclosed : (store.db.view raffleId).IsClosed) (operations : List Op) :
    (store.db.view raffleId).KeepsClosed
      ((StateMachine.run (Store.step prim) store operations).db.view raffleId) := by
  have hrelated := StateMachine.run_related (P := fun store : Store => store.Sound prim)
    (R := fun a b : Store => (a.db.view raffleId).IsClosed →
      (a.db.view raffleId).KeepsClosed (b.db.view raffleId))
    (fun _ => .refl) (fun _ _ _ h h' hclosed => (h hclosed).trans (h' (h hclosed).isClosed))
    (fun _ op hsound => hsound.step op)
    (fun store op hsound hclosed => (store.step_raffleStep hsound op).keepsClosed
      (hsound.ledger raffleId) hclosed) hsound operations
  exact hrelated hclosed

theorem Store.wasOpened_run (hsound : store.Sound prim)
    (hopened : (store.db.view raffleId).WasOpened) (operations : List Op) :
    ((StateMachine.run (Store.step prim) store operations).db.view raffleId).WasOpened := by
  have hstep : ∀ (store : Store) (op : Op),
      (store.Sound prim ∧ (store.db.view raffleId).WasOpened) →
      (store.step prim op).Sound prim ∧ ((store.step prim op).db.view raffleId).WasOpened :=
    fun store op h => ⟨h.1.step op, (store.step_raffleStep h.1 op).wasOpened h.2⟩
  exact (StateMachine.invariant hstep ⟨hsound, hopened⟩ operations).2

end Runs

/-- When an open raffle has left that status, no operation changes what it has sold. -/
theorem close_freezes_raffle (prim : Primitives) (opening closing later : List Op)
    (raffleId : RaffleId)
    (hopen : ∃ row ∈ ((Store.after prim opening).db.view raffleId).raffle, row.status = .opened)
    (hleft : ∀ row ∈ ((Store.after prim (opening ++ closing)).db.view raffleId).raffle,
      row.status ≠ .opened) :
    ((Store.after prim (opening ++ closing)).db.view raffleId).KeepsClosed
      ((Store.after prim (opening ++ closing ++ later)).db.view raffleId) := by
  obtain ⟨row, hrow, hstatus⟩ := hopen
  have hopened : ((Store.after prim opening).db.view raffleId).WasOpened :=
    ⟨row, hrow, by rw [hstatus]; nofun, by rw [hstatus]; nofun⟩
  have hstill := Store.wasOpened_run (Store.sound_after prim opening) hopened closing
  rw [← Store.after_append] at hstill
  obtain ⟨row', hrow', hdraft, hscheduled⟩ := hstill
  rw [Store.after_append prim (opening ++ closing)]
  exact Store.keepsClosed_run (Store.sound_after prim _)
    ⟨row', hrow', beforeClose_eq_false_iff.mpr ⟨hdraft, hscheduled, hleft row' hrow'⟩⟩ later

theorem close_freezes_sample :
    ((Store.after .standard (SampleRun.sold ++ [.scheduleDueCloses (fun _ => SampleRun.uuid 7)
        100000000])).db.view SampleRun.raffleId).KeepsClosed
      ((Store.after .standard (SampleRun.sold ++ [.scheduleDueCloses (fun _ => SampleRun.uuid 7)
        100000000] ++ [.freezeRaffle SampleRun.raffleId (SampleRun.uuid 8) 100000001])).db.view
        SampleRun.raffleId) :=
  close_freezes_raffle .standard SampleRun.sold _ _ SampleRun.raffleId (by decide +kernel)
    (by decide +kernel)

end OpenPool
