import OpenPool.Store.Reachable

/-! # What no step takes back

The facts about a raffle that survive every later step, and where new settlements and refunds
come from. -/

namespace OpenPool

/-- The raffle can still be opened, or it is open. -/
def RaffleStatus.beforeClose : RaffleStatus → Bool
  | draft | scheduled | opened => true
  | _ => false

/-- The raffle takes no more entries. -/
def RaffleView.IsClosed (view : RaffleView) : Prop :=
  ∃ row, view.raffle = some row ∧ row.status.beforeClose = false

/-- A later view of the same raffle. -/
structure RaffleView.Extends (view view' : RaffleView) : Prop where
  closed : view.IsClosed → view'.IsClosed
  drawn : view.IsDrawn → view'.IsDrawn
  terms : view.IsDrawn → view'.payouts.map PayoutRow.terms = view.payouts.map PayoutRow.terms
  payout : ∀ payout ∈ view.payouts, ∃ payout' ∈ view'.payouts, payout'.terms = payout.terms
  settled : ∀ payout ∈ view.payouts, payout.status = .settled → payout ∈ view'.payouts
  entries : view.entries ⊆ view'.entries
  ended : view.IsClosed → view'.entries = view.entries
  refunds : view.refunds ⊆ view'.refunds
  invoice : ∀ invoice ∈ view.invoices, ∃ invoice' ∈ view'.invoices, invoice.SameInvoice invoice' ∧
    (invoice.status.isFinal = true → invoice'.status = invoice.status)
  billed : view.IsClosed → ∀ invoice' ∈ view'.invoices, ∃ invoice ∈ view.invoices,
    invoice.SameInvoice invoice' ∧
      (invoice.status.isFinal = true → invoice'.status = invoice.status)

section Order

variable {view view' view'' : RaffleView}

theorem InvoiceRow.SameInvoice.trans {a b c : InvoiceRow} (h : a.SameInvoice b)
    (h' : b.SameInvoice c) : a.SameInvoice c :=
  ⟨h.id.trans h'.id, h.raffleId.trans h'.raffleId,
    h.participantPublicId.trans h'.participantPublicId,
    h.paymentReferenceHash.trans h'.paymentReferenceHash, h.amountSats.trans h'.amountSats,
    h.ticketCount.trans h'.ticketCount,
    h.payoutAddressCiphertext.trans h'.payoutAddressCiphertext⟩

theorem RaffleView.Extends.refl (view : RaffleView) : view.Extends view where
  closed := id
  drawn := id
  terms _ := rfl
  payout payout hmem := ⟨payout, hmem, rfl⟩
  settled _ hmem _ := hmem
  entries := List.Subset.refl _
  ended _ := rfl
  refunds := List.Subset.refl _
  invoice invoice hmem := ⟨invoice, hmem, .refl invoice, fun _ => rfl⟩
  billed _ invoice hmem := ⟨invoice, hmem, .refl invoice, fun _ => rfl⟩

theorem RaffleView.Extends.trans (h : view.Extends view') (h' : view'.Extends view'') :
    view.Extends view'' where
  closed := h'.closed ∘ h.closed
  drawn := h'.drawn ∘ h.drawn
  terms hdrawn := (h'.terms (h.drawn hdrawn)).trans (h.terms hdrawn)
  payout payout hmem := by
    obtain ⟨payout', hmem', hterms⟩ := h.payout payout hmem
    obtain ⟨payout'', hmem'', hterms'⟩ := h'.payout payout' hmem'
    exact ⟨payout'', hmem'', hterms'.trans hterms⟩
  settled payout hmem hstatus := h'.settled payout (h.settled payout hmem hstatus) hstatus
  entries := List.Subset.trans h.entries h'.entries
  ended hclosed := (h'.ended (h.closed hclosed)).trans (h.ended hclosed)
  refunds := List.Subset.trans h.refunds h'.refunds
  invoice invoice hmem := by
    obtain ⟨invoice', hmem', hsame, hfinal⟩ := h.invoice invoice hmem
    obtain ⟨invoice'', hmem'', hsame', hfinal'⟩ := h'.invoice invoice' hmem'
    refine ⟨invoice'', hmem'', hsame.trans hsame', fun hstatus => ?_⟩
    have heq := hfinal hstatus
    exact (hfinal' (by rwa [heq])).trans heq
  billed hclosed invoice'' hmem'' := by
    obtain ⟨invoice', hmem', hsame', hfinal'⟩ := h'.billed (h.closed hclosed) invoice'' hmem''
    obtain ⟨invoice, hmem, hsame, hfinal⟩ := h.billed hclosed invoice' hmem'
    refine ⟨invoice, hmem, hsame.trans hsame', fun hstatus => ?_⟩
    have heq := hfinal hstatus
    exact (hfinal' (by rwa [heq])).trans heq

end Order

section Steps

variable {prim : Primitives} {scope : Scope} {raffleId : RaffleId} {view view' : RaffleView}

theorem RaffleStatus.beforeClose_of_mayMove {current target : RaffleStatus}
    (h : current.mayMove target = true) : current.beforeClose = true := by
  rcases of_decide_eq_true h with ⟨rfl, -⟩ | ⟨rfl, -⟩ | ⟨rfl | rfl | rfl, -⟩ <;> rfl

theorem RaffleStatus.eq_cancelled_of_mayMove {current target : RaffleStatus}
    (h : current.mayMove target = true) (hdraft : current ≠ .draft)
    (hscheduled : current ≠ .scheduled) : target = .cancelled := by
  rcases of_decide_eq_true h with ⟨hstatus, -⟩ | ⟨hstatus, -⟩ | ⟨-, htarget⟩
  · exact absurd hstatus hdraft
  · exact absurd hstatus hscheduled
  · exact htarget

theorem RaffleStep.isClosed (hstep : RaffleStep prim scope raffleId view view')
    (h : view.IsClosed) : view'.IsClosed := by
  obtain ⟨row, hrow, hclosed⟩ := h
  -- a closed raffle shows no row with a status before the close
  have hother : ∀ other, view.raffle = some other → other.status.beforeClose = true → False := by
    intro other hview hstatus
    obtain rfl : other = row := Option.some.inj (hview.symm.trans hrow)
    cases hstatus.symm.trans hclosed
  cases hstep with
  | create row split habsent => cases habsent.symm.trans hrow
  | edit row name price start stop delay split hrow hstatus =>
      exact absurd (by rcases hstatus with hstatus | hstatus <;> rw [hstatus] <;> rfl)
        (hother row hrow)
  | move row status hrow hmove =>
      exact absurd (RaffleStatus.beforeClose_of_mayMove hmove) (hother row hrow)
  | settle row invoice entryRow entry pool hrow hopen =>
      exact absurd (by rw [hopen]; rfl) (hother row hrow)
  | close row jobs hrow hopen => exact absurd (by rw [hopen]; rfl) (hother row hrow)
  | freeze row head count jobs hrow hclosing =>
      refine ⟨_, rfl, ?_⟩
      change RaffleStatus.beforeClose (if row.totalTickets = 0 then _ else _) = false
      split <;> rfl
  | draw => exact ⟨_, rfl, rfl⟩
  | payOut change jobs =>
      refine ⟨_, by rw [hrow]; rfl, ?_⟩
      beta_reduce
      split
      · rfl
      · exact hclosed
  | stay | pendingInvoice | collectionInvoice | changeInvoices | late | refund | proof | publish
  | changePayouts | changeJobs => exact ⟨row, hrow, hclosed⟩

theorem RaffleStep.terms_kept (hstep : RaffleStep prim scope raffleId view view')
    (hdrawn : view.IsDrawn) :
    view'.payouts.map PayoutRow.terms = view.payouts.map PayoutRow.terms := by
  cases hstep with
  | draw row context closeHash ids now jobs hrow hstatus =>
      obtain ⟨other, hother, hdrawn⟩ := hdrawn
      obtain rfl : row = other := Option.some.inj (hrow.symm.trans hother)
      rw [hstatus] at hdrawn
      cases hdrawn
  | changePayouts change hchange => exact hchange.map_terms _
  | payOut change jobs hchange => exact hchange.map_terms _
  | create | edit | move | close | settle | freeze | stay | pendingInvoice | collectionInvoice
  | changeInvoices | late | refund | proof | publish | changeJobs => rfl

theorem RaffleStep.payout_kept (hstep : RaffleStep prim scope raffleId view view')
    {payout : PayoutRow} (hmem : payout ∈ view.payouts) :
    ∃ payout' ∈ view'.payouts, payout'.terms = payout.terms ∧
      (payout.status = .settled → payout' = payout) := by
  cases hstep with
  | draw => exact ⟨payout, List.mem_append_left _ hmem, rfl, fun _ => rfl⟩
  | changePayouts change hchange =>
      exact ⟨_, List.mem_map_of_mem hmem, hchange.terms payout, hchange.settled payout hmem⟩
  | payOut change jobs hchange =>
      exact ⟨_, List.mem_map_of_mem hmem, hchange.terms payout, hchange.settled payout hmem⟩
  | create | edit | move | close | settle | freeze | stay | pendingInvoice | collectionInvoice
  | changeInvoices | late | refund | proof | publish | changeJobs =>
      exact ⟨payout, hmem, rfl, fun _ => rfl⟩

/-- Entries are only added, after those that are there. -/
theorem RaffleStep.entries_grow (hstep : RaffleStep prim scope raffleId view view') :
    view.entries <+: view'.entries := by
  cases hstep with
  | settle => exact List.prefix_append _ _
  | create | edit | move | close | freeze | draw | payOut | stay | pendingInvoice
  | collectionInvoice | changeInvoices | late | refund | proof | publish | changePayouts
  | changeJobs => exact List.prefix_refl _

theorem RaffleStep.entries_ended (hstep : RaffleStep prim scope raffleId view view')
    (h : view.IsClosed) : view'.entries = view.entries := by
  cases hstep with
  | settle row invoice entryRow entry pool hrow hopen =>
      obtain ⟨other, hother, hclosed⟩ := h
      obtain rfl : row = other := Option.some.inj (hrow.symm.trans hother)
      rw [hopen] at hclosed
      cases hclosed
  | create | edit | move | close | freeze | draw | payOut | stay | pendingInvoice
  | collectionInvoice | changeInvoices | late | refund | proof | publish | changePayouts
  | changeJobs => rfl

theorem RaffleStep.refunds_kept (hstep : RaffleStep prim scope raffleId view view') :
    view.refunds ⊆ view'.refunds := by
  cases hstep with
  | late | refund => exact List.subset_append_left _ _
  | create | edit | move | close | freeze | draw | payOut | stay | pendingInvoice
  | collectionInvoice | changeInvoices | settle | proof | publish | changePayouts
  | changeJobs => exact List.Subset.refl _

/-- A closed raffle gets no new invoices. -/
theorem RaffleStep.invoice_from (hstep : RaffleStep prim scope raffleId view view')
    (hkeyed : ∀ a ∈ view.invoices, ∀ b ∈ view.invoices, a.id = b.id → a = b)
    (hseam : scope.seam = false) (hclosed : view.IsClosed) {invoice' : InvoiceRow}
    (hmem' : invoice' ∈ view'.invoices) :
    ∃ invoice ∈ view.invoices, invoice.SameInvoice invoice' ∧
      (invoice.status.isFinal = true → invoice'.status = invoice.status) := by
  obtain ⟨change, new, hinvoices, hchange, hnew⟩ := hstep.invoices_step hkeyed
  obtain rfl : new = [] := by
    rcases hnew with hnil | hpending | ⟨row, hrow, hopen⟩
    · exact hnil
    · cases hpending.symm.trans hseam
    · obtain ⟨other, hother, hstatus⟩ := hclosed
      obtain rfl : row = other := Option.some.inj (hrow.symm.trans hother)
      rw [hopen] at hstatus
      cases hstatus
  rw [hinvoices, List.append_nil] at hmem'
  obtain ⟨invoice, hmem, rfl⟩ := List.mem_map.mp hmem'
  exact ⟨invoice, hmem, hchange invoice hmem⟩

/-- Every step leads to a later view. -/
theorem RaffleStep.extends (hstep : RaffleStep prim scope raffleId view view')
    (hkeyed : ∀ a ∈ view.invoices, ∀ b ∈ view.invoices, a.id = b.id → a = b)
    (hseam : scope.seam = false) :
    view.Extends view' where
  closed := hstep.isClosed
  drawn := hstep.isDrawn
  terms := hstep.terms_kept
  payout _ hmem := (hstep.payout_kept hmem).imp fun _ h => ⟨h.1, h.2.1⟩
  settled payout hmem hstatus := by
    obtain ⟨payout', hmem', -, hsame⟩ := hstep.payout_kept hmem
    exact hsame hstatus ▸ hmem'
  entries := hstep.entries_grow.subset
  ended := hstep.entries_ended
  refunds := hstep.refunds_kept
  invoice _ := hstep.invoice_kept hkeyed
  billed hclosed _ := hstep.invoice_from hkeyed hseam hclosed

/-! ## Where changes come from -/

/-- A payout is settled because it was, or because this step settles it. -/
theorem RaffleStep.settled_from (hstep : RaffleStep prim scope raffleId view view')
    {payout' : PayoutRow} (hmem : payout' ∈ view'.payouts) (hstatus : payout'.status = .settled) :
    ∃ payout ∈ view.payouts, payout'.terms = payout.terms ∧
      (payout.status = .settled ∨ scope.settled = some payout.id) := by
  have hmap : ∀ change : PayoutRow → PayoutRow, PayoutChange scope view.payouts change →
      payout' ∈ view.payouts.map change → ∃ payout ∈ view.payouts, payout'.terms = payout.terms ∧
        (payout.status = .settled ∨ scope.settled = some payout.id) := by
    intro change hchange hmem
    obtain ⟨payout, hpayout, rfl⟩ := List.mem_map.mp hmem
    exact ⟨payout, hpayout, hchange.terms payout, hchange.new payout hpayout hstatus⟩
  cases hstep with
  | draw row context closeHash ids now jobs =>
      rcases List.mem_append.mp hmem with hmem | hmem
      · exact ⟨payout', hmem, rfl, .inl hstatus⟩
      · obtain ⟨source, -, rfl⟩ := List.mem_map.mp hmem
        cases hstatus
  | changePayouts change hchange => exact hmap change hchange hmem
  | payOut change jobs hchange => exact hmap change hchange hmem
  | create | edit | move | close | settle | freeze | stay | pendingInvoice | collectionInvoice
  | changeInvoices | late | refund | proof | publish | changeJobs =>
      exact ⟨payout', hmem, rfl, .inl hstatus⟩

/-! ## Opening -/

/-- The raffle has been opened. -/
def RaffleView.WasOpened (view : RaffleView) : Prop :=
  ∃ row ∈ view.raffle, row.status ≠ .draft ∧ row.status ≠ .scheduled

/-- A raffle that has been opened is never a draft again, nor scheduled. -/
theorem RaffleStep.wasOpened (hstep : RaffleStep prim scope raffleId view view')
    (h : view.WasOpened) : view'.WasOpened := by
  obtain ⟨row, hrow, hdraft, hscheduled⟩ := h
  have hsame : ∀ {other}, view.raffle = some other → other = row := fun hview =>
    Option.some.inj (hview.symm.trans hrow)
  cases hstep with
  | create other split habsent => cases habsent.symm.trans hrow
  | edit other _ _ _ _ _ _ hview hstatus =>
      obtain rfl := hsame hview
      exact (hstatus.elim hdraft hscheduled).elim
  | move other status hview hmove =>
      obtain rfl := hsame hview
      refine ⟨_, rfl, ?_⟩
      rw [RaffleStatus.eq_cancelled_of_mayMove hmove hdraft hscheduled]
      exact ⟨nofun, nofun⟩
  | settle other _ _ _ _ hview =>
      obtain rfl := hsame hview
      exact ⟨_, rfl, hdraft, hscheduled⟩
  | close | draw => exact ⟨_, rfl, nofun, nofun⟩
  | freeze other head count jobs hview =>
      refine ⟨_, rfl, ?_⟩
      change (if other.totalTickets = 0 then _ else _) ≠ RaffleStatus.draft ∧
        (if other.totalTickets = 0 then _ else _) ≠ RaffleStatus.scheduled
      split <;> exact ⟨nofun, nofun⟩
  | payOut change jobs =>
      refine ⟨_, by rw [hrow]; rfl, ?_⟩
      beta_reduce
      split
      · exact ⟨nofun, nofun⟩
      · exact ⟨hdraft, hscheduled⟩
  | stay | pendingInvoice | collectionInvoice | changeInvoices | late | refund | proof | publish
  | changePayouts | changeJobs => exact ⟨row, hrow, hdraft, hscheduled⟩

/-! ## Late settlements -/

/-- Invoices belong to raffles that have been opened, and a refund to an invoice that will never be
settled. -/
structure LateInv (view : RaffleView) : Prop where
  opened : ∀ invoice ∈ view.invoices, ∃ row, view.raffle = some row ∧ row.status ≠ .draft ∧
    row.status ≠ .scheduled
  late : ∀ refund ∈ view.refunds, ∃ invoice ∈ view.invoices, invoice.id = refund.invoiceId ∧
    invoice.status.isFinal = true ∧ invoice.status ≠ .settled

/-- A step that keeps the invoices up to their status, and adds no refund. -/
theorem LateInv.keep (h : LateInv view) (hextends : view.Extends view')
    (hinvoices : view'.invoices ≠ [] → view.invoices ≠ [])
    (hrefunds : view'.refunds ⊆ view.refunds)
    (hopened : ∀ row, view.raffle = some row → row.status ≠ .draft → row.status ≠ .scheduled →
      ∃ row', view'.raffle = some row' ∧ row'.status ≠ .draft ∧ row'.status ≠ .scheduled) :
    LateInv view' := by
  refine ⟨fun invoice hmem => ?_, fun refund hmem => ?_⟩
  · obtain ⟨old, hold⟩ := List.exists_mem_of_ne_nil _ (hinvoices (List.ne_nil_of_mem hmem))
    obtain ⟨row, hrow, hdraft, hscheduled⟩ := h.opened old hold
    exact hopened row hrow hdraft hscheduled
  · obtain ⟨invoice, hinvoice, hid, hfinal, hunsettled⟩ := h.late refund (hrefunds hmem)
    obtain ⟨invoice', hinvoice', hsame, hstatus⟩ := hextends.invoice invoice hinvoice
    refine ⟨invoice', hinvoice', hsame.id.symm.trans hid, ?_, ?_⟩ <;> rw [hstatus hfinal]
    · exact hfinal
    · exact hunsettled

theorem RaffleStep.lateInv (hstep : RaffleStep prim scope raffleId view view')
    (hkeyed : ∀ a ∈ view.invoices, ∀ b ∈ view.invoices, a.id = b.id → a = b)
    (hseam : scope.seam = false)
    (hlate : ∀ invoice ∈ view.invoices, scope.late = some invoice.id → invoice.status ≠ .settled)
    (h : LateInv view) : LateInv view' := by
  have hextends := hstep.extends hkeyed hseam
  have hopened : ∀ row, view.raffle = some row → row.status ≠ .draft → row.status ≠ .scheduled →
      ∃ row', view'.raffle = some row' ∧ row'.status ≠ .draft ∧ row'.status ≠ .scheduled :=
    fun row hrow hdraft hscheduled => hstep.wasOpened ⟨row, hrow, hdraft, hscheduled⟩
  cases hstep with
  | create | edit | move | close | freeze | draw | payOut =>
      exact h.keep hextends id (List.Subset.refl _) hopened
  | pendingInvoice row invoice hrow hid hstatus hpending => cases hpending.symm.trans hseam
  | refund row hrow hrefund => cases hrefund.symm.trans hseam
  | collectionInvoice row invoice hrow hid hstatus hopen =>
      refine ⟨fun _ _ => ⟨row, hrow, by rw [hopen]; nofun, by rw [hopen]; nofun⟩,
        fun refund hmem => ?_⟩
      obtain ⟨old, hold, hid⟩ := h.late refund hmem
      exact ⟨old, List.mem_append_left _ hold, hid⟩
  | changeInvoices | settle =>
      exact h.keep hextends (fun hne heq => hne (by rw [heq]; rfl)) (List.Subset.refl _) hopened
  | late invoice refunds hinvoice hrefunds hscope =>
      have hunsettled := hlate invoice hinvoice hscope
      have hkept : LateInv { view with
          invoices := view.invoices.map fun other =>
            if other.id = invoice.id ∧ invoice.status = .pending then other.withStatus .ineligible
            else other } := h.keep ⟨hextends.closed, hextends.drawn, hextends.terms, hextends.payout,
            hextends.settled, hextends.entries, hextends.ended, List.Subset.refl _, hextends.invoice,
            hextends.billed⟩ (fun hne heq => hne (by rw [heq]; rfl)) (List.Subset.refl _)
          fun row hrow hdraft hscheduled => ⟨row, hrow, hdraft, hscheduled⟩
      refine ⟨hkept.opened, fun refund hmem => ?_⟩
      rcases List.mem_append.mp hmem with hmem | hmem
      · exact hkept.late refund hmem
      · obtain ⟨id, rfl⟩ : ∃ id, refunds = [⟨id, raffleId, invoice.id, .lateSettlement⟩] :=
          hrefunds.resolve_left (List.ne_nil_of_mem hmem)
        rw [List.mem_singleton.mp hmem]
        refine ⟨_, List.mem_map_of_mem hinvoice, ?_⟩
        by_cases hpending : invoice.status = .pending
        · rw [if_pos ⟨rfl, hpending⟩]
          exact ⟨rfl, rfl, nofun⟩
        · rw [if_neg fun hboth => hpending hboth.2]
          refine ⟨rfl, ?_, hunsettled⟩
          cases hstatus : invoice.status <;> first | rfl | exact absurd hstatus hpending
  | stay | proof | publish | changePayouts | changeJobs => exact ⟨h.opened, h.late⟩

/-! ## Undecided invoices -/

/-- The statuses of a raffle with tickets after its freeze. -/
def RaffleStatus.afterFreeze : RaffleStatus → Bool
  | randomnessPending | payoutPending | paidOut => true
  | _ => false

/-- A job that closes a raffle belongs to a closed raffle. -/
def CloseInv (view : RaffleView) : Prop :=
  ∀ job ∈ view.jobs, job.kind = .raffleClose → view.IsClosed

/-- A frozen raffle has no pending invoice. -/
def DecidedInv (view : RaffleView) : Prop :=
  ∀ row, view.raffle = some row → row.status.afterFreeze = true →
    ∀ invoice ∈ view.invoices, invoice.status.isFinal = true

theorem JobsGrow.closeInv {kind : JobKind} (hgrow : JobsGrow raffleId kind view.jobs view'.jobs)
    (h : CloseInv view) (hclosed : view.IsClosed → view'.IsClosed)
    (hkind : kind = .raffleClose → view'.IsClosed) : CloseInv view' := by
  intro job hmem hclose
  rcases hgrow with ⟨hjobs, -⟩ | ⟨row, hnew, hjobs⟩
  · exact hclosed (h job (hjobs ▸ hmem) hclose)
  · rw [hjobs] at hmem
    rcases List.mem_append.mp hmem with hmem | hmem
    · exact hclosed (h job hmem hclose)
    · obtain rfl := List.mem_singleton.mp hmem
      exact hkind (hnew.kind.symm.trans hclose)

theorem RaffleStep.closeInv (hstep : RaffleStep prim scope raffleId view view')
    (h : CloseInv view) : CloseInv view' := by
  have hclosed := hstep.isClosed
  cases hstep with
  | close row jobs hrow hopen hjobs => exact hjobs.closeInv h hclosed fun _ => ⟨_, rfl, rfl⟩
  | freeze row head count jobs hrow hclosing hhead hcount hjobs =>
      split at hjobs
      · subst hjobs
        exact fun job hmem hclose => hclosed (h job hmem hclose)
      · exact hjobs.closeInv h hclosed nofun
  | draw row context closeHash ids now jobs hrow hstatus hreads hundrawn hdrawn hjobs =>
      exact hjobs.closeInv h hclosed nofun
  | payOut change jobs hchange hall hjobs => exact hjobs.closeInv h hclosed nofun
  | changeJobs change hsame =>
      intro job hmem hclose
      obtain ⟨old, hold, rfl⟩ := List.mem_map.mp hmem
      exact h old hold ((hsame old).kind.symm.trans hclose)
  | create | edit | move | settle | stay | pendingInvoice | collectionInvoice | changeInvoices
  | late | refund | proof | publish | changePayouts =>
      exact fun job hmem hclose => hclosed (h job hmem hclose)

/-- A raffle is frozen because it was, or because this step freezes it. -/
theorem RaffleStep.afterFreeze_from (hstep : RaffleStep prim scope raffleId view view')
    {row' : RaffleRow} (hrow' : view'.raffle = some row') (hstatus' : row'.status.afterFreeze = true) :
    view.IsClosed ∧ ((∃ row, view.raffle = some row ∧ row.status.afterFreeze = true) ∨
      scope.frozen = some raffleId) := by
  have hold : ∀ row, view.raffle = some row → row.status.afterFreeze = true →
      view.IsClosed ∧ ((∃ row, view.raffle = some row ∧ row.status.afterFreeze = true) ∨
        scope.frozen = some raffleId) := by
    refine fun row hrow hstatus => ⟨⟨row, hrow, ?_⟩, .inl ⟨row, hrow, hstatus⟩⟩
    cases hrowStatus : row.status <;> rw [hrowStatus] at hstatus <;> first | rfl | cases hstatus
  cases hstep with
  | create row split habsent hid hnew =>
      cases hrow'
      rw [hnew.status] at hstatus'
      cases hstatus'
  | edit row _ _ _ _ _ _ hrow | settle row _ _ _ _ hrow =>
      cases hrow'
      exact hold row hrow hstatus'
  | move row status hrow hmove =>
      cases hrow'
      change status.afterFreeze = true at hstatus'
      simp only [RaffleStatus.mayMove, decide_eq_true_eq] at hmove
      rcases hmove with ⟨-, rfl⟩ | ⟨-, rfl⟩ | ⟨-, rfl⟩ <;> cases hstatus'
  | close =>
      cases hrow'
      cases hstatus'
  | freeze row head count jobs hrow hclosing hhead hcount hjobs hfrozen =>
      exact ⟨⟨row, hrow, by rw [hclosing]; rfl⟩, .inr hfrozen⟩
  | draw row context closeHash ids now jobs hrow hstatus =>
      exact hold row hrow (by rw [hstatus]; rfl)
  | payOut change jobs =>
      obtain ⟨row, hrow, rfl⟩ := Option.map_eq_some_iff.mp hrow'
      refine hold row hrow ?_
      split at hstatus'
      · rename_i hstatus
        rw [hstatus]
        rfl
      · exact hstatus'
  | stay | pendingInvoice | collectionInvoice | changeInvoices | late | refund | proof | publish
  | changePayouts | changeJobs => exact hold row' hrow' hstatus'

theorem RaffleStep.decidedInv (hstep : RaffleStep prim scope raffleId view view')
    (hextends : view.Extends view')
    (hfrozen : scope.frozen = some raffleId → ∀ invoice ∈ view.invoices,
      invoice.status.isFinal = true) (h : DecidedInv view) : DecidedInv view' := by
  intro row' hrow' hstatus' invoice' hmem'
  obtain ⟨hclosed, hfreeze⟩ := hstep.afterFreeze_from hrow' hstatus'
  obtain ⟨invoice, hmem, -, hkept⟩ := hextends.billed hclosed invoice' hmem'
  have hfinal : invoice.status.isFinal = true := by
    rcases hfreeze with ⟨row, hrow, hstatus⟩ | hfreeze
    · exact h row hrow hstatus invoice hmem
    · exact hfrozen hfreeze invoice hmem
  rw [hkept hfinal]
  exact hfinal

end Steps

end OpenPool
