import OpenPool.Store.Lifecycle

/-! # Invoices and entries

An invoice is settled exactly when it has an entry, and its final statuses are never left. -/

namespace OpenPool

/-- The statuses that `PENDING` turns into. -/
def InvoiceStatus.isFinal : InvoiceStatus → Bool
  | pending => false
  | _ => true

structure InvoiceInv (view : RaffleView) : Prop where
  absent : view.raffle = none → view.invoices = []
  paid : ∀ entry ∈ view.entries, ∃ invoice ∈ view.invoices, entry.PaidBy invoice ∧
    invoice.status = .settled
  settled : ∀ invoice ∈ view.invoices, invoice.status = .settled →
    ∃ entry ∈ view.entries, entry.PaidBy invoice

section Steps

variable {prim : Primitives} {scope : Scope} {raffleId : RaffleId} {view view' : RaffleView}

theorem EntryRow.PaidBy.same {entry : EntryRow} {a b : InvoiceRow} (h : entry.PaidBy a)
    (hsame : a.SameInvoice b) : entry.PaidBy b where
  invoiceId := h.invoiceId.trans hsame.id
  raffleId := h.raffleId.trans hsame.raffleId
  participantPublicId := h.participantPublicId.trans hsame.participantPublicId
  paymentReferenceHash := h.paymentReferenceHash.trans hsame.paymentReferenceHash
  amountSats := h.amountSats.trans hsame.amountSats
  ticketCount := by rw [h.ticketCount, hsame.ticketCount]

theorem InvoiceRow.sameInvoice_withStatus (row : InvoiceRow) (status : InvoiceStatus) :
    row.SameInvoice (row.withStatus status) :=
  ⟨rfl, rfl, rfl, rfl, rfl, rfl, rfl⟩

/-- A decision changes the status at most. -/
theorem InvoiceRow.sameInvoice_ite (condition : Prop) [Decidable condition] (row : InvoiceRow)
    (status : InvoiceStatus) :
    row.SameInvoice (if condition then row.withStatus status else row) := by
  split
  · exact row.sameInvoice_withStatus status
  · exact .refl row

/-- A change of invoices that settles none keeps the invariant. -/
theorem InvoiceInv.map (h : InvoiceInv view) {change : InvoiceRow → InvoiceRow}
    (hsame : ∀ row : InvoiceRow, row.SameInvoice (change row))
    (hsettled : ∀ row ∈ view.invoices, (change row).status = .settled ↔ row.status = .settled)
    (hraffle : view'.raffle = none → view.raffle = none)
    (hinvoices : view'.invoices = view.invoices.map change)
    (hentries : view'.entries = view.entries) : InvoiceInv view' := by
  refine ⟨fun hnone => ?_, fun entry hmem => ?_, fun invoice hmem hstatus => ?_⟩
  · rw [hinvoices, h.absent (hraffle hnone)]
    rfl
  · rw [hentries] at hmem
    obtain ⟨invoice, hinvoice, hpaid, hstatus⟩ := h.paid entry hmem
    rw [hinvoices]
    exact ⟨change invoice, List.mem_map_of_mem hinvoice, hpaid.same (hsame invoice),
      (hsettled invoice hinvoice).mpr hstatus⟩
  · rw [hinvoices] at hmem
    obtain ⟨old, hold, rfl⟩ := List.mem_map.mp hmem
    obtain ⟨entry, hentry, hpaid⟩ := h.settled old hold ((hsettled old hold).mp hstatus)
    rw [hentries]
    exact ⟨entry, hentry, hpaid.same (hsame old)⟩

/-- A new pending invoice keeps the invariant. -/
theorem InvoiceInv.append (h : InvoiceInv view) {invoice : InvoiceRow}
    (hrow : view.raffle ≠ none) (hstatus : invoice.status = .pending) :
    InvoiceInv { view with invoices := view.invoices ++ [invoice] } := by
  refine ⟨fun hnone => absurd hnone hrow, fun entry hmem => ?_, fun other hmem hsettled => ?_⟩
  · obtain ⟨invoice, hinvoice, hpaid⟩ := h.paid entry hmem
    exact ⟨invoice, List.mem_append_left _ hinvoice, hpaid⟩
  · rcases List.mem_append.mp hmem with hmem | hmem
    · exact h.settled other hmem hsettled
    · rw [List.mem_singleton.mp hmem, hstatus] at hsettled
      cases hsettled

theorem RaffleStep.invoiceInv (hstep : RaffleStep prim scope raffleId view view')
    (hkeyed : ∀ a ∈ view.invoices, ∀ b ∈ view.invoices, a.id = b.id → a = b)
    (h : InvoiceInv view) : InvoiceInv view' := by
  cases hstep with
  | pendingInvoice row invoice hrow hid hstatus =>
      exact h.append (by rw [hrow]; exact Option.some_ne_none row) hstatus
  | collectionInvoice row invoice hrow hid hstatus =>
      exact h.append (by rw [hrow]; exact Option.some_ne_none row) hstatus
  | changeInvoices change hsame hstatus =>
      refine h.map hsame (fun row _ => ?_) id rfl rfl
      rcases hstatus row with heq | ⟨hpending, hfailed⟩
      · rw [heq]
      · rw [hpending, hfailed]
        exact ⟨nofun, nofun⟩
  | late invoice refunds hinvoice hrefunds =>
      refine h.map (fun row => row.sameInvoice_ite _ _) (fun row hrow => ?_) id rfl rfl
      split
      · rename_i hlate
        rw [hkeyed row hrow invoice hinvoice hlate.1, hlate.2]
        exact ⟨nofun, nofun⟩
      · exact Iff.rfl
  | settle row invoice entryRow entry pool hrow hopen hinvoice hpending hreads hpaid =>
      refine ⟨nofun, fun other hmem => ?_, fun other hmem hstatus => ?_⟩
      · rcases List.mem_append.mp hmem with hmem | hmem
        · obtain ⟨payer, hpayer, hother, hsettled⟩ := h.paid other hmem
          refine ⟨_, List.mem_map_of_mem hpayer, hother.same (payer.sameInvoice_ite _ _), ?_⟩
          split
          · rfl
          · exact hsettled
        · rw [List.mem_singleton.mp hmem]
          refine ⟨_, List.mem_map_of_mem hinvoice, ?_, ?_⟩ <;> rw [if_pos rfl]
          · exact hpaid.same (invoice.sameInvoice_withStatus _)
          · rfl
      · obtain ⟨old, hold, rfl⟩ := List.mem_map.mp hmem
        split at hstatus
        · rename_i hid
          rw [if_pos hid, hkeyed old hold invoice hinvoice hid]
          exact ⟨entryRow, by simp, hpaid.same (invoice.sameInvoice_withStatus _)⟩
        · rename_i hid
          obtain ⟨entry, hentry, hother⟩ := h.settled old hold hstatus
          rw [if_neg hid]
          exact ⟨entry, List.mem_append_left _ hentry, hother⟩
  | create row split habsent hid hnew => exact ⟨nofun, h.paid, h.settled⟩
  | edit | move | close | freeze | draw => exact ⟨nofun, h.paid, h.settled⟩
  | payOut =>
      refine ⟨fun hnone => h.absent ?_, h.paid, h.settled⟩
      exact Option.map_eq_none_iff.mp hnone
  | stay | refund | proof | publish | changePayouts | changeJobs =>
      exact ⟨h.absent, h.paid, h.settled⟩

/-- What was billed never changes, a final status is never left, and only an open raffle gets a
new invoice. -/
theorem RaffleStep.invoices_step (hstep : RaffleStep prim scope raffleId view view')
    (hkeyed : ∀ a ∈ view.invoices, ∀ b ∈ view.invoices, a.id = b.id → a = b) :
    ∃ (change : InvoiceRow → InvoiceRow) (new : List InvoiceRow),
      view'.invoices = view.invoices.map change ++ new ∧
      (∀ invoice ∈ view.invoices, invoice.SameInvoice (change invoice) ∧
        (invoice.status.isFinal = true → (change invoice).status = invoice.status)) ∧
      (new = [] ∨ scope.seam = true ∨ ∃ row, view.raffle = some row ∧ row.status = .opened) := by
  have hid : ∀ invoice : InvoiceRow, invoice.SameInvoice (id invoice) ∧
      (invoice.status.isFinal = true → (id invoice).status = invoice.status) :=
    fun invoice => ⟨.refl invoice, fun _ => rfl⟩
  -- a decision is made about pending invoices only
  have hdecided : ∀ (condition : Prop) [Decidable condition] (invoice : InvoiceRow)
      (status : InvoiceStatus), (condition → invoice.status = .pending) →
      invoice.SameInvoice (if condition then invoice.withStatus status else invoice) ∧
        (invoice.status.isFinal = true →
          (if condition then invoice.withStatus status else invoice).status = invoice.status) := by
    intro condition _ invoice status hpending
    by_cases hcondition : condition
    · rw [if_pos hcondition]
      refine ⟨invoice.sameInvoice_withStatus _, fun hfinal => ?_⟩
      rw [hpending hcondition] at hfinal
      cases hfinal
    · rw [if_neg hcondition]
      exact hid invoice
  cases hstep with
  | changeInvoices change hsame hstatus =>
      refine ⟨change, [], by simp, fun invoice _ => ⟨hsame invoice, fun hfinal => ?_⟩, .inl rfl⟩
      rcases hstatus invoice with heq | ⟨hpending, -⟩
      · exact heq
      · rw [hpending] at hfinal
        cases hfinal
  | late late refunds hlate hrefunds =>
      refine ⟨_, [], (List.append_nil _).symm, fun invoice hmem => hdecided _ invoice _ ?_, .inl rfl⟩
      rintro ⟨hid, hpending⟩
      exact (congrArg InvoiceRow.status (hkeyed invoice hmem late hlate hid)).trans hpending
  | settle row settled entryRow entry pool hrow hopen hsettled hpending =>
      refine ⟨_, [], (List.append_nil _).symm, fun invoice hmem => hdecided _ invoice _ ?_, .inl rfl⟩
      intro hid
      exact (congrArg InvoiceRow.status (hkeyed invoice hmem settled hsettled hid)).trans hpending
  | pendingInvoice row invoice hrow hraffleId hstatus hseam =>
      exact ⟨id, [invoice], by simp, fun invoice _ => hid invoice, .inr (.inl hseam)⟩
  | collectionInvoice row invoice hrow hraffleId hstatus hopen =>
      exact ⟨id, [invoice], by simp, fun invoice _ => hid invoice, .inr (.inr ⟨row, hrow, hopen⟩)⟩
  | create | edit | move | close | freeze | draw | payOut | stay | refund | proof | publish
  | changePayouts | changeJobs => exact ⟨id, [], by simp, fun invoice _ => hid invoice, .inl rfl⟩

theorem RaffleStep.invoice_kept (hstep : RaffleStep prim scope raffleId view view')
    (hkeyed : ∀ a ∈ view.invoices, ∀ b ∈ view.invoices, a.id = b.id → a = b)
    {invoice : InvoiceRow} (hmem : invoice ∈ view.invoices) :
    ∃ invoice' ∈ view'.invoices, invoice.SameInvoice invoice' ∧
      (invoice.status.isFinal = true → invoice'.status = invoice.status) := by
  obtain ⟨change, new, hinvoices, hchange, -⟩ := hstep.invoices_step hkeyed
  exact ⟨change invoice, hinvoices ▸ List.mem_append_left _ (List.mem_map_of_mem hmem),
    hchange invoice hmem⟩

end Steps

end OpenPool
