import OpenPool.Store.Audit
import OpenPool.Store.Catalogue

/-! # What the page of an invoice shows

The answer for an invoice becomes final with its status, and the tickets that are shown on paid
invoices are the tickets of the pool. -/

namespace OpenPool

open Fallible

/-! ## Answers -/

/-- The answer for an invoice with this entry. -/
structure PublicInvoice.Shows (invoice : InvoiceRow) (entry : Option EntryRow)
    (answer : PublicInvoice) : Prop where
  id : answer.id = invoice.id
  amountSats : invoice.amountSats = answer.amountSats.asU64.toNat
  ticketCount : invoice.ticketCount = answer.ticketCount.toNat
  status : answer.status = invoice.status
  bolt11 : answer.bolt11 = invoice.bolt11
  expiresAt : answer.expiresAt = invoice.expiresAt.map ofTimestamp
  ticketStart : entry.map EntryRow.ticketStart =
    answer.ticketStart.map fun ticket => (ticket.toNat : ℤ)
  ticketEnd : entry.map EntryRow.ticketEnd =
    answer.ticketEnd.map fun ticket => (ticket.toNat : ℤ)

theorem mapM_asU64_eq_ok_iff (column : Option ℤ) (shown : Option UInt64) :
    column.mapM asU64 = .ok shown ↔ column = shown.map fun value => (value.toNat : ℤ) := by
  cases column with
  | none =>
      change (pure none : Except PersistenceError (Option UInt64)) = .ok shown ↔ _
      rw [pure_eq_ok_iff]
      cases shown <;> simp
  | some value =>
      change (some <$> asU64 value) = .ok shown ↔ _
      rw [map_eq_pure_bind, bind_eq_ok_iff]
      simp only [asU64_eq_ok_iff, pure_eq_ok_iff]
      cases shown <;> simp

theorem publicInvoice_eq_ok_iff (invoiceId : InvoiceId) (db : Database) (answer : PublicInvoice) :
    publicInvoice invoiceId db = .ok answer ↔
      ∃ invoice, db.invoices.find (·.id = invoiceId) = some invoice ∧
        answer.Shows invoice (db.entries.find (·.invoiceId = invoice.id)) := by
  simp only [publicInvoice, bind_eq_ok_iff, orElse_eq_ok_iff, asU64_eq_ok_iff,
    mapM_asU64_eq_ok_iff, pure_eq_ok_iff]
  constructor
  · rintro ⟨invoice, hinvoice, amount, hamount, count, hcount, start, hstart, stop, hstop, rfl⟩
    exact ⟨invoice, hinvoice, rfl, hamount, hcount, rfl, rfl, rfl, hstart, hstop⟩
  · obtain ⟨id, ⟨amount⟩, count, status, bolt11, expiresAt, start, stop⟩ := answer
    rintro ⟨invoice, hinvoice, rfl, hamount, hcount, rfl, rfl, rfl, hstart, hstop⟩
    exact ⟨invoice, hinvoice, amount, hamount, count, hcount, start, hstart, stop, hstop, rfl⟩

/-- The invoice shows a range with this ticket. -/
def PublicInvoice.Holds (answer : PublicInvoice) (ticket : UInt64) : Prop :=
  ∃ start ∈ answer.ticketStart, ∃ stop ∈ answer.ticketEnd,
    start.toNat ≤ ticket.toNat ∧ ticket.toNat < stop.toNat

/-! ## Rows -/

section Rows

variable {db : Database}

theorem find_invoice {invoice : InvoiceRow} (hmem : invoice ∈ db.invoices.rows) :
    db.invoices.find (·.id = invoice.id) = some invoice :=
  Table.find_eq_some hmem (decide_eq_true rfl) fun _ _ ha hb =>
    .inl ((of_decide_eq_true ha).trans (of_decide_eq_true hb).symm)

theorem find_entry {entry : EntryRow} {invoiceId : InvoiceId} (hmem : entry ∈ db.entries.rows)
    (hinvoice : entry.invoiceId = invoiceId) :
    db.entries.find (·.invoiceId = invoiceId) = some entry :=
  Table.find_eq_some hmem (decide_eq_true hinvoice) fun _ _ ha hb =>
    .inr (.inl ((of_decide_eq_true ha).trans (of_decide_eq_true hb).symm))

end Rows

/-! ## Reachable stores -/

section Runs

variable {prim : Primitives} {store : Store}

/-- Amounts and counts fit in their columns. -/
def Requested.InvoicesFit (requested : Requested) : Prop :=
  ∀ invoice ∈ requested.invoices, invoice.amountSats < 2 ^ 63 ∧ invoice.ticketCount < 2 ^ 63

theorem RequestStep.invoicesFit {op : Op} {before after : Requested}
    (hstep : RequestStep op before after) (h : before.InvoicesFit) : after.InvoicesFit := by
  cases hstep with
  | pendingInvoice _ row _ hfits | collectionInvoice _ row _ _ _ _ _ _ hfits =>
      intro invoice hmem
      rcases List.mem_append.mp hmem with hmem | hmem
      · exact h invoice hmem
      · rw [List.mem_singleton.mp hmem]
        exact hfits
  | collected =>
      intro invoice hmem
      obtain ⟨old, hold, rfl⟩ := List.mem_map.mp hmem
      split <;> exact h old hold
  | stay | organizer | create | edit | webhook => exact h

theorem Store.invoicesFit_after (prim : Primitives) (operations : List Op) :
    (Store.after prim operations).db.requested.InvoicesFit :=
  StateMachine.invariant
    (fun (store : Store) op (h : store.db.requested.InvoicesFit) =>
      (store.step_request prim op).invoicesFit h)
    (fun _ hmem => absurd hmem List.not_mem_nil) operations

/-- An invoice is settled exactly if it has an entry, which it has paid for. -/
theorem Store.Sound.settled_iff_entry (hsound : store.Sound prim) {invoice : InvoiceRow}
    (hmem : invoice ∈ store.db.invoices.rows) :
    invoice.status = .settled ↔ ∃ entry, store.db.entries.find (·.invoiceId = invoice.id) =
      some entry ∧ entry.PaidBy invoice := by
  have hview : invoice ∈ (store.db.view invoice.raffleId).invoices := mem_view_invoices hmem
  constructor
  · intro hstatus
    obtain ⟨entry, hentry, hpaid⟩ := (hsound.invoices _).settled invoice hview hstatus
    exact ⟨entry, find_entry (Table.mem_select.mp hentry).1 hpaid.invoiceId, hpaid⟩
  · rintro ⟨entry, hentry, hpaid⟩
    have hentryView : entry ∈ (store.db.view invoice.raffleId).entries :=
      Table.mem_select.mpr ⟨(Table.mem_of_find hentry).1, decide_eq_true hpaid.raffleId⟩
    obtain ⟨payer, hpayer, hother, hstatus⟩ := (hsound.invoices _).paid entry hentryView
    obtain rfl := view_invoices_keyed _ _ payer hpayer invoice hview
      (hother.invoiceId.symm.trans hpaid.invoiceId)
    exact hstatus

/-- The entry of an invoice is one that it has paid for. -/
theorem Store.Sound.paidBy_of_entry (hsound : store.Sound prim) {invoice : InvoiceRow}
    {entry : EntryRow} (hmem : invoice ∈ store.db.invoices.rows)
    (hentry : entry ∈ store.db.entries.rows) (hid : entry.invoiceId = invoice.id) :
    entry.PaidBy invoice := by
  have hview : entry ∈ (store.db.view entry.raffleId).entries :=
    Table.mem_select.mpr ⟨hentry, decide_eq_true rfl⟩
  obtain ⟨payer, hpayer, hpaid, -⟩ := (hsound.invoices entry.raffleId).paid entry hview
  obtain rfl := store.db.invoices.eq_of_clash (Table.mem_select.mp hpayer).1 hmem
    (.inl (hpaid.invoiceId.symm.trans hid))
  exact hpaid

/-- Every entry is read as one of the ledger. -/
theorem Store.Sound.exists_reads (hsound : store.Sound prim) {entry : EntryRow}
    (hentry : entry ∈ store.db.entries.rows) : ∃ ledgerEntry, entry.Reads ledgerEntry := by
  have hview : entry ∈ (store.db.view entry.raffleId).entries :=
    Table.mem_select.mpr ⟨hentry, decide_eq_true rfl⟩
  have hledger := hsound.ledger entry.raffleId
  cases hraffle : (store.db.view entry.raffleId).raffle with
  | none =>
      rw [hraffle] at hledger
      change (store.db.view entry.raffleId).entries = [] at hledger
      rw [hledger] at hview
      cases hview
  | some row =>
      rw [hraffle] at hledger
      obtain ⟨-, -, ledger, cursor, htracks⟩ := hledger
      have hread := (ledgerEntriesFromRows_eq_ok_iff _ _).mpr htracks.reads
      rw [ledgerEntriesFromRows_eq_mapM] at hread
      obtain ⟨ledgerEntry, -, hreads⟩ := exists_mem_of_mapM hread hview
      exact ⟨ledgerEntry, (ledgerEntryFromRow_eq_ok_iff _ _).mp hreads⟩

/-- Every invoice has an answer. -/
theorem Store.Sound.exists_publicInvoice (hsound : store.Sound prim)
    (hfits : store.db.requested.InvoicesFit) {invoice : InvoiceRow}
    (hmem : invoice ∈ store.db.invoices.rows) :
    ∃ answer, publicInvoice invoice.id store.db = .ok answer := by
  obtain ⟨-, -, hamount, hcount⟩ := store.db.invoices.checked invoice hmem
  obtain ⟨hamountFits, hcountFits⟩ := hfits invoice.request (List.mem_map_of_mem hmem)
  change invoice.amountSats < 2 ^ 63 at hamountFits
  change invoice.ticketCount < 2 ^ 63 at hcountFits
  have hwritten : ∀ {value : ℤ}, 0 < value → value < 2 ^ 63 → ∃ shown, asU64 value = .ok shown := by
    intro value hpositive hlt
    exact ⟨_, if_pos ⟨hpositive.le, by omega⟩⟩
  obtain ⟨amount, hamount⟩ := hwritten hamount hamountFits
  obtain ⟨count, hcount⟩ := hwritten hcount hcountFits
  have hranges : ∃ start stop,
      ((store.db.entries.find (·.invoiceId = invoice.id)).map EntryRow.ticketStart).mapM asU64 =
        .ok start ∧
      ((store.db.entries.find (·.invoiceId = invoice.id)).map EntryRow.ticketEnd).mapM asU64 =
        .ok stop := by
    simp only [mapM_asU64_eq_ok_iff]
    cases hentry : store.db.entries.find (·.invoiceId = invoice.id) with
    | none => exact ⟨none, none, rfl, rfl⟩
    | some entry =>
        obtain ⟨ledgerEntry, hreads⟩ := hsound.exists_reads (Table.mem_of_find hentry).1
        exact ⟨some _, some _, congrArg some hreads.ticketStart, congrArg some hreads.ticketEnd⟩
  obtain ⟨start, stop, hstart, hstop⟩ := hranges
  simp only [publicInvoice, find_invoice hmem, orElse_some, ok_bind, hamount, hcount, hstart,
    hstop]
  exact ⟨_, rfl⟩

/-! ## Final answers -/

/-- A request stays, unless it is the one that the provider answers. -/
theorem RequestStep.invoice_kept {op : Op} {before after : Requested}
    (hstep : RequestStep op before after) {invoice : InvoiceRow} (hmem : invoice ∈ before.invoices)
    (hop : ∀ quoteId paymentHash bolt11 expiresAt,
      op ≠ .storeCollectionInvoice invoice.id quoteId paymentHash bolt11 expiresAt) :
    invoice ∈ after.invoices := by
  cases hstep with
  | pendingInvoice | collectionInvoice => exact List.mem_append_left _ hmem
  | collected invoiceId quoteId paymentHash bolt11 expiresAt =>
      refine List.mem_map.mpr ⟨invoice, hmem, if_neg ?_⟩
      rintro rfl
      exact hop quoteId paymentHash bolt11 expiresAt rfl
  | stay | organizer | create | edit | webhook => exact hmem

/-- What the provider has made for an invoice stays. -/
theorem RequestStep.collected_kept {op : Op} {before after : Requested}
    (hstep : RequestStep op before after) (hkeyed : before.Keyed) {invoice : InvoiceRow}
    (hmem : invoice ∈ before.invoices) (hsome : invoice.bolt11 ≠ none) :
    invoice ∈ after.invoices := by
  cases hstep with
  | pendingInvoice | collectionInvoice => exact List.mem_append_left _ hmem
  | collected invoiceId quoteId paymentHash bolt11 expiresAt _ hfree =>
      obtain ⟨row, hrow, rfl, hnone⟩ := hfree
      refine List.mem_map.mpr ⟨invoice, hmem, if_neg fun hid => hsome ?_⟩
      rw [hkeyed.invoices invoice hmem row hrow hid]
      exact hnone
  | stay | organizer | create | edit | webhook => exact hmem

/-- The provider answers for pending invoices only. -/
theorem storeCollectionInvoice_final {db db' : Database} {invoiceId : InvoiceId}
    {quoteId paymentHash bolt11 : String} {expiresAt : ℤ} {u : Unit} {invoice : InvoiceRow}
    (h : storeCollectionInvoice invoiceId quoteId paymentHash bolt11 expiresAt db = .ok (db', u))
    (hmem : invoice ∈ db.invoices.rows) (hfinal : invoice.status.isFinal = true) :
    invoice ∈ db'.invoices.rows := by
  simp only [storeCollectionInvoice, bind_eq_ok_iff, pure_eq_ok_iff, sql_eq_ok_iff,
    Prod.mk.injEq] at h
  obtain ⟨⟨invoices, returned⟩, hupdate, -, -, rfl, -⟩ := h
  rw [(Table.rows_of_update hupdate).1]
  refine List.mem_map.mpr ⟨invoice, hmem, if_neg fun hmatch => ?_⟩
  rw [(of_decide_eq_true hmatch).2.1] at hfinal
  cases hfinal

/-- No step changes an invoice with a final status. -/
theorem Store.Sound.invoice_final (hsound : store.Sound prim) (op : Op) {invoice : InvoiceRow}
    (hmem : invoice ∈ store.db.invoices.rows) (hfinal : invoice.status.isFinal = true) :
    invoice ∈ (store.step prim op).db.invoices.rows := by
  by_cases hop : ∃ quoteId paymentHash bolt11 expiresAt,
      op = .storeCollectionInvoice invoice.id quoteId paymentHash bolt11 expiresAt
  · obtain ⟨quoteId, paymentHash, bolt11, expiresAt, rfl⟩ := hop
    change invoice ∈ (commit store.db (storeCollectionInvoice ..)).invoices.rows
    rcases commit_cases store.db (storeCollectionInvoice invoice.id quoteId paymentHash bolt11
      expiresAt store.db) with hsame | ⟨u, hok⟩
    · rw [hsame]
      exact hmem
    · exact storeCollectionInvoice_final hok hmem hfinal
  · push Not at hop
    have hrequest := (store.step_request prim op).invoice_kept (List.mem_map_of_mem hmem) hop
    obtain ⟨row, hrow, hrowRequest⟩ := List.mem_map.mp hrequest
    have hview : invoice ∈ (store.db.view invoice.raffleId).invoices :=
      mem_view_invoices hmem
    obtain ⟨kept, hkept, hsame, hstatus⟩ :=
      (store.step_raffleStep hsound op).invoice_kept (view_invoices_keyed _ _) hview
    have hid : row.id = invoice.id := (congrArg InvoiceRow.id hrowRequest :)
    obtain rfl := (store.step prim op).db.invoices.eq_of_clash hrow (Table.mem_select.mp hkept).1
      (.inl (hid.trans hsame.id))
    have heq : row = invoice := by
      have hstatus := hstatus hfinal
      obtain ⟨⟩ := row
      obtain ⟨⟩ := invoice
      simp only [InvoiceRow.request, InvoiceRow.withStatus, InvoiceRow.mk.injEq] at hrowRequest hstatus ⊢
      exact ⟨hrowRequest.1, hrowRequest.2.1, hrowRequest.2.2.1, hrowRequest.2.2.2.1,
        hrowRequest.2.2.2.2.1, hrowRequest.2.2.2.2.2.1, hstatus, hrowRequest.2.2.2.2.2.2.2⟩
    exact heq ▸ hrow

/-- The range that is shown is the one of the entry, and it has a ticket for each that was paid. -/
theorem Store.Sound.range_of_shown (hsound : store.Sound prim) {invoice : InvoiceRow}
    {answer : PublicInvoice} (hmem : invoice ∈ store.db.invoices.rows)
    (hshows : answer.Shows invoice (store.db.entries.find (·.invoiceId = invoice.id))) :
    if invoice.status = .settled then
      ∃ start stop, answer.ticketStart = some start ∧ answer.ticketEnd = some stop ∧
        stop.toNat = start.toNat + answer.ticketCount.toNat
    else answer.ticketStart = none ∧ answer.ticketEnd = none := by
  have hsettled := hsound.settled_iff_entry hmem
  have hstart := hshows.ticketStart
  have hstop := hshows.ticketEnd
  have hcount := hshows.ticketCount
  split
  · rename_i hstatus
    obtain ⟨entry, hentry, hpaid⟩ := hsettled.mp hstatus
    rw [hentry, Option.map_some, eq_comm, Option.map_eq_some_iff] at hstart hstop
    obtain ⟨start, hstart, hstartRow⟩ := hstart
    obtain ⟨stop, hstop, hstopRow⟩ := hstop
    have hrange := hpaid.ticketCount
    exact ⟨start, stop, hstart, hstop, by omega⟩
  · rename_i hstatus
    have hnone : store.db.entries.find (·.invoiceId = invoice.id) = none := by
      rw [Option.eq_none_iff_forall_ne_some]
      intro entry hentry
      obtain ⟨hentryMem, hid⟩ := Table.mem_of_find hentry
      exact hstatus (hsettled.mpr
        ⟨entry, hentry, hsound.paidBy_of_entry hmem hentryMem (of_decide_eq_true hid)⟩)
    rw [hnone, Option.map_none, eq_comm, Option.map_eq_none_iff] at hstart hstop
    exact ⟨hstart, hstop⟩

theorem Store.Sound.invoice_final_run (hsound : store.Sound prim) (operations : List Op)
    {invoice : InvoiceRow} (hmem : invoice ∈ store.db.invoices.rows)
    (hfinal : invoice.status.isFinal = true) :
    invoice ∈ (StateMachine.run (Store.step prim) store operations).db.invoices.rows := by
  have hstep : ∀ (store : Store) (op : Op),
      (store.Sound prim ∧ invoice ∈ store.db.invoices.rows) →
      (store.step prim op).Sound prim ∧ invoice ∈ (store.step prim op).db.invoices.rows :=
    fun store op ⟨hsound, hmem⟩ => ⟨hsound.step op, hsound.invoice_final op hmem hfinal⟩
  exact (StateMachine.invariant hstep ⟨hsound, hmem⟩ operations).2

/-- The entry that is found for a final invoice stays the same. -/
theorem Store.Sound.entry_final_run (hsound : store.Sound prim) (operations : List Op)
    {invoice : InvoiceRow} (hmem : invoice ∈ store.db.invoices.rows)
    (hfinal : invoice.status.isFinal = true) :
    (StateMachine.run (Store.step prim) store operations).db.entries.find
        (·.invoiceId = invoice.id) = store.db.entries.find (·.invoiceId = invoice.id) := by
  have hlater := StateMachine.invariant (fun store op (h : store.Sound prim) => h.step op) hsound
    operations
  have hmem' := hsound.invoice_final_run operations hmem hfinal
  cases hentry : store.db.entries.find (·.invoiceId = invoice.id) with
  | some entry =>
      obtain ⟨hentryMem, hid⟩ := Table.mem_of_find hentry
      have hview : entry ∈ (store.db.view entry.raffleId).entries :=
        Table.mem_select.mpr ⟨hentryMem, decide_eq_true rfl⟩
      have hkept := (Store.entries_run hsound operations).subset hview
      exact find_entry (Table.mem_select.mp hkept).1 (of_decide_eq_true hid)
  | none =>
      -- an invoice that is final without an entry is not settled, so it never gets one
      have hunsettled : invoice.status ≠ .settled := fun hstatus => by
        obtain ⟨entry, hsome, -⟩ := (hsound.settled_iff_entry hmem).mp hstatus
        cases hentry.symm.trans hsome
      rw [Option.eq_none_iff_forall_ne_some]
      intro entry hsome
      obtain ⟨hentryMem, hid⟩ := Table.mem_of_find hsome
      exact hunsettled ((hlater.settled_iff_entry hmem').mpr
        ⟨entry, hsome, hlater.paidBy_of_entry hmem' hentryMem (of_decide_eq_true hid)⟩)

end Runs

/-- Every invoice has an answer: with as many tickets as it pays for exactly if it is settled, and
with the same answer in every later state once its status is final. -/
theorem public_invoice_becomes_final (prim : Primitives) (front back : List Op)
    (invoice : InvoiceRow) (hmem : invoice ∈ (Store.after prim front).db.invoices.rows) :
    ∃ answer, publicInvoice invoice.id (Store.after prim front).db = .ok answer ∧
      (if answer.status = .settled then
        ∃ start stop, answer.ticketStart = some start ∧ answer.ticketEnd = some stop ∧
          stop.toNat = start.toNat + answer.ticketCount.toNat
      else answer.ticketStart = none ∧ answer.ticketEnd = none) ∧
      (answer.status.isFinal = true →
        publicInvoice invoice.id (Store.after prim (front ++ back)).db = .ok answer) := by
  have hsound := Store.sound_after prim front
  obtain ⟨answer, hanswer⟩ := hsound.exists_publicInvoice (Store.invoicesFit_after prim front) hmem
  obtain ⟨row, hrow, hshows⟩ := (publicInvoice_eq_ok_iff _ _ _).mp hanswer
  obtain rfl := Option.some.inj (hrow.symm.trans (find_invoice hmem))
  refine ⟨answer, hanswer, ?_, fun hfinal => ?_⟩
  · rw [hshows.status]
    exact hsound.range_of_shown hmem hshows
  · rw [hshows.status] at hfinal
    rw [publicInvoice_eq_ok_iff, Store.after_append]
    refine ⟨row, find_invoice (hsound.invoice_final_run back hmem hfinal), ?_⟩
    rw [hsound.entry_final_run back hmem hfinal]
    exact hshows

theorem public_invoice_becomes_final_sample : ∃ answer,
    publicInvoice SampleRun.invoiceId (Store.after .standard SampleRun.sold).db = .ok answer ∧
      publicInvoice SampleRun.invoiceId (Store.after .standard SampleRun.frozen).db =
        .ok answer := by
  have hfound : ((Store.after .standard SampleRun.sold).db.invoices.find
      (·.id = SampleRun.invoiceId)).map InvoiceRow.status = some .settled := by
    decide +kernel
  obtain ⟨invoice, hinvoice, hstatus⟩ := Option.map_eq_some_iff.mp hfound
  obtain ⟨hmem, hid⟩ := Table.mem_of_find hinvoice
  obtain ⟨answer, hanswer, -, hfinal⟩ := public_invoice_becomes_final .standard SampleRun.sold [
    .scheduleDueCloses (fun _ => SampleRun.uuid 7) 100000000,
    .freezeRaffle SampleRun.raffleId (SampleRun.uuid 8) 100000001] invoice hmem
  rw [of_decide_eq_true hid] at hanswer hfinal
  obtain ⟨row, hrow, hshows⟩ := (publicInvoice_eq_ok_iff _ _ _).mp hanswer
  obtain rfl := Option.some.inj (hrow.symm.trans hinvoice)
  exact ⟨answer, hanswer, hfinal (by rw [hshows.status, hstatus]; rfl)⟩

/-! ## Tickets -/

/-- The page of this invoice of the raffle shows the ticket. -/
def Database.ShowsTicket (db : Database) (raffleId : RaffleId) (ticket : UInt64)
    (invoiceId : InvoiceId) : Prop :=
  (∃ invoice ∈ db.invoices.rows, invoice.id = invoiceId ∧ invoice.raffleId = raffleId) ∧
    ∃ answer, publicInvoice invoiceId db = .ok answer ∧ answer.Holds ticket

section Tickets

variable {prim : Primitives} {store : Store} {raffleId : RaffleId}

/-- The page shows a ticket of the entry that the invoice paid for. -/
theorem Store.Sound.showsTicket_iff (hsound : store.Sound prim)
    (hfits : store.db.requested.InvoicesFit) (ticket : UInt64) (invoiceId : InvoiceId) :
    store.db.ShowsTicket raffleId ticket invoiceId ↔
      ∃ entry ∈ (store.db.view raffleId).entries, entry.invoiceId = invoiceId ∧
        entry.ticketStart ≤ ticket.toNat ∧ (ticket.toNat : ℤ) < entry.ticketEnd := by
  constructor
  · rintro ⟨⟨invoice, hmem, rfl, rfl⟩, answer, hanswer, start, hstart, stop, hstop, hle, hlt⟩
    obtain ⟨row, hrow, hshows⟩ := (publicInvoice_eq_ok_iff _ _ _).mp hanswer
    obtain rfl := Option.some.inj (hrow.symm.trans (find_invoice hmem))
    have hentryStart := hshows.ticketStart
    have hentryStop := hshows.ticketEnd
    rw [Option.mem_def] at hstart hstop
    rw [hstart, Option.map_some, Option.map_eq_some_iff] at hentryStart
    obtain ⟨entry, hentry, hstart⟩ := hentryStart
    rw [hentry, hstop, Option.map_some, Option.map_some, Option.some.injEq] at hentryStop
    obtain ⟨hentryMem, hid⟩ := Table.mem_of_find hentry
    have hpaid := hsound.paidBy_of_entry hmem hentryMem (of_decide_eq_true hid)
    exact ⟨entry, Table.mem_select.mpr ⟨hentryMem, decide_eq_true hpaid.raffleId⟩,
      hpaid.invoiceId, by omega, by omega⟩
  · rintro ⟨entry, hentry, rfl, hle, hlt⟩
    obtain ⟨invoice, hinvoice, hpaid, hstatus⟩ := (hsound.invoices raffleId).paid entry hentry
    obtain ⟨hmem, hof⟩ := Table.mem_select.mp hinvoice
    rw [hpaid.invoiceId]
    obtain ⟨answer, hanswer⟩ := hsound.exists_publicInvoice hfits hmem
    obtain ⟨row, hrow, hshows⟩ := (publicInvoice_eq_ok_iff _ _ _).mp hanswer
    obtain rfl := Option.some.inj (hrow.symm.trans (find_invoice hmem))
    refine ⟨⟨row, hmem, rfl, of_decide_eq_true hof⟩, answer, hanswer, ?_⟩
    have hstart := hshows.ticketStart
    have hstop := hshows.ticketEnd
    rw [find_entry (Table.mem_select.mp hentry).1 hpaid.invoiceId, Option.map_some, eq_comm,
      Option.map_eq_some_iff] at hstart hstop
    obtain ⟨start, hstart, hstartRow⟩ := hstart
    obtain ⟨stop, hstop, hstopRow⟩ := hstop
    exact ⟨start, hstart, stop, hstop, by omega, by omega⟩

/-- Exactly the tickets of the raffle have an entry, and each of them one. -/
theorem Tracks.ticket_owner {row : RaffleRow} {entries : List EntryRow} {ledger : List LedgerEntry}
    {cursor : LedgerCursor} (h : Tracks prim.sha256 raffleId row.columns entries ledger cursor)
    (ticket : UInt64) :
    ((∃ entry ∈ entries, entry.ticketStart ≤ ticket.toNat ∧ (ticket.toNat : ℤ) < entry.ticketEnd) ↔
      (ticket.toNat : ℤ) < row.totalTickets) ∧
    ∀ a ∈ entries, ∀ b ∈ entries,
      a.ticketStart ≤ ticket.toNat ∧ (ticket.toNat : ℤ) < a.ticketEnd →
      b.ticketStart ≤ ticket.toNat ∧ (ticket.toNat : ℤ) < b.ticketEnd →
      a.entryIndex = b.entryIndex := by
  have htickets : row.totalTickets = cursor.expectedTicketStart.toNat := h.tickets
  have hread := (ledgerEntriesFromRows_eq_ok_iff _ _).mpr h.reads
  rw [ledgerEntriesFromRows_eq_mapM] at hread
  -- the entry of a row owns the ticket that the row has
  have howns : ∀ {entry : EntryRow} {ledgerEntry : LedgerEntry}, entry.Reads ledgerEntry →
      ((entry.ticketStart ≤ ticket.toNat ∧ (ticket.toNat : ℤ) < entry.ticketEnd) ↔
        Tiling.Owns LedgerEntry.ticketStart LedgerEntry.ticketStop ticket.toNat ledgerEntry) := by
    intro entry ledgerEntry hreads
    rw [hreads.ticketStart, hreads.ticketEnd, Nat.cast_le, Nat.cast_lt]
    exact Iff.rfl
  refine ⟨⟨?_, fun hlt => ?_⟩, fun a ha b hb hownA hownB => ?_⟩
  · rintro ⟨entry, hentry, hown⟩
    obtain ⟨ledgerEntry, hmem, hreads⟩ := exists_mem_of_mapM hread hentry
    have hbounds := h.segment.tiles.bounds ledgerEntry hmem
    have hlt := ((howns ((ledgerEntryFromRow_eq_ok_iff _ _).mp hreads)).mp hown).2
    omega
  · obtain ⟨ledgerEntry, hmem, hown⟩ := h.segment.tiles.exists_owner (Nat.zero_le ticket.toNat)
      (by omega)
    obtain ⟨entry, hentry, hreads⟩ := exists_of_mem_mapM hread hmem
    exact ⟨entry, hentry, (howns ((ledgerEntryFromRow_eq_ok_iff _ _).mp hreads)).mpr hown⟩
  · obtain ⟨entryA, hmemA, hreadA⟩ := exists_mem_of_mapM hread ha
    obtain ⟨entryB, hmemB, hreadB⟩ := exists_mem_of_mapM hread hb
    rw [ledgerEntryFromRow_eq_ok_iff] at hreadA hreadB
    obtain rfl := h.segment.tiles.owner_unique hmemA hmemB ((howns hreadA).mp hownA)
      ((howns hreadB).mp hownB)
    exact hreadA.entryIndex.trans hreadB.entryIndex.symm

end Tickets

/-- The tickets that the pool counts are exactly those that the pages of the invoices show, and
each is shown on one page. -/
theorem pool_tickets_on_invoices (prim : Primitives) (operations : List Op) (raffleId : RaffleId)
    (pool : PublicPool)
    (hpool : publicPool raffleId (Store.after prim operations).db = .ok pool) (ticket : UInt64) :
    (ticket < pool.totalTickets →
      ∃! invoiceId, (Store.after prim operations).db.ShowsTicket raffleId ticket invoiceId) ∧
    (pool.totalTickets ≤ ticket → ∀ invoiceId,
      ¬ (Store.after prim operations).db.ShowsTicket raffleId ticket invoiceId) := by
  have hsound := Store.sound_after prim operations
  have hfits := Store.invoicesFit_after prim operations
  simp only [publicPool, bind_eq_ok_iff, orElse_eq_ok_iff, asU64_eq_ok_iff,
    pure_eq_ok_iff] at hpool
  obtain ⟨row, hrow, sats, hsats, tickets, htickets, rfl⟩ := hpool
  obtain ⟨-, ledger, cursor, htracks⟩ := hsound.tracks hrow
  obtain ⟨hexists, hunique⟩ := htracks.ticket_owner ticket
  simp only [hsound.showsTicket_iff hfits, UInt64.lt_iff_toNat_lt, UInt64.le_iff_toNat_le]
  refine ⟨fun hlt => ?_, ?_⟩
  · obtain ⟨entry, hentry, hown⟩ := hexists.mpr (by omega)
    refine ⟨entry.invoiceId, ⟨entry, hentry, rfl, hown⟩, ?_⟩
    rintro _ ⟨other, hother, rfl, hownOther⟩
    obtain ⟨hentryMem, hof⟩ := Table.mem_select.mp hentry
    obtain ⟨hotherMem, hofOther⟩ := Table.mem_select.mp hother
    rw [(Store.after prim operations).db.entries.eq_of_clash hotherMem hentryMem (.inr (.inr
      ⟨(of_decide_eq_true hofOther).trans (of_decide_eq_true hof).symm,
        .inl (hunique other hother entry hentry hownOther hown)⟩))]
  · rintro hle _ ⟨entry, hentry, -, hown⟩
    have := hexists.mp ⟨entry, hentry, hown⟩
    omega

/-- A ticket of each of the two buyers. -/
theorem pool_tickets_on_sold_invoices :
    (∃! invoiceId, (Store.after .standard SampleRun.sold).db.ShowsTicket SampleRun.raffleId 1
      invoiceId) ∧
    ∃! invoiceId, (Store.after .standard SampleRun.sold).db.ShowsTicket SampleRun.raffleId 4
      invoiceId := by
  have hpool : (publicPool SampleRun.raffleId (Store.after .standard SampleRun.sold).db).map
      PublicPool.totalTickets = .ok 5 := by
    decide +kernel
  cases hpublic : publicPool SampleRun.raffleId (Store.after .standard SampleRun.sold).db with
  | error error => simp [hpublic, Except.map] at hpool
  | ok pool =>
      rw [hpublic] at hpool
      have htickets : pool.totalTickets = 5 := Except.ok.inj hpool
      have hshown := fun ticket => (pool_tickets_on_invoices .standard SampleRun.sold
        SampleRun.raffleId pool hpublic ticket).1
      rw [htickets] at hshown
      exact ⟨hshown 1 (by decide), hshown 4 (by decide)⟩

end OpenPool
