import OpenPool.Store.ProofCorrectness
import OpenPool.Store.PublicInvoices

/-! # Who a payout is for

The rows behind the address of a payout: for the winner the invoice of the entry that was drawn, for
the organizer the registration. They stay, so a payout has one recipient whenever it is looked up. -/

namespace OpenPool

open Fallible

/-- The rows that an address is read from. -/
inductive Database.Addressed (db : Database) (payout : ClaimedPayout) (ciphertext : List UInt8) :
    Prop
  | winner (draw : DrawRow) (entry : EntryRow) (invoice : InvoiceRow)
      (hrecipient : payout.recipientType = .winner)
      (hdraw : (db.view payout.raffleId).draw = some draw) (hentry : entry ∈ db.entries.rows)
      (hwinner : entry.id = draw.winnerEntryId) (hinvoice : invoice ∈ db.invoices.rows)
      (hid : invoice.id = entry.invoiceId)
      (haddress : invoice.payoutAddressCiphertext = some ciphertext) :
      Addressed db payout ciphertext
  | organizer (raffle : RaffleTerms) (organizer : OrganizerRow)
      (hrecipient : payout.recipientType = .organizer) (hraffle : raffle ∈ db.requested.raffles)
      (hid : raffle.id = payout.raffleId) (horganizer : organizer ∈ db.organizers.rows)
      (howner : organizer.id = raffle.organizerId)
      (haddress : organizer.lightningAddressCiphertext = ciphertext) :
      Addressed db payout ciphertext

section Recipients

variable {db : Database} {payout : ClaimedPayout} {ciphertext : List UInt8}

theorem found_of_decodeAddress {address : Option (Option (List UInt8))}
    (h : decodeAddress address = .ok (some ciphertext)) : address = some (some ciphertext) := by
  rcases address with _ | _ | found
  · cases h
  · cases h
  · obtain rfl := Option.some.inj (Except.ok.inj h)
    rfl

theorem addressed_of_read (h : payoutRecipientCiphertext payout db = .ok (some ciphertext)) :
    db.Addressed payout ciphertext := by
  unfold payoutRecipientCiphertext at h
  cases hrecipient : payout.recipientType with
  | winner =>
      rw [hrecipient] at h
      have hfound := found_of_decodeAddress h
      simp only [winnerAddress, bind, Option.bind_eq_some_iff, pure, Option.some.injEq] at hfound
      obtain ⟨draw, hdraw, entry, hentry, invoice, hinvoice, haddress⟩ := hfound
      obtain ⟨hentryMem, hwinner⟩ := Table.mem_of_find hentry
      obtain ⟨hinvoiceMem, hid⟩ := Table.mem_of_find hinvoice
      exact .winner draw entry invoice hrecipient hdraw hentryMem (of_decide_eq_true hwinner)
        hinvoiceMem (of_decide_eq_true hid) haddress
  | organizer =>
      rw [hrecipient] at h
      have hfound := found_of_decodeAddress h
      simp only [organizerAddress, bind, Option.bind_eq_some_iff, pure, Option.some.injEq] at hfound
      obtain ⟨raffle, hraffle, organizer, horganizer, haddress⟩ := hfound
      obtain ⟨hraffleMem, hid⟩ := Table.mem_of_find hraffle
      obtain ⟨horganizerMem, howner⟩ := Table.mem_of_find horganizer
      exact .organizer raffle.terms organizer hrecipient (List.mem_map_of_mem hraffleMem)
        (of_decide_eq_true hid) horganizerMem (of_decide_eq_true howner) haddress
  | platform => simp [hrecipient] at h
  | refund => simp [hrecipient] at h

/-! ## Later reads -/

/-- A raffle stays with its organizer. -/
theorem RequestStep.owner_kept {op : Op} {before after : Requested}
    (hstep : RequestStep op before after) (hkeyed : before.Keyed) {terms : RaffleTerms}
    (hmem : terms ∈ before.raffles) :
    ∃ terms' ∈ after.raffles, terms'.id = terms.id ∧ terms'.organizerId = terms.organizerId := by
  cases hstep with
  | create => exact ⟨terms, List.mem_append_left _ hmem, rfl, rfl⟩
  | edit organizerId raffle _ _ hown =>
      obtain ⟨other, hother, hid, rfl⟩ := hown
      refine ⟨_, List.mem_map_of_mem hmem, ?_⟩
      split
      · rename_i hsame
        obtain rfl := hkeyed.raffles terms hmem other hother (hsame.trans hid.symm)
        exact ⟨hid.symm, rfl⟩
      · exact ⟨rfl, rfl⟩
  | stay | organizer | pendingInvoice | collectionInvoice | collected | webhook =>
      exact ⟨terms, hmem, rfl, rfl⟩

theorem RequestStep.organizer_kept {op : Op} {before after : Requested}
    (hstep : RequestStep op before after) {organizer : OrganizerRow}
    (hmem : organizer ∈ before.organizers) : organizer ∈ after.organizers := by
  cases hstep with
  | organizer => exact List.mem_append_left _ hmem
  | stay | create | edit | pendingInvoice | collectionInvoice | collected | webhook => exact hmem

variable {prim : Primitives} {store : Store}

theorem Store.Sound.entry_kept (hsound : store.Sound prim) (op : Op) {entry : EntryRow}
    (hmem : entry ∈ store.db.entries.rows) : entry ∈ (store.step prim op).db.entries.rows := by
  have hview : entry ∈ (store.db.view entry.raffleId).entries :=
    Table.mem_select.mpr ⟨hmem, decide_eq_true rfl⟩
  exact (Table.mem_select.mp
    ((store.step_raffleStep hsound op).entries_grow.subset hview)).1

theorem Store.Sound.addressed_step (hsound : store.Sound prim) (op : Op)
    (h : store.db.Addressed payout ciphertext) :
    (store.step prim op).db.Addressed payout ciphertext := by
  cases h with
  | winner draw entry invoice hrecipient hdraw hentry hwinner hinvoice hid haddress =>
      obtain ⟨invoice', hinvoice', hsame, -⟩ := (store.step_raffleStep hsound op).invoice_kept
        (view_invoices_keyed _ _) (mem_view_invoices hinvoice)
      exact .winner draw entry invoice' hrecipient
        ((store.step_raffleStep hsound op).draw_kept hdraw) (hsound.entry_kept op hentry) hwinner
        (Table.mem_select.mp hinvoice').1 (hsame.id.symm.trans hid)
        (hsame.payoutAddressCiphertext.symm.trans haddress)
  | organizer raffle organizer hrecipient hraffle hid horganizer howner haddress =>
      have hrequest := store.step_request prim op
      obtain ⟨raffle', hraffle', hsameId, hsameOwner⟩ :=
        hrequest.owner_kept (keyed_requested _) hraffle
      exact .organizer raffle' organizer hrecipient hraffle' (hsameId.trans hid)
        (hrequest.organizer_kept horganizer) (howner.trans hsameOwner.symm) haddress

theorem Store.Sound.addressed_run (hsound : store.Sound prim)
    (h : store.db.Addressed payout ciphertext) (operations : List Op) :
    (StateMachine.run (Store.step prim) store operations).db.Addressed payout ciphertext := by
  have hstep : ∀ (store : Store) (op : Op),
      store.Sound prim ∧ store.db.Addressed payout ciphertext →
      (store.step prim op).Sound prim ∧ (store.step prim op).db.Addressed payout ciphertext :=
    fun store op h => ⟨h.1.step op, h.1.addressed_step op h.2⟩
  exact (StateMachine.invariant hstep ⟨hsound, h⟩ operations).2

/-- The entry that was drawn is one of the raffle, and owns the winning ticket. -/
theorem Store.Sound.owner_of_draw (hsound : store.Sound prim) {raffleId : RaffleId} {draw : DrawRow}
    {entry : EntryRow} (hdraw : (store.db.view raffleId).draw = some draw)
    (hmem : entry ∈ store.db.entries.rows) (hid : entry.id = draw.winnerEntryId) :
    entry.raffleId = raffleId ∧ entry.ticketStart ≤ draw.winningTicket ∧
      draw.winningTicket < entry.ticketEnd := by
  cases hrow : (store.db.view raffleId).raffle with
  | none =>
      rw [((hsound.draw raffleId).absent hrow).1] at hdraw
      cases hdraw
  | some row =>
      have hstate := hsound.drawState hrow
      have hdrawn : row.status.drawn = true := by
        by_contra hnot
        rw [(hstate.undrawn (Bool.eq_false_iff.mpr hnot)).1] at hdraw
        cases hdraw
      obtain ⟨context, hreads, -, ⟨drawId, hrowDraw⟩, -⟩ := hstate.executed hdrawn
      obtain rfl := Option.some.inj (hdraw.symm.trans hrowDraw)
      obtain ⟨winner, hwinner, -, -, hwinnerId, -, howns⟩ := hsound.winner hrow hreads hdrawn
      obtain ⟨hwinnerMem, hraffle⟩ := Table.mem_select.mp hwinner
      obtain rfl := store.db.entries.eq_of_clash hmem hwinnerMem (.inl (hid.trans hwinnerId.symm))
      exact ⟨of_decide_eq_true hraffle, (howns entry hwinner).mpr rfl⟩

end Recipients

end OpenPool
