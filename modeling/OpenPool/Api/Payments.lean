import OpenPool.Api.Settlement
import OpenPool.Store.Recipients

/-! # Who is paid

Every payment that is sent goes to an address that its recipient has given: the buyer of the winning
ticket, the organizer of the raffle, or the platform. -/

namespace OpenPool.Api

open Fallible Program Text

/-! ## Evidence -/

/-- How the address of a payout was found, in this run. -/
inductive AddressAsked (deployment : Deployment) (job : ClaimedJob) (actions : List Action)
    (payout : ClaimedPayout) (address : String) : Prop
  | platform (hrecipient : payout.recipientType = .platform)
      (haddress : deployment.services.platformAddress = some address) :
      AddressAsked deployment job actions payout address
  | stored (ciphertext : List UInt8) (hopen : deployment.services.decrypt ciphertext = .ok address)
      (hasked : Asked deployment job (.query (.payoutRecipientCiphertext payout))
        (.ok (some ciphertext)) actions) :
      AddressAsked deployment job actions payout address

/-- What a worker has been told before it has sent the payment. -/
structure SentOn (deployment : Deployment) (actions : List Action) (payment : Payment)
    (job : ClaimedJob) (payout : ClaimedPayout) (raffleId : RaffleId) (address : String) : Prop where
  request : payment.request = payout.request payment.request.bolt11
  claimed : Asked deployment job (.query (.claimPayout raffleId)) (.ok (some payout)) actions
  found : AddressAsked deployment job actions payout address
  resolved : Asked deployment job (.ask (.resolveExactAmount address payout.amountSats))
    (.ok ⟨payment.request.bolt11, payout.amountSats⟩) actions

section Evidence

variable {deployment : Deployment} {actions : List Action} {payment : Payment} {job : ClaimedJob}
  {payout : ClaimedPayout} {raffleId : RaffleId} {address : String}

theorem SentOn.append (h : SentOn deployment actions payment job payout raffleId address)
    (back : List Action) :
    SentOn deployment (actions ++ back) payment job payout raffleId address where
  request := h.request
  claimed := h.claimed.append back
  found := by
    cases h.found with
    | platform hrecipient haddress => exact .platform hrecipient haddress
    | stored ciphertext hopen hasked => exact .stored ciphertext hopen (hasked.append back)
  resolved := h.resolved.append back

theorem sentOn_of_busy {workerId : String} {memory : Memory}
    {next : (OpenPool.Request.ask (.payInvoice payment.request)).Answer → OpenPool.Task Round}
    (h : (System.after deployment actions).world.worker workerId =
      .busy job (.call (.ask (.payInvoice payment.request)) next) memory) :
    ∃ payout raffleId address, SentOn deployment actions payment job payout raffleId address := by
  obtain ⟨trace, hgrounds, hasked⟩ := grounds_of_busy h
  generalize hrequest : payment.request = request at hgrounds
  cases hgrounds with
  | free _ _ hfree => cases hfree
  | pay payout raffleId bolt11 address front hpayload hclaimed haddress =>
      refine ⟨payout, raffleId, address, ?_, ?_, ?_, ?_⟩
      · rw [hrequest]
        rfl
      · exact hasked.occurs (List.mem_cons_of_mem _ hclaimed)
      · cases haddress with
        | platform _ hrecipient hplatform => exact .platform hrecipient hplatform
        | stored ciphertext _ _ hopen =>
            exact .stored ciphertext hopen
              (hasked.occurs (List.mem_cons_of_mem _ (List.mem_cons_self ..)))
      · rw [hrequest]
        exact hasked.occurs (List.mem_cons_self ..)

theorem sent_sentOn (deployment : Deployment) (actions : List Action) :
    ∀ payment ∈ (System.after deployment actions).world.shared.sent,
      ∃ job payout raffleId address,
        SentOn deployment actions payment job payout raffleId address := by
  induction actions using List.reverseRecOn with
  | nil => exact fun _ hmem => absurd hmem List.not_mem_nil
  | append_singleton actions action ih =>
      intro payment hmem
      rw [System.after_concat] at hmem
      rcases System.sent_step hmem with hold | ⟨workerId, job, next, memory, hbusy⟩
      · obtain ⟨job, payout, raffleId, address, hsent⟩ := ih payment hold
        exact ⟨job, payout, raffleId, address, hsent.append [action]⟩
      · obtain ⟨payout, raffleId, address, hsent⟩ := sentOn_of_busy hbusy
        exact ⟨job, payout, raffleId, address, hsent.append [action]⟩

end Evidence

/-! ## Recipients -/

/-- The address was given by the recipient of the payout. -/
inductive System.PaysTo (deployment : Deployment) (system : System) (payout : PayoutRow)
    (address : String) : Prop
  | platform (hrecipient : payout.recipientType = .platform)
      (haddress : deployment.services.platformAddress = some address) :
      PaysTo deployment system payout address
  /-- The organizer of the raffle has registered with the address. -/
  | organizer (raffle : RaffleRow) (organizer : OrganizerRow) (headers : HeaderMap)
      (body : OrganizerRequest) (hrecipient : payout.recipientType = .organizer)
      (hraffle : raffle ∈ system.db.raffles.rows) (hid : raffle.id = payout.raffleId)
      (horganizer : organizer ∈ system.db.organizers.rows)
      (howner : organizer.id = raffle.organizerId)
      (hregistered : system.RegisteredBy deployment organizer headers body)
      (haddress : body.lightningAddress = address) :
      PaysTo deployment system payout address
  /-- The winning ticket is on an invoice that was made for a buyer with the address. -/
  | winner (draw : DrawRow) (entry : EntryRow) (invoice : InvoiceRow) (raffle : RaffleRow)
      (body : InvoiceRequest) (request : CollectionRequest) (collection : CollectionInvoice)
      (hrecipient : payout.recipientType = .winner) (hdraw : draw ∈ system.db.draws.rows)
      (hraffle : draw.raffleId = payout.raffleId) (hentry : entry ∈ system.db.entries.rows)
      (howns : entry.raffleId = payout.raffleId ∧ entry.ticketStart ≤ draw.winningTicket ∧
        draw.winningTicket < entry.ticketEnd)
      (hinvoice : invoice ∈ system.db.invoices.rows) (hpaid : entry.PaidBy invoice)
      (hcollected : system.CollectedFor deployment invoice raffle body request collection)
      (haddress : trim body.lightningAddress = address) :
      PaysTo deployment system payout address

section Recipients

variable {deployment : Deployment} {actions : List Action} {payment : Payment} {job : ClaimedJob}
  {payout : ClaimedPayout} {raffleId : RaffleId} {address : String}

/-- The payout that was claimed is a row of its raffle. -/
theorem Asked.claimed (h : Asked deployment job (.query (.claimPayout raffleId))
    (.ok (some payout)) actions) :
    ∃ row ∈ (System.after deployment actions).db.payouts.rows, row.id = payout.id ∧
      row.raffleId = payout.raffleId ∧ row.recipientType = payout.recipientType := by
  obtain ⟨front, action, back, workerId, choice, rfl, hperform⟩ := h.performed
  obtain ⟨row, hmem, -, hread⟩ := Shared.row_of_claim hperform
  simp only [ClaimedPayout.ofRow, bind_eq_ok_iff, pure_eq_ok_iff] at hread
  obtain ⟨amount, -, rfl⟩ := hread
  have hlater := System.extends_run deployment (front ++ [action]) back
  rw [List.append_assoc] at hlater
  obtain ⟨later, hlaterMem, hterms⟩ := hlater.payout hmem
  exact ⟨later, hlaterMem, (congrArg PayoutTerms.id hterms :),
    (congrArg PayoutTerms.raffleId hterms :), (congrArg PayoutTerms.recipientType hterms :)⟩

/-- The rows that the address was read from are there. -/
theorem Asked.addressed {ciphertext : List UInt8}
    (h : Asked deployment job (.query (.payoutRecipientCiphertext payout)) (.ok (some ciphertext))
      actions) : (System.after deployment actions).db.Addressed payout ciphertext := by
  obtain ⟨front, action, back, workerId, choice, rfl, hperform⟩ := h.performed
  obtain ⟨hread, -⟩ := Shared.perform_ok hperform
  have hfront := (System.valid_after deployment front).shared.lawful.sound.addressed_run
    (addressed_of_read hread)
  obtain ⟨operations, hrun⟩ := System.store_run deployment front (action :: back)
  change (System.after deployment (front ++ action :: back)).store.db.Addressed payout ciphertext
  rw [hrun]
  exact hfront operations

/-- The recipient has given the address that its rows hold. -/
theorem paysTo_of_addressed (hdev : deployment.api.developmentIdentityEnabled = false)
    (hcipher : deployment.api.addressCipher.aead.Lawful) {ciphertext : List UInt8} {row : PayoutRow}
    (h : (System.after deployment actions).db.Addressed payout ciphertext)
    (hopen : deployment.services.decrypt ciphertext = .ok address)
    (hraffle : row.raffleId = payout.raffleId)
    (hrecipient : row.recipientType = payout.recipientType) :
    (System.after deployment actions).PaysTo deployment row address := by
  cases h with
  | winner draw entry invoice htype hdraw hentry hwinner hinvoice hid haddress =>
      obtain ⟨hdrawMem, hdrawRaffle⟩ := Table.mem_of_find hdraw
      have howns := (System.valid_after deployment actions).shared.lawful.sound.owner_of_draw hdraw
        hentry hwinner
      obtain ⟨payer, hpayer, raffle, -, body, request, collection, -, -, hpaid, hcollected, -⟩ :=
        collected_of_entry hentry
      obtain rfl := (System.after deployment actions).db.invoices.eq_of_clash hinvoice hpayer
        (.inl (hid.trans hpaid.invoiceId))
      obtain ⟨-, nonce, sealed, hsealed, hseal⟩ := hcollected.buyer
      obtain rfl : ciphertext = sealed := Option.some.inj (haddress.symm.trans hsealed)
      rw [decrypt_of_encrypt hcipher hseal] at hopen
      rw [← hraffle] at howns
      exact .winner draw entry invoice raffle body request collection (hrecipient.trans htype)
        hdrawMem ((of_decide_eq_true hdrawRaffle).trans hraffle.symm) hentry howns hinvoice hpaid
        hcollected (Except.ok.inj hopen)
  | organizer terms organizer htype hterms hid horganizer howner haddress =>
      obtain ⟨raffle, hraffleMem, rfl⟩ := List.mem_map.mp hterms
      obtain ⟨call, hmade⟩ :=
        (System.accounts_after deployment actions).organizers organizer horganizer
      obtain ⟨headers, body, hregistered⟩ :=
        hmade.registeredBy (System.onPath_after deployment actions)
          (System.sessionsSound_after deployment actions) hdev hcipher
      rw [← haddress, hregistered.address.2] at hopen
      exact .organizer raffle organizer headers body (hrecipient.trans htype) hraffleMem
        (hid.trans hraffle.symm) horganizer howner hregistered (Except.ok.inj hopen)

end Recipients

/-- In every run each payment that was sent pays a payout what it owes, with an invoice that the
resolver has given for this amount and the address of the recipient: the buyer of the ticket that
won, the organizer of the raffle as registered, or the platform. -/
theorem payments_reach_recipients (deployment : Deployment)
    (hdev : deployment.api.developmentIdentityEnabled = false)
    (hcipher : deployment.api.addressCipher.aead.Lawful) (actions : List Action) (payment : Payment)
    (hmem : payment ∈ (System.after deployment actions).world.shared.sent) :
    ∃ payout ∈ (System.after deployment actions).db.payouts.rows, ∃ job address,
      payment.IsFor payout.terms ∧ (System.after deployment actions).PaysTo deployment payout address ∧
      Asked deployment job (.ask (.resolveExactAmount address payment.request.amountSats))
        (.ok ⟨payment.request.bolt11, payment.request.amountSats⟩) actions := by
  obtain ⟨job, payout, raffleId, address, hsent⟩ := sent_sentOn deployment actions payment hmem
  obtain ⟨row, hrow, hid, hraffle, hrecipient⟩ := hsent.claimed.claimed
  obtain ⟨other, hother, hfor⟩ := (System.valid_after deployment actions).shared.sent payment hmem
  have hotherId : other.id = payout.id := by
    have hpayoutId := hfor.payoutId
    rw [hsent.request] at hpayoutId
    exact hpayoutId.symm
  obtain rfl := (System.after deployment actions).db.payouts.eq_of_clash hother hrow
    (.inl (hotherId.trans hid.symm))
  have hamount : payment.request.amountSats = payout.amountSats := by
    rw [hsent.request]
    rfl
  refine ⟨other, hother, job, address, hfor, ?_, hamount ▸ hsent.resolved⟩
  cases hsent.found with
  | platform hplatform haddress => exact .platform (hrecipient.trans hplatform) haddress
  | stored ciphertext hopen hasked =>
      exact paysTo_of_addressed hdev hcipher hasked.addressed hopen hraffle hrecipient

open SampleRun (uuid) in
/-- The raffle is closed and drawn, and its first payout is paid. -/
def ApiSample.paid : List Action := settled ++ [.work (WorldSample.schedule 100)] ++
  worked 101 2 (uuid 37) ++ worked 170 18 (uuid 38) ++ worked 171 5 (uuid 39)

/-- One of two buyers has won, and is paid first. -/
theorem sample_payment_reaches_recipient :
    ∃ payment ∈ (System.after ApiSample.deployment ApiSample.paid).world.shared.sent,
      ∃ payout ∈ (System.after ApiSample.deployment ApiSample.paid).db.payouts.rows,
      ∃ job address, payout.recipientType = .winner ∧ payment.IsFor payout.terms ∧
        (System.after ApiSample.deployment ApiSample.paid).PaysTo ApiSample.deployment payout
          address ∧
        Asked ApiSample.deployment job
          (.ask (.resolveExactAmount address payment.request.amountSats))
          (.ok ⟨payment.request.bolt11, payment.request.amountSats⟩) ApiSample.paid := by
  have hsome : ∃ payment ∈ (System.after ApiSample.deployment ApiSample.paid).world.shared.sent,
      ∃ payout ∈ (System.after ApiSample.deployment ApiSample.paid).db.payouts.rows,
        payout.recipientType = .winner ∧ payout.id = payment.request.payoutId.uuid := by
    decide +kernel
  obtain ⟨payment, hmem, payout, hpayout, hwinner, hid⟩ := hsome
  obtain ⟨other, hother, job, address, hfor, hpays, hasked⟩ := payments_reach_recipients
    ApiSample.deployment rfl ApiSample.aead_lawful ApiSample.paid payment hmem
  obtain rfl := (System.after ApiSample.deployment ApiSample.paid).db.payouts.eq_of_clash hother
    hpayout (.inl (hfor.payoutId.symm.trans hid.symm))
  exact ⟨payment, hmem, other, hother, job, address, hwinner, hfor, hpays, hasked⟩

end OpenPool.Api
