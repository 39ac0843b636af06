import OpenPool.Api.Ownership
import OpenPool.Store.PriceCorrectness
import OpenPool.Store.PublicInvoices

/-! # Collecting payments

The payment provider is asked for the price of the tickets, and a buyer is shown its invoice only
where it asks for exactly that, and not for longer than the raffle is open. -/

namespace OpenPool

open Fallible

/-! ## Bills -/

/-- The row is the invoice that was shown as pending. -/
structure InvoiceRow.Bills (row : InvoiceRow) (invoice : NewCollectionInvoice)
    (pending : PendingCollectionInvoice) : Prop where
  id : row.id = invoice.id
  raffleId : row.raffleId = invoice.raffleId
  participantPublicId : row.participantPublicId = invoice.participantPublicId.val
  amountSats : row.amountSats = pending.amountSats.asU64.toNat
  ticketCount : row.ticketCount = invoice.ticketCount.toNat
  payoutAddressCiphertext : row.payoutAddressCiphertext = some invoice.payoutAddressCiphertext

/-- What was shown as pending is stored, and cannot outlive its raffle. -/
structure Database.Bills (db : Database) (invoice : NewCollectionInvoice)
    (pending : PendingCollectionInvoice) : Prop where
  row : ∃ row ∈ db.invoices.rows, row.Bills invoice pending
  raffle : ∃ raffle ∈ (db.view invoice.raffleId).raffle,
    (raffle.status ≠ .draft ∧ raffle.status ≠ .scheduled) ∧
      pending.expiresAt ≤ ofTimestamp raffle.endTime

section Bills

variable {prim : Primitives} {scope : Scope} {raffleId : RaffleId} {view view' : RaffleView}
  {store : Store} {db' : Database} {invoice : NewCollectionInvoice}
  {pending : PendingCollectionInvoice} {row : RaffleRow}

/-- The end of a raffle that has been opened stays. -/
theorem RaffleStep.endTime_kept (hstep : RaffleStep prim scope raffleId view view')
    (hrow : row ∈ view.raffle) (hopened : row.status ≠ .draft ∧ row.status ≠ .scheduled) :
    ∃ row' ∈ view'.raffle, row'.endTime = row.endTime := by
  have hsame : ∀ {other}, view.raffle = some other → other = row := fun hview =>
    Option.some.inj (hview.symm.trans hrow)
  cases hstep with
  | create other split habsent => cases habsent.symm.trans hrow
  | edit other _ _ _ _ _ _ hview hstatus =>
      obtain rfl := hsame hview
      exact (hstatus.elim hopened.1 hopened.2).elim
  | move other _ hview | close other _ hview | freeze other _ _ _ hview
  | settle other _ _ _ _ hview | draw other _ _ _ _ _ hview =>
      obtain rfl := hsame hview
      exact ⟨_, rfl, rfl⟩
  | payOut change jobs =>
      refine ⟨_, by rw [hrow]; rfl, ?_⟩
      beta_reduce
      split <;> rfl
  | stay | pendingInvoice | collectionInvoice | changeInvoices | late | refund | proof | publish
  | changePayouts | changeJobs => exact ⟨row, hrow, rfl⟩

theorem createCollectionInvoice_bills
    (h : createCollectionInvoice invoice store.db = .ok (db', pending)) :
    db'.Bills invoice pending := by
  simp only [createCollectionInvoice, bind_eq_ok_iff, pure_eq_ok_iff, sql_eq_ok_iff,
    orElse_eq_ok_iff, ensure_eq_ok_iff, asI64_eq_ok_iff, Prod.mk.injEq] at h
  obtain ⟨raffle, hraffle, -, hopen, -, -, -, -, price, -, amountSats, -, amount, ⟨rfl, -⟩, count,
    ⟨rfl, -⟩, invoices, hinsert, rfl, rfl⟩ := h
  refine ⟨⟨_, (Table.mem_of_insert hinsert _).mpr (.inr rfl), rfl, rfl, rfl, rfl, rfl, rfl⟩,
    ⟨raffle, hraffle, ?_, min_le_right _ _⟩⟩
  rw [hopen]
  exact ⟨by decide, by decide⟩

theorem InvoiceRow.Bills.same {row row' : InvoiceRow} (h : row.Bills invoice pending)
    (hsame : row.SameInvoice row') : row'.Bills invoice pending where
  id := hsame.id.symm.trans h.id
  raffleId := hsame.raffleId.symm.trans h.raffleId
  participantPublicId := hsame.participantPublicId.symm.trans h.participantPublicId
  amountSats := hsame.amountSats.symm.trans h.amountSats
  ticketCount := hsame.ticketCount.symm.trans h.ticketCount
  payoutAddressCiphertext := hsame.payoutAddressCiphertext.symm.trans h.payoutAddressCiphertext

/-- What was billed stays so. -/
theorem Store.Sound.bills_step (hsound : store.Sound prim) (op : Op)
    (h : store.db.Bills invoice pending) : (store.step prim op).db.Bills invoice pending where
  row := by
    obtain ⟨row, hmem, hrow⟩ := h.row
    obtain ⟨row', hmem', hsame, -⟩ := (store.step_raffleStep hsound op).invoice_kept
      (view_invoices_keyed _ _) (mem_view_invoices hmem)
    exact ⟨row', (Table.mem_select.mp hmem').1, hrow.same hsame⟩
  raffle := by
    obtain ⟨raffle, hraffle, hopened, hend⟩ := h.raffle
    have hstep : RaffleStep prim _ invoice.raffleId _ _ := store.step_raffleStep hsound op
    obtain ⟨after, hafter, hsame⟩ := hstep.endTime_kept hraffle hopened
    obtain ⟨other, hother, hstatus⟩ := hstep.wasOpened ⟨raffle, hraffle, hopened⟩
    obtain rfl := Option.mem_unique hafter hother
    exact ⟨after, hafter, hstatus, hsame ▸ hend⟩

end Bills

namespace Api

open Program Text

/-! ## Handlers -/

/-- What handlers have been shown as pending is billed. -/
def System.BillsTold (system : System) : Prop :=
  ∀ call invoice pending, system.Told call (.query (.createCollectionInvoice invoice)) (.ok pending) →
    system.db.Bills invoice pending

/-- A handler has created the invoice, and the provider has answered for it. -/
structure System.Collection (deployment : Deployment) (system : System) (raffleId : Uuid)
    (body : InvoiceRequest) (invoice : NewCollectionInvoice) (pending : PendingCollectionInvoice)
    (collection : CollectionInvoice) : Prop where
  created : system.Told (.createInvoice raffleId body) (.query (.createCollectionInvoice invoice))
    (.ok pending)
  asked : system.Told (.createInvoice raffleId body)
    (.ask (.createCollection ⟨invoice.id, pending.amountSats, pending.expiresAt⟩)) (.ok collection)
  answers : collection.Answers pending
  sealed : ∃ now invoiceId nonce ciphertext,
    deployment.api.addressCipher.encrypt nonce (trim body.lightningAddress) = .ok ciphertext ∧
    invoice = newCollectionInvoice deployment.api invoiceId raffleId (trim body.lightningAddress)
      ciphertext body.ticketCount now

/-- The provider has made the invoice of the row for the price of its tickets. -/
structure System.CollectedFor (deployment : Deployment) (system : System) (row : InvoiceRow)
    (raffle : RaffleRow) (body : InvoiceRequest) (request : CollectionRequest)
    (collection : CollectionInvoice) : Prop where
  told : system.Told (.createInvoice raffle.id.uuid body) (.ask (.createCollection request))
    (.ok collection)
  ids : request.invoiceId = row.id ∧ row.raffleId = raffle.id
  tickets : row.ticketCount = body.ticketCount.toNat
  amount : row.amountSats = raffle.entryPriceSats * body.ticketCount.toNat ∧
    row.amountSats = request.amountSats.asU64.toNat ∧ collection.amountSats = request.amountSats
  inTime : collection.expiresAt ≤ request.expiresAt ∧
    request.expiresAt ≤ ofTimestamp raffle.endTime
  stored : row.bolt11 = some collection.bolt11 ∧ collection.bolt11 ≠ "" ∧
    row.providerQuoteId = some collection.providerQuoteId ∧
    row.providerPaymentHash = some collection.providerPaymentHash ∧
    row.expiresAt = some (toTimestamp collection.expiresAt)
  /-- The buyer is known by the hash of the address, which is sealed. -/
  buyer : row.participantPublicId =
      (deployment.api.prim.sha256 (utf8 (trim body.lightningAddress))).val ∧
    ∃ nonce ciphertext, row.payoutAddressCiphertext = some ciphertext ∧
      deployment.api.addressCipher.encrypt nonce (trim body.lightningAddress) = .ok ciphertext

section Collection

variable {deployment : Deployment} {system system' : System} {invoice : NewCollectionInvoice}
  {pending : PendingCollectionInvoice}

theorem System.Steps.bills (h : System.Steps deployment system system')
    (hsound : system.store.Sound deployment.services.prim)
    (hbills : system.db.Bills invoice pending) : system'.db.Bills invoice pending := by
  obtain ⟨operations, -, hrun⟩ := h.store_run
  have hstep : ∀ (store : Store) (op : Op),
      store.Sound deployment.services.prim ∧ store.db.Bills invoice pending →
      (store.step deployment.services.prim op).Sound deployment.services.prim ∧
        (store.step deployment.services.prim op).db.Bills invoice pending :=
    fun store op h => ⟨h.1.step op, h.1.bills_step op h.2⟩
  change system'.store.db.Bills invoice pending
  rw [hrun]
  exact (StateMachine.invariant hstep ⟨hsound, hbills⟩ operations).2

theorem System.Steps.billsTold (h : System.Steps deployment system system')
    (hsound : system.store.Sound deployment.services.prim) (htold : system.BillsTold) :
    system'.BillsTold := by
  intro call invoice pending htold'
  rcases h.told htold' with hold | ⟨choice, hanswer, hworld⟩
  · exact h.bills hsound (htold call invoice pending hold)
  · obtain ⟨hok, hrun⟩ := System.perform_ok hanswer
    obtain ⟨db', hcreated⟩ := returned_eq_ok_iff.mp hok
    have hdb : system'.db = db' := by
      change system'.world.shared.store.db = db'
      rw [hworld, hrun]
      change (System.run deployment system choice _).store.db = db'
      rw [System.run_store]
      exact exec_db hcreated
    rw [hdb]
    exact createCollectionInvoice_bills hcreated

theorem System.billsTold_after (deployment : Deployment) (actions : List Action) :
    (System.after deployment actions).BillsTold := by
  refine StateMachine.history (P := fun (system : System) _ => system.BillsTold) ?_ ?_ actions
  · rintro call invoice pending ⟨handler, hmem, -⟩
    cases hmem
  · intro actions action htold
    exact (System.step_spec deployment _ action).billsTold
      (System.valid_after deployment actions).shared.lawful.sound htold

theorem System.priceInv_after (deployment : Deployment) (actions : List Action)
    (raffleId : RaffleId) :
    PriceInv ((System.after deployment actions).db.view raffleId) := by
  obtain ⟨operations, hfrom, hstore⟩ := System.store_after deployment actions
  change PriceInv ((System.after deployment actions).store.db.view raffleId)
  rw [hstore]
  refine Store.priceInv_after deployment.services.prim operations (fun op hmem invoice hop => ?_) _
  subst hop
  rcases hfrom _ hmem with hop | hop <;> cases hop

/-- What the provider's invoice was stored for. -/
theorem System.Made.collection {call : Call} {invoiceId : InvoiceId}
    {quoteId paymentHash bolt11 : String} {expiresAt : ℤ}
    (h : system.Made call (.storeCollectionInvoice invoiceId quoteId paymentHash bolt11 expiresAt))
    (hpath : system.OnPath deployment) : ∃ raffleId body invoice pending collection,
      system.Collection deployment raffleId body invoice pending collection ∧
        invoice.id = invoiceId ∧ (quoteId, paymentHash, bolt11, expiresAt) =
          (collection.providerQuoteId, collection.providerPaymentHash, collection.bolt11,
            collection.expiresAt) := by
  obtain ⟨trace, hheard, hallowed⟩ := h.allowed hpath
  cases hallowed with
  | read _ _ hreads => cases hreads
  | storeCollection raffleId body invoice pending collection front hanswers =>
      have hcreated := hheard.earlier (List.suffix_cons _ _)
      have hmade : system.Made _ (.createCollectionInvoice invoice) := ⟨front, _, hcreated⟩
      refine ⟨raffleId, body, invoice, pending, collection, {
        created := hcreated.told (List.mem_cons_self ..)
        asked := hheard.told (List.mem_cons_self ..)
        answers := hanswers
        sealed := ?_ }, rfl, rfl⟩
      obtain ⟨trace, -, hallowed⟩ := hmade.allowed hpath
      cases hallowed with
      | read _ _ hreads => cases hreads
      | collectionInvoice _ _ now invoiceId nonce ciphertext _ hseal =>
          exact ⟨now.nanos, invoiceId, nonce, ciphertext, hseal, rfl⟩

/-- What an invoice that can be paid stands for. -/
theorem collectedFor_of_row {actions : List Action} {row : InvoiceRow}
    (hmem : row ∈ (System.after deployment actions).db.invoices.rows)
    (hprovider : row.bolt11 ≠ none ∨ row.providerPaymentHash ≠ none) :
    ∃ raffle ∈ (System.after deployment actions).db.raffles.rows, ∃ body request collection,
      (System.after deployment actions).CollectedFor deployment row raffle body request
        collection := by
  obtain ⟨call, quoteId, paymentHash, bolt11, expiresAt, hmade, hcollected⟩ :=
    (System.accounts_after deployment actions).collected row.request (List.mem_map_of_mem hmem)
      hprovider
  obtain ⟨raffleId, body, invoice, pending, collection, hcollection, hid, hvalues⟩ :=
    hmade.collection (System.onPath_after deployment actions)
  simp only [Prod.mk.injEq] at hvalues
  obtain ⟨rfl, rfl, rfl, rfl⟩ := hvalues
  have hbills := System.billsTold_after deployment actions _ _ _ hcollection.created
  obtain ⟨now, invoiceId, nonce, ciphertext, hseal, hinvoice⟩ := hcollection.sealed
  obtain ⟨other, hother, hbilled⟩ := hbills.row
  obtain rfl := (System.after deployment actions).db.invoices.eq_of_clash hother hmem
    (.inl (hbilled.id.trans hid))
  obtain ⟨raffle, hraffle, -, hend⟩ := hbills.raffle
  have hpriced := (System.priceInv_after deployment actions _ raffle hraffle).invoice other
    (hbilled.raffleId ▸ mem_view_invoices hmem)
  obtain ⟨hraffleMem, hraffleMatch⟩ := Table.mem_of_find hraffle
  have hraffleId : raffle.id = invoice.raffleId := of_decide_eq_true hraffleMatch
  have htickets : other.ticketCount = body.ticketCount.toNat := by
    rw [hbilled.ticketCount, hinvoice]
    rfl
  refine ⟨raffle, hraffleMem, body, _, collection, {
    told := by
      rw [hraffleId, hinvoice]
      exact hcollection.asked
    ids := ⟨hid, hbilled.raffleId.trans hraffleId.symm⟩
    tickets := htickets
    amount := ⟨htickets ▸ hpriced.1, hbilled.amountSats, hcollection.answers.1⟩
    inTime := ⟨hcollection.answers.2.1, hend⟩
    stored := ⟨(congrArg InvoiceRow.bolt11 hcollected :), hcollection.answers.2.2,
      (congrArg InvoiceRow.providerQuoteId hcollected :),
      (congrArg InvoiceRow.providerPaymentHash hcollected :),
      (congrArg InvoiceRow.expiresAt hcollected :)⟩
    buyer := ⟨by rw [hbilled.participantPublicId, hinvoice]; rfl, nonce, ciphertext,
      by rw [hbilled.payoutAddressCiphertext, hinvoice]; rfl, hseal⟩ }⟩

end Collection

/-- In every run an invoice that can be paid was made by the provider, which was asked for the price
of the buyer's tickets and has answered with exactly that; and it expires by the end of the
raffle. -/
theorem invoices_collect_exactly (deployment : Deployment) (actions : List Action) (row : InvoiceRow)
    (hmem : row ∈ (System.after deployment actions).db.invoices.rows)
    (hprovider : row.bolt11 ≠ none ∨ row.providerPaymentHash ≠ none) :
    ∃ raffle ∈ (System.after deployment actions).db.raffles.rows, ∃ body request collection,
      (System.after deployment actions).CollectedFor deployment row raffle body request
        collection :=
  collectedFor_of_row hmem hprovider

namespace ApiSample

/-- The organizer opens the raffle. -/
def opened : List Action := offered ++
  request 4 (.schedule headers raffleId) (List.replicate 3 (choiceAt 0 raffleId)) ++
  request 5 (.openRaffle headers raffleId) (List.replicate 3 (choiceAt 0 raffleId))

/-- Bob asks for two tickets, Carol for three. -/
def invoiced : List Action := opened ++
  request 6 (.createInvoice raffleId ⟨" bob@example.org ", 2⟩)
    (List.replicate 7 (choiceAt 1 invoiceId)) ++
  request 7 (.createInvoice raffleId ⟨"carol@example.org", 3⟩)
    (List.replicate 7 (choiceAt 1 secondInvoiceId))

end ApiSample

theorem sample_invoice_collects_exactly :
    ∃ row ∈ (System.after ApiSample.deployment ApiSample.invoiced).db.invoices.rows,
      ∃ raffle ∈ (System.after ApiSample.deployment ApiSample.invoiced).db.raffles.rows,
      ∃ body request collection, (System.after ApiSample.deployment ApiSample.invoiced).CollectedFor
        ApiSample.deployment row raffle body request collection := by
  have hsome : ∃ row ∈ (System.after ApiSample.deployment ApiSample.invoiced).db.invoices.rows,
      row.bolt11 ≠ none := by decide +kernel
  obtain ⟨row, hmem, hbolt11⟩ := hsome
  exact ⟨row, hmem,
    invoices_collect_exactly ApiSample.deployment ApiSample.invoiced row hmem (.inl hbolt11)⟩

end Api

end OpenPool
