import OpenPool.Api.Collection
import OpenPool.Api.Evidence

/-! # Nothing is sold unpaid

A reconciliation is about an invoice that a signed webhook has named. The invoice becomes an entry
once the payment provider itself has said that it is paid. -/

namespace OpenPool.Api

open Fallible Program Text

/-! ## Webhooks -/

/-- A body that the secret of the deployment signs names the invoice, in this event. -/
structure System.Notified (deployment : Deployment) (system : System) (eventId : String)
    (invoiceId : InvoiceId) (headers : HeaderMap) (body : List UInt8) : Prop where
  received : system.Received (.receiveMavapayWebhook headers body)
  size : body.length ≤ 64 * 1024
  signed : ∃ secret signature, deployment.api.mavapayWebhookSecret = some secret ∧
    headers.text "x-mavapay-signature" = some signature ∧
    Bytes.ofHex signature.toList = some (Hmac.mac deployment.api.prim.sha256 secret body).val
  named : ∃ payload, deployment.api.fromSlice body = some payload ∧
    MavapayWebhook.fromValue deployment.api.parseUuid payload = some ⟨eventId, invoiceId.uuid⟩
  event : trim eventId ≠ ""

section Webhooks

variable {deployment : Deployment} {system system' : System} {event : NewWebhookEvent}
  {headers : HeaderMap} {body : List UInt8}

theorem System.Steps.received {call : Call} (h : System.Steps deployment system system')
    (hreceived : system.Received call) : system'.Received call := by
  obtain ⟨handler, hmem, hcall⟩ := hreceived
  exact (h.heard ⟨handler, hmem, hcall, List.nil_suffix⟩).received

theorem System.Steps.notified {eventId : String} {invoiceId : InvoiceId}
    (h : System.Steps deployment system system')
    (hnotified : system.Notified deployment eventId invoiceId headers body) :
    system'.Notified deployment eventId invoiceId headers body :=
  { hnotified with received := h.received hnotified.received }

/-- The checks of a webhook. -/
theorem notified_of_webhookEvent (h : webhookEvent deployment.api headers body = .ok event)
    (hreceived : system.Received (.receiveMavapayWebhook headers body)) :
    event.providerName = "mavapay" ∧ event.payloadHash = hash deployment.api body ∧
      system.Notified deployment event.providerEventId event.invoiceId headers body := by
  simp only [webhookEvent, bind_eq_ok_iff, pure_eq_ok_iff, ensure_eq_ok_iff, orElse_eq_ok_iff] at h
  obtain ⟨-, hsize, signature, hsignature, secret, hsecret, -, hverified, payload, hpayload,
    ⟨eventId, invoiceId⟩, hnamed, -, hevent, rfl⟩ := h
  exact ⟨rfl, rfl, {
    received := hreceived
    size := hsize
    signed := ⟨secret, signature, hsecret, hsignature, verifyWebhookSignature_iff.mp hverified⟩
    named := ⟨payload, hpayload, hnamed⟩
    event := hevent }⟩

theorem System.Made.notified {call : Call} (h : system.Made call (.recordWebhookAndEnqueue event))
    (hpath : system.OnPath deployment) : event.providerName = "mavapay" ∧ ∃ headers body,
      event.payloadHash = hash deployment.api body ∧
        system.Notified deployment event.providerEventId event.invoiceId headers body := by
  obtain ⟨trace, hheard, hallowed⟩ := h.allowed hpath
  cases hallowed with
  | read _ _ hreads => cases hreads
  | webhook headers body event _ hevent =>
      obtain ⟨hname, hhash, hnotified⟩ := notified_of_webhookEvent hevent hheard.received
      exact ⟨hname, headers, body, hhash, hnotified⟩

/-- A job that is about an invoice was enqueued for a webhook. -/
theorem System.notified_of_job (hpath : system.OnPath deployment)
    (haccounts : system.Accounts system.db.requested) {job : JobRow}
    (hmem : job ∈ system.db.jobs.rows) {provider eventId : String} {invoiceId : InvoiceId}
    (hpayload : job.payload = .event provider eventId invoiceId) :
    provider = "mavapay" ∧ ∃ headers body,
      system.Notified deployment eventId invoiceId headers body := by
  have hnotice : ⟨provider, eventId, invoiceId⟩ ∈ system.db.requested.notices :=
    List.mem_filterMap.mpr ⟨job, hmem, by rw [JobRow.notice, hpayload]⟩
  obtain ⟨call, event, hmade, hevent⟩ := haccounts.notices _ hnotice
  obtain ⟨rfl, rfl, rfl⟩ := Notice.mk.inj hevent
  obtain ⟨hname, headers, body, -, hnotified⟩ := hmade.notified hpath
  exact ⟨hname, headers, body, hnotified⟩

end Webhooks

/-- In every run each webhook event that is stored, and each job that is about an invoice, stands for
a request with a body that the secret signs, and that names the event and the invoice. -/
theorem webhooks_signed (deployment : Deployment) (actions : List Action) :
    (∀ row ∈ (System.after deployment actions).db.webhookEvents.rows,
      row.providerName = "mavapay" ∧ ∃ invoiceId headers body,
        row.payloadHash = (deployment.api.prim.sha256 body).val ∧
        (System.after deployment actions).Notified deployment row.providerEventId invoiceId headers
          body) ∧
    ∀ job ∈ (System.after deployment actions).db.jobs.rows, ∀ provider eventId invoiceId,
      job.payload = .event provider eventId invoiceId →
      provider = "mavapay" ∧ ∃ headers body,
        (System.after deployment actions).Notified deployment eventId invoiceId headers body := by
  have hpath := System.onPath_after deployment actions
  have haccounts := System.accounts_after deployment actions
  constructor
  · intro row hmem
    obtain ⟨call, event, hmade, hname, hevent, hpayload⟩ := haccounts.webhookEvents row hmem
    obtain ⟨hprovider, headers, body, hhash, hnotified⟩ := hmade.notified hpath
    refine ⟨hname.trans hprovider, event.invoiceId, headers, body, ?_, hevent ▸ hnotified⟩
    rw [hpayload, hhash]
    rfl
  · intro job hmem provider eventId invoiceId hpayload
    exact System.notified_of_job hpath haccounts hmem hpayload

/-! ## The reference of a payment -/

section Reference

variable {deployment : Deployment} {system system' : System} {invoice : InvoiceRow}

theorem System.Steps.collected_kept (h : System.Steps deployment system system')
    (hmem : invoice ∈ system.db.requested.invoices) (hsome : invoice.bolt11 ≠ none) :
    invoice ∈ system'.db.requested.invoices := by
  rcases h.requested with hsame | ⟨choice, statement, op, -, -, hchange⟩
  · rwa [hsame]
  · exact hchange.collected_kept (keyed_requested _) hmem hsome

theorem System.collected_run (front back : List Action)
    (hmem : invoice ∈ (System.after deployment front).db.requested.invoices)
    (hsome : invoice.bolt11 ≠ none) :
    invoice ∈ (System.after deployment (front ++ back)).db.requested.invoices := by
  rw [System.after_append]
  exact StateMachine.invariant (fun (system : System) action hmem =>
    (system.step_spec deployment action).collected_kept hmem hsome) hmem back

/-- A worker reads the reference of a payment that the provider has made. -/
theorem Asked.reference {job : ClaimedJob} {invoiceId : InvoiceId} {reference : String}
    {actions : List Action} (h : Asked deployment job
      (.query (.collectionPaymentReference invoiceId)) (.ok (some reference)) actions) :
    ∃ row ∈ (System.after deployment actions).db.invoices.rows, row.id = invoiceId ∧
      row.providerPaymentHash = some reference := by
  obtain ⟨front, action, back, workerId, choice, rfl, hperform⟩ := h.performed
  obtain ⟨hread, -⟩ := Shared.perform_ok hperform
  change collectionPaymentReference invoiceId (System.after deployment front).db = _ at hread
  simp only [collectionPaymentReference, bind_eq_ok_iff, orElse_eq_ok_iff, pure_eq_ok_iff] at hread
  obtain ⟨row, hrow, hreference⟩ := hread
  obtain ⟨hmem, hid⟩ := Table.mem_of_find hrow
  have hhash : row.providerPaymentHash = some reference := by
    split at hreference
    · cases hreference
    · exact hreference
  obtain ⟨raffle, -, body, request, collection, hcollected⟩ :=
    collectedFor_of_row hmem (.inr (hhash ▸ Option.some_ne_none reference))
  have hkept := System.collected_run front (action :: back) (List.mem_map_of_mem hmem)
    (Option.ne_none_iff_exists'.mpr ⟨_, hcollected.stored.1⟩)
  obtain ⟨later, hlater, hsame⟩ := List.mem_map.mp hkept
  exact ⟨later, hlater, (congrArg InvoiceRow.id hsame :).trans (of_decide_eq_true hid),
    (congrArg InvoiceRow.providerPaymentHash hsame :).trans hhash⟩

end Reference

/-! ## Entries -/

/-- On what an invoice is settled: a signed webhook has named it, and a worker was told by the
provider that the payment of its reference is settled. -/
structure SettledOn (deployment : Deployment) (system : System) (actions : List Action)
    (invoiceId : InvoiceId) (job : ClaimedJob) (eventId reference : String) : Prop where
  payload : job.payload = .event "mavapay" eventId invoiceId
  notified : ∃ headers body, system.Notified deployment eventId invoiceId headers body
  read : Asked deployment job (.query (.collectionPaymentReference invoiceId))
    (.ok (some reference)) actions
  settled : Asked deployment job (.ask (.getPayment reference)) (.ok .settled) actions

section Entries

variable {deployment : Deployment} {actions : List Action} {invoiceId : InvoiceId}
  {job : ClaimedJob}

theorem SettledOn.step {eventId reference : String}
    (h : SettledOn deployment (System.after deployment actions) actions invoiceId job eventId
      reference) (action : Action) :
    SettledOn deployment (System.after deployment (actions ++ [action])) (actions ++ [action])
      invoiceId job eventId reference where
  payload := h.payload
  notified := by
    obtain ⟨headers, body, hnotified⟩ := h.notified
    rw [System.after_concat]
    exact ⟨headers, body, (System.step_spec deployment _ action).notified hnotified⟩
  read := h.read.append [action]
  settled := h.settled.append [action]

theorem payload_of_invoiceId {payload : JobPayload} (h : payload.invoiceId = some invoiceId) :
    ∃ provider eventId, payload = .event provider eventId invoiceId := by
  cases payload with
  | event provider eventId id =>
      obtain rfl := Option.some.inj h
      exact ⟨provider, eventId, rfl⟩
  | raffle | other => cases h

/-- A worker that comes to settle an invoice has been told that it is paid. -/
theorem settledOn_of_busy {workerId : String} {memory : Memory}
    {next : (OpenPool.Request.query (.settleInvoice invoiceId)).Answer → OpenPool.Task Round}
    (h : (System.after deployment actions).world.worker workerId =
      .busy job (.call (.query (.settleInvoice invoiceId)) next) memory) :
    ∃ eventId reference, SettledOn deployment (System.after deployment actions) actions invoiceId
      job eventId reference := by
  obtain ⟨trace, hgrounds, hasked⟩ := grounds_of_busy h
  cases hgrounds with
  | free _ _ hfree => cases hfree
  | settle _ reference hinvoice =>
      obtain ⟨provider, eventId, hpayload⟩ := payload_of_invoiceId hinvoice
      obtain ⟨⟨row, hrow, -, -, hsame⟩, -⟩ :=
        (System.valid_after deployment actions).workers workerId job _ memory h
      obtain ⟨rfl, hnotified⟩ := System.notified_of_job (System.onPath_after deployment actions)
        (System.accounts_after deployment actions) hrow (hsame.trans hpayload)
      exact ⟨eventId, reference, hpayload, hnotified,
        hasked.occurs (List.mem_cons_of_mem _ (List.mem_cons_self ..)),
        hasked.occurs (List.mem_cons_self ..)⟩

theorem entries_settledOn (deployment : Deployment) (actions : List Action) :
    ∀ entry ∈ (System.after deployment actions).db.entries.rows, ∃ job eventId reference,
      SettledOn deployment (System.after deployment actions) actions entry.invoiceId job eventId
        reference := by
  induction actions using List.reverseRecOn with
  | nil => exact fun _ hmem => absurd hmem List.not_mem_nil
  | append_singleton actions action ih =>
      intro entry hmem
      rw [System.after_concat] at hmem
      rcases System.entry_step (System.valid_after deployment actions) hmem with
        hold | ⟨workerId, job, next, memory, hbusy⟩
      · obtain ⟨job, eventId, reference, hsettled⟩ := ih entry hold
        exact ⟨job, eventId, reference, hsettled.step action⟩
      · obtain ⟨eventId, reference, hsettled⟩ := settledOn_of_busy hbusy
        exact ⟨job, eventId, reference, hsettled.step action⟩

/-- The invoice of an entry, and on what it was settled. -/
theorem collected_of_entry {entry : EntryRow}
    (hmem : entry ∈ (System.after deployment actions).db.entries.rows) :
    ∃ row ∈ (System.after deployment actions).db.invoices.rows,
      ∃ raffle ∈ (System.after deployment actions).db.raffles.rows,
      ∃ body request collection job eventId, entry.PaidBy row ∧
        (System.after deployment actions).CollectedFor deployment row raffle body request
          collection ∧
        SettledOn deployment (System.after deployment actions) actions row.id job eventId
          collection.providerPaymentHash := by
  obtain ⟨job, eventId, reference, hsettled⟩ := entries_settledOn deployment actions entry hmem
  obtain ⟨row, hrow, hid, hhash⟩ := hsettled.read.reference
  obtain ⟨raffle, hraffle, body, request, collection, hcollected⟩ :=
    collectedFor_of_row hrow (.inr (hhash ▸ Option.some_ne_none reference))
  have hpaid := (System.valid_after deployment actions).shared.lawful.sound.paidBy_of_entry hrow
    hmem hid.symm
  obtain rfl : collection.providerPaymentHash = reference :=
    Option.some.inj (hcollected.stored.2.2.2.1.symm.trans hhash)
  exact ⟨row, hrow, raffle, hraffle, body, request, collection, job, eventId, hpaid, hcollected,
    hid ▸ hsettled⟩

end Entries

/-- In every run each entry has its invoice. The provider has made it for the price of the entry's
tickets, a signed webhook has named it, and the provider has told a worker that it is paid. -/
theorem entries_paid_for (deployment : Deployment) (actions : List Action) (entry : EntryRow)
    (hmem : entry ∈ (System.after deployment actions).db.entries.rows) :
    ∃ row ∈ (System.after deployment actions).db.invoices.rows,
      ∃ raffle ∈ (System.after deployment actions).db.raffles.rows,
      ∃ body request collection job eventId,
        entry.PaidBy row ∧ row.status = .settled ∧
        (System.after deployment actions).CollectedFor deployment row raffle body request
          collection ∧
        SettledOn deployment (System.after deployment actions) actions row.id job eventId
          collection.providerPaymentHash := by
  obtain ⟨row, hrow, raffle, hraffle, body, request, collection, job, eventId, hpaid, hcollected,
    hsettled⟩ := collected_of_entry hmem
  have hstatus := ((System.valid_after deployment actions).shared.lawful.sound.settled_iff_entry
    hrow).mpr ⟨entry, find_entry hmem hpaid.invoiceId, hpaid⟩
  exact ⟨row, hrow, raffle, hraffle, body, request, collection, job, eventId, hpaid, hstatus,
    hcollected, hsettled⟩

namespace ApiSample

open SampleRun (uuid)

/-- A worker does a job that needs at most a number of requests. -/
def worked (seconds requests : ℕ) (id : Uuid) : List Action :=
  (WorldSample.runJob requests (WorldSample.choiceAt seconds id)).map .work

def webhookHeaders (body : List UInt8) : HeaderMap where
  values := [("x-mavapay-signature", utf8 (String.ofList
    (Bytes.toHex (Hmac.mac Primitives.standard.sha256 (utf8 "secret") body).val)))]

/-- The provider reports the payments of the two invoices. -/
def reported : List Action := invoiced ++
  request 8 (.receiveMavapayWebhook (webhookHeaders webhookBody) webhookBody)
    [choiceAt 2 (uuid 35)] ++
  request 9 (.receiveMavapayWebhook (webhookHeaders secondWebhookBody) secondWebhookBody)
    [choiceAt 3 (uuid 48)]

/-- A worker settles the invoices. -/
def settled : List Action := reported ++ worked 3 3 (uuid 36) ++ worked 4 3 (uuid 49)

end ApiSample

theorem sample_webhook_signed :
    ∃ job ∈ (System.after ApiSample.deployment ApiSample.reported).db.jobs.rows,
      ∃ eventId invoiceId, job.payload = .event "mavapay" eventId invoiceId ∧
      ∃ headers body, (System.after ApiSample.deployment ApiSample.reported).Notified
        ApiSample.deployment eventId invoiceId headers body := by
  have hsome : ∃ job ∈ (System.after ApiSample.deployment ApiSample.reported).db.jobs.rows,
      job.payload = .event "mavapay" "event" ⟨ApiSample.invoiceId⟩ := by decide +kernel
  obtain ⟨job, hmem, hpayload⟩ := hsome
  exact ⟨job, hmem, _, _, hpayload, ((webhooks_signed ApiSample.deployment ApiSample.reported).2 job
    hmem _ _ _ hpayload).2⟩

theorem sample_entry_paid_for :
    ∃ entry ∈ (System.after ApiSample.deployment ApiSample.settled).db.entries.rows,
      ∃ row ∈ (System.after ApiSample.deployment ApiSample.settled).db.invoices.rows,
      ∃ raffle ∈ (System.after ApiSample.deployment ApiSample.settled).db.raffles.rows,
      ∃ body request collection job eventId,
        entry.PaidBy row ∧ row.status = .settled ∧
        (System.after ApiSample.deployment ApiSample.settled).CollectedFor ApiSample.deployment row
          raffle body request collection ∧
        SettledOn ApiSample.deployment (System.after ApiSample.deployment ApiSample.settled)
          ApiSample.settled row.id job eventId collection.providerPaymentHash := by
  have hsome : (System.after ApiSample.deployment ApiSample.settled).db.entries.rows ≠ [] := by
    decide +kernel
  obtain ⟨entry, hmem⟩ := List.exists_mem_of_ne_nil _ hsome
  exact ⟨entry, hmem, entries_paid_for ApiSample.deployment ApiSample.settled entry hmem⟩

end OpenPool.Api
