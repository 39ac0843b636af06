import OpenPool.Api.Identity

/-! # Where rows come from

What is stored of an organizer, a raffle, an invoice or a webhook is what a handler has asked for,
after the checks of its route. -/

namespace OpenPool.Api

open Fallible Program Text

/-! ## Statements that were made -/

/-- A handler of the call has made the statement. -/
def System.Made (system : System) (call : Call) (statement : Statement) : Prop :=
  ∃ trace answer, system.Heard call (⟨.query statement, answer⟩ :: trace)

/-- The statement that runs an operation. -/
def statementOf : Op → Option Statement
  | .createOrganizer organizer => some (.createOrganizer organizer)
  | .createDraftRaffle raffle => some (.createDraftRaffle raffle)
  | .updateRaffle organizerId raffle => some (.updateRaffle organizerId raffle)
  | .transitionRaffle organizerId raffleId status =>
      some (.transitionRaffle organizerId raffleId status)
  | .createCollectionInvoice invoice => some (.createCollectionInvoice invoice)
  | .storeCollectionInvoice invoiceId quoteId paymentHash bolt11 expiresAt =>
      some (.storeCollectionInvoice invoiceId quoteId paymentHash bolt11 expiresAt)
  | .failCollectionInvoice invoiceId => some (.failCollectionInvoice invoiceId)
  | .recordWebhookAndEnqueue event _ _ _ => some (.recordWebhookAndEnqueue event)
  | .retryDeadJob id _ => some (.retryDeadJob id)
  | _ => none

theorem statementOf_op {choice : Choice} {statement : Statement} {op : Op}
    (h : statement.op choice = some op) : statementOf op = some statement := by
  cases statement with
  | createOrganizer | createDraftRaffle | updateRaffle | transitionRaffle
  | createCollectionInvoice | storeCollectionInvoice | failCollectionInvoice
  | recordWebhookAndEnqueue | retryDeadJob =>
      obtain rfl := Option.some.inj h
      rfl
  | _ => cases h

section Made

variable {deployment : Deployment} {system system' : System} {call : Call} {statement : Statement}

theorem System.Steps.made (h : System.Steps deployment system system')
    (hmade : system.Made call statement) : system'.Made call statement := by
  obtain ⟨trace, answer, hheard⟩ := hmade
  exact ⟨trace, answer, h.heard hheard⟩

theorem System.Ran.made {choice : Choice} (h : system.Ran system' deployment choice statement) :
    ∃ call, system'.Made call statement := by
  obtain ⟨call, trace, answer, hheard, -⟩ := h
  exact ⟨call, trace, answer, hheard⟩

/-- What was asked for was allowed by what the handler had been told. -/
theorem System.Made.allowed (h : system.Made call statement) (hpath : system.OnPath deployment) :
    ∃ trace, system.Heard call trace ∧ Allowed deployment.api call (.query statement) trace := by
  obtain ⟨trace, answer, hheard⟩ := h
  obtain ⟨task, htask⟩ := hheard.path hpath
  exact ⟨trace, hheard.earlier (List.suffix_cons _ _),
    htask.was_allowed (router_lawful deployment.api call)⟩

end Made

/-! ## The rows -/

/-- The statement sets the terms of a raffle for an organizer. -/
inductive Statement.Sets : Statement → OrganizerId → NewDraftRaffle → Prop
  | create (raffle : NewDraftRaffle) : Sets (.createDraftRaffle raffle) raffle.organizerId raffle
  | edit (organizerId : OrganizerId) (raffle : NewDraftRaffle) :
      Sets (.updateRaffle organizerId raffle) organizerId raffle

/-- The terms and the split are those of one statement. -/
def System.Offered (system : System) (terms : RaffleTerms) (split : PayoutSplitRow) : Prop :=
  ∃ call statement raffle, system.Made call statement ∧
    statement.Sets terms.organizerId raffle ∧ terms = raffle.terms terms.organizerId ∧
    split = raffle.payoutSplit.row raffle.id

/-- The invoice was asked for with these values. -/
def System.InvoiceAsked (system : System) (row : InvoiceRow) : Prop :=
  ∃ call invoice, system.Made call (.createCollectionInvoice invoice) ∧ row.id = invoice.id ∧
    row.participantPublicId = invoice.participantPublicId.val ∧
    row.payoutAddressCiphertext = some invoice.payoutAddressCiphertext

/-- What the payment provider has answered was stored for the invoice. -/
def System.Collected (system : System) (row : InvoiceRow) : Prop :=
  ∃ call quoteId paymentHash bolt11 expiresAt,
    system.Made call (.storeCollectionInvoice row.id quoteId paymentHash bolt11 expiresAt) ∧
    row = row.collected quoteId paymentHash bolt11 expiresAt

/-- The rows are those that handlers have asked for. -/
structure System.Accounts (system : System) (requested : Requested) : Prop where
  organizers : ∀ row ∈ requested.organizers, ∃ call, system.Made call
    (.createOrganizer ⟨row.id, row.displayName, row.lightningAddressCiphertext⟩)
  raffles : ∀ terms ∈ requested.raffles, ∀ split ∈ requested.splits, split.raffleId = terms.id →
    system.Offered terms split
  invoices : ∀ row ∈ requested.invoices, system.InvoiceAsked row
  collected : ∀ row ∈ requested.invoices, row.bolt11 ≠ none ∨ row.providerPaymentHash ≠ none →
    system.Collected row
  webhookEvents : ∀ row ∈ requested.webhookEvents, ∃ call event,
    system.Made call (.recordWebhookAndEnqueue event) ∧ row.providerName = event.providerName ∧
      row.providerEventId = event.providerEventId ∧ row.payloadHash = event.payloadHash.val
  notices : ∀ notice ∈ requested.notices, ∃ call event,
    system.Made call (.recordWebhookAndEnqueue event) ∧ notice = event.notice

section Rows

variable {deployment : Deployment} {system system' : System} {terms : RaffleTerms}
  {split : PayoutSplitRow} {requested requested' : Requested}

theorem System.Steps.offered (h : System.Steps deployment system system')
    (hoffered : system.Offered terms split) : system'.Offered terms split := by
  obtain ⟨call, statement, raffle, hmade, hsets⟩ := hoffered
  exact ⟨call, statement, raffle, h.made hmade, hsets⟩

theorem System.Steps.invoiceAsked (h : System.Steps deployment system system') {row : InvoiceRow}
    (hasked : system.InvoiceAsked row) : system'.InvoiceAsked row := by
  obtain ⟨call, invoice, hmade, hrow⟩ := hasked
  exact ⟨call, invoice, h.made hmade, hrow⟩

theorem System.Steps.collected (h : System.Steps deployment system system') {row : InvoiceRow}
    (hcollected : system.Collected row) : system'.Collected row := by
  obtain ⟨call, quoteId, paymentHash, bolt11, expiresAt, hmade, hrow⟩ := hcollected
  exact ⟨call, quoteId, paymentHash, bolt11, expiresAt, h.made hmade, hrow⟩

/-- What handlers have asked for they have asked for later too. -/
theorem System.Steps.accounts (h : System.Steps deployment system system')
    (hsound : system.Accounts requested) : system'.Accounts requested where
  organizers row hmem := by
    obtain ⟨call, hmade⟩ := hsound.organizers row hmem
    exact ⟨call, h.made hmade⟩
  raffles terms hterms split hsplit hid := h.offered (hsound.raffles terms hterms split hsplit hid)
  invoices row hmem := h.invoiceAsked (hsound.invoices row hmem)
  collected row hmem hsome := h.collected (hsound.collected row hmem hsome)
  webhookEvents row hmem := by
    obtain ⟨call, event, hmade, hrow⟩ := hsound.webhookEvents row hmem
    exact ⟨call, event, h.made hmade, hrow⟩
  notices notice hmem := by
    obtain ⟨call, event, hmade, hnotice⟩ := hsound.notices notice hmem
    exact ⟨call, event, h.made hmade, hnotice⟩

/-- A new raffle and its split. -/
theorem System.Accounts.create (hsound : system.Accounts requested) {call : Call}
    {raffle : NewDraftRaffle} (hmade : system.Made call (.createDraftRaffle raffle))
    (hkeyed : Requested.Keyed { requested with
      raffles := requested.raffles ++ [raffle.terms raffle.organizerId]
      splits := requested.splits ++ [raffle.payoutSplit.row raffle.id] }) :
    system.Accounts { requested with
      raffles := requested.raffles ++ [raffle.terms raffle.organizerId]
      splits := requested.splits ++ [raffle.payoutSplit.row raffle.id] } where
  raffles := by
    have hnew : system.Offered (raffle.terms raffle.organizerId)
        (raffle.payoutSplit.row raffle.id) :=
      ⟨call, _, raffle, hmade, .create raffle, rfl, rfl⟩
    have hlastTerms : raffle.terms raffle.organizerId ∈
        requested.raffles ++ [raffle.terms raffle.organizerId] :=
      List.mem_append_right _ (List.mem_singleton_self _)
    have hlastSplit : raffle.payoutSplit.row raffle.id ∈
        requested.splits ++ [raffle.payoutSplit.row raffle.id] :=
      List.mem_append_right _ (List.mem_singleton_self _)
    intro terms hterms split hsplit hid
    by_cases hraffle : terms.id = raffle.id
    · rw [hkeyed.raffles terms hterms _ hlastTerms hraffle,
        hkeyed.splits split hsplit _ hlastSplit (hid.trans hraffle)]
      exact hnew
    · refine hsound.raffles terms ?_ split ?_ hid
      · rcases List.mem_append.mp hterms with hold | hlast
        · exact hold
        · exact absurd (congrArg RaffleTerms.id (List.mem_singleton.mp hlast)) hraffle
      · rcases List.mem_append.mp hsplit with hold | hlast
        · exact hold
        · exact absurd (hid.symm.trans (congrArg PayoutSplitRow.raffleId
            (List.mem_singleton.mp hlast))) hraffle
  organizers := hsound.organizers
  invoices := hsound.invoices
  collected := hsound.collected
  webhookEvents := hsound.webhookEvents
  notices := hsound.notices

/-- New terms, and a new split, for a raffle. -/
theorem System.Accounts.edit (hsound : system.Accounts requested) {call : Call}
    {organizerId : OrganizerId} {raffle : NewDraftRaffle}
    (hmade : system.Made call (.updateRaffle organizerId raffle)) :
    system.Accounts { requested with
      raffles := requested.raffles.map fun terms =>
        if terms.id = raffle.id then raffle.terms organizerId else terms
      splits := requested.splits.map fun split =>
        if split.raffleId = raffle.id then raffle.payoutSplit.row raffle.id else split } where
  raffles := by
    intro terms hterms split hsplit hid
    obtain ⟨oldTerms, holdTerms, rfl⟩ := List.mem_map.mp hterms
    obtain ⟨oldSplit, holdSplit, rfl⟩ := List.mem_map.mp hsplit
    by_cases hraffle : oldTerms.id = raffle.id
    · rw [if_pos hraffle] at hid ⊢
      have hsame : oldSplit.raffleId = raffle.id := by
        by_contra hother
        rw [if_neg hother] at hid
        exact hother hid
      rw [if_pos hsame]
      exact ⟨call, _, raffle, hmade, .edit organizerId raffle, rfl, rfl⟩
    · rw [if_neg hraffle] at hid ⊢
      have hother : oldSplit.raffleId ≠ raffle.id := by
        intro hsame
        rw [if_pos hsame] at hid
        exact hraffle hid.symm
      rw [if_neg hother] at hid ⊢
      exact hsound.raffles oldTerms holdTerms oldSplit holdSplit hid
  organizers := hsound.organizers
  invoices := hsound.invoices
  collected := hsound.collected
  webhookEvents := hsound.webhookEvents
  notices := hsound.notices

/-- A new invoice, for which the provider has not been asked yet. -/
theorem System.Accounts.request (hsound : system.Accounts requested) {row : InvoiceRow}
    (hasked : system.InvoiceAsked row) (hprovider : row.bolt11 = none ∧ row.providerPaymentHash = none) :
    system.Accounts { requested with invoices := requested.invoices ++ [row] } where
  invoices := List.forall_mem_append.mpr ⟨hsound.invoices, List.forall_mem_singleton.mpr hasked⟩
  collected := by
    refine List.forall_mem_append.mpr ⟨hsound.collected, List.forall_mem_singleton.mpr ?_⟩
    rintro (hsome | hsome)
    · exact absurd hprovider.1 hsome
    · exact absurd hprovider.2 hsome
  organizers := hsound.organizers
  raffles := hsound.raffles
  webhookEvents := hsound.webhookEvents
  notices := hsound.notices

/-- The provider's answer for an invoice. -/
theorem System.Accounts.collect (hsound : system.Accounts requested) {call : Call}
    {invoiceId : InvoiceId} {quoteId paymentHash bolt11 : String} {expiresAt : ℤ}
    (hmade : system.Made call
      (.storeCollectionInvoice invoiceId quoteId paymentHash bolt11 expiresAt)) :
    system.Accounts { requested with
      invoices := requested.invoices.map fun row =>
        if row.id = invoiceId then row.collected quoteId paymentHash bolt11 expiresAt
        else row } where
  invoices := by
    intro row hmem
    obtain ⟨old, hold, rfl⟩ := List.mem_map.mp hmem
    have hasked := hsound.invoices old hold
    split
    · exact hasked
    · exact hasked
  collected := by
    intro row hmem hsome
    obtain ⟨old, hold, rfl⟩ := List.mem_map.mp hmem
    by_cases hid : old.id = invoiceId
    · rw [if_pos hid]
      exact ⟨call, quoteId, paymentHash, bolt11, expiresAt, hid ▸ hmade, rfl⟩
    · rw [if_neg hid] at hsome ⊢
      exact hsound.collected old hold hsome
  organizers := hsound.organizers
  raffles := hsound.raffles
  webhookEvents := hsound.webhookEvents
  notices := hsound.notices

/-- A statement of a handler accounts for what it changes. -/
theorem System.Accounts.change (hsound : system.Accounts requested) {op : Op} {call : Call}
    {statement : Statement} (hmade : system.Made call statement)
    (hop : statementOf op = some statement) (hstep : RequestStep op requested requested')
    (hkeyed : Requested.Keyed requested') : system.Accounts requested' := by
  cases hstep with
  | stay => exact hsound
  | organizer organizer =>
      obtain rfl := Option.some.inj hop
      exact { hsound with
        organizers := List.forall_mem_append.mpr ⟨hsound.organizers,
          List.forall_mem_singleton.mpr ⟨call, hmade⟩⟩ }
  | create raffle =>
      obtain rfl := Option.some.inj hop
      exact hsound.create hmade hkeyed
  | edit organizerId raffle =>
      obtain rfl := Option.some.inj hop
      exact hsound.edit hmade
  | pendingInvoice => cases hop
  | collectionInvoice invoice row _ hid hparticipant _ haddress hprovider =>
      obtain rfl := Option.some.inj hop
      exact hsound.request ⟨call, invoice, hmade, hid, hparticipant, haddress⟩
        ⟨hprovider.1, hprovider.2.2⟩
  | collected =>
      obtain rfl := Option.some.inj hop
      exact hsound.collect hmade
  | webhook event eventRowId jobId now _ notices hnotices =>
      obtain rfl := Option.some.inj hop
      refine { hsound with
        webhookEvents := List.forall_mem_append.mpr ⟨hsound.webhookEvents,
          List.forall_mem_singleton.mpr ⟨call, event, hmade, rfl, rfl, rfl⟩⟩
        notices := ?_ }
      rcases hnotices with rfl | rfl
      · exact hsound.notices
      · exact List.forall_mem_append.mpr ⟨hsound.notices,
          List.forall_mem_singleton.mpr ⟨call, event, hmade, rfl⟩⟩

/-- In every run the handlers have asked for what is stored. -/
theorem System.accounts_after (deployment : Deployment) (actions : List Action) :
    (System.after deployment actions).Accounts (System.after deployment actions).db.requested := by
  refine StateMachine.invariant (fun (system : System) action (hsound : system.Accounts
    system.db.requested) => ?_) ?_ actions
  · have hstep := system.step_spec deployment action
    have hkept := hstep.accounts hsound
    rcases hstep.requested with hsame | ⟨choice, statement, op, hran, hop, hchange⟩
    · rwa [hsame]
    · obtain ⟨call, hmade⟩ := hran.made
      exact hkept.change hmade (statementOf_op hop) hchange (keyed_requested _)
  · constructor <;> exact fun _ hmem => absurd hmem List.not_mem_nil

end Rows

end OpenPool.Api
