import OpenPool.Store.Frames

/-! # What clients ask for

The organizers, the terms of the raffles, the invoices as they were requested, the webhook events and
the jobs for them. The API writes them; every other operation leaves them as they are. -/

namespace OpenPool

open Fallible

/-- The columns of a raffle that its organizer sets. -/
structure RaffleTerms where
  id : RaffleId
  organizerId : OrganizerId
  name : String
  entryPriceSats : ℤ
  startTime : ℤ
  endTime : ℤ
  randomnessDelayBlocks : ℤ
  deriving DecidableEq

def RaffleRow.terms (row : RaffleRow) : RaffleTerms :=
  ⟨row.id, row.organizerId, row.name, row.entryPriceSats, row.startTime, row.endTime,
    row.randomnessDelayBlocks⟩

/-- The terms as they are stored for an organizer. -/
def NewDraftRaffle.terms (raffle : NewDraftRaffle) (organizerId : OrganizerId) : RaffleTerms where
  id := raffle.id
  organizerId
  name := raffle.name
  entryPriceSats := raffle.entryPriceSats.asU64.toNat
  startTime := toTimestamp raffle.startTime
  endTime := toTimestamp raffle.endTime
  randomnessDelayBlocks := raffle.randomnessDelayBlocks

/-- Everything about an invoice but what was decided about it. -/
def InvoiceRow.request (row : InvoiceRow) : InvoiceRow := row.withStatus .pending

/-- A webhook event, and the invoice that its reconciliation is about. -/
structure Notice where
  providerName : String
  providerEventId : String
  invoiceId : InvoiceId
  deriving DecidableEq

/-- The event that a job was enqueued for. -/
def JobRow.notice (row : JobRow) : Option Notice :=
  match row.payload with
  | .event providerName providerEventId invoiceId =>
      some ⟨providerName, providerEventId, invoiceId⟩
  | .raffle _ | .other _ => none

def NewWebhookEvent.notice (event : NewWebhookEvent) : Notice :=
  ⟨event.providerName, event.providerEventId, event.invoiceId⟩

structure Requested where
  organizers : List OrganizerRow
  raffles : List RaffleTerms
  splits : List PayoutSplitRow
  invoices : List InvoiceRow
  webhookEvents : List WebhookEventRow
  notices : List Notice

def Database.requested (db : Database) : Requested where
  organizers := db.organizers.rows
  raffles := db.raffles.rows.map RaffleRow.terms
  splits := db.payoutSplits.rows
  invoices := db.invoices.rows.map InvoiceRow.request
  webhookEvents := db.webhookEvents.rows
  notices := db.jobs.rows.filterMap JobRow.notice

/-- A raffle has one row of terms and one split, and an invoice one row. -/
structure Requested.Keyed (requested : Requested) : Prop where
  raffles : ∀ a ∈ requested.raffles, ∀ b ∈ requested.raffles, a.id = b.id → a = b
  splits : ∀ a ∈ requested.splits, ∀ b ∈ requested.splits, a.raffleId = b.raffleId → a = b
  invoices : ∀ a ∈ requested.invoices, ∀ b ∈ requested.invoices, a.id = b.id → a = b

theorem keyed_requested (db : Database) : Requested.Keyed db.requested where
  raffles := by
    rintro a ha b hb hid
    obtain ⟨row, hrow, rfl⟩ := List.mem_map.mp ha
    obtain ⟨other, hother, rfl⟩ := List.mem_map.mp hb
    exact congrArg RaffleRow.terms (db.raffles.eq_of_clash hrow hother hid)
  splits a ha b hb hid := db.payoutSplits.eq_of_clash ha hb hid
  invoices := by
    rintro a ha b hb hid
    obtain ⟨row, hrow, rfl⟩ := List.mem_map.mp ha
    obtain ⟨other, hother, rfl⟩ := List.mem_map.mp hb
    exact congrArg InvoiceRow.request (db.invoices.eq_of_clash hrow hother (.inl hid))

/-- What the collection provider has answered for an invoice. -/
def InvoiceRow.collected (providerQuoteId providerPaymentHash bolt11 : String) (expiresAt : ℤ)
    (row : InvoiceRow) : InvoiceRow :=
  { row with
    providerQuoteId := some providerQuoteId
    providerPaymentHash := some providerPaymentHash
    bolt11 := some bolt11
    expiresAt := some (toTimestamp expiresAt) }

/-- The changes that an operation can make. -/
inductive RequestStep : Op → Requested → Requested → Prop
  | stay (op : Op) (requested : Requested) : RequestStep op requested requested
  | organizer (organizer : NewOrganizer) (requested : Requested) :
      RequestStep (.createOrganizer organizer) requested
        { requested with organizers := requested.organizers ++
            [⟨organizer.id, organizer.displayName, organizer.lightningAddressCiphertext⟩] }
  | create (raffle : NewDraftRaffle) (requested : Requested)
      (hprice : raffle.entryPriceSats.asU64.toNat < 2 ^ 63) :
      RequestStep (.createDraftRaffle raffle) requested
        { requested with
          raffles := requested.raffles ++ [raffle.terms raffle.organizerId]
          splits := requested.splits ++ [raffle.payoutSplit.row raffle.id] }
  | edit (organizerId : OrganizerId) (raffle : NewDraftRaffle) (requested : Requested)
      (hprice : raffle.entryPriceSats.asU64.toNat < 2 ^ 63)
      (hown : ∃ terms ∈ requested.raffles, terms.id = raffle.id ∧
        terms.organizerId = organizerId) :
      RequestStep (.updateRaffle organizerId raffle) requested
        { requested with
          raffles := requested.raffles.map fun terms =>
            if terms.id = raffle.id then raffle.terms organizerId else terms
          splits := requested.splits.map fun split =>
            if split.raffleId = raffle.id then raffle.payoutSplit.row raffle.id else split }
  | pendingInvoice (invoice : NewInvoice) (row : InvoiceRow) (requested : Requested)
      (hfits : row.amountSats < 2 ^ 63 ∧ row.ticketCount < 2 ^ 63) :
      RequestStep (.createPendingInvoice invoice) requested
        { requested with invoices := requested.invoices ++ [row] }
  | collectionInvoice (invoice : NewCollectionInvoice) (row : InvoiceRow) (requested : Requested)
      (hid : row.id = invoice.id)
      (hparticipant : row.participantPublicId = invoice.participantPublicId.val)
      (hreference : row.paymentReferenceHash = invoice.paymentReferenceHash.val)
      (haddress : row.payoutAddressCiphertext = some invoice.payoutAddressCiphertext)
      (hprovider : row.bolt11 = none ∧ row.providerQuoteId = none ∧ row.providerPaymentHash = none)
      (hfits : row.amountSats < 2 ^ 63 ∧ row.ticketCount < 2 ^ 63) :
      RequestStep (.createCollectionInvoice invoice) requested
        { requested with invoices := requested.invoices ++ [row] }
  | collected (invoiceId : InvoiceId) (providerQuoteId providerPaymentHash bolt11 : String)
      (expiresAt : ℤ) (requested : Requested)
      (hfree : ∃ row ∈ requested.invoices, row.id = invoiceId ∧ row.bolt11 = none) :
      RequestStep
        (.storeCollectionInvoice invoiceId providerQuoteId providerPaymentHash bolt11 expiresAt)
        requested
        { requested with
          invoices := requested.invoices.map fun row =>
            if row.id = invoiceId then
              row.collected providerQuoteId providerPaymentHash bolt11 expiresAt
            else row }
  | webhook (event : NewWebhookEvent) (eventRowId jobId : Uuid) (now : ℤ) (requested : Requested)
      (notices : List Notice) (hnotices : notices = requested.notices ∨
        notices = requested.notices ++ [event.notice]) :
      RequestStep (.recordWebhookAndEnqueue event eventRowId jobId now) requested
        { requested with
          webhookEvents := requested.webhookEvents ++
            [⟨eventRowId, event.providerName, event.providerEventId, event.payloadHash.val⟩]
          notices }

section Tables

/-- An update keeps a part of the rows that the change of a row keeps. -/
theorem Table.map_of_update {Row : Type} [Schema Row] {α : Type} {part : Row → α}
    {table table' : Table Row} {filter : Row → Bool} {set : Row → Row} {returned : List Row}
    (h : table.update filter set = .ok (table', returned))
    (hkeep : ∀ row, part (set row) = part row) : table'.rows.map part = table.rows.map part := by
  rw [(Table.rows_of_update h).1, List.map_map]
  refine List.map_congr_left fun row _ => ?_
  simp only [Function.comp_apply]
  split
  · exact hkeep row
  · rfl

/-- An update of one row by its key. -/
theorem Table.rows_of_update_one {Row : Type} [Schema Row] {table table' : Table Row}
    {filter : Row → Bool} {set : Row → Row} {returned : List Row}
    (h : table.update filter set = .ok (table', returned)) (hone : returned.length = 1)
    (key : Row → Prop) [DecidablePred key] (hkey : ∀ row, filter row = true → key row)
    (hunique : ∀ a ∈ table.rows, ∀ b ∈ table.rows, key a → key b → a = b) :
    (∃ row ∈ table.rows, filter row = true) ∧
      table'.rows = table.rows.map fun row => if key row then set row else row := by
  obtain ⟨hrows, hreturned⟩ := Table.rows_of_update h
  rw [hreturned, List.length_map] at hone
  obtain ⟨row, hrow⟩ := List.length_eq_one_iff.mp hone
  obtain ⟨hmem, hfilter⟩ := List.mem_filter.mp (hrow ▸ List.mem_singleton_self row)
  refine ⟨⟨row, hmem, hfilter⟩, hrows.trans (List.map_congr_left fun other hother => ?_)⟩
  by_cases hother' : key other
  · obtain rfl := hunique other hother row hmem hother' (hkey row hfilter)
    rw [if_pos hfilter, if_pos hother']
  · rw [if_neg hother', if_neg fun hmatch => hother' (hkey other hmatch)]

end Tables

/-! ## Operations that ask for nothing -/

section Frames

variable {prim : Primitives} {db : Database}

theorem requested_of_raffles {raffles : Table RaffleRow}
    (h : raffles.rows.map RaffleRow.terms = db.raffles.rows.map RaffleRow.terms) :
    Database.requested { db with raffles } = db.requested := by
  simp only [Database.requested, h]

theorem requested_of_invoices {invoices : Table InvoiceRow}
    (h : invoices.rows.map InvoiceRow.request = db.invoices.rows.map InvoiceRow.request) :
    Database.requested { db with invoices } = db.requested := by
  simp only [Database.requested, h]

theorem requested_of_jobs {jobs : Table JobRow}
    (h : jobs.rows.filterMap JobRow.notice = db.jobs.rows.filterMap JobRow.notice) :
    Database.requested { db with jobs } = db.requested := by
  simp only [Database.requested, h]

/-- No update of a job changes what it was enqueued for. -/
theorem notices_of_update {jobs jobs' : Table JobRow} {filter : JobRow → Bool}
    {set : JobRow → JobRow} {returned : List JobRow}
    (h : jobs.update filter set = .ok (jobs', returned))
    (hkeep : ∀ row, (set row).notice = row.notice) :
    jobs'.rows.filterMap JobRow.notice = jobs.rows.filterMap JobRow.notice := by
  have hmap := Table.map_of_update h hkeep
  have hsome : ∀ rows : List JobRow,
      rows.filterMap JobRow.notice = (rows.map JobRow.notice).filterMap id := by
    intro rows
    rw [List.filterMap_map]
    rfl
  rw [hsome, hsome, hmap]

theorem map_terms_of_execute {raffles raffles' : Table RaffleRow} {filter : RaffleRow → Bool}
    {set : RaffleRow → RaffleRow} (h : execute filter set raffles = .ok raffles')
    (hkeep : ∀ row, (set row).terms = row.terms) :
    raffles'.rows.map RaffleRow.terms = raffles.rows.map RaffleRow.terms := by
  obtain ⟨returned, hupdate⟩ := (execute_eq_ok_iff _ _ _ _).mp h
  exact Table.map_of_update hupdate hkeep

theorem map_request_of_execute {invoices invoices' : Table InvoiceRow}
    {filter : InvoiceRow → Bool} {status : InvoiceStatus}
    (h : execute filter (InvoiceRow.withStatus status) invoices = .ok invoices') :
    invoices'.rows.map InvoiceRow.request = invoices.rows.map InvoiceRow.request := by
  obtain ⟨returned, hupdate⟩ := (execute_eq_ok_iff _ _ _ _).mp h
  exact Table.map_of_update hupdate fun _ => rfl

theorem insertRaffleJob_requested {id : Uuid} {kind : JobKind} {raffleId : RaffleId} {now : ℤ}
    {db' : Database} (h : insertRaffleJob id kind raffleId now db = .ok db') :
    db'.requested = db.requested := by
  simp only [insertRaffleJob, insertJob, bind_eq_ok_iff, pure_eq_ok_iff, sql_eq_ok_iff] at h
  obtain ⟨⟨jobs, inserted⟩, hinsert, rfl⟩ := h
  refine requested_of_jobs ?_
  rcases Table.rows_of_insertOrIgnore hinsert with ⟨-, rfl, -⟩ | ⟨-, hrows, -⟩
  · rfl
  · rw [hrows, List.filterMap_append]
    exact List.append_nil _

theorem insertCloseJobs_requested {jobIds : RaffleId → Uuid} {now : ℤ} {rows : List RaffleRow}
    {db db' : Database} (h : insertCloseJobs jobIds now db rows = .ok db') :
    db'.requested = db.requested := by
  induction rows generalizing db with
  | nil =>
      cases h
      rfl
  | cons row rows ih =>
      simp only [insertCloseJobs, bind_eq_ok_iff] at h
      obtain ⟨middle, hjob, hrest⟩ := h
      exact (ih hrest).trans (insertRaffleJob_requested hjob)

theorem insertPayouts_requested {raffleId : RaffleId} {payoutIds : RecipientType → Uuid} {now : ℤ}
    {payouts : List (RecipientType × UInt64)} {db db' : Database}
    (h : insertPayouts raffleId payoutIds now db payouts = .ok db') :
    db'.requested = db.requested := by
  induction payouts generalizing db with
  | nil =>
      cases h
      rfl
  | cons payout payouts ih =>
      obtain ⟨recipient, amount⟩ := payout
      unfold insertPayouts at h
      split at h
      · simp only [bind_eq_ok_iff] at h
        obtain ⟨amountSats, -, ⟨table, inserted⟩, -, hrest⟩ := h
        exact (ih hrest).trans rfl
      · exact ih h

theorem transitionRaffle_requested {organizerId : OrganizerId} {raffleId : RaffleId}
    {status : Option RaffleStatus} :
    Keeps Database.requested db (transitionRaffle organizerId raffleId status db) := by
  simp only [transitionRaffle, keeps_bind_iff, keeps_pure_iff, sql_eq_ok_iff]
  rintro target - ⟨raffles, returned⟩ hupdate - -
  exact requested_of_raffles (Table.map_of_update hupdate fun _ => rfl)

theorem failCollectionInvoice_requested {invoiceId : InvoiceId} :
    Keeps Database.requested db (failCollectionInvoice invoiceId db) := by
  simp only [failCollectionInvoice, keeps_bind_iff, keeps_pure_iff]
  exact fun invoices hinvoices => requested_of_invoices (map_request_of_execute hinvoices)

theorem markCollectionUncollectible_requested {invoiceId : InvoiceId} :
    Keeps Database.requested db (markCollectionUncollectible invoiceId db) := by
  simp only [markCollectionUncollectible, keeps_bind_iff, keeps_pure_iff]
  exact fun invoices hinvoices => requested_of_invoices (map_request_of_execute hinvoices)

theorem settleInvoice_requested {sha256 : List UInt8 → Hash32} {invoiceId : InvoiceId}
    {entryId : EntryId} {settledAt : ℤ} :
    Keeps Database.requested db
      (settleInvoiceAndAppendEntry sha256 invoiceId entryId settledAt db) := by
  rw [settleInvoiceAndAppendEntry, keeps_bind_iff]
  intro invoice _
  split
  · intro new value h
    cases hentry : settledEntry invoiceId db with
    | error error => simp [hentry, Except.map] at h
    | ok entry =>
        obtain ⟨rfl, -⟩ : db = new ∧ entry = value := by simpa [hentry, Except.map] using h
        rfl
  · simp only [appendEntry, keeps_bind_iff, keeps_pure_iff]
    intro _ _ raffle _ _ _ entry _ row _ entries _ pool _ newPool _ invoices hinvoices total _
      tickets _ raffles hraffles
    have hterms := map_terms_of_execute hraffles fun _ => rfl
    simp only [Database.requested, hterms, map_request_of_execute hinvoices]

theorem createRefundEligibility_requested {raffleId : RaffleId} {invoiceId : InvoiceId}
    {reason : RefundReason} {id : Uuid} :
    Keeps Database.requested db (createRefundEligibility raffleId invoiceId reason id db) := by
  simp only [createRefundEligibility, keeps_bind_iff, keeps_pure_iff]
  intros
  rfl

theorem markLateSettlementForRefund_requested {invoiceId : InvoiceId} {refundId : Uuid} :
    Keeps Database.requested db (markLateSettlementForRefund invoiceId refundId db) := by
  simp only [markLateSettlementForRefund, keeps_bind_iff, keeps_pure_iff, applyIf_eq_ok_iff]
  rintro invoice - invoices hinvoices ⟨refunds, inserted⟩ - refund -
  rcases hinvoices with ⟨-, hinvoices⟩ | ⟨-, rfl⟩
  · exact requested_of_invoices (map_request_of_execute hinvoices)
  · rfl

theorem scheduleDueCloses_requested {jobIds : RaffleId → Uuid} {now : ℤ} :
    Keeps Database.requested db (scheduleDueCloses jobIds now db) := by
  simp only [scheduleDueCloses, keeps_bind_iff, keeps_pure_iff, sql_eq_ok_iff]
  rintro ⟨raffles, returned⟩ hupdate db' hjobs
  exact (insertCloseJobs_requested hjobs).trans
    (requested_of_raffles (Table.map_of_update hupdate fun _ => rfl))

theorem freezeRaffle_requested {sha256 : List UInt8 → Hash32} {raffleId : RaffleId} {jobId : Uuid}
    {now : ℤ} : Keeps Database.requested db (freezeRaffle sha256 raffleId jobId now db) := by
  simp only [freezeRaffle, keeps_bind_iff, keeps_pure_iff, applyIf_eq_ok_iff]
  rintro row - - - count - head - raffles hraffles db' hjob
  have hterms := map_terms_of_execute hraffles fun _ => rfl
  rcases hjob with ⟨-, hjob⟩ | ⟨-, rfl⟩
  · exact (insertRaffleJob_requested hjob).trans (requested_of_raffles hterms)
  · exact requested_of_raffles hterms

theorem recordCanonicalBlock_requested {height : UInt64} {blockHash previousHash : Hash32}
    {blockTime : ℤ} :
    Keeps Database.requested db
      (recordCanonicalBlock height blockHash previousHash blockTime db) := by
  simp only [recordCanonicalBlock, keeps_bind_iff, keeps_pure_iff]
  intros
  rfl

theorem createDrawAndPayouts_requested {raffleId : RaffleId}
    {closeHeight randomnessHeight : UInt64} {closeHash randomnessHash : Hash32} {ids : DrawIds}
    {now : ℤ} :
    Keeps Database.requested db (createDrawAndPayouts prim raffleId closeHeight closeHash
      randomnessHeight randomnessHash ids now db) := by
  simp only [createDrawAndPayouts, keeps_bind_iff, keeps_pure_iff]
  rintro raffle - - - root - entries - total - result - split - pool - ticket - - - draws - paid
    hpayouts queued hjob close - randomness - raffles hraffles
  have hterms := map_terms_of_execute hraffles fun _ => rfl
  exact (requested_of_raffles hterms).trans
    ((insertRaffleJob_requested hjob).trans ((insertPayouts_requested hpayouts).trans rfl))

theorem generateTerminalProof_requested {raffleId : RaffleId} {proofId : Uuid} :
    Keeps Database.requested db (generateTerminalProof prim raffleId proofId db) := by
  simp only [generateTerminalProof, keeps_bind_iff, keeps_pure_iff]
  intros
  rfl

theorem recordProofPublication_requested {raffleId : RaffleId}
    {storageUri versionId etag : String} {now : ℤ} :
    Keeps Database.requested db
      (recordProofPublication raffleId storageUri versionId etag now db) := by
  simp only [recordProofPublication, keeps_bind_iff, keeps_pure_iff]
  intros
  rfl

theorem claimPayout_requested {raffleId : RaffleId} {workerId : String} {now : ℤ} {choice : ℕ}
    {locked : List Uuid} :
    Keeps Database.requested db (claimPayout raffleId workerId now choice locked db) := by
  unfold claimPayout
  split
  · rintro new value h
    cases h
    rfl
  · simp only [keeps_bind_iff, keeps_pure_iff]
    intros
    rfl

theorem failPayout_requested {payoutId : Uuid} {workerId reason : String} :
    Keeps Database.requested db (failPayout payoutId workerId reason db) := by
  simp only [failPayout, keeps_bind_iff, keeps_pure_iff]
  intros
  rfl

theorem markPaidOut_requested {raffleId : RaffleId} {db' : Database}
    (h : markPaidOut raffleId db = .ok db') : db'.requested = db.requested := by
  simp only [markPaidOut, bind_eq_ok_iff, pure_eq_ok_iff] at h
  obtain ⟨raffles, hraffles, rfl⟩ := h
  exact requested_of_raffles (map_terms_of_execute hraffles fun _ => rfl)

theorem commit_requested {transaction : SettleTransaction} :
    Keeps Database.requested db (transaction.commit db) := by
  simp only [SettleTransaction.commit, keeps_bind_iff]
  intro payouts _
  unfold SettleStage.finish
  split
  · simp only [keeps_bind_iff, keeps_pure_iff]
    exact fun paid hpaid queued hjob =>
      (insertRaffleJob_requested hjob).trans ((markPaidOut_requested hpaid).trans rfl)
  · rintro new value h
    cases h
    rfl

theorem claimJob_requested {workerId : String} {leaseSeconds now : ℤ} {locked : List Uuid}
    {choice : ℕ} :
    Keeps Database.requested db (claimJob workerId leaseSeconds now locked choice db) := by
  unfold claimJob
  split
  · rintro new value h
    cases h
    rfl
  · simp only [keeps_bind_iff, keeps_pure_iff, mapError_eq_ok_iff]
    exact fun _ hupdate => requested_of_jobs (notices_of_update hupdate fun _ => rfl)

theorem succeedJob_requested {jobId : Uuid} {workerId : String} :
    Keeps Database.requested db (succeedJob jobId workerId db) := by
  simp only [succeedJob, keeps_bind_iff, keeps_pure_iff, mapError_eq_ok_iff]
  exact fun _ hupdate _ _ => requested_of_jobs (notices_of_update hupdate fun _ => rfl)

theorem failOrRetryJob_requested {job : ClaimedJob} {workerId error : String}
    {retryAfterSeconds now : ℤ} :
    Keeps Database.requested db
      (failOrRetryJob job workerId retryAfterSeconds error now db) := by
  simp only [failOrRetryJob, keeps_bind_iff, keeps_pure_iff, mapError_eq_ok_iff]
  exact fun _ hupdate _ _ => requested_of_jobs (notices_of_update hupdate fun _ => rfl)

theorem retryDeadJob_requested {id : Uuid} {now : ℤ} :
    Keeps Database.requested db (retryDeadJob id now db) := by
  simp only [retryDeadJob, keeps_bind_iff, keeps_pure_iff, sql_eq_ok_iff]
  exact fun _ hupdate => requested_of_jobs (notices_of_update hupdate fun _ => rfl)

end Frames

/-! ## The operations of the API -/

section Requests

variable {prim : Primitives} {db db' : Database}

theorem createOrganizer_request {organizer : NewOrganizer} {u : Unit}
    (h : createOrganizer organizer db = .ok (db', u)) :
    RequestStep (.createOrganizer organizer) db.requested db'.requested := by
  simp only [createOrganizer, bind_eq_ok_iff, pure_eq_ok_iff, sql_eq_ok_iff, Prod.mk.injEq] at h
  obtain ⟨organizers, hinsert, rfl, -⟩ := h
  have hrequested : Database.requested { db with organizers } = { db.requested with
      organizers := db.requested.organizers ++
        [⟨organizer.id, organizer.displayName, organizer.lightningAddressCiphertext⟩] } := by
    simp only [Database.requested, Table.rows_of_insert hinsert]
  rw [hrequested]
  exact .organizer organizer _

theorem createDraftRaffle_request {raffle : NewDraftRaffle} {u : Unit}
    (h : createDraftRaffle raffle db = .ok (db', u)) :
    RequestStep (.createDraftRaffle raffle) db.requested db'.requested := by
  simp only [createDraftRaffle, bind_eq_ok_iff, pure_eq_ok_iff, sql_eq_ok_iff, asI64_eq_ok_iff,
    Prod.mk.injEq] at h
  obtain ⟨price, ⟨rfl, hprice⟩, -, -, raffles, hraffles, splits, hsplits, rfl, -⟩ := h
  have hrequested : Database.requested { db with raffles, payoutSplits := splits } =
      { db.requested with
        raffles := db.requested.raffles ++ [raffle.terms raffle.organizerId]
        splits := db.requested.splits ++ [raffle.payoutSplit.row raffle.id] } := by
    simp only [Database.requested, Table.rows_of_insert hraffles, Table.rows_of_insert hsplits,
      List.map_append, List.map_singleton]
    rfl
  rw [hrequested]
  exact .create raffle _ hprice

theorem updateRaffle_request {organizerId : OrganizerId} {raffle : NewDraftRaffle} {u : Unit}
    (h : updateRaffle organizerId raffle db = .ok (db', u)) :
    RequestStep (.updateRaffle organizerId raffle) db.requested db'.requested := by
  simp only [updateRaffle, bind_eq_ok_iff, pure_eq_ok_iff, sql_eq_ok_iff, asI64_eq_ok_iff,
    ensure_eq_ok_iff, execute_eq_ok_iff, Prod.mk.injEq] at h
  obtain ⟨price, ⟨rfl, hprice⟩, ⟨raffles, returned⟩, hraffles, -, hone, splits, ⟨others, hsplits⟩, rfl,
    -⟩ := h
  obtain ⟨⟨row, hrow, hfilter⟩, hrows⟩ := Table.rows_of_update_one hraffles hone
    (fun row => row.id = raffle.id) (fun row hmatch => (of_decide_eq_true hmatch).1)
    (fun a ha b hb hkey hkey' => db.raffles.eq_of_clash ha hb (hkey.trans hkey'.symm))
  simp only [decide_eq_true_eq] at hfilter
  have hterms : raffles.rows.map RaffleRow.terms = (db.raffles.rows.map RaffleRow.terms).map
      fun terms => if terms.id = raffle.id then raffle.terms organizerId else terms := by
    rw [hrows, List.map_map, List.map_map]
    refine List.map_congr_left fun other hother => ?_
    simp only [Function.comp_apply]
    by_cases hid : other.id = raffle.id
    · obtain rfl : other = row :=
        db.raffles.eq_of_clash hother hrow (hid.trans hfilter.1.symm)
      rw [if_pos hid, if_pos (show other.terms.id = raffle.id from hid)]
      simp only [RaffleRow.terms, NewDraftRaffle.terms, hid, hfilter.2.1]
    · rw [if_neg hid, if_neg (show ¬ other.terms.id = raffle.id from hid)]
  have hrequested : Database.requested { db with raffles, payoutSplits := splits } =
      { db.requested with
        raffles := db.requested.raffles.map fun terms =>
          if terms.id = raffle.id then raffle.terms organizerId else terms
        splits := db.requested.splits.map fun split =>
          if split.raffleId = raffle.id then raffle.payoutSplit.row raffle.id else split } := by
    simp only [Database.requested, hterms, (Table.rows_of_update hsplits).1, decide_eq_true_eq]
  rw [hrequested]
  exact .edit organizerId raffle _ hprice
    ⟨row.terms, List.mem_map_of_mem hrow, hfilter.1, hfilter.2.1⟩

/-- What is written to a `BIGINT` fits there. -/
theorem asI64_lt {value : UInt64} {result : ℤ} (h : asI64 value = .ok result) : result < 2 ^ 63 := by
  obtain ⟨rfl, hlt⟩ := (asI64_eq_ok_iff _ _).mp h
  exact_mod_cast hlt

theorem requested_of_insert {row : InvoiceRow} {invoices : Table InvoiceRow}
    (h : db.invoices.insert row = .ok invoices) :
    Database.requested { db with invoices } =
      { db.requested with invoices := db.requested.invoices ++ [row.request] } := by
  simp only [Database.requested, Table.rows_of_insert h, List.map_append, List.map_singleton]

theorem createPendingInvoice_request {invoice : NewInvoice} {u : Unit}
    (h : createPendingInvoice invoice db = .ok (db', u)) :
    RequestStep (.createPendingInvoice invoice) db.requested db'.requested := by
  simp only [createPendingInvoice, bind_eq_ok_iff, pure_eq_ok_iff, sql_eq_ok_iff,
    Prod.mk.injEq] at h
  obtain ⟨amount, hamount, count, hcount, -, -, invoices, hinsert, rfl, -⟩ := h
  rw [requested_of_insert hinsert]
  exact .pendingInvoice invoice _ _ ⟨asI64_lt hamount, asI64_lt hcount⟩

theorem createCollectionInvoice_request {invoice : NewCollectionInvoice}
    {pending : PendingCollectionInvoice}
    (h : createCollectionInvoice invoice db = .ok (db', pending)) :
    RequestStep (.createCollectionInvoice invoice) db.requested db'.requested := by
  simp only [createCollectionInvoice, bind_eq_ok_iff, pure_eq_ok_iff, sql_eq_ok_iff,
    Prod.mk.injEq] at h
  obtain ⟨raffle, -, -, -, -, -, -, -, price, -, amountSats, -, amount, hamount, count, hcount,
    invoices, hinsert, rfl, -⟩ := h
  rw [requested_of_insert hinsert]
  exact .collectionInvoice invoice _ _ rfl rfl rfl rfl ⟨rfl, rfl, rfl⟩
    ⟨asI64_lt hamount, asI64_lt hcount⟩

theorem storeCollectionInvoice_request {invoiceId : InvoiceId}
    {quoteId paymentHash bolt11 : String} {expiresAt : ℤ} {u : Unit}
    (h : storeCollectionInvoice invoiceId quoteId paymentHash bolt11 expiresAt db =
      .ok (db', u)) :
    RequestStep (.storeCollectionInvoice invoiceId quoteId paymentHash bolt11 expiresAt)
      db.requested db'.requested := by
  simp only [storeCollectionInvoice, bind_eq_ok_iff, pure_eq_ok_iff, sql_eq_ok_iff,
    ensure_eq_ok_iff, Prod.mk.injEq] at h
  obtain ⟨⟨invoices, returned⟩, hupdate, -, hone, rfl, -⟩ := h
  obtain ⟨⟨row, hrow, hfilter⟩, hrows⟩ := Table.rows_of_update_one hupdate hone
    (fun row => row.id = invoiceId) (fun row hmatch => (of_decide_eq_true hmatch).1)
    (fun a ha b hb hkey hkey' => db.invoices.eq_of_clash ha hb (.inl (hkey.trans hkey'.symm)))
  simp only [decide_eq_true_eq] at hfilter
  have hinvoices : invoices.rows.map InvoiceRow.request =
      (db.invoices.rows.map InvoiceRow.request).map fun row =>
        if row.id = invoiceId then row.collected quoteId paymentHash bolt11 expiresAt else row := by
    rw [hrows, List.map_map, List.map_map]
    refine List.map_congr_left fun other _ => ?_
    simp only [Function.comp_apply]
    by_cases hid : other.id = invoiceId
    · rw [if_pos hid, if_pos (show other.request.id = invoiceId from hid)]
      rfl
    · rw [if_neg hid, if_neg (show ¬ other.request.id = invoiceId from hid)]
  have hrequested : Database.requested { db with invoices } = { db.requested with
      invoices := db.requested.invoices.map fun row =>
        if row.id = invoiceId then row.collected quoteId paymentHash bolt11 expiresAt
        else row } := by
    simp only [Database.requested, hinvoices]
  rw [hrequested]
  exact .collected invoiceId quoteId paymentHash bolt11 expiresAt _
    ⟨row.request, List.mem_map_of_mem hrow, hfilter.1, hfilter.2.2⟩

theorem recordWebhookAndEnqueue_request {event : NewWebhookEvent} {eventRowId jobId : Uuid}
    {now : ℤ} {inserted : Bool}
    (h : recordWebhookAndEnqueue event eventRowId jobId now db = .ok (db', inserted)) :
    RequestStep (.recordWebhookAndEnqueue event eventRowId jobId now) db.requested
      db'.requested := by
  simp only [recordWebhookAndEnqueue, bind_eq_ok_iff, pure_eq_ok_iff, sql_eq_ok_iff,
    applyIf_eq_ok_iff, Prod.mk.injEq] at h
  obtain ⟨⟨webhookEvents, new⟩, hinsert, middle, hjob, rfl, rfl⟩ := h
  rcases Table.rows_of_insertOrIgnore hinsert with ⟨hold, rfl, -⟩ | ⟨-, hrows, -⟩
  · rcases hjob with ⟨hnew, -⟩ | ⟨-, rfl⟩
    · cases hold.symm.trans hnew
    · exact .stay _ _
  · obtain ⟨notices, hnotices, hmiddle⟩ : ∃ notices,
        (notices = db.requested.notices ∨
          notices = db.requested.notices ++ [event.notice]) ∧
        middle.requested = { db.requested with
          webhookEvents := webhookEvents.rows
          notices } := by
      rcases hjob with ⟨-, hjob⟩ | ⟨-, rfl⟩
      · simp only [insertJob, bind_eq_ok_iff, pure_eq_ok_iff, sql_eq_ok_iff] at hjob
        obtain ⟨⟨jobs, enqueued⟩, hjobs, rfl⟩ := hjob
        rcases Table.rows_of_insertOrIgnore hjobs with ⟨-, rfl, -⟩ | ⟨-, hjobs, -⟩
        · exact ⟨_, .inl rfl, rfl⟩
        · refine ⟨_, .inr rfl, ?_⟩
          simp only [Database.requested, hjobs, List.filterMap_append]
          rfl
      · exact ⟨_, .inl rfl, rfl⟩
    rw [hmiddle, hrows]
    exact .webhook event eventRowId jobId now _ notices hnotices

/-! ## One step of the store -/

variable {store : Store} {op : Op}

theorem requestStep_of_keeps {ε α : Type} {operation : Database → Except ε (Database × α)}
    (h : Keeps Database.requested store.db (operation store.db)) :
    RequestStep op store.db.requested (store.exec operation).db.requested := by
  have hsame : (store.exec operation).db.requested = store.db.requested := h.commit
  rw [hsame]
  exact .stay _ _

theorem exec_request {ε α : Type} {operation : Database → Except ε (Database × α)}
    (h : ∀ db' a, operation store.db = .ok (db', a) →
      RequestStep op store.db.requested db'.requested) :
    RequestStep op store.db.requested (store.exec operation).db.requested := by
  rcases commit_cases store.db (operation store.db) with hsame | ⟨a, hok⟩
  · change RequestStep op _ (Database.requested (commit _ _))
    rw [hsame]
    exact .stay _ _
  · exact h _ a hok

/-- What one step of the store does to what clients asked for. -/
theorem Store.step_request (prim : Primitives) (store : Store) (op : Op) :
    RequestStep op store.db.requested (store.step prim op).db.requested := by
  cases op with
  | createOrganizer => exact exec_request fun _ _ => createOrganizer_request
  | createDraftRaffle => exact exec_request fun _ _ => createDraftRaffle_request
  | transitionRaffle => exact requestStep_of_keeps transitionRaffle_requested
  | updateRaffle => exact exec_request fun _ _ => updateRaffle_request
  | createPendingInvoice => exact exec_request fun _ _ => createPendingInvoice_request
  | createCollectionInvoice => exact exec_request fun _ _ => createCollectionInvoice_request
  | storeCollectionInvoice => exact exec_request fun _ _ => storeCollectionInvoice_request
  | failCollectionInvoice => exact requestStep_of_keeps failCollectionInvoice_requested
  | markCollectionUncollectible =>
      exact requestStep_of_keeps markCollectionUncollectible_requested
  | recordWebhookAndEnqueue => exact exec_request fun _ _ => recordWebhookAndEnqueue_request
  | settleInvoice => exact requestStep_of_keeps settleInvoice_requested
  | createRefundEligibility => exact requestStep_of_keeps createRefundEligibility_requested
  | markLateSettlementForRefund =>
      exact requestStep_of_keeps markLateSettlementForRefund_requested
  | scheduleDueCloses => exact requestStep_of_keeps scheduleDueCloses_requested
  | freezeRaffle => exact requestStep_of_keeps freezeRaffle_requested
  | recordCanonicalBlock => exact requestStep_of_keeps recordCanonicalBlock_requested
  | createDrawAndPayouts => exact requestStep_of_keeps createDrawAndPayouts_requested
  | generateTerminalProof => exact requestStep_of_keeps generateTerminalProof_requested
  | recordProofPublication => exact requestStep_of_keeps recordProofPublication_requested
  | claimPayout => exact requestStep_of_keeps claimPayout_requested
  | failPayout payoutId workerId reason =>
      change RequestStep _ _ (Database.requested (ite _ _ _ : Store).db)
      split
      · exact .stay _ _
      · exact requestStep_of_keeps failPayout_requested
  | beginSettle payoutId workerId providerReference =>
      change RequestStep _ _ (Database.requested (store.beginSettle _ _ _).db)
      rw [beginSettle_db]
      exact .stay _ _
  | countUnsettled | markPaidOut | enqueueProof | rollbackSettle => exact .stay _ _
  | commitSettle payoutId =>
      change RequestStep _ _ (Database.requested (store.commitSettle payoutId).db)
      rcases commitSettle_cases store payoutId with hsame | ⟨transaction, -, -, hcommit⟩
      · rw [hsame]
        exact .stay _ _
      · rw [hcommit]
        exact requestStep_of_keeps commit_requested
  | claimJob => exact requestStep_of_keeps claimJob_requested
  | succeedJob => exact requestStep_of_keeps succeedJob_requested
  | failOrRetryJob => exact requestStep_of_keeps failOrRetryJob_requested
  | retryDeadJob => exact requestStep_of_keeps retryDeadJob_requested

end Requests

end OpenPool
