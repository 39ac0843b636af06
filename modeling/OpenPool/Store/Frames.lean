import OpenPool.Store.Queue
import OpenPool.Store.Reachable

/-! # The job queue and the observed blocks

Most operations touch neither. The others keep every job, and complete none but their own. -/

namespace OpenPool

open Fallible

/-- The tables that no raffle owns. -/
def Database.queue (db : Database) : Table BlockRow × Table JobRow := (db.blocks, db.jobs)

section Frames

variable {prim : Primitives} {db db' : Database}

theorem createOrganizer_keeps {organizer : NewOrganizer} :
    Keeps Database.queue db (createOrganizer organizer db) := by
  simp only [createOrganizer, keeps_bind_iff, keeps_pure_iff]
  intros
  rfl

theorem createDraftRaffle_keeps {raffle : NewDraftRaffle} :
    Keeps Database.queue db (createDraftRaffle raffle db) := by
  simp only [createDraftRaffle, keeps_bind_iff, keeps_pure_iff]
  intros
  rfl

theorem transitionRaffle_keeps {organizerId : OrganizerId} {raffleId : RaffleId}
    {status : Option RaffleStatus} :
    Keeps Database.queue db (transitionRaffle organizerId raffleId status db) := by
  simp only [transitionRaffle, keeps_bind_iff, keeps_pure_iff]
  intros
  rfl

theorem updateRaffle_keeps {organizerId : OrganizerId} {raffle : NewDraftRaffle} :
    Keeps Database.queue db (updateRaffle organizerId raffle db) := by
  simp only [updateRaffle, keeps_bind_iff, keeps_pure_iff]
  intros
  rfl

theorem createPendingInvoice_keeps {invoice : NewInvoice} :
    Keeps Database.queue db (createPendingInvoice invoice db) := by
  simp only [createPendingInvoice, keeps_bind_iff, keeps_pure_iff]
  intros
  rfl

theorem createCollectionInvoice_keeps {invoice : NewCollectionInvoice} :
    Keeps Database.queue db (createCollectionInvoice invoice db) := by
  simp only [createCollectionInvoice, keeps_bind_iff, keeps_pure_iff]
  intros
  rfl

theorem storeCollectionInvoice_keeps {invoiceId : InvoiceId}
    {providerQuoteId providerPaymentHash bolt11 : String} {expiresAt : ℤ} :
    Keeps Database.queue db
      (storeCollectionInvoice invoiceId providerQuoteId providerPaymentHash bolt11 expiresAt db) := by
  simp only [storeCollectionInvoice, keeps_bind_iff, keeps_pure_iff]
  intros
  rfl

theorem failCollectionInvoice_keeps {invoiceId : InvoiceId} :
    Keeps Database.queue db (failCollectionInvoice invoiceId db) := by
  simp only [failCollectionInvoice, keeps_bind_iff, keeps_pure_iff]
  intros
  rfl

theorem markCollectionUncollectible_keeps {invoiceId : InvoiceId} :
    Keeps Database.queue db (markCollectionUncollectible invoiceId db) := by
  simp only [markCollectionUncollectible, keeps_bind_iff, keeps_pure_iff]
  intros
  rfl

theorem settleInvoice_keeps {sha256 : List UInt8 → Hash32} {invoiceId : InvoiceId}
    {entryId : EntryId} {settledAt : ℤ} :
    Keeps Database.queue db (settleInvoiceAndAppendEntry sha256 invoiceId entryId settledAt db) := by
  rw [settleInvoiceAndAppendEntry, keeps_bind_iff]
  intro invoice _
  split
  · intro new value h
    cases hentry : settledEntry invoiceId db with
    | error error => simp [hentry, Except.map] at h
    | ok entry =>
        obtain ⟨rfl, -⟩ : db = new ∧ entry = value := by simpa [hentry, Except.map] using h
        rfl
  · simp only [appendEntry, keeps_bind_iff, keeps_pure_iff]
    intros
    rfl

theorem createRefundEligibility_keeps {raffleId : RaffleId} {invoiceId : InvoiceId}
    {reason : RefundReason} {id : Uuid} :
    Keeps Database.queue db (createRefundEligibility raffleId invoiceId reason id db) := by
  simp only [createRefundEligibility, keeps_bind_iff, keeps_pure_iff]
  intros
  rfl

theorem markLateSettlementForRefund_keeps {invoiceId : InvoiceId} {refundId : Uuid} :
    Keeps Database.queue db (markLateSettlementForRefund invoiceId refundId db) := by
  simp only [markLateSettlementForRefund, keeps_bind_iff, keeps_pure_iff]
  intros
  rfl

theorem generateTerminalProof_keeps {raffleId : RaffleId} {proofId : Uuid} :
    Keeps Database.queue db (generateTerminalProof prim raffleId proofId db) := by
  simp only [generateTerminalProof, keeps_bind_iff, keeps_pure_iff]
  intros
  rfl

theorem recordProofPublication_keeps {raffleId : RaffleId} {storageUri versionId etag : String}
    {now : ℤ} :
    Keeps Database.queue db (recordProofPublication raffleId storageUri versionId etag now db) := by
  simp only [recordProofPublication, keeps_bind_iff, keeps_pure_iff]
  intros
  rfl

theorem claimPayout_keeps {raffleId : RaffleId} {workerId : String} {now : ℤ} {choice : ℕ}
    {locked : List Uuid} :
    Keeps Database.queue db (claimPayout raffleId workerId now choice locked db) := by
  unfold claimPayout
  split
  · exact keeps_pure_iff.mpr rfl
  · simp only [keeps_bind_iff, keeps_pure_iff]
    intros
    rfl

theorem failPayout_keeps {payoutId : Uuid} {workerId reason : String} :
    Keeps Database.queue db (failPayout payoutId workerId reason db) := by
  simp only [failPayout, keeps_bind_iff, keeps_pure_iff]
  intros
  rfl

theorem recordCanonicalBlock_keeps {height : UInt64} {blockHash previousHash : Hash32}
    {blockTime : ℤ} :
    Keeps Database.jobs db (recordCanonicalBlock height blockHash previousHash blockTime db) := by
  simp only [recordCanonicalBlock, keeps_bind_iff, keeps_pure_iff, implies_true]

/-! ## Jobs -/

theorem JobRow.SameJob.trans {a b c : JobRow} (h : a.SameJob b) (h' : b.SameJob c) : a.SameJob c :=
  ⟨h.id.trans h'.id, h.kind.trans h'.kind, h.deduplicationKey.trans h'.deduplicationKey,
    h.payload.trans h'.payload⟩

/-- Every job is kept, and none but one is completed. -/
structure JobsStep (completed : Option Uuid) (jobs jobs' : List JobRow) : Prop where
  kept : ∀ job ∈ jobs, ∃ job' ∈ jobs', job'.SameJob job
  succeeded : ∀ job' ∈ jobs', job'.status = .succeeded → ∃ job ∈ jobs, job'.SameJob job ∧
    (job.status = .succeeded ∨ completed = some job.id)

theorem JobsStep.refl (completed : Option Uuid) (jobs : List JobRow) :
    JobsStep completed jobs jobs where
  kept job hmem := ⟨job, hmem, .refl job⟩
  succeeded job hmem hstatus := ⟨job, hmem, .refl job, .inl hstatus⟩

theorem JobsStep.trans {jobs jobs' jobs'' : List JobRow} (h : JobsStep none jobs jobs')
    (h' : JobsStep none jobs' jobs'') : JobsStep none jobs jobs'' where
  kept job hmem := by
    obtain ⟨job', hmem', hsame⟩ := h.kept job hmem
    obtain ⟨job'', hmem'', hsame'⟩ := h'.kept job' hmem'
    exact ⟨job'', hmem'', hsame'.trans hsame⟩
  succeeded job'' hmem'' hstatus := by
    obtain ⟨job', hmem', hsame', hdone | hnone⟩ := h'.succeeded job'' hmem'' hstatus
    · obtain ⟨job, hmem, hsame, hdone⟩ := h.succeeded job' hmem' hdone
      exact ⟨job, hmem, hsame'.trans hsame, hdone⟩
    · cases hnone

/-- The jobs after some calls of `enqueue`. -/
inductive Enqueued : Table JobRow → Table JobRow → Prop where
  | refl (jobs : Table JobRow) : Enqueued jobs jobs
  | enqueue {jobs jobs' jobs'' : Table JobRow} (job : NewJob) (now : ℤ) {inserted : Bool}
      (hinsert : jobs.insertOrIgnore (JobRow.isFor job.kind job.deduplicationKey) (job.row now) =
        .ok (jobs', inserted))
      (hrest : Enqueued jobs' jobs'') : Enqueued jobs jobs''

theorem Enqueued.trans {jobs jobs' jobs'' : Table JobRow} (h : Enqueued jobs jobs')
    (h' : Enqueued jobs' jobs'') : Enqueued jobs jobs'' := by
  induction h with
  | refl => exact h'
  | enqueue job now hinsert hrest ih => exact .enqueue job now hinsert (ih h')

theorem Enqueued.jobsStep {jobs jobs' : Table JobRow} (h : Enqueued jobs jobs') :
    JobsStep none jobs.rows jobs'.rows := by
  induction h with
  | refl jobs => exact .refl _ _
  | @enqueue jobs jobs' jobs'' job now inserted hinsert hrest ih =>
      refine JobsStep.trans ?_ ih
      rcases Table.rows_of_insertOrIgnore hinsert with ⟨-, rfl, -⟩ | ⟨-, hrows, -⟩
      · exact .refl _ _
      · rw [hrows]
        refine ⟨fun job hmem => ⟨job, List.mem_append_left _ hmem, .refl job⟩,
          fun job hmem hstatus => ?_⟩
        rcases List.mem_append.mp hmem with hmem | hmem
        · exact ⟨job, hmem, .refl job, .inl hstatus⟩
        · rw [List.mem_singleton.mp hmem] at hstatus
          cases hstatus

/-- The blocks stay, and jobs are enqueued. -/
def Enqueues (db db' : Database) : Prop :=
  db'.blocks = db.blocks ∧ Enqueued db.jobs db'.jobs

theorem Enqueues.refl (db : Database) : Enqueues db db := ⟨rfl, .refl _⟩

theorem Enqueues.trans {db'' : Database} (h : Enqueues db db') (h' : Enqueues db' db'') :
    Enqueues db db'' :=
  ⟨h'.1.trans h.1, h.2.trans h'.2⟩

theorem enqueues_of_queue (h : db'.queue = db.queue) : Enqueues db db' := by
  have hblocks : db'.blocks = db.blocks := congrArg Prod.fst h
  have hjobs : db'.jobs = db.jobs := congrArg Prod.snd h
  exact ⟨hblocks, hjobs ▸ .refl _⟩

theorem insertJob_enqueues {id : Uuid} {kind : JobKind} {deduplicationKey : String}
    {payload : JobPayload} {now : ℤ}
    (h : insertJob id kind deduplicationKey payload now db = .ok db') : Enqueues db db' := by
  simp only [insertJob, bind_eq_ok_iff, sql_eq_ok_iff, pure_eq_ok_iff] at h
  obtain ⟨⟨jobs, inserted⟩, hjobs, rfl⟩ := h
  exact ⟨rfl, .enqueue { id, kind, deduplicationKey, payload, maxAttempts := 8, availableAt := now }
    now hjobs (.refl jobs)⟩

theorem insertCloseJobs_enqueues {jobIds : RaffleId → Uuid} {now : ℤ} {rows : List RaffleRow}
    (h : insertCloseJobs jobIds now db rows = .ok db') : Enqueues db db' := by
  induction rows generalizing db with
  | nil =>
      cases h
      exact .refl _
  | cons row rows ih =>
      simp only [insertCloseJobs, bind_eq_ok_iff] at h
      obtain ⟨middle, hmiddle, hrest⟩ := h
      exact (insertJob_enqueues hmiddle).trans (ih hrest)

theorem jobsStep_of_update {filter : JobRow → Bool} {set : JobRow → JobRow} {jobs : Table JobRow}
    {returned : List JobRow} {completed : Option Uuid}
    (h : db.jobs.update filter set = .ok (jobs, returned))
    (hsame : ∀ row : JobRow, (set row).SameJob row)
    (hdone : ∀ row, filter row = true → (set row).status = .succeeded →
      completed = some row.id) : JobsStep completed db.jobs.rows jobs.rows := by
  have hchange : ∀ row : JobRow, (if filter row then set row else row).SameJob row := by
    intro row
    split
    · exact hsame row
    · exact .refl row
  rw [(Table.rows_of_update h).1]
  refine ⟨fun job hmem => ⟨_, List.mem_map_of_mem hmem, hchange job⟩, fun job' hmem hstatus => ?_⟩
  obtain ⟨job, hjob, rfl⟩ := List.mem_map.mp hmem
  refine ⟨job, hjob, hchange job, ?_⟩
  split at hstatus
  · rename_i hfilter
    exact .inr (hdone job hfilter hstatus)
  · exact .inl hstatus

theorem recordWebhookAndEnqueue_enqueues {event : NewWebhookEvent} {eventRowId jobId : Uuid}
    {now : ℤ} {inserted : Bool}
    (h : recordWebhookAndEnqueue event eventRowId jobId now db = .ok (db', inserted)) :
    Enqueues db db' := by
  simp only [recordWebhookAndEnqueue, bind_eq_ok_iff, sql_eq_ok_iff, applyIf_eq_ok_iff,
    pure_eq_ok_iff, Prod.mk.injEq] at h
  obtain ⟨⟨events, isNew⟩, -, middle, hjob, rfl, -⟩ := h
  rcases hjob with ⟨-, hjob⟩ | ⟨-, rfl⟩
  · have hadded := insertJob_enqueues hjob
    exact hadded
  · exact enqueues_of_queue rfl

theorem scheduleDueCloses_enqueues {jobIds : RaffleId → Uuid} {now : ℤ} {count : ℕ}
    (h : scheduleDueCloses jobIds now db = .ok (db', count)) : Enqueues db db' := by
  simp only [scheduleDueCloses, bind_eq_ok_iff, sql_eq_ok_iff, pure_eq_ok_iff,
    Prod.mk.injEq] at h
  obtain ⟨⟨raffles, returned⟩, -, middle, hjobs, rfl, -⟩ := h
  have hadded := insertCloseJobs_enqueues hjobs
  exact hadded

theorem freezeRaffle_enqueues {sha256 : List UInt8 → Hash32} {raffleId : RaffleId} {jobId : Uuid}
    {now : ℤ} {root : Hash32} (h : freezeRaffle sha256 raffleId jobId now db = .ok (db', root)) :
    Enqueues db db' := by
  simp only [freezeRaffle, bind_eq_ok_iff, applyIf_eq_ok_iff, pure_eq_ok_iff, Prod.mk.injEq] at h
  obtain ⟨row, -, -, -, count, -, head, -, raffles, -, middle, hjob, rfl, -⟩ := h
  rcases hjob with ⟨-, hjob⟩ | ⟨-, rfl⟩
  · have hadded := insertJob_enqueues hjob
    exact hadded
  · exact enqueues_of_queue rfl

theorem insertPayouts_queue {raffleId : RaffleId} {payoutIds : RecipientType → Uuid} {now : ℤ}
    {payouts : List (RecipientType × UInt64)}
    (h : insertPayouts raffleId payoutIds now db payouts = .ok db') : db'.queue = db.queue := by
  induction payouts generalizing db with
  | nil =>
      cases h
      rfl
  | cons payout rest ih =>
      unfold insertPayouts at h
      split at h
      · simp only [bind_eq_ok_iff] at h
        obtain ⟨amount, -, ⟨payouts, inserted⟩, -, hrest⟩ := h
        have hqueue := ih hrest
        exact hqueue
      · exact ih h

theorem createDrawAndPayouts_enqueues {raffleId : RaffleId} {closeHeight randomnessHeight : UInt64}
    {closeHash randomnessHash : Hash32} {ids : DrawIds} {now : ℤ} {result : DrawResult}
    (h : createDrawAndPayouts prim raffleId closeHeight closeHash randomnessHeight randomnessHash ids
      now db = .ok (db', result)) : Enqueues db db' := by
  simp only [createDrawAndPayouts, bind_eq_ok_iff, pure_eq_ok_iff, Prod.mk.injEq] at h
  obtain ⟨raffle, -, -, -, root, -, entries, -, tickets, -, result, -, split, -, pool, -, ticket, -,
    -, -, draws, -, db₁, hpayouts, db₂, hjob, close, -, randomness, -, raffles, -, rfl, -⟩ := h
  have hadded := (enqueues_of_queue (insertPayouts_queue hpayouts)).trans (insertJob_enqueues hjob)
  exact hadded

theorem commit_enqueues {transaction : SettleTransaction} {paidOut : Bool}
    (h : transaction.commit db = .ok (db', paidOut)) : Enqueues db db' := by
  simp only [SettleTransaction.commit, bind_eq_ok_iff] at h
  obtain ⟨payouts, -, h⟩ := h
  cases hstage : transaction.stage with
  | enqueued jobId now =>
      simp only [hstage, SettleStage.finish, markPaidOut, bind_eq_ok_iff, pure_eq_ok_iff,
        Prod.mk.injEq] at h
      obtain ⟨_, ⟨raffles, -, rfl⟩, _, hjob, rfl, -⟩ := h
      have hadded := insertJob_enqueues hjob
      exact hadded
  | updated | counted | paidOut =>
      simp only [hstage, SettleStage.finish, Except.ok.injEq, Prod.mk.injEq] at h
      obtain ⟨rfl, -⟩ := h
      exact enqueues_of_queue rfl

/-! ## Calls of the queue -/

/-- The blocks stay, and the jobs make a step. -/
def QueueStep (completed : Option Uuid) (db db' : Database) : Prop :=
  db'.blocks = db.blocks ∧ JobsStep completed db.jobs.rows db'.jobs.rows

theorem claimJob_queueStep {workerId : String} {leaseSeconds now : ℤ} {locked : List Uuid}
    {choice : ℕ} {result : Option ClaimedJob}
    (h : claimJob workerId leaseSeconds now locked choice db = .ok (db', result)) :
    QueueStep none db db' := by
  unfold claimJob at h
  split at h
  · cases h
    exact ⟨rfl, .refl _ _⟩
  · simp only [bind_eq_ok_iff, mapError_eq_ok_iff, pure_eq_ok_iff, Prod.mk.injEq] at h
    obtain ⟨⟨jobs, returned⟩, hjobs, rfl, -⟩ := h
    refine ⟨rfl, jobsStep_of_update hjobs (fun _ => ⟨rfl, rfl, rfl, rfl⟩) ?_⟩
    intro row _ hsucceeded
    cases hsucceeded

theorem succeedJob_queueStep {jobId : Uuid} {workerId : String} {u : Unit}
    (h : succeedJob jobId workerId db = .ok (db', u)) : QueueStep (some jobId) db db' := by
  simp only [succeedJob, bind_eq_ok_iff, mapError_eq_ok_iff, pure_eq_ok_iff, Prod.mk.injEq] at h
  obtain ⟨⟨jobs, returned⟩, hjobs, -, -, rfl, -⟩ := h
  refine ⟨rfl, jobsStep_of_update hjobs (fun _ => ⟨rfl, rfl, rfl, rfl⟩) fun row hheld _ => ?_⟩
  rw [(of_decide_eq_true hheld).1]

theorem failOrRetryJob_queueStep {job : ClaimedJob} {workerId error : String}
    {retryAfterSeconds now : ℤ} {disposition : JobDisposition}
    (h : failOrRetryJob job workerId retryAfterSeconds error now db = .ok (db', disposition)) :
    QueueStep none db db' := by
  simp only [failOrRetryJob, bind_eq_ok_iff, mapError_eq_ok_iff, pure_eq_ok_iff,
    Prod.mk.injEq] at h
  obtain ⟨⟨jobs, returned⟩, hjobs, -, -, rfl, -⟩ := h
  refine ⟨rfl, jobsStep_of_update hjobs (fun _ => ⟨rfl, rfl, rfl, rfl⟩) fun row _ hstatus => ?_⟩
  simp only [JobRow.returned] at hstatus
  split at hstatus <;> cases hstatus

theorem retryDeadJob_queueStep {id : Uuid} {now : ℤ} {retried : Bool}
    (h : retryDeadJob id now db = .ok (db', retried)) : QueueStep none db db' := by
  simp only [retryDeadJob, bind_eq_ok_iff, sql_eq_ok_iff, pure_eq_ok_iff, Prod.mk.injEq] at h
  obtain ⟨⟨jobs, returned⟩, hjobs, rfl, -⟩ := h
  refine ⟨rfl, jobsStep_of_update hjobs (fun _ => ⟨rfl, rfl, rfl, rfl⟩) ?_⟩
  intro row _ hsucceeded
  cases hsucceeded

/-! ## One step of the store -/

variable {store : Store}

theorem enqueues_of_keeps {ε α : Type} {operation : Database → Except ε (Database × α)}
    (h : Keeps Database.queue store.db (operation store.db)) :
    Enqueues store.db (store.exec operation).db :=
  enqueues_of_queue h.commit

theorem exec_enqueues {ε α : Type} {operation : Database → Except ε (Database × α)}
    (h : ∀ db' a, operation store.db = .ok (db', a) → Enqueues store.db db') :
    Enqueues store.db (store.exec operation).db := by
  rcases commit_cases store.db (operation store.db) with hsame | ⟨a, hok⟩
  · exact enqueues_of_queue (congrArg Database.queue hsame)
  · exact h _ a hok

theorem exec_queueStep {ε α : Type} {completed : Option Uuid}
    {operation : Database → Except ε (Database × α)}
    (h : ∀ db' a, operation store.db = .ok (db', a) → QueueStep completed store.db db') :
    QueueStep completed store.db (store.exec operation).db := by
  rcases commit_cases store.db (operation store.db) with hsame | ⟨a, hok⟩
  · change QueueStep completed store.db (commit store.db (operation store.db))
    rw [hsame]
    exact ⟨rfl, .refl _ _⟩
  · exact h _ a hok

/-- The call of the queue that an operation is, if it is one. -/
def Op.queueCall : Op → Option QueueOp
  | .claimJob workerId leaseSeconds now locked choice =>
      some (.claim workerId leaseSeconds now locked choice)
  | .succeedJob jobId workerId => some (.succeed jobId workerId)
  | .failOrRetryJob job workerId retryAfterSeconds error now =>
      some (.failOrRetry job workerId retryAfterSeconds error now)
  | .retryDeadJob id now => some (.retryDead id now)
  | _ => none

/-- Every other operation enqueues jobs or none, and all but one keep the blocks. -/
theorem Store.step_enqueues (prim : Primitives) (store : Store) {op : Op}
    (hcall : op.queueCall = none) :
    ((∃ height blockHash previousHash blockTime,
        op = .recordCanonicalBlock height blockHash previousHash blockTime) ∨
      (store.step prim op).db.blocks = store.db.blocks) ∧
    Enqueued store.db.jobs (store.step prim op).db.jobs := by
  have hstep : Enqueues store.db (store.step prim op).db →
      ((∃ height blockHash previousHash blockTime,
          op = .recordCanonicalBlock height blockHash previousHash blockTime) ∨
        (store.step prim op).db.blocks = store.db.blocks) ∧
      Enqueued store.db.jobs (store.step prim op).db.jobs := fun h => ⟨.inr h.1, h.2⟩
  cases op with
  | recordCanonicalBlock height blockHash previousHash blockTime =>
      refine ⟨.inl ⟨_, _, _, _, rfl⟩, ?_⟩
      have hjobs : (store.step prim
          (.recordCanonicalBlock height blockHash previousHash blockTime)).db.jobs =
            store.db.jobs := Keeps.commit recordCanonicalBlock_keeps
      rw [hjobs]
      exact .refl _
  | createOrganizer => exact hstep (enqueues_of_keeps createOrganizer_keeps)
  | createDraftRaffle => exact hstep (enqueues_of_keeps createDraftRaffle_keeps)
  | transitionRaffle => exact hstep (enqueues_of_keeps transitionRaffle_keeps)
  | updateRaffle => exact hstep (enqueues_of_keeps updateRaffle_keeps)
  | createPendingInvoice => exact hstep (enqueues_of_keeps createPendingInvoice_keeps)
  | createCollectionInvoice => exact hstep (enqueues_of_keeps createCollectionInvoice_keeps)
  | storeCollectionInvoice => exact hstep (enqueues_of_keeps storeCollectionInvoice_keeps)
  | failCollectionInvoice => exact hstep (enqueues_of_keeps failCollectionInvoice_keeps)
  | markCollectionUncollectible =>
      exact hstep (enqueues_of_keeps markCollectionUncollectible_keeps)
  | recordWebhookAndEnqueue =>
      exact hstep (exec_enqueues fun _ _ => recordWebhookAndEnqueue_enqueues)
  | settleInvoice => exact hstep (enqueues_of_keeps settleInvoice_keeps)
  | createRefundEligibility => exact hstep (enqueues_of_keeps createRefundEligibility_keeps)
  | markLateSettlementForRefund =>
      exact hstep (enqueues_of_keeps markLateSettlementForRefund_keeps)
  | scheduleDueCloses => exact hstep (exec_enqueues fun _ _ => scheduleDueCloses_enqueues)
  | freezeRaffle => exact hstep (exec_enqueues fun _ _ => freezeRaffle_enqueues)
  | createDrawAndPayouts => exact hstep (exec_enqueues fun _ _ => createDrawAndPayouts_enqueues)
  | generateTerminalProof => exact hstep (enqueues_of_keeps generateTerminalProof_keeps)
  | recordProofPublication => exact hstep (enqueues_of_keeps recordProofPublication_keeps)
  | claimPayout => exact hstep (enqueues_of_keeps claimPayout_keeps)
  | failPayout payoutId workerId reason =>
      refine hstep ?_
      change Enqueues _ (ite _ _ _ : Store).db
      split
      · exact .refl _
      · exact enqueues_of_keeps failPayout_keeps
  | beginSettle => exact hstep (enqueues_of_queue (congrArg Database.queue (beginSettle_db ..)))
  | countUnsettled | markPaidOut | enqueueProof | rollbackSettle => exact hstep (.refl _)
  | commitSettle payoutId =>
      refine hstep ?_
      change Enqueues store.db (store.commitSettle payoutId).db
      rcases commitSettle_cases store payoutId with hsame | ⟨transaction, -, -, hcommit⟩
      · exact enqueues_of_queue (by rw [hsame])
      · rw [hcommit]
        exact exec_enqueues fun _ _ => commit_enqueues
  | claimJob | succeedJob | failOrRetryJob | retryDeadJob => cases hcall

/-- Every operation keeps the jobs, and all but one the blocks. -/
theorem Store.step_queue (prim : Primitives) (store : Store) (op : Op) :
    ((∃ height blockHash previousHash blockTime,
        op = .recordCanonicalBlock height blockHash previousHash blockTime) ∨
      (store.step prim op).db.blocks = store.db.blocks) ∧
    JobsStep (op.scope store).completed store.db.jobs.rows
      (store.step prim op).db.jobs.rows := by
  have hother : op.queueCall = none → _ ∧ JobsStep none store.db.jobs.rows _ := fun hcall =>
    (store.step_enqueues prim hcall).imp_right Enqueued.jobsStep
  have hcall : QueueStep (op.scope store).completed store.db (store.step prim op).db →
      ((∃ height blockHash previousHash blockTime,
          op = .recordCanonicalBlock height blockHash previousHash blockTime) ∨
        (store.step prim op).db.blocks = store.db.blocks) ∧
      JobsStep (op.scope store).completed store.db.jobs.rows
        (store.step prim op).db.jobs.rows := fun h => ⟨.inr h.1, h.2⟩
  cases op with
  | claimJob => exact hcall (exec_queueStep fun _ _ => claimJob_queueStep)
  | succeedJob => exact hcall (exec_queueStep fun _ _ => succeedJob_queueStep)
  | failOrRetryJob => exact hcall (exec_queueStep fun _ _ => failOrRetryJob_queueStep)
  | retryDeadJob => exact hcall (exec_queueStep fun _ _ => retryDeadJob_queueStep)
  | _ => exact hother rfl

end Frames

end OpenPool
