import OpenPool.Store.Queue
import OpenPool.Store.Outbox

/-! # Leases exclude stale workers

The rows record the leases that the history tells of, so a call finds its row exactly where its
worker holds the lease; what is succeeded or delivered stays as it is. -/

namespace OpenPool

open Fallible

namespace JobQueue

variable {queue queue' : JobQueue} {op : QueueOp}

/-- The rows show the leases of the history, and the running jobs are the leased ones. -/
structure Valid (queue : JobQueue) : Prop where
  recorded : Lease.Recorded JobRow.id JobRow.lease queue.db.jobs.rows queue.leases
  running : ∀ row ∈ queue.db.jobs.rows, row.leaseOwner ≠ none ↔ row.status = .running

theorem Valid.empty : empty.Valid where
  recorded := ⟨by simp [JobQueue.empty, Database.empty], by simp [JobQueue.empty, leases]⟩
  running := by simp [JobQueue.empty, Database.empty]

theorem Valid.lease_eq_none (h : queue.Valid) {row : JobRow} (hmem : row ∈ queue.db.jobs.rows)
    (hstatus : row.status ≠ .running) : row.lease = none := by
  have howner : row.leaseOwner = none := by
    by_contra hleased
    exact hstatus ((h.running row hmem).mp hleased)
  simp [JobRow.lease, howner]

theorem Valid.change (h : queue.Valid) (hchange : queue.Change op queue') : queue'.Valid := by
  cases hchange with
  | unchanged => exact h
  | enqueued hinsert =>
      have hmem := Table.mem_of_insert hinsert
      refine ⟨h.recorded.add hmem (fun row hrow heq => ?_) rfl, fun row hrow => ?_⟩
      · exact Table.not_clash_of_insert hinsert row hrow (.inl heq)
      · rcases (hmem row).mp hrow with hold | rfl
        · exact h.running row hold
        · simp [NewJob.row]
  | claimed hcandidate hreplaces =>
      exact ⟨h.recorded.record hreplaces rfl Lease.holder_acquired,
        hreplaces.forall_mem h.running (by simp [JobRow.claimed])⟩
  | succeeded hheld hreplaces =>
      exact ⟨h.recorded.record hreplaces rfl Lease.holder_released,
        hreplaces.forall_mem h.running (by simp [JobRow.succeeded])⟩
  | failed hheld hreplaces =>
      obtain ⟨hid, -, -⟩ := JobRow.heldBy_iff.mp hheld
      refine ⟨h.recorded.record hreplaces hid.symm ?_, hreplaces.forall_mem h.running ?_⟩
      · rw [hid]
        exact Lease.holder_released
      · simp [JobRow.returned, ClaimedJob.nextStatus_ne_running]
  | retried hdead hreplaces =>
      have hfree := h.lease_eq_none hreplaces.old_mem (by simp [hdead])
      exact ⟨h.recorded.keep hreplaces hfree.symm,
        hreplaces.forall_mem h.running (by simp [JobRow.requeued])⟩

theorem valid_after (operations : List QueueOp) : (after operations).Valid :=
  StateMachine.invariant (fun queue op hvalid => hvalid.change (queue.step_change op)) .empty
    operations

/-- A row is leased to the worker that claimed its job last. -/
theorem Valid.heldBy_iff (h : queue.Valid) {jobId : Uuid} {workerId : String} {job : ClaimedJob} :
    queue.holder jobId = some (workerId, job) ↔
      ∃ row ∈ queue.db.jobs.rows, row.heldBy jobId workerId = true ∧ job = .ofRow row := by
  refine h.recorded.holder_iff.trans ⟨?_, ?_⟩
  · rintro ⟨row, hmem, hid, howner, rfl⟩
    have hrunning := (h.running row hmem).mp (by simp [howner])
    exact ⟨row, hmem, JobRow.heldBy_iff.mpr ⟨hid, hrunning, howner⟩, rfl⟩
  · rintro ⟨row, hmem, hheld, rfl⟩
    obtain ⟨hid, -, howner⟩ := JobRow.heldBy_iff.mp hheld
    exact ⟨row, hmem, hid, howner, rfl⟩

/-- The worker's statements find no row of the job, and its calls say so. -/
structure Refuses (queue : JobQueue) (jobId : Uuid) (workerId : String) : Prop where
  untouched : ∀ row ∈ queue.db.jobs.rows, row.heldBy jobId workerId = false
  succeed : succeedJob jobId workerId queue.db = .error .leaseLost
  failOrRetry : ∀ job : ClaimedJob, job.id = jobId → ∀ retryAfterSeconds error now,
    failOrRetryJob job workerId retryAfterSeconds error now queue.db = .error .leaseLost

/-- The worker's calls complete the job, and change no other. -/
structure Accepts (queue : JobQueue) (jobId : Uuid) (workerId : String) : Prop where
  succeed : ∃ row jobs, row.id = jobId ∧
    succeedJob jobId workerId queue.db = .ok ({ queue.db with jobs }, ()) ∧
      Table.Replaces JobRow.id queue.db.jobs.rows jobs.rows row row.succeeded
  failOrRetry : ∀ job : ClaimedJob, job.id = jobId → ∀ retryAfterSeconds error now,
    ∃ row jobs disposition, row.id = jobId ∧
      failOrRetryJob job workerId retryAfterSeconds error now queue.db =
        .ok ({ queue.db with jobs }, disposition) ∧
      Table.Replaces JobRow.id queue.db.jobs.rows jobs.rows row
        (row.returned job.nextStatus (now + retryAfterSeconds * 1000000) error)

theorem refuses_of_not_held {jobId : Uuid} {workerId : String}
    (h : ∀ row ∈ queue.db.jobs.rows, row.heldBy jobId workerId = false) :
    queue.Refuses jobId workerId where
  untouched := h
  succeed := succeedJob_of_not_held h
  failOrRetry := by
    rintro job rfl retryAfterSeconds error now
    exact failOrRetryJob_of_not_held h

theorem accepts_of_held {jobId : Uuid} {workerId : String} {row : JobRow}
    (hmem : row ∈ queue.db.jobs.rows) (hheld : row.heldBy jobId workerId = true) :
    queue.Accepts jobId workerId where
  succeed := by
    obtain ⟨jobs, hcall, hreplaces⟩ := succeedJob_of_held hmem hheld
    exact ⟨row, jobs, (JobRow.heldBy_iff.mp hheld).1, hcall, hreplaces⟩
  failOrRetry := by
    rintro job rfl retryAfterSeconds error now
    obtain ⟨jobs, hcall, hreplaces⟩ := failOrRetryJob_of_held job hmem hheld
    exact ⟨row, jobs, _, (JobRow.heldBy_iff.mp hheld).1, hcall, hreplaces⟩

/-- With the handle of its latest claim, a worker learns whether the attempts are used up. -/
theorem Valid.disposition (h : queue.Valid) {job : ClaimedJob} {workerId error : String}
    {retryAfterSeconds now : ℤ} {db : Database} {disposition : JobDisposition}
    (hlatest : Lease.latestHandle job.id workerId queue.leases = some job)
    (hcall : failOrRetryJob job workerId retryAfterSeconds error now queue.db =
      .ok (db, disposition)) {row : JobRow} (hmem : row ∈ queue.db.jobs.rows)
    (hid : row.id = job.id) : disposition = .dead ↔ row.maxAttempts ≤ row.attempts := by
  by_cases hheld : ∃ row ∈ queue.db.jobs.rows, row.heldBy job.id workerId = true
  · obtain ⟨held, hmem', hheld⟩ := hheld
    obtain ⟨jobs, hcall', -⟩ := failOrRetryJob_of_held job hmem' hheld
    have hholder : queue.holder job.id = some (workerId, .ofRow held) :=
      h.heldBy_iff.mpr ⟨held, hmem', hheld, rfl⟩
    obtain rfl : held = row := queue.db.jobs.eq_of_clash hmem' hmem
      (.inl ((JobRow.heldBy_iff.mp hheld).1.trans hid.symm))
    have hjob : job = .ofRow held :=
      Option.some.inj (hlatest.symm.trans (Lease.latestHandle_of_holder hholder))
    rw [hcall'] at hcall
    cases hcall
    rw [hjob]
    split <;> rename_i hdead <;> simpa [ClaimedJob.nextStatus_eq_dead_iff, ClaimedJob.ofRow] using hdead
  · rw [failOrRetryJob_of_not_held (by simpa using hheld)] at hcall
    cases hcall

/-- A succeeded job stays as it is, and no call about it takes effect. -/
theorem keeps_succeeded (queue : JobQueue) {row : JobRow} (hmem : row ∈ queue.db.jobs.rows)
    (hstatus : row.status = .succeeded) (operations : List QueueOp) :
    row ∈ (StateMachine.run step queue operations).db.jobs.rows ∧
      ∃ events, (StateMachine.run step queue operations).history = events ++ queue.history ∧
        ∀ event ∈ events, event.jobId ≠ row.id :=
  StateMachine.run_logs (fun queue : JobQueue => row ∈ queue.db.jobs.rows) JobQueue.history
    (fun queue op hmem => (queue.step_change op).keeps_succeeded hmem hstatus) hmem operations

/-- What the leases of the queue guarantee. -/
structure Exclusive (queue : JobQueue) : Prop where
  owner_iff_running : ∀ row ∈ queue.db.jobs.rows, row.leaseOwner ≠ none ↔ row.status = .running
  refuses : ∀ jobId workerId, (∀ job, queue.holder jobId ≠ some (workerId, job)) →
    queue.Refuses jobId workerId
  accepts : ∀ jobId workerId job, queue.holder jobId = some (workerId, job) →
    queue.Accepts jobId workerId
  disposition : ∀ (job : ClaimedJob) (workerId : String),
    Lease.latestHandle job.id workerId queue.leases = some job →
    ∀ retryAfterSeconds error now db disposition,
      failOrRetryJob job workerId retryAfterSeconds error now queue.db = .ok (db, disposition) →
      ∀ row ∈ queue.db.jobs.rows, row.id = job.id →
        (disposition = .dead ↔ row.maxAttempts ≤ row.attempts)
  succeeded_final : ∀ row ∈ queue.db.jobs.rows, row.status = .succeeded → ∀ operations,
    row ∈ (StateMachine.run step queue operations).db.jobs.rows ∧
      ∃ events, (StateMachine.run step queue operations).history = events ++ queue.history ∧
        ∀ event ∈ events, event.jobId ≠ row.id

theorem Valid.exclusive (h : queue.Valid) : queue.Exclusive where
  owner_iff_running := h.running
  refuses jobId workerId hnone := by
    apply refuses_of_not_held
    intro row hmem
    by_contra hheld
    exact hnone _ (h.heldBy_iff.mpr ⟨row, hmem, by simpa using hheld, rfl⟩)
  accepts jobId workerId job hholder := by
    obtain ⟨row, hmem, hheld, -⟩ := h.heldBy_iff.mp hholder
    exact accepts_of_held hmem hheld
  disposition _ _ hlatest _ _ _ _ _ hcall _ hmem hid := h.disposition hlatest hcall hmem hid
  succeeded_final _ hmem hstatus operations := keeps_succeeded queue hmem hstatus operations

end JobQueue

/-! ## The outbox -/

namespace Outbox

variable {outbox outbox' : Outbox}

/-- The rows show the leases of the history, and an event is delivered when the history says so. -/
structure Valid (outbox : Outbox) : Prop where
  recorded : Lease.Recorded OutboxEventRow.id OutboxEventRow.lease outbox.events.rows
    outbox.history
  free : ∀ row ∈ outbox.events.rows, row.deliveredAt ≠ none → row.leaseOwner = none
  undelivered : ∀ row ∈ outbox.events.rows, row.deliveredAt = none →
    .released row.id ∉ outbox.history
  once : ∀ eventId, outbox.history.count (.released eventId) ≤ 1

theorem Valid.empty : empty.Valid where
  recorded := ⟨by simp [Outbox.empty], by simp [Outbox.empty]⟩
  free := by simp [Outbox.empty]
  undelivered := by simp [Outbox.empty]
  once := by simp [Outbox.empty]

theorem Valid.change (h : outbox.Valid) (hchange : outbox.Change outbox') : outbox'.Valid := by
  cases hchange with
  | unchanged => exact h
  | @written events row hinsert hdelivered howner =>
      have hmem := Table.mem_of_insert hinsert
      have hfresh : ∀ other ∈ outbox.events.rows, other.id ≠ row.id :=
        Table.not_clash_of_insert hinsert
      refine ⟨h.recorded.add hmem hfresh (by simp [OutboxEventRow.lease, howner]), ?_, ?_, h.once⟩
      · intro other hother hne
        rcases (hmem other).mp hother with hold | rfl
        · exact h.free other hold hne
        · exact absurd hdelivered hne
      · intro other hother hnone hreleased
        rcases (hmem other).mp hother with hold | rfl
        · exact h.undelivered other hold hnone hreleased
        · obtain ⟨known, hknown, hid⟩ := h.recorded.known _ hreleased
          exact hfresh known hknown hid
  | @claimed events row consumer leaseSeconds now hclaimable hreplaces =>
      have hnone : row.deliveredAt = none := (of_decide_eq_true hclaimable).1
      refine ⟨h.recorded.record hreplaces rfl Lease.holder_acquired,
        hreplaces.forall_mem h.free ?_, ?_, ?_⟩
      · exact fun hne => absurd hnone hne
      · intro other hother hundelivered
        rcases (hreplaces.mem_iff other).mp hother with rfl | ⟨hold, -⟩
        · rw [hreplaces.key_eq]
          simpa using h.undelivered row hreplaces.old_mem hnone
        · simpa using h.undelivered other hold hundelivered
      · intro eventId
        simpa using h.once eventId
  | @delivered events row consumer now hheld hreplaces =>
      obtain ⟨-, -, hnone⟩ := OutboxEventRow.heldBy_iff.mp hheld
      have hnew := h.undelivered row hreplaces.old_mem hnone
      refine ⟨h.recorded.record hreplaces rfl Lease.holder_released,
        hreplaces.forall_mem h.free fun _ => rfl, ?_, ?_⟩
      · intro other hother hundelivered
        rcases (hreplaces.mem_iff other).mp hother with rfl | ⟨hold, hne⟩
        · cases hundelivered
        · simpa [hne] using h.undelivered other hold hundelivered
      · intro eventId
        by_cases hid : row.id = eventId
        · subst hid
          simp [List.count_eq_zero.mpr hnew]
        · simpa [List.count_cons, hid] using h.once eventId

theorem valid_after (operations : List OutboxOp) : (after operations).Valid :=
  StateMachine.invariant (fun outbox op hvalid => hvalid.change (outbox.step_change op)) .empty
    operations

/-- What the leases of the outbox guarantee. -/
structure Exclusive (outbox : Outbox) : Prop where
  refuses : ∀ eventId consumer, (∀ event, outbox.holder eventId ≠ some (consumer, event)) →
    (∀ row ∈ outbox.events.rows, row.heldBy eventId consumer = false) ∧
      ∀ now, markDelivered eventId consumer now outbox.events = .error .leaseLost
  accepts : ∀ eventId consumer event, outbox.holder eventId = some (consumer, event) →
    ∀ now, ∃ row events, row.id = eventId ∧
      markDelivered eventId consumer now outbox.events = .ok (events, ()) ∧
        Table.Replaces OutboxEventRow.id outbox.events.rows events.rows row (row.delivered now)
  delivered_once : ∀ eventId, outbox.history.count (.released eventId) ≤ 1
  delivered_final : ∀ row ∈ outbox.events.rows, row.deliveredAt ≠ none → ∀ operations,
    row ∈ (StateMachine.run step outbox operations).events.rows ∧
      ∃ events, (StateMachine.run step outbox operations).history = events ++ outbox.history ∧
        ∀ event ∈ events, event.id ≠ row.id

theorem Valid.heldBy_iff (h : outbox.Valid) {eventId : Uuid} {consumer : String}
    {event : ClaimedOutboxEvent} : outbox.holder eventId = some (consumer, event) ↔
      ∃ row ∈ outbox.events.rows, row.heldBy eventId consumer = true ∧ event = .ofRow row := by
  refine h.recorded.holder_iff.trans ⟨?_, ?_⟩
  · rintro ⟨row, hmem, hid, howner, rfl⟩
    have hnone : row.deliveredAt = none := by
      by_contra hne
      rw [h.free row hmem hne] at howner
      cases howner
    exact ⟨row, hmem, OutboxEventRow.heldBy_iff.mpr ⟨hid, howner, hnone⟩, rfl⟩
  · rintro ⟨row, hmem, hheld, rfl⟩
    obtain ⟨hid, howner, -⟩ := OutboxEventRow.heldBy_iff.mp hheld
    exact ⟨row, hmem, hid, howner, rfl⟩

theorem Valid.exclusive (h : outbox.Valid) : outbox.Exclusive where
  refuses eventId consumer hnone := by
    have hnotHeld : ∀ row ∈ outbox.events.rows, row.heldBy eventId consumer = false := by
      intro row hmem
      by_contra hheld
      exact hnone _ (h.heldBy_iff.mpr ⟨row, hmem, by simpa using hheld, rfl⟩)
    exact ⟨hnotHeld, fun now => markDelivered_of_not_held hnotHeld⟩
  accepts eventId consumer event hholder now := by
    obtain ⟨row, hmem, hheld, -⟩ := h.heldBy_iff.mp hholder
    obtain ⟨events, hcall, hreplaces⟩ := markDelivered_of_held hmem hheld
    exact ⟨row, events, (OutboxEventRow.heldBy_iff.mp hheld).1, hcall, hreplaces⟩
  delivered_once := h.once
  delivered_final row hmem hdelivered operations :=
    StateMachine.run_logs (fun outbox : Outbox => row ∈ outbox.events.rows) Outbox.history
      (fun outbox op hmem => (outbox.step_change op).keeps_delivered hmem hdelivered) hmem
      operations

end Outbox

/-- In every state that any calls reach, leases exclude the workers that have lost them. -/
theorem leases_exclude_stale_workers :
    (∀ operations, (JobQueue.after operations).Exclusive) ∧
      ∀ operations, (Outbox.after operations).Exclusive :=
  ⟨fun operations => (JobQueue.valid_after operations).exclusive,
    fun operations => (Outbox.valid_after operations).exclusive⟩

end OpenPool
