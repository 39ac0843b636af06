import OpenPool.Library.Lease
import OpenPool.Library.StateMachine
import OpenPool.Store.Lifecycle

/-! # The job queue as a state machine

Each call is one statement. The history has an event for each call that took effect, the latest
first; `now` is arbitrary in each call. -/

namespace OpenPool

open Fallible

/-! ## The machine -/

/-- A call of the queue, by any worker or by an operator. -/
inductive QueueOp where
  | enqueue (job : NewJob) (now : ℤ)
  | claim (workerId : String) (leaseSeconds now : ℤ) (locked : List Uuid) (choice : ℕ)
  | succeed (jobId : Uuid) (workerId : String)
  | failOrRetry (job : ClaimedJob) (workerId : String) (retryAfterSeconds : ℤ) (error : String)
      (now : ℤ)
  | retryDead (id : Uuid) (now : ℤ)

/-- A call that took effect. -/
inductive QueueEvent where
  | claimed (workerId : String) (job : ClaimedJob)
  | completed (jobId : Uuid)
  | retried (jobId : Uuid)
  deriving DecidableEq

def QueueEvent.jobId : QueueEvent → Uuid
  | claimed _ job => job.id
  | completed jobId => jobId
  | retried jobId => jobId

/-- What an event means for the lease of its job. -/
def QueueEvent.lease : QueueEvent → Option (Lease.Event Uuid String ClaimedJob)
  | claimed workerId job => some (.acquired job.id workerId job)
  | completed jobId => some (.released jobId)
  | retried _ => none

structure JobQueue where
  db : Database
  history : List QueueEvent

namespace JobQueue

def empty : JobQueue := ⟨.empty, []⟩

/-- Run a call, and record the events its answer stands for. -/
def exec {ε α : Type} (queue : JobQueue) (call : Database → Except ε (Database × α))
    (events : α → List QueueEvent) : JobQueue :=
  match call queue.db with
  | .ok (db, answer) => ⟨db, events answer ++ queue.history⟩
  | .error _ => queue

def step (queue : JobQueue) : QueueOp → JobQueue
  | .enqueue job now => queue.exec (enqueue job now) fun _ => []
  | .claim workerId leaseSeconds now locked choice =>
      queue.exec (claimJob workerId leaseSeconds now locked choice) fun claimed =>
        claimed.toList.map (.claimed workerId)
  | .succeed jobId workerId => queue.exec (succeedJob jobId workerId) fun _ => [.completed jobId]
  | .failOrRetry job workerId retryAfterSeconds error now =>
      queue.exec (failOrRetryJob job workerId retryAfterSeconds error now) fun _ =>
        [.completed job.id]
  | .retryDead id now =>
      queue.exec (retryDeadJob id now) fun retried => if retried then [.retried id] else []

/-- The queue after a list of calls, from the empty database. -/
def after (operations : List QueueOp) : JobQueue :=
  StateMachine.run step .empty operations

/-- The leases that the history tells of. -/
def leases (queue : JobQueue) : List (Lease.Event Uuid String ClaimedJob) :=
  queue.history.filterMap QueueEvent.lease

/-- Who claimed the job last, where no completion has taken effect since, with the handle. -/
def holder (queue : JobQueue) (jobId : Uuid) : Option (String × ClaimedJob) :=
  Lease.holder jobId queue.leases

end JobQueue

/-! ## Statements about one job -/

/-- The lease a row shows; the handle of its claim still reads as the row. -/
def JobRow.lease (row : JobRow) : Option (String × ClaimedJob) :=
  row.leaseOwner.map fun owner => (owner, .ofRow row)

theorem JobRow.clash_of_id_eq (a b : JobRow) (h : a.id = b.id) : Schema.Clash a b := .inl h

theorem JobRow.heldBy_iff {row : JobRow} {id : Uuid} {workerId : String} :
    row.heldBy id workerId = true ↔
      row.id = id ∧ row.status = .running ∧ row.leaseOwner = some workerId :=
  decide_eq_true_iff

theorem JobRow.id_eq_of_heldBy {jobId : Uuid} {workerId : String} (a b : JobRow)
    (ha : a.heldBy jobId workerId = true) (hb : b.heldBy jobId workerId = true) : a.id = b.id :=
  (heldBy_iff.mp ha).1.trans (heldBy_iff.mp hb).1.symm

theorem JobRow.attempts_claimed {workerId : String} {leaseSeconds now : ℤ} (row : JobRow)
    (h : 0 ≤ row.attempts) : 0 ≤ (row.claimed workerId leaseSeconds now).attempts := by
  simp only [claimed]
  omega

/-- The row that `enqueue` inserts. -/
def NewJob.row (job : NewJob) (now : ℤ) : JobRow where
  id := job.id
  kind := job.kind
  deduplicationKey := job.deduplicationKey
  payload := job.payload
  maxAttempts := job.maxAttempts
  availableAt := job.availableAt
  createdAt := now

/-- The status that `fail_or_retry` gives to a job, from the handle alone. -/
def ClaimedJob.nextStatus (job : ClaimedJob) : JobStatus :=
  if job.attempts ≥ job.maxAttempts then .dead else .queued

theorem ClaimedJob.nextStatus_eq_dead_iff (job : ClaimedJob) :
    job.nextStatus = .dead ↔ job.maxAttempts ≤ job.attempts := by
  unfold nextStatus
  by_cases h : job.attempts ≥ job.maxAttempts <;> simp [h]

theorem ClaimedJob.nextStatus_ne_running (job : ClaimedJob) : job.nextStatus ≠ .running := by
  unfold nextStatus
  split <;> simp

/-- The row after `retry_dead_job`. -/
def JobRow.requeued (now : ℤ) (row : JobRow) : JobRow :=
  { row with
    status := .queued
    attempts := 0
    availableAt := now
    leaseOwner := none
    leaseExpiresAt := none
    lastError := none }

section Statements

variable {db db' : Database} {row : JobRow} {jobId : Uuid} {workerId : String}

theorem enqueue_cases {job : NewJob} {now : ℤ} {inserted : Bool}
    (h : enqueue job now db = .ok (db', inserted)) :
    db' = db ∨ ∃ jobs, db.jobs.insert (job.row now) = .ok jobs ∧ db' = { db with jobs } := by
  simp only [enqueue, bind_eq_ok_iff, mapError_eq_ok_iff, pure_eq_ok_iff, Prod.mk.injEq] at h
  obtain ⟨⟨jobs, added⟩, hjobs, rfl, rfl⟩ := h
  unfold Table.insertOrIgnore at hjobs
  split at hjobs
  · cases hjobs
    exact .inl rfl
  · simp only [bind_eq_ok_iff, pure_eq_ok_iff, Prod.mk.injEq] at hjobs
    obtain ⟨inserted, hinsert, rfl, -⟩ := hjobs
    exact .inr ⟨inserted, hinsert, rfl⟩

theorem claimCandidate_spec {now : ℤ} {locked : List Uuid} {choice : ℕ}
    (h : claimCandidate now locked choice db = some row) :
    row ∈ db.jobs.rows ∧ row.claimable now = true := by
  obtain ⟨hmem, hclaimable⟩ := Table.mem_select.mp (firstBy_mem h)
  exact ⟨hmem, (of_decide_eq_true hclaimable).1⟩

theorem claimJob_of_none {leaseSeconds now : ℤ} {locked : List Uuid} {choice : ℕ}
    (h : claimCandidate now locked choice db = none) :
    claimJob workerId leaseSeconds now locked choice db = .ok (db, none) := by
  unfold claimJob
  rw [h]

theorem claimJob_of_some {leaseSeconds now : ℤ} {locked : List Uuid} {choice : ℕ}
    (h : claimCandidate now locked choice db = some row) :
    ∃ jobs, claimJob workerId leaseSeconds now locked choice db =
        .ok ({ db with jobs }, some (.ofRow (row.claimed workerId leaseSeconds now))) ∧
      Table.Replaces JobRow.id db.jobs.rows jobs.rows row
        (row.claimed workerId leaseSeconds now) := by
  obtain ⟨jobs, hupdate, hreplaces⟩ := db.jobs.update_one JobRow.id
    (fun other => other.id = row.id) (JobRow.claimed workerId leaseSeconds now)
    JobRow.clash_of_id_eq (fun row hcheck => ⟨row.attempts_claimed hcheck.1, hcheck.2⟩)
    (fun _ _ hclash => hclash) (fun _ => rfl)
    (fun _ _ ha hb => (of_decide_eq_true ha).trans (of_decide_eq_true hb).symm)
    (claimCandidate_spec h).1 (decide_eq_true rfl)
  refine ⟨jobs, ?_, hreplaces⟩
  unfold claimJob
  rw [h]
  simp only [hupdate]
  rfl

theorem succeedJob_of_held (hmem : row ∈ db.jobs.rows) (hheld : row.heldBy jobId workerId = true) :
    ∃ jobs, succeedJob jobId workerId db = .ok ({ db with jobs }, ()) ∧
      Table.Replaces JobRow.id db.jobs.rows jobs.rows row row.succeeded := by
  obtain ⟨jobs, hupdate, hreplaces⟩ := db.jobs.update_one JobRow.id
    (JobRow.heldBy jobId workerId) JobRow.succeeded JobRow.clash_of_id_eq
    (fun _ hcheck => hcheck) (fun _ _ hclash => hclash) (fun _ => rfl) JobRow.id_eq_of_heldBy
    hmem hheld
  refine ⟨jobs, ?_, hreplaces⟩
  unfold succeedJob
  rw [hupdate]
  rfl

theorem succeedJob_of_not_held (h : ∀ row ∈ db.jobs.rows, row.heldBy jobId workerId = false) :
    succeedJob jobId workerId db = .error .leaseLost := by
  unfold succeedJob
  rw [Table.update_of_none h]
  rfl

theorem failOrRetryJob_of_held (job : ClaimedJob) {retryAfterSeconds now : ℤ} {error : String}
    (hmem : row ∈ db.jobs.rows) (hheld : row.heldBy job.id workerId = true) :
    ∃ jobs, failOrRetryJob job workerId retryAfterSeconds error now db =
        .ok ({ db with jobs }, if job.nextStatus = .dead then .dead else .retried) ∧
      Table.Replaces JobRow.id db.jobs.rows jobs.rows row
        (row.returned job.nextStatus (now + retryAfterSeconds * 1000000) error) := by
  obtain ⟨jobs, hupdate, hreplaces⟩ := db.jobs.update_one JobRow.id
    (JobRow.heldBy job.id workerId)
    (JobRow.returned job.nextStatus (now + retryAfterSeconds * 1000000) error)
    JobRow.clash_of_id_eq (fun _ hcheck => hcheck) (fun _ _ hclash => hclash) (fun _ => rfl)
    JobRow.id_eq_of_heldBy hmem hheld
  refine ⟨jobs, ?_, hreplaces⟩
  change ((db.jobs.update (JobRow.heldBy job.id workerId) (JobRow.returned job.nextStatus
    (now + retryAfterSeconds * 1000000) error)).mapError (JobError.sqlx ∘ SqlxError.violation) >>=
      _) = _
  rw [hupdate]
  rfl

theorem failOrRetryJob_of_not_held {job : ClaimedJob} {retryAfterSeconds now : ℤ}
    {error : String} (h : ∀ row ∈ db.jobs.rows, row.heldBy job.id workerId = false) :
    failOrRetryJob job workerId retryAfterSeconds error now db = .error .leaseLost := by
  unfold failOrRetryJob
  simp only [Table.update_of_none h]
  rfl

theorem retryDeadJob_of_dead {now : ℤ} (hmem : row ∈ db.jobs.rows) (hdead : row.status = .dead) :
    ∃ jobs, retryDeadJob row.id now db = .ok ({ db with jobs }, true) ∧
      Table.Replaces JobRow.id db.jobs.rows jobs.rows row (row.requeued now) := by
  obtain ⟨jobs, hupdate, hreplaces⟩ := db.jobs.update_one JobRow.id
    (fun other => other.id = row.id ∧ other.status = .dead) (JobRow.requeued now)
    JobRow.clash_of_id_eq (fun _ hcheck => ⟨le_refl _, hcheck.2⟩) (fun _ _ hclash => hclash)
    (fun _ => rfl) (fun _ _ ha hb => (of_decide_eq_true ha).1.trans (of_decide_eq_true hb).1.symm)
    hmem (decide_eq_true ⟨rfl, hdead⟩)
  refine ⟨jobs, ?_, hreplaces⟩
  change (sql (db.jobs.update (fun other => other.id = row.id ∧ other.status = .dead)
    (JobRow.requeued now)) >>= _) = _
  rw [hupdate]
  rfl

theorem retryDeadJob_of_not_dead {now : ℤ}
    (h : ∀ row ∈ db.jobs.rows, row.id = jobId → row.status ≠ .dead) :
    retryDeadJob jobId now db = .ok (db, false) := by
  unfold retryDeadJob
  rw [Table.update_of_none fun row hmem => decide_eq_false fun hboth => h row hmem hboth.1 hboth.2]
  rfl

end Statements

/-! ## What a call does -/

namespace JobQueue

variable {queue queue' : JobQueue} {op : QueueOp}

/-- The queue with these jobs and one more event. -/
def record (queue : JobQueue) (jobs : Table JobRow) (event : QueueEvent) : JobQueue :=
  ⟨{ queue.db with jobs }, event :: queue.history⟩

/-- A call changes nothing, inserts a job or replaces the row of one job. -/
inductive Change (queue : JobQueue) : QueueOp → JobQueue → Prop where
  | unchanged (op : QueueOp) : queue.Change op queue
  | enqueued {jobs : Table JobRow} {job : NewJob} {now : ℤ}
      (hinsert : queue.db.jobs.insert (job.row now) = .ok jobs) :
      queue.Change (.enqueue job now) { queue with db := { queue.db with jobs } }
  | claimed {jobs : Table JobRow} {row : JobRow} {workerId : String} {leaseSeconds now : ℤ}
      {locked : List Uuid} {choice : ℕ}
      (hcandidate : claimCandidate now locked choice queue.db = some row)
      (hreplaces : Table.Replaces JobRow.id queue.db.jobs.rows jobs.rows row
        (row.claimed workerId leaseSeconds now)) :
      queue.Change (.claim workerId leaseSeconds now locked choice)
        (queue.record jobs (.claimed workerId (.ofRow (row.claimed workerId leaseSeconds now))))
  | succeeded {jobs : Table JobRow} {row : JobRow} {workerId : String}
      (hheld : row.heldBy row.id workerId = true)
      (hreplaces : Table.Replaces JobRow.id queue.db.jobs.rows jobs.rows row row.succeeded) :
      queue.Change (.succeed row.id workerId) (queue.record jobs (.completed row.id))
  | failed {jobs : Table JobRow} {row : JobRow} {job : ClaimedJob} {workerId error : String}
      {retryAfterSeconds now : ℤ} (hheld : row.heldBy job.id workerId = true)
      (hreplaces : Table.Replaces JobRow.id queue.db.jobs.rows jobs.rows row
        (row.returned job.nextStatus (now + retryAfterSeconds * 1000000) error)) :
      queue.Change (.failOrRetry job workerId retryAfterSeconds error now)
        (queue.record jobs (.completed job.id))
  | retried {jobs : Table JobRow} {row : JobRow} {now : ℤ} (hdead : row.status = .dead)
      (hreplaces : Table.Replaces JobRow.id queue.db.jobs.rows jobs.rows row (row.requeued now)) :
      queue.Change (.retryDead row.id now) (queue.record jobs (.retried row.id))

theorem exec_ok {ε α : Type} {call : Database → Except ε (Database × α)}
    {events : α → List QueueEvent} {db : Database} {answer : α}
    (h : call queue.db = .ok (db, answer)) :
    queue.exec call events = ⟨db, events answer ++ queue.history⟩ := by
  unfold exec
  rw [h]

theorem exec_error {ε α : Type} {call : Database → Except ε (Database × α)}
    {events : α → List QueueEvent} {error : ε} (h : call queue.db = .error error) :
    queue.exec call events = queue := by
  unfold exec
  rw [h]

theorem step_change (queue : JobQueue) (op : QueueOp) : queue.Change op (queue.step op) := by
  cases op with
  | enqueue job now =>
      rw [step]
      cases hcall : enqueue job now queue.db with
      | error error =>
          rw [exec_error hcall]
          exact .unchanged _
      | ok result =>
          rw [exec_ok hcall]
          rcases enqueue_cases hcall with hsame | ⟨jobs, hinsert, hdb⟩
          · rw [hsame]
            exact .unchanged _
          · rw [hdb]
            exact .enqueued hinsert
  | claim workerId leaseSeconds now locked choice =>
      rw [step]
      cases hcandidate : claimCandidate now locked choice queue.db with
      | none =>
          rw [exec_ok (claimJob_of_none hcandidate)]
          exact .unchanged _
      | some row =>
          obtain ⟨jobs, hcall, hreplaces⟩ := claimJob_of_some hcandidate
          rw [exec_ok hcall]
          exact .claimed hcandidate hreplaces
  | succeed jobId workerId =>
      rw [step]
      by_cases hheld : ∃ row ∈ queue.db.jobs.rows, row.heldBy jobId workerId = true
      · obtain ⟨row, hmem, hheld⟩ := hheld
        obtain ⟨jobs, hcall, hreplaces⟩ := succeedJob_of_held hmem hheld
        obtain rfl : row.id = jobId := (JobRow.heldBy_iff.mp hheld).1
        rw [exec_ok hcall]
        exact .succeeded hheld hreplaces
      · rw [exec_error (succeedJob_of_not_held (by simpa using hheld))]
        exact .unchanged _
  | failOrRetry job workerId retryAfterSeconds error now =>
      rw [step]
      by_cases hheld : ∃ row ∈ queue.db.jobs.rows, row.heldBy job.id workerId = true
      · obtain ⟨row, hmem, hheld⟩ := hheld
        obtain ⟨jobs, hcall, hreplaces⟩ := failOrRetryJob_of_held job hmem hheld
        rw [exec_ok hcall]
        exact .failed hheld hreplaces
      · rw [exec_error (failOrRetryJob_of_not_held (by simpa using hheld))]
        exact .unchanged _
  | retryDead id now =>
      rw [step]
      by_cases hdead : ∃ row ∈ queue.db.jobs.rows, row.id = id ∧ row.status = .dead
      · obtain ⟨row, hmem, rfl, hdead⟩ := hdead
        obtain ⟨jobs, hcall, hreplaces⟩ := retryDeadJob_of_dead hmem hdead
        rw [exec_ok hcall]
        exact .retried hdead hreplaces
      · rw [exec_ok (retryDeadJob_of_not_dead (by simpa using hdead))]
        exact .unchanged _

/-- The rows that `Change` replaces are never those of succeeded jobs. -/
theorem Change.keeps_succeeded (h : queue.Change op queue') {row : JobRow}
    (hmem : row ∈ queue.db.jobs.rows) (hstatus : row.status = .succeeded) :
    row ∈ queue'.db.jobs.rows ∧ ∃ events, queue'.history = events ++ queue.history ∧
      ∀ event ∈ events, event.jobId ≠ row.id := by
  have hother : ∀ old ∈ queue.db.jobs.rows, old.status ≠ .succeeded → row.id ≠ old.id :=
    fun old hold hne heq => hne (queue.db.jobs.eq_of_clash hmem hold (.inl heq) ▸ hstatus)
  have hreplaced : ∀ {jobs : Table JobRow} {old new : JobRow} {event : QueueEvent},
      Table.Replaces JobRow.id queue.db.jobs.rows jobs.rows old new → old.status ≠ .succeeded →
      event.jobId = old.id → row ∈ (queue.record jobs event).db.jobs.rows ∧
        ∃ events, (queue.record jobs event).history = events ++ queue.history ∧
          ∀ event ∈ events, event.jobId ≠ row.id := by
    intro jobs old new event hreplaces hne hid
    have hrow := hother old hreplaces.old_mem hne
    refine ⟨(hreplaces.mem_iff row).mpr (.inr ⟨hmem, hrow⟩), [event], rfl, ?_⟩
    simpa [hid] using hrow.symm
  cases h with
  | unchanged => exact ⟨hmem, [], rfl, by simp⟩
  | enqueued hinsert =>
      refine ⟨?_, [], rfl, by simp⟩
      rw [Table.rows_of_insert hinsert]
      exact List.mem_append_left _ hmem
  | claimed hcandidate hreplaces =>
      refine hreplaced hreplaces (fun hsucceeded => ?_) rfl
      have hclaimable := (claimCandidate_spec hcandidate).2
      simp [JobRow.claimable, hsucceeded] at hclaimable
  | succeeded hheld hreplaces =>
      exact hreplaced hreplaces (by simp [(JobRow.heldBy_iff.mp hheld).2.1]) rfl
  | failed hheld hreplaces =>
      exact hreplaced hreplaces (by simp [(JobRow.heldBy_iff.mp hheld).2.1])
        (JobRow.heldBy_iff.mp hheld).1.symm
  | retried hdead hreplaces => exact hreplaced hreplaces (by simp [hdead]) rfl

end JobQueue

end OpenPool
