import OpenPool.Store.LeaseCorrectness
import OpenPool.Store.LedgerCorrectness

/-! # The attempts of a job

A claim counts an attempt, and only `fail_or_retry` compares the count with the maximum. The
comparison is missing where `claim` takes a job whose lease has expired, and `fail_or_retry` makes
it on the handle it is passed, which may be older than the row. -/

namespace OpenPool

open Fallible

/-- How often the job was handed to a worker since an operator last retried it. -/
def handed (jobId : Uuid) : List QueueEvent → ℕ
  | [] => 0
  | .claimed _ job :: history =>
      if job.id = jobId then handed jobId history + 1 else handed jobId history
  | .completed _ :: history => handed jobId history
  | .retried other :: history => if other = jobId then 0 else handed jobId history

section Handed

variable {jobId : Uuid} {event : QueueEvent} {history : List QueueEvent}

theorem handed_cons_of_ne (h : event.jobId ≠ jobId) :
    handed jobId (event :: history) = handed jobId history := by
  cases event with
  | claimed workerId job => exact if_neg h
  | completed other => rfl
  | retried other => exact if_neg h

theorem handed_of_fresh (h : ∀ event ∈ history.filterMap QueueEvent.lease, event.id ≠ jobId) :
    handed jobId history = 0 := by
  induction history with
  | nil => rfl
  | cons event history ih =>
      have hrest : handed jobId history = 0 := by
        apply ih
        intro other hmem
        apply h other
        rw [List.filterMap_cons]
        cases event.lease <;> simp [hmem]
      cases event with
      | claimed workerId job =>
          have hid : job.id ≠ jobId := h (.acquired job.id workerId job) (List.mem_cons_self ..)
          rw [handed, if_neg hid, hrest]
      | completed other => exact hrest
      | retried other =>
          by_cases hid : other = jobId
          · exact if_pos hid
          · rw [handed, if_neg hid, hrest]

end Handed

namespace JobQueue

variable {queue queue' : JobQueue} {op : QueueOp}

/-! ## Attempts count claims -/

/-- The attempts of a row are the claims since the last retry. -/
def Counts (queue : JobQueue) : Prop :=
  ∀ row ∈ queue.db.jobs.rows, (handed row.id queue.history : ℤ) = row.attempts

theorem Counts.record (h : queue.Counts) {jobs : Table JobRow} {old new : JobRow}
    {event : QueueEvent} (hreplaces : Table.Replaces JobRow.id queue.db.jobs.rows jobs.rows old new)
    (hid : event.jobId = old.id)
    (hnew : (handed old.id (event :: queue.history) : ℤ) = new.attempts) :
    (queue.record jobs event).Counts := by
  intro row hmem
  change (handed row.id (event :: queue.history) : ℤ) = row.attempts
  rcases (hreplaces.mem_iff row).mp hmem with rfl | ⟨hold, hne⟩
  · rw [hreplaces.key_eq, hnew]
  · rw [handed_cons_of_ne fun heq => hne (heq.symm.trans hid)]
    exact h row hold

theorem Counts.change (h : queue.Counts) (hvalid : queue.Valid)
    (hchange : queue.Change op queue') : queue'.Counts := by
  cases hchange with
  | unchanged => exact h
  | @enqueued jobs job now hinsert =>
      intro row hmem
      rcases (Table.mem_of_insert hinsert row).mp hmem with hold | rfl
      · exact h row hold
      · have hfresh : handed job.id queue.history = 0 := by
          apply handed_of_fresh
          intro event hevent heq
          obtain ⟨other, hother, hid⟩ := hvalid.recorded.known event hevent
          exact Table.not_clash_of_insert hinsert other hother (.inl (hid.trans heq))
        change ((handed job.id queue.history : ℕ) : ℤ) = 0
        rw [hfresh]
        rfl
  | @claimed jobs row workerId leaseSeconds now locked choice hcandidate hreplaces =>
      apply h.record hreplaces rfl
      have hcount := h row hreplaces.old_mem
      simp only [handed, ClaimedJob.ofRow, JobRow.claimed, if_true]
      omega
  | succeeded hheld hreplaces => exact h.record hreplaces rfl (h _ hreplaces.old_mem)
  | failed hheld hreplaces =>
      exact h.record hreplaces (JobRow.heldBy_iff.mp hheld).1.symm (h _ hreplaces.old_mem)
  | retried hdead hreplaces =>
      apply h.record hreplaces rfl
      simp [handed, JobRow.requeued]

theorem counts_after (operations : List QueueOp) : (after operations).Counts := by
  suffices h : (after operations).Valid ∧ (after operations).Counts from h.2
  refine StateMachine.invariant (P := fun queue : JobQueue => queue.Valid ∧ queue.Counts)
    (fun queue op h => ?_) ⟨.empty, by simp [Counts, empty, Database.empty]⟩ operations
  have hchange := queue.step_change op
  exact ⟨h.1.change hchange, h.2.change h.1 hchange⟩

/-! ## Claims of jobs that have an attempt left -/

def Bounded (queue : JobQueue) : Prop :=
  ∀ row ∈ queue.db.jobs.rows, row.attempts ≤ row.maxAttempts

/-- The claim takes no job whose attempts are used up. -/
def ClaimsSpare (queue : JobQueue) : QueueOp → Prop
  | .claim _ _ now locked choice => ∀ row, claimCandidate now locked choice queue.db = some row →
      row.attempts < row.maxAttempts
  | _ => True

theorem Change.bounded (h : queue.Bounded) (hspare : queue.ClaimsSpare op)
    (hchange : queue.Change op queue') : queue'.Bounded := by
  cases hchange with
  | unchanged => exact h
  | enqueued hinsert =>
      intro row hmem
      rcases (Table.mem_of_insert hinsert row).mp hmem with hold | rfl
      · exact h row hold
      · exact (Table.checked_of_insert hinsert).2.le
  | claimed hcandidate hreplaces => exact hreplaces.forall_mem h (hspare _ hcandidate)
  | @succeeded jobs row workerId hheld hreplaces =>
      exact hreplaces.forall_mem h (h row hreplaces.old_mem)
  | @failed jobs row job workerId error retryAfterSeconds now hheld hreplaces =>
      exact hreplaces.forall_mem h (h row hreplaces.old_mem)
  | @retried jobs row now hdead hreplaces =>
      exact hreplaces.forall_mem h (queue.db.jobs.checked row hreplaces.old_mem).2.le

/-- A call keeps the bound exactly where it does not claim a job whose attempts are used up. -/
theorem bounded_step_iff (h : queue.Bounded) (op : QueueOp) :
    (queue.step op).Bounded ↔ queue.ClaimsSpare op := by
  refine ⟨fun hnext => ?_, fun hspare => (queue.step_change op).bounded h hspare⟩
  cases op with
  | claim workerId leaseSeconds now locked choice =>
      intro row hcandidate
      obtain ⟨jobs, hcall, hreplaces⟩ := claimJob_of_some hcandidate
      rw [step, exec_ok hcall] at hnext
      exact hnext _ hreplaces.new_mem
  | enqueue | succeed | failOrRetry | retryDead => trivial

theorem Bounded.empty : empty.Bounded := by
  simp [Bounded, JobQueue.empty, Database.empty]

/-- A run keeps the bound all along exactly when no claim takes a job without an attempt left. -/
theorem bounded_iff_claims_spare (operations : List QueueOp) :
    (∀ front, front <+: operations → (after front).Bounded) ↔
      StateMachine.Meets step ClaimsSpare empty operations :=
  StateMachine.prefixes_iff_meets (P := fun _ => True) (Q := Bounded) (A := fun _ => True)
    (fun _ _ _ _ => trivial) (fun _ op _ _ h => bounded_step_iff h op) trivial Bounded.empty
    fun _ _ => trivial

/-! ## How a job comes to be claimed without an attempt left -/

/-- The claim takes no job at its expiry whose attempts are used up, and the call returns no such
job to the queue by an older handle. -/
def WithinBudget (queue : JobQueue) : QueueOp → Prop
  | .claim _ _ now locked choice => ∀ row ∈ claimCandidate now locked choice queue.db,
      row.status = .running → row.attempts < row.maxAttempts
  | .failOrRetry job workerId _ _ _ => ∀ row ∈ queue.db.jobs.rows,
      row.heldBy job.id workerId = true → row.maxAttempts ≤ row.attempts →
        job.maxAttempts ≤ job.attempts
  | _ => True

instance WithinBudget.decidable (queue : JobQueue) : ∀ op, Decidable (queue.WithinBudget op)
  | .claim _ _ now locked choice => inferInstanceAs (Decidable (∀ row ∈
      claimCandidate now locked choice queue.db, row.status = .running →
        row.attempts < row.maxAttempts))
  | .failOrRetry job workerId _ _ _ => inferInstanceAs (Decidable (∀ row ∈ queue.db.jobs.rows,
      row.heldBy job.id workerId = true → row.maxAttempts ≤ row.attempts →
        job.maxAttempts ≤ job.attempts))
  | .enqueue .. | .succeed .. | .retryDead .. => instDecidableTrue

/-- No row has more attempts than its maximum, and a queued one has an attempt left. -/
structure InBudget (queue : JobQueue) : Prop where
  bounded : queue.Bounded
  spare : ∀ row ∈ queue.db.jobs.rows, row.status = .queued → row.attempts < row.maxAttempts

theorem InBudget.empty : empty.InBudget where
  bounded := .empty
  spare := by simp [JobQueue.empty, Database.empty]

theorem InBudget.claimsSpare (h : queue.InBudget) (hwithin : queue.WithinBudget op) :
    queue.ClaimsSpare op := by
  cases op with
  | claim workerId leaseSeconds now locked choice =>
      intro row hcandidate
      obtain ⟨hmem, hclaimable⟩ := claimCandidate_spec hcandidate
      rcases of_decide_eq_true hclaimable with ⟨hqueued, -⟩ | ⟨hrunning, -⟩
      · exact h.spare row hmem hqueued
      · exact hwithin row hcandidate hrunning
  | enqueue | succeed | failOrRetry | retryDead => trivial

theorem InBudget.change (h : queue.InBudget) (hwithin : queue.WithinBudget op)
    (hchange : queue.Change op queue') : queue'.InBudget := by
  refine ⟨hchange.bounded h.bounded (h.claimsSpare hwithin), ?_⟩
  cases hchange with
  | unchanged => exact h.spare
  | enqueued hinsert =>
      intro row hmem hstatus
      rcases (Table.mem_of_insert hinsert row).mp hmem with hold | rfl
      · exact h.spare row hold hstatus
      · exact (Table.checked_of_insert hinsert).2
  | claimed hcandidate hreplaces => exact hreplaces.forall_mem h.spare nofun
  | succeeded hheld hreplaces => exact hreplaces.forall_mem h.spare nofun
  | @failed jobs row job workerId error retryAfterSeconds now hheld hreplaces =>
      refine hreplaces.forall_mem h.spare fun hqueued => ?_
      by_contra hused
      have hdead := job.nextStatus_eq_dead_iff.mpr
        (hwithin row hreplaces.old_mem hheld (not_lt.mp hused))
      cases hdead.symm.trans hqueued
  | @retried jobs row now hdead hreplaces =>
      exact hreplaces.forall_mem h.spare fun _ => (queue.db.jobs.checked row hreplaces.old_mem).2

theorem inBudget_after {operations : List QueueOp}
    (h : StateMachine.Meets step WithinBudget empty operations) : (after operations).InBudget :=
  h.invariant (fun queue op hwithin hbudget => hbudget.change hwithin (queue.step_change op)) .empty

end JobQueue

/-! ## Runs of one job -/

namespace SampleQueue

def job (maxAttempts : ℤ) : NewJob where
  id := SampleRun.uuid 1
  kind := .raffleDraw
  deduplicationKey := "raffle-1"
  payload := .raffle SampleRun.raffleId
  maxAttempts := maxAttempts
  availableAt := 0

/-- The handle of a claim at time 0 with a lease of 30 seconds. -/
def handle (maxAttempts : ℤ) : ClaimedJob :=
  .ofRow (((job maxAttempts).row 0).claimed "worker-a" 30 0)

/-- A job with two attempts: one that fails, and one that is left to expire. -/
def twoAttempts : List QueueOp :=
  [.enqueue (job 2) 0, .claim "worker-a" 30 0 [] 0,
    .failOrRetry (handle 2) "worker-a" 5 "temporary" 1000000, .claim "worker-b" 30 7000000 [] 0]

/-- A job with one attempt, whose worker dies; another worker takes it after 31 seconds. -/
def lostAttempt : List QueueOp :=
  [.enqueue (job 1) 0, .claim "worker-a" 30 0 [] 0, .claim "worker-b" 30 31000000 [] 0]

end SampleQueue

/-- In every run within the budget, no row ever has more attempts than its maximum, and no job is
handed out more often than that between two retries. -/
theorem attempts_within_budget {operations : List QueueOp}
    (h : StateMachine.Meets JobQueue.step JobQueue.WithinBudget .empty operations) :
    ∀ front, front <+: operations → ∀ row ∈ (JobQueue.after front).db.jobs.rows,
      row.attempts ≤ row.maxAttempts ∧
        (handed row.id (JobQueue.after front).history : ℤ) ≤ row.maxAttempts := by
  rintro front ⟨back, rfl⟩ row hmem
  have hbudget := JobQueue.inBudget_after ((StateMachine.meets_append _ _ _).mp h).1
  have hbound := hbudget.bounded row hmem
  exact ⟨hbound, (JobQueue.counts_after front row hmem).le.trans hbound⟩

theorem attempts_within_budget_sample :
    (∀ row ∈ (JobQueue.after SampleQueue.twoAttempts).db.jobs.rows, row.attempts = 2) ∧
    ∀ front, front <+: SampleQueue.twoAttempts → ∀ row ∈ (JobQueue.after front).db.jobs.rows,
      row.attempts ≤ row.maxAttempts ∧
        (handed row.id (JobQueue.after front).history : ℤ) ≤ row.maxAttempts :=
  ⟨by decide +kernel, attempts_within_budget (by decide +kernel)⟩

/-- A worker that dies with the only attempt of a job leaves it to the next one. -/
theorem attempts_exceed_maximum :
    ¬ ∀ operations : List QueueOp, ∀ row ∈ (JobQueue.after operations).db.jobs.rows,
      row.attempts ≤ row.maxAttempts := by
  intro h
  have hrun := h SampleQueue.lostAttempt
  revert hrun
  decide +kernel

end OpenPool
