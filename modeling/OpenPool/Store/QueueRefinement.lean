import OpenPool.Store.AttemptBudget
import OpenPool.Store.Frames

/-! # The store runs on the job queue

The jobs of the store are always those of a run of the queue: an operation is a call of the
queue, or it enqueues jobs. What the queue keeps in all its runs, the store keeps too. -/

namespace OpenPool

open Fallible

/-! ## Calls that read and write the jobs alone -/

section OnJobs

variable {ε α β : Type}

/-- On databases with the same jobs the call leaves the same jobs. -/
def OnJobs (call : Database → Except ε (Database × α)) : Prop :=
  ∀ db other : Database, other.jobs = db.jobs →
    (commit other (call other)).jobs = (commit db (call db)).jobs

/-- A statement on the jobs, whose answer does not depend on the other tables. -/
theorem onJobs_statement (statement : Table JobRow → Except ε (Table JobRow × β))
    {next : Database → Table JobRow × β → Except ε (Database × α)}
    (hnext : ∀ result, ∃ answer : Except ε α, ∀ db,
      next db result = answer.map fun a => ({ db with jobs := result.1 }, a)) :
    OnJobs fun db => statement db.jobs >>= next db := by
  intro db other h
  dsimp only
  rw [h]
  cases statement db.jobs with
  | error error => exact h
  | ok result =>
      obtain ⟨answer, hanswer⟩ := hnext result
      change (commit other (next other result)).jobs = (commit db (next db result)).jobs
      rw [hanswer, hanswer]
      cases answer with
      | error error => exact h
      | ok a => rfl

theorem claimJob_onJobs (workerId : String) (leaseSeconds now : ℤ) (locked : List Uuid)
    (choice : ℕ) : OnJobs (claimJob workerId leaseSeconds now locked choice) := by
  intro db other h
  unfold claimJob claimCandidate
  rw [h]
  cases firstBy JobRow.before
      (db.jobs.select fun row => row.claimable now ∧ row.id ∉ locked) choice with
  | none => exact h
  | some candidate =>
      dsimp only
      cases db.jobs.update (fun row => row.id = candidate.id)
          (JobRow.claimed workerId leaseSeconds now) with
      | error violation => exact h
      | ok result => rfl

theorem succeedJob_onJobs (jobId : Uuid) (workerId : String) :
    OnJobs (succeedJob jobId workerId) := by
  refine onJobs_statement (fun jobs => (jobs.update _ _).mapError _) ?_
  rintro ⟨jobs, returned⟩
  refine ⟨ensure (returned.length = 1) .leaseLost, fun db => ?_⟩
  dsimp only
  cases ensure (returned.length = 1) JobError.leaseLost <;> rfl

theorem failOrRetryJob_onJobs (job : ClaimedJob) (workerId : String) (retryAfterSeconds : ℤ)
    (error : String) (now : ℤ) :
    OnJobs (failOrRetryJob job workerId retryAfterSeconds error now) := by
  refine onJobs_statement (fun jobs => (jobs.update _ _).mapError _) ?_
  rintro ⟨jobs, returned⟩
  refine ⟨ensure (returned.length = 1) .leaseLost >>= fun _ =>
    pure (if job.nextStatus = .dead then .dead else .retried), fun db => ?_⟩
  dsimp only
  cases ensure (returned.length = 1) JobError.leaseLost <;> rfl

theorem retryDeadJob_onJobs (id : Uuid) (now : ℤ) : OnJobs (retryDeadJob id now) :=
  onJobs_statement (fun jobs => sql (jobs.update _ _))
    fun result => ⟨.ok (result.2.length = 1), fun _ => rfl⟩

end OnJobs

/-! ## One operation -/

section Refinement

variable {prim : Primitives} {store : Store} {queue : JobQueue}

/-- The store has the jobs of the queue. -/
def Store.HasJobs (store : Store) (queue : JobQueue) : Prop := queue.db.jobs = store.db.jobs

theorem JobQueue.exec_db {ε α : Type} (queue : JobQueue)
    (call : Database → Except ε (Database × α)) (events : α → List QueueEvent) :
    (queue.exec call events).db = commit queue.db (call queue.db) := by
  unfold exec
  cases call queue.db <;> rfl

theorem Store.HasJobs.exec {ε α : Type} {call : Database → Except ε (Database × α)}
    (h : store.HasJobs queue) (hcall : OnJobs call) (events : α → List QueueEvent) :
    (store.exec call).HasJobs (queue.exec call events) := by
  change (queue.exec call events).db.jobs = (commit store.db (call store.db)).jobs
  rw [queue.exec_db]
  exact hcall _ _ h

/-- An operation that is a call of the queue does what the call does. -/
theorem Store.HasJobs.call (h : store.HasJobs queue) {op : Op} {call : QueueOp}
    (hcall : op.queueCall = some call) : (store.step prim op).HasJobs (queue.step call) := by
  cases op with
  | claimJob workerId leaseSeconds now locked choice =>
      cases hcall
      exact h.exec (claimJob_onJobs workerId leaseSeconds now locked choice) _
  | succeedJob jobId workerId =>
      cases hcall
      exact h.exec (succeedJob_onJobs jobId workerId) _
  | failOrRetryJob job workerId retryAfterSeconds error now =>
      cases hcall
      exact h.exec (failOrRetryJob_onJobs job workerId retryAfterSeconds error now) _
  | retryDeadJob id now =>
      cases hcall
      exact h.exec (retryDeadJob_onJobs id now) _
  | _ => cases hcall

/-- Jobs that the store enqueues are enqueued one by one in the queue. -/
theorem Enqueued.calls {jobs jobs' : Table JobRow} (h : Enqueued jobs jobs') {queue : JobQueue}
    (hjobs : queue.db.jobs = jobs) {C : JobQueue → QueueOp → Prop}
    (henqueue : ∀ queue job now, C queue (.enqueue job now)) :
    ∃ calls, StateMachine.Meets JobQueue.step C queue calls ∧
      (StateMachine.run JobQueue.step queue calls).db.jobs = jobs' := by
  induction h generalizing queue with
  | refl => exact ⟨[], trivial, hjobs⟩
  | @enqueue jobs jobs' jobs'' job now inserted hinsert hrest ih =>
      have hcall : OpenPool.enqueue job now queue.db =
          .ok ({ queue.db with jobs := jobs' }, inserted) := by
        unfold OpenPool.enqueue
        rw [hjobs]
        change (jobs.insertOrIgnore (JobRow.isFor job.kind job.deduplicationKey)
          (job.row now)).mapError _ >>= _ = _
        rw [hinsert]
        rfl
      have hstep : (queue.step (.enqueue job now)).db.jobs = jobs' := by
        rw [JobQueue.step, JobQueue.exec_ok hcall]
      obtain ⟨calls, hmeets, hend⟩ := ih hstep
      exact ⟨.enqueue job now :: calls, ⟨henqueue queue job now, hmeets⟩, hend⟩

/-- An operation of the store is a run of the queue: one call, or calls of `enqueue`. -/
theorem Store.HasJobs.step (h : store.HasJobs queue) (prim : Primitives) (op : Op)
    {C : JobQueue → QueueOp → Prop} (henqueue : ∀ queue job now, C queue (.enqueue job now))
    (hcalls : ∀ call ∈ op.queueCall, C queue call) :
    ∃ calls, StateMachine.Meets JobQueue.step C queue calls ∧
      (store.step prim op).HasJobs (StateMachine.run JobQueue.step queue calls) := by
  cases hcall : op.queueCall with
  | some call => exact ⟨[call], ⟨hcalls call hcall, trivial⟩, h.call hcall⟩
  | none => exact (store.step_enqueues prim hcall).2.calls h henqueue

/-! ## Runs -/

theorem Store.HasJobs.empty : Store.empty.HasJobs .empty := rfl

/-- The jobs of the store, after any run, are the jobs of the queue after some run. -/
theorem Store.refines_queue (prim : Primitives) (operations : List Op) :
    ∃ calls, (Store.after prim operations).HasJobs (JobQueue.after calls) := by
  refine StateMachine.simulation (fun store queue op h => ?_) Store.HasJobs.empty operations
  obtain ⟨calls, -, hnext⟩ := h.step prim op (C := fun _ _ => True)
    (fun _ _ _ => trivial) (fun _ _ => trivial)
  exact ⟨calls, hnext⟩

/-- In the store too the running jobs are the leased ones. -/
theorem Store.leased_iff_running (prim : Primitives) (operations : List Op) :
    ∀ row ∈ (Store.after prim operations).db.jobs.rows,
      row.leaseOwner ≠ none ↔ row.status = .running := by
  obtain ⟨calls, hjobs⟩ := Store.refines_queue prim operations
  intro row hmem
  rw [← hjobs] at hmem
  exact (JobQueue.valid_after calls).running row hmem

/-- The operation takes no job whose attempts are used up, and returns none by an older handle. -/
def Store.WithinBudget (store : Store) (op : Op) : Prop :=
  ∀ call ∈ op.queueCall, JobQueue.WithinBudget ⟨store.db, []⟩ call

theorem Store.HasJobs.withinBudget (h : store.HasJobs queue) {call : QueueOp}
    (hwithin : JobQueue.WithinBudget ⟨store.db, []⟩ call) : queue.WithinBudget call := by
  have hjobs : queue.db.jobs = store.db.jobs := h
  cases call with
  | claim workerId leaseSeconds now locked choice =>
      simpa only [JobQueue.WithinBudget, claimCandidate, hjobs] using hwithin
  | failOrRetry job workerId retryAfterSeconds error now =>
      simpa only [JobQueue.WithinBudget, hjobs] using hwithin
  | enqueue | succeed | retryDead => trivial

/-- Within the budget no job of the store has more attempts than its maximum. -/
theorem Store.attempts_le_maximum {operations : List Op}
    (h : StateMachine.Meets (Store.step prim) Store.WithinBudget .empty operations) :
    ∀ row ∈ (Store.after prim operations).db.jobs.rows, row.attempts ≤ row.maxAttempts := by
  obtain ⟨calls, hmeets, hjobs⟩ := h.simulation
    (fun store queue op hwithin hsame => hsame.step prim op (fun _ _ _ => trivial)
      fun call hcall => hsame.withinBudget (hwithin call hcall)) Store.HasJobs.empty
  intro row hmem
  rw [Store.after, ← hjobs] at hmem
  exact (JobQueue.inBudget_after hmeets).bounded row hmem

end Refinement

end OpenPool
