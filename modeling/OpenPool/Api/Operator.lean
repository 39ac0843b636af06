import OpenPool.Store.QueueRefinement
import OpenPool.Api.Settlement

/-! # Dead jobs

A job that has used up its attempts is left as it is, until an operator asks for it. -/

namespace OpenPool

open Fallible

section Dead

variable {prim : Primitives} {job : JobRow} {jobs jobs' : Table JobRow}

/-- An update that is not about the job leaves it. -/
theorem mem_of_jobs_update {filter : JobRow → Bool} {set : JobRow → JobRow} {returned : List JobRow}
    (h : jobs.update filter set = .ok (jobs', returned)) (hmem : job ∈ jobs.rows)
    (hfilter : filter job = false) : job ∈ jobs'.rows := by
  rw [(Table.rows_of_update h).1]
  exact List.mem_map.mpr ⟨job, hmem, by rw [hfilter]; rfl⟩

theorem Enqueued.mem (h : Enqueued jobs jobs') (hmem : job ∈ jobs.rows) : job ∈ jobs'.rows := by
  induction h with
  | refl => exact hmem
  | enqueue new now hinsert hrest ih =>
      apply ih
      rcases Table.rows_of_insertOrIgnore hinsert with ⟨-, rfl, -⟩ | ⟨-, hrows, -⟩
      · exact hmem
      · rw [hrows]
        exact List.mem_append_left _ hmem

theorem heldBy_dead {id : Uuid} {workerId : String} (hdead : job.status = .dead) :
    JobRow.heldBy id workerId job = false := by
  simp [JobRow.heldBy, hdead]

/-- A job that every success of the call keeps is kept. -/
theorem mem_jobs_commit {ε α : Type} {call : Database → Except ε (Database × α)} {db : Database}
    (hmem : job ∈ db.jobs.rows)
    (hkept : ∀ db' a, call db = .ok (db', a) → job ∈ db'.jobs.rows) :
    job ∈ (commit db (call db)).jobs.rows := by
  rcases commit_cases db (call db) with hsame | ⟨a, hok⟩
  · rw [hsame]
    exact hmem
  · exact hkept _ a hok

theorem claimJob_dead {db db' : Database} {workerId : String} {leaseSeconds now : ℤ}
    {locked : List Uuid} {choice : ℕ} {claimed : Option ClaimedJob} (hmem : job ∈ db.jobs.rows)
    (hdead : job.status = .dead)
    (h : claimJob workerId leaseSeconds now locked choice db = .ok (db', claimed)) :
    job ∈ db'.jobs.rows := by
  unfold claimJob at h
  split at h
  · cases h
    exact hmem
  · rename_i candidate hcandidate
    simp only [bind_eq_ok_iff, mapError_eq_ok_iff, pure_eq_ok_iff, Prod.mk.injEq] at h
    obtain ⟨⟨jobs, returned⟩, hjobs, rfl, -⟩ := h
    obtain ⟨hcandidateMem, hclaimable⟩ := Table.mem_select.mp (firstBy_mem hcandidate)
    refine mem_of_jobs_update hjobs hmem (decide_eq_false fun hid => ?_)
    -- the id names one row, and a dead one cannot be claimed
    obtain rfl := db.jobs.eq_of_clash hmem hcandidateMem (.inl hid)
    simp [JobRow.claimable, hdead] at hclaimable

/-- Only the retry of a dead job changes it. -/
theorem Store.dead_kept {store : Store} (hmem : job ∈ store.db.jobs.rows)
    (hdead : job.status = .dead) {op : Op} (hop : ∀ now, op ≠ .retryDeadJob job.id now) :
    job ∈ (store.step prim op).db.jobs.rows := by
  cases hcall : op.queueCall with
  | none => exact (store.step_enqueues prim hcall).2.mem hmem
  | some call =>
      cases op with
      | claimJob workerId leaseSeconds now locked choice =>
          exact mem_jobs_commit hmem fun _ _ => claimJob_dead hmem hdead
      | succeedJob jobId workerId =>
          refine mem_jobs_commit hmem fun db' u h => ?_
          simp only [succeedJob, bind_eq_ok_iff, mapError_eq_ok_iff, pure_eq_ok_iff,
            Prod.mk.injEq] at h
          obtain ⟨⟨jobs, returned⟩, hjobs, -, -, rfl, -⟩ := h
          exact mem_of_jobs_update hjobs hmem (heldBy_dead hdead)
      | failOrRetryJob claimed workerId retryAfterSeconds error now =>
          refine mem_jobs_commit hmem fun db' u h => ?_
          simp only [failOrRetryJob, bind_eq_ok_iff, mapError_eq_ok_iff, pure_eq_ok_iff,
            Prod.mk.injEq] at h
          obtain ⟨⟨jobs, returned⟩, hjobs, -, -, rfl, -⟩ := h
          exact mem_of_jobs_update hjobs hmem (heldBy_dead hdead)
      | retryDeadJob id now =>
          refine mem_jobs_commit hmem fun db' u h => ?_
          simp only [retryDeadJob, bind_eq_ok_iff, sql_eq_ok_iff, pure_eq_ok_iff,
            Prod.mk.injEq] at h
          obtain ⟨⟨jobs, returned⟩, hjobs, rfl, -⟩ := h
          refine mem_of_jobs_update hjobs hmem (decide_eq_false fun hid => ?_)
          exact hop now (by rw [hid.1])
      | _ => cases hcall

end Dead

namespace Api

open Program

/-- An operator has asked for the job, and the request takes effect. -/
def System.Retries (deployment : Deployment) (jobId : Uuid) (system : System) (action : Action) :
    Prop :=
  ∃ index choice headers trace next, action = .serve index choice ∧ choice.happens = true ∧
    system.handlers[index]? =
      some ⟨.retryOperatorJob headers jobId, trace, .call (.query (.retryDeadJob jobId)) next⟩ ∧
    system.SameSite deployment headers ∧ ∃ subject, system.ActsAs deployment headers "operator" subject

section Retries

variable {deployment : Deployment} {system : System} {action : Action} {job : JobRow}

/-- A handler comes to the retry only for an operator. -/
theorem System.retries_of_handler (hpath : system.OnPath deployment)
    (hsound : system.SessionsSound deployment)
    (hdev : deployment.api.developmentIdentityEnabled = false) {index : ℕ} {choice : Choice}
    {call : Call} {trace : Trace} {jobId : Uuid}
    {next : (Request.query (.retryDeadJob jobId)).Answer → Task Response}
    (hhappens : choice.happens = true)
    (h : system.handlers[index]? = some ⟨call, trace, .call (.query (.retryDeadJob jobId)) next⟩) :
    system.Retries deployment jobId (.serve index choice) := by
  have hmem := List.mem_of_getElem? h
  have hheard : system.Heard call trace := ⟨_, hmem, rfl, List.suffix_rfl⟩
  have hallowed := (traced_call.mp ((hpath _ hmem).traced (router_lawful deployment.api call))).1
  cases hallowed with
  | read _ _ hreads => cases hreads
  | retryDeadJob headers _ _ hcsrf hoperator =>
      exact ⟨index, choice, headers, trace, next, rfl, hhappens, h, hsound.sameSite hheard hdev hcsrf,
        hsound.operator hheard hdev hoperator⟩

theorem System.dead_step (hpath : system.OnPath deployment)
    (hsound : system.SessionsSound deployment)
    (hdev : deployment.api.developmentIdentityEnabled = false)
    (hmem : job ∈ system.db.jobs.rows) (hdead : job.status = .dead) :
    job ∈ (system.step deployment action).db.jobs.rows ∨
      system.Retries deployment job.id action := by
  cases action with
  | receive call => exact .inl hmem
  | serve index choice =>
      change job ∈ (system.serve deployment index choice).db.jobs.rows ∨ _
      unfold System.serve
      split
      · rename_i call trace request next hserved
        change job ∈ (system.perform deployment choice request).2.db.jobs.rows ∨ _
        rcases system.perform_cases deployment choice request with
          hsame | ⟨statement, rfl, hhappens, hrun⟩
        · rw [hsame]
          exact .inl hmem
        · rw [hrun]
          change job ∈ (System.run deployment system choice statement).store.db.jobs.rows ∨ _
          rw [System.run_store]
          cases hop : statement.op choice with
          | none => exact .inl hmem
          | some op =>
              by_cases hretry : ∃ now, op = .retryDeadJob job.id now
              · obtain ⟨now, rfl⟩ := hretry
                obtain rfl := Option.some.inj (statementOf_op hop)
                exact .inr (System.retries_of_handler hpath hsound hdev hhappens hserved)
              · exact .inl (Store.dead_kept hmem hdead fun now heq => hretry ⟨now, heq⟩)
      · exact .inl hmem
  | work workAction =>
      refine .inl ?_
      have hstep : (∀ op, workAction ≠ .api op) →
          job ∈ (system.world.step deployment.services workAction).shared.store.db.jobs.rows := by
        intro haction
        rw [World.store_step]
        cases hop : system.world.op workAction with
        | none => exact hmem
        | some op =>
            refine Store.dead_kept hmem hdead fun now heq => ?_
            subst heq
            cases World.op_fromWorker hop haction
      cases workAction with
      | api op => exact hmem
      | _ => exact hstep fun _ => OpenPool.Action.noConfusion

end Retries

/-- In every run a job that is dead stays as it is until a request of an operator, logged in and from
the same site, retries it. -/
theorem dead_jobs_retried_by_operators (deployment : Deployment)
    (hdev : deployment.api.developmentIdentityEnabled = false) (front back : List Action)
    (job : JobRow) (hmem : job ∈ (System.after deployment front).db.jobs.rows)
    (hdead : job.status = .dead) :
    job ∈ (System.after deployment (front ++ back)).db.jobs.rows ∨
      StateMachine.Occurs (System.step deployment) (System.Retries deployment job.id)
        (System.after deployment front) back := by
  induction back using List.reverseRecOn with
  | nil => exact .inl (by rwa [List.append_nil])
  | append_singleton back action ih =>
      rcases ih with hkept | hretried
      · rw [← List.append_assoc, System.after_concat]
        refine (System.dead_step (System.onPath_after deployment _)
          (System.sessionsSound_after deployment _) hdev hkept hdead).imp_right fun hretries => ?_
        rw [System.after_append] at hretries
        exact StateMachine.occurs_last hretries
      · exact .inr (hretried.append [action])

namespace ApiSample

open SampleRun (uuid)

/-- A job about an invoice that is not there, which a worker tries eight times. -/
def deadJob : List Action := loggedIn ++
  request 2 (.receiveMavapayWebhook (webhookHeaders webhookBody) webhookBody)
    [choiceAt 2 (uuid 35)] ++
  (List.range 8).flatMap fun attempt => worked (20 * (attempt + 1)) 1 (uuid 36)

/-- The operator retries it. -/
def retried : List Action :=
  request 3 (.retryOperatorJob headers (uuid 35)) (List.replicate 3 (choiceAt 170 (uuid 37)))

end ApiSample

theorem sample_dead_job_retried_by_operator :
    ∃ job ∈ (System.after ApiSample.deployment ApiSample.deadJob).db.jobs.rows,
      job.status = .dead ∧
      StateMachine.Occurs (System.step ApiSample.deployment)
        (System.Retries ApiSample.deployment job.id)
        (System.after ApiSample.deployment ApiSample.deadJob) ApiSample.retried := by
  have hsome : ∃ job ∈ (System.after ApiSample.deployment ApiSample.deadJob).db.jobs.rows,
      job.status = .dead ∧ job ∉ (System.after ApiSample.deployment
        (ApiSample.deadJob ++ ApiSample.retried)).db.jobs.rows := by decide +kernel
  obtain ⟨job, hmem, hdead, hretried⟩ := hsome
  exact ⟨job, hmem, hdead, (dead_jobs_retried_by_operators ApiSample.deployment rfl
    ApiSample.deadJob ApiSample.retried job hmem hdead).resolve_left hretried⟩

end Api

end OpenPool
