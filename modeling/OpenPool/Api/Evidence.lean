import OpenPool.Api.Runs
import OpenPool.Worker.Grounds

/-! # What workers have been told in a run

The trace of each worker is a part of the run: at some step it asked, and got this answer. -/

namespace OpenPool.Api

open Program

/-- In this step a worker asks for its job, and gets the answer. -/
def System.Asks (deployment : Deployment) (job : ClaimedJob) (request : OpenPool.Request)
    (answer : request.Answer) (system : System) (action : Action) : Prop :=
  ∃ workerId choice next memory, action = .work (.work workerId choice) ∧
    system.world.worker workerId = .busy job (.call request next) memory ∧
    request.waits system.store = false ∧
    (system.world.shared.perform deployment.services workerId job.payload choice request).1 = answer

/-- Somewhere in the run a worker has asked for its job, and got the answer. -/
def Asked (deployment : Deployment) (job : ClaimedJob) (request : OpenPool.Request)
    (answer : request.Answer) (actions : List Action) : Prop :=
  StateMachine.Occurs (System.step deployment) (System.Asks deployment job request answer) .start
    actions

/-- A worker has gone through the exchanges in the run, one after the other. -/
abbrev AskedInTurn (deployment : Deployment) (job : ClaimedJob) (trace : JobTrace)
    (actions : List Action) : Prop :=
  StateMachine.Followed (System.step deployment)
    (fun exchange => System.Asks deployment job exchange.request exchange.answer) .start trace
    actions

/-- A worker that asks is told, and what it has asked for takes effect. -/
theorem Asked.performed {deployment : Deployment} {job : ClaimedJob} {request : OpenPool.Request}
    {answer : request.Answer} {actions : List Action}
    (h : Asked deployment job request answer actions) : ∃ front action back workerId choice,
      actions = front ++ action :: back ∧
        (System.after deployment front).world.shared.perform deployment.services workerId
          job.payload choice request =
            (answer, (System.after deployment (front ++ [action])).world.shared) := by
  obtain ⟨front, action, back, rfl, workerId, choice, next, memory, rfl, hbusy, hwaits, hanswer⟩ := h
  refine ⟨front, _, back, workerId, choice, rfl, Prod.ext hanswer ?_⟩
  change (System.after deployment front).world.worker workerId = _ at hbusy
  change request.waits (System.after deployment front).world.shared.store = false at hwaits
  rw [System.after_concat]
  change _ = (World.work deployment.services (System.after deployment front).world workerId
    choice).shared
  simp only [World.work, hbusy, hwaits]
  rfl

section Workers

variable {deployment : Deployment} {system : System} {action : Action} {workerId : String}
  {job : ClaimedJob} {task : OpenPool.Task Round} {memory : Memory} {actions : List Action}

/-- The workers' world takes at most one step, which is one of theirs or a transaction of the API. -/
theorem System.world_step (deployment : Deployment) (system : System) (action : Action) :
    (system.step deployment action).world = system.world ∨ ∃ workAction,
      (system.step deployment action).world =
        system.world.step deployment.services workAction ∧
      ((∃ op, workAction = .api op) ∨ action = .work workAction) := by
  cases action with
  | receive call => exact .inl rfl
  | serve index choice =>
      change (system.serve deployment index choice).world = _ ∨ ∃ _,
        (system.serve deployment index choice).world = _ ∧ _
      unfold System.serve
      split
      · rename_i call trace request next hserved
        change (system.perform deployment choice request).2.world = _ ∨ ∃ _,
          (system.perform deployment choice request).2.world = _ ∧ _
        rcases system.perform_cases deployment choice request with hsame | ⟨statement, rfl, -, hrun⟩
        · exact .inl (congrArg System.world hsame)
        · rw [hrun]
          unfold System.run
          cases statement.op choice with
          | none => exact .inl rfl
          | some op => exact .inr ⟨.api op, rfl, .inl ⟨op, rfl⟩⟩
      · exact .inl rfl
  | work workAction =>
      cases workAction with
      | api op => exact .inl rfl
      | _ => exact .inr ⟨_, rfl, .inr rfl⟩

/-- Each worker is on a path of its job, along answers that it got in this run. -/
def WorkersTold (deployment : Deployment) (system : System) (actions : List Action) : Prop :=
  ∀ workerId job task memory, system.world.worker workerId = .busy job task memory →
    ∃ trace, Path (reconcilePayment deployment.services job) trace task ∧
      AskedInTurn deployment job trace actions

theorem workersTold_after (deployment : Deployment) (actions : List Action) :
    WorkersTold deployment (System.after deployment actions) actions := by
  refine StateMachine.history (P := WorkersTold deployment) ?_ ?_ actions
  · intro workerId job task memory hbusy
    cases hbusy
  · intro actions action htold workerId job task memory hbusy
    have hkept : ∀ {task memory},
        (StateMachine.run (System.step deployment) .start actions).world.worker workerId =
          .busy job task memory →
        ∃ trace, Path (reconcilePayment deployment.services job) trace task ∧
          AskedInTurn deployment job trace (actions ++ [action]) := by
      intro task memory hbusy
      obtain ⟨trace, hpath, hasked⟩ := htold workerId job task memory hbusy
      exact ⟨trace, hpath, hasked.append [action]⟩
    rcases System.world_step deployment (System.after deployment actions) action with
      hsame | ⟨workAction, hwork, haction⟩
    · have hworker := congrArg (World.worker · workerId) hsame
      exact hkept (hworker.symm.trans hbusy)
    · have hworker := congrArg (World.worker · workerId) hwork
      rcases World.busy_step (hworker.symm.trans hbusy) with hbusy | rfl | ⟨choice, request, next,
        before, rfl, hasks, hwaits, rfl⟩
      · exact hkept hbusy
      · exact ⟨[], .start, .nil _⟩
      · obtain rfl : action = .work (.work workerId choice) :=
          haction.resolve_left fun ⟨op, hop⟩ => OpenPool.Action.noConfusion hop
        obtain ⟨trace, hpath, hasked⟩ := htold workerId job _ before hasks
        exact ⟨_, hpath.step _, .cons [] hasked
          ⟨workerId, choice, next, before, rfl, hasks, hwaits, rfl⟩⟩

/-- A worker that is about to make a request has grounds for it, which it got in this run. -/
theorem grounds_of_busy {request : OpenPool.Request}
    {next : request.Answer → OpenPool.Task Round}
    (h : (System.after deployment actions).world.worker workerId =
      .busy job (.call request next) memory) :
    ∃ trace, Grounds deployment.services job request trace ∧
      AskedInTurn deployment job trace actions := by
  obtain ⟨trace, hpath, hasked⟩ := workersTold_after deployment actions _ _ _ _ h
  exact ⟨trace,
    (traced_call.mp (hpath.traced (reconcilePayment_grounded deployment.services job))).1, hasked⟩

end Workers

/-! ## What workers do -/

section Effects

variable {deployment : Deployment} {system : System} {action : Action}

/-- An entry is made by a worker that has come to settle its invoice. -/
theorem System.entry_step (hvalid : system.world.Valid deployment.services) {entry : EntryRow}
    (h : entry ∈ (system.step deployment action).db.entries.rows) :
    entry ∈ system.db.entries.rows ∨ ∃ workerId job next memory,
      system.world.worker workerId =
        .busy job (.call (.query (.settleInvoice entry.invoiceId)) next) memory := by
  rcases system.world_step deployment action with hsame | ⟨workAction, hwork, -⟩
  · have hdb : (system.step deployment action).db = system.db :=
      congrArg (fun world => world.shared.store.db) hsame
    exact .inl (hdb ▸ h)
  · have hdb : (system.step deployment action).db = _ :=
      congrArg (fun world => world.shared.store.db) hwork
    rw [hdb] at h
    exact World.entry_step hvalid h

/-- A payment is sent by a worker that has come to it. -/
theorem System.sent_step {payment : Payment}
    (h : payment ∈ (system.step deployment action).world.shared.sent) :
    payment ∈ system.world.shared.sent ∨ ∃ workerId job next memory,
      system.world.worker workerId =
        .busy job (.call (.ask (.payInvoice payment.request)) next) memory := by
  rcases system.world_step deployment action with hsame | ⟨workAction, hwork, -⟩
  · exact .inl (hsame ▸ h)
  · rw [hwork] at h
    exact World.sent_step h

end Effects

end OpenPool.Api
