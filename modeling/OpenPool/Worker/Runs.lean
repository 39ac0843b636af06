import OpenPool.Store.ProofCorrectness
import OpenPool.Worker.Safety

/-! # Runs of the system

Between two steps the shared state satisfies its invariant, and the rest of each job is safe. -/

namespace OpenPool

open Fallible Program

/-! ## Workers -/

section Workers

variable {world : World} {workerId other : String} {worker : Worker}

theorem World.worker_withWorker : (world.withWorker workerId worker).worker other =
    if other = workerId then worker else world.worker other := by
  unfold World.worker World.withWorker
  by_cases hsame : other = workerId
  · simp [hsame]
  · have hhead : (other == workerId) = false := beq_false_of_ne hsame
    have hkept : ∀ workers : List (String × Worker),
        (workers.filter fun entry => entry.1 ≠ workerId).lookup other = workers.lookup other := by
      intro workers
      induction workers with
      | nil => rfl
      | cons entry workers ih =>
          obtain ⟨id, entry⟩ := entry
          by_cases hid : id = workerId
          · subst hid
            rw [List.filter_cons_of_neg (by simp), ih, List.lookup_cons, hhead]
          · rw [List.filter_cons_of_pos (by simpa using hid), List.lookup_cons, List.lookup_cons, ih]
    rw [if_neg hsame, List.lookup_cons, hhead, hkept]

@[simp] theorem World.worker_withShared (shared : Shared) :
    (world.withShared shared).worker other = world.worker other := rfl

@[simp] theorem World.shared_withWorker : (world.withWorker workerId worker).shared = world.shared :=
  rfl

@[simp] theorem World.shared_withShared (shared : Shared) :
    (world.withShared shared).shared = shared := rfl

end Workers

/-! ## The operation of a step -/

/-- The transaction takes effect, whether or not its answer arrives. -/
def Choice.happens (choice : Choice) : Bool :=
  choice.fault.elim true Fault.committed

/-- The operation that an action runs on the store. -/
def World.op (world : World) : Action → Option Op
  | .api op => if op.fromApi then some op else none
  | .schedule workerId jobIds now =>
      match world.worker workerId with
      | .idle => some (.scheduleDueCloses jobIds now)
      | _ => none
  | .claim workerId choice =>
      match world.worker workerId with
      | .idle =>
          if choice.happens then
            some (.claimJob workerId jobLeaseSeconds choice.now choice.locked choice.pick)
          else none
      | _ => none
  | .work workerId choice =>
      match world.worker workerId with
      | .busy _ (.call (.query statement) _) _ =>
          if (Request.query statement).waits world.shared.store = false ∧ choice.happens then
            statement.op world.shared.store workerId choice
          else none
      | _ => none
  | .finish workerId choice =>
      match world.worker workerId with
      | .busy job (.done (.ok .finished)) _ =>
          if choice.happens then some (.succeedJob job.id workerId) else none
      | .busy job (.done (.error error)) _ =>
          if choice.happens then
            some (.failOrRetryJob job workerId retryAfterSeconds error choice.now)
          else none
      | _ => none
  | .rollback payoutId => some (.rollbackSettle payoutId)
  | .crash _ | .deliver _ | .pay _ => none

section Steps

variable {services : Services} {world : World} {shared : Shared} {choice : Choice}

theorem Shared.store_transact (op : Op) : (shared.transact services choice op).store =
    (if choice.happens then some op else none).elim shared.store
      (shared.store.step services.prim) := by
  unfold Shared.transact Choice.happens
  cases choice.fault with
  | none => rfl
  | some fault => cases hcommitted : fault.committed <;> simp [hcommitted, Shared.run]

theorem Shared.store_record {payload : JobPayload} (request : Request) (answer : request.Answer) :
    (shared.record payload choice request answer).store = shared.store := by
  unfold Shared.record
  split
  · unfold Shared.miss
    split <;> rfl
  · unfold Shared.unreference
    split <;> rfl
  · unfold Shared.pay Shared.confirm
    split <;> rfl
  · rfl
  · rfl

theorem Shared.store_perform_query {workerId : String} {payload : JobPayload}
    (statement : Statement) :
    (shared.perform services workerId payload choice (.query statement)).2.store =
      (if choice.happens then statement.op shared.store workerId choice else none).elim shared.store
        (shared.store.step services.prim) := by
  unfold Shared.perform Choice.happens
  cases choice.fault with
  | none => exact Shared.store_record _ _
  | some fault => cases hcommitted : fault.committed <;> simp [hcommitted, Shared.run]

theorem Shared.store_perform_ask (services : Services) (workerId : String) (payload : JobPayload)
    (question : Question) :
    (shared.perform services workerId payload choice (.ask question)).2.store = shared.store :=
  Shared.store_record _ _

/-- A step changes the store by its operation. -/
theorem World.store_step (world : World) (action : Action) :
    (world.step services action).shared.store =
      (world.op action).elim world.shared.store (world.shared.store.step services.prim) := by
  cases action with
  | api op =>
      simp only [World.step, World.op]
      split <;> rfl
  | schedule workerId jobIds now =>
      cases hworker : world.worker workerId <;> simp only [World.step, World.op, hworker] <;> rfl
  | claim workerId choice =>
      cases hworker : world.worker workerId with
      | idle =>
          simp only [World.step, World.op, World.claim, hworker]
          rw [← Shared.store_transact]
          split
          · rfl
          · rfl
          · exact absurd rfl ‹Worker.idle = Worker.idle → False›
      | _ => simp only [World.step, World.op, World.claim, hworker]; rfl
  | work workerId choice =>
      cases hworker : world.worker workerId with
      | busy job task memory =>
          cases task with
          | done result => simp only [World.step, World.op, World.work, hworker]; rfl
          | call request next =>
              simp only [World.step, World.op, World.work, hworker]
              cases request with
              | query statement =>
                  cases hwaits : (Request.query statement).waits world.shared.store with
                  | true => simp [hwaits]
                  | false =>
                      simp only [hwaits, true_and, Bool.false_eq_true, if_false]
                      exact Shared.store_perform_query statement
              | ask question => exact Shared.store_perform_ask services workerId job.payload question
      | _ => simp only [World.step, World.op, World.work, hworker]; rfl
  | finish workerId choice =>
      cases hworker : world.worker workerId with
      | busy job task memory =>
          cases task with
          | call request next => simp only [World.step, World.op, World.finish, hworker]; rfl
          | done result =>
              rcases result with error | round
              · simp only [World.step, World.op, World.finish, hworker]
                exact Shared.store_transact _
              · cases round with
                | again => simp only [World.step, World.op, World.finish, hworker]; rfl
                | finished =>
                    simp only [World.step, World.op, World.finish, hworker]
                    exact Shared.store_transact _
      | _ => simp only [World.step, World.op, World.finish, hworker]; rfl
  | crash workerId => rfl
  | rollback payoutId => rfl
  | deliver workerId =>
      simp only [World.step, World.op, World.deliver]
      split <;> rfl
  | pay index =>
      simp only [World.step, World.op]
      split
      · simp only [World.shared_withShared, Shared.pay]
        split <;> rfl
      · rfl

end Steps

/-! ## The invariant of the system -/

/-- The worker's job is in the queue, and the rest of it is safe. -/
def World.WorkerSafe (services : Services) (world : World) (workerId : String) : Prop :=
  ∀ job task memory, world.worker workerId = .busy job task memory →
    world.shared.Knows job ∧
      Safe (services.rules workerId job.payload) (Ends job.kind job.payload) task memory
        world.shared

structure World.Valid (services : Services) (world : World) : Prop where
  shared : world.shared.Valid services.prim
  workers : ∀ workerId, world.WorkerSafe services workerId

section Invariant

variable {services : Services} {world world' : World} {workerId : String} {choice : Choice}

/-- Workers that do not step stay safe. -/
theorem World.Valid.others (hvalid : world.Valid services)
    (hextends : world.shared.Extends world'.shared) {other : String}
    (hworker : world'.worker other = world.worker other) : world'.WorkerSafe services other := by
  intro job task memory hbusy
  obtain ⟨hknown, hsafe⟩ := hvalid.workers other job task memory (hworker ▸ hbusy)
  exact ⟨hextends.knows hknown, hsafe.later hextends⟩

/-- A step of the shared state alone. -/
theorem World.Valid.withShared (hvalid : world.Valid services) {shared : Shared}
    (hshared : shared.Valid services.prim) (hextends : world.shared.Extends shared) :
    (world.withShared shared).Valid services :=
  ⟨hshared, fun _ => hvalid.others hextends rfl⟩

/-- A step of one worker. -/
theorem World.Valid.withWorker (hvalid : world.Valid services) {shared : Shared} {worker : Worker}
    (hshared : shared.Valid services.prim) (hextends : world.shared.Extends shared)
    (hsafe : ∀ job task memory, worker = .busy job task memory → shared.Knows job ∧
      Safe (services.rules workerId job.payload) (Ends job.kind job.payload) task memory shared) :
    ((world.withShared shared).withWorker workerId worker).Valid services := by
  refine ⟨hshared, fun other => ?_⟩
  by_cases hsame : other = workerId
  · subst hsame
    intro job task memory hbusy
    rw [World.worker_withWorker, if_pos rfl] at hbusy
    exact hsafe job task memory hbusy
  · refine hvalid.others hextends ?_
    rw [World.worker_withWorker, if_neg hsame]
    rfl

theorem Shared.Valid.transact {shared : Shared} (hvalid : shared.Valid services.prim)
    (choice : Choice) (op : Op) (hallowed : op.Allowed shared) :
    (shared.transact services choice op).Valid services.prim ∧
      shared.Extends (shared.transact services choice op) := by
  have hrun : (shared.run services (some op)).Valid services.prim ∧
      shared.Extends (shared.run services (some op)) :=
    hvalid.run fun operation hmem => Option.mem_some_iff.mp hmem ▸ hallowed
  unfold Shared.transact
  split
  · split
    · exact hrun
    · exact ⟨hvalid, .refl _⟩
  · exact hrun

theorem Op.allowed_of_fromApi {op : Op} {shared : Shared} (h : op.fromApi = true) :
    op.Allowed shared := by
  cases op <;> trivial

/-- The job that a claim returns is in the queue. -/
theorem claimJob_known {db db' : Database} {workerId : String} {leaseSeconds now : ℤ}
    {locked : List Uuid} {pick : ℕ} {job : ClaimedJob}
    (h : claimJob workerId leaseSeconds now locked pick db = .ok (db', some job)) :
    ∃ row ∈ db'.jobs.rows, row.id = job.id ∧ row.kind = job.kind ∧ row.payload = job.payload := by
  unfold claimJob at h
  split at h
  · cases h
  · simp only [bind_eq_ok_iff, mapError_eq_ok_iff, pure_eq_ok_iff, Prod.mk.injEq,
      Option.map_eq_some_iff] at h
    obtain ⟨⟨jobs, returned⟩, hjobs, rfl, row, hrow, rfl⟩ := h
    obtain ⟨hrows, hreturned⟩ := Table.rows_of_update hjobs
    have hmem := List.mem_of_head? hrow
    rw [hreturned] at hmem
    obtain ⟨old, hold, rfl⟩ := List.mem_map.mp hmem
    obtain ⟨holdMem, hfilter⟩ := List.mem_filter.mp hold
    refine ⟨old.claimed workerId leaseSeconds now, ?_, rfl, rfl, rfl⟩
    change _ ∈ jobs.rows
    rw [hrows]
    exact List.mem_map.mpr ⟨old, holdMem, if_pos hfilter⟩

/-- The end of a job that a worker reports. -/
theorem World.Valid.allowed_succeed (hvalid : world.Valid services) {job : ClaimedJob}
    {memory : Memory}
    (hworker : world.worker workerId = .busy job (.done (.ok .finished)) memory) :
    (Op.succeedJob job.id workerId).Allowed world.shared := by
  obtain ⟨⟨known, hknown, hid, hkind, hpayload⟩, hsafe⟩ := hvalid.workers workerId _ _ _ hworker
  intro row hmem hrow
  obtain rfl : row = known := world.shared.store.db.jobs.eq_of_clash hmem hknown
    (.inl (hrow.trans hid.symm))
  rw [hkind, hpayload]
  exact (hsafe.result hvalid.shared).1

/-- Every step keeps the invariant, and takes nothing back. -/
theorem World.Valid.step (hvalid : world.Valid services) (action : Action) :
    (world.step services action).Valid services ∧
      world.shared.Extends (world.step services action).shared := by
  have hshared : ∀ {shared : Shared}, shared.Valid services.prim ∧ world.shared.Extends shared →
      (world.withShared shared).Valid services ∧ world.shared.Extends shared :=
    fun h => ⟨hvalid.withShared h.1 h.2, h.2⟩
  have hstay : world.Valid services ∧ world.shared.Extends world.shared := ⟨hvalid, .refl _⟩
  cases action with
  | api op =>
      simp only [World.step]
      split
      · rename_i hapi
        exact hshared (hvalid.shared.run fun operation hmem =>
          Option.mem_some_iff.mp hmem ▸ Op.allowed_of_fromApi hapi)
      · exact hstay
  | schedule workerId jobIds now =>
      simp only [World.step]
      split
      · exact hshared (hvalid.shared.run fun operation hmem => by
          obtain rfl := Option.mem_some_iff.mp hmem
          trivial)
      · exact hstay
  | claim workerId choice =>
      have htransact := hvalid.shared.transact choice
        (.claimJob workerId jobLeaseSeconds choice.now choice.locked choice.pick) trivial
      simp only [World.step, World.claim]
      split
      · rename_i db' job hidle hfault hclaim
        refine ⟨hvalid.withWorker htransact.1 htransact.2 ?_, htransact.2⟩
        rintro _ _ _ ⟨⟩
        have hknown : (world.shared.transact services choice
            (.claimJob workerId jobLeaseSeconds choice.now choice.locked choice.pick)).Knows job := by
          obtain ⟨row, hmem, hrow⟩ := claimJob_known hclaim
          refine ⟨row, ?_, hrow⟩
          unfold Shared.transact
          rw [hfault]
          change row ∈ (world.shared.store.exec _).db.jobs.rows
          rw [exec_db hclaim]
          exact hmem
        exact ⟨hknown, reconcilePayment_safe htransact.1 hknown fun _ => rfl⟩
      · exact hshared htransact
      · exact hstay
  | work workerId choice =>
      simp only [World.step, World.work]
      split
      · rename_i job request next memory hworker
        split
        · exact hstay
        · obtain ⟨hknown, hsafe⟩ := hvalid.workers workerId _ _ _ hworker
          obtain ⟨hallowed, hnext⟩ := hsafe.next hvalid.shared
          obtain ⟨hafter, hextends⟩ := hvalid.shared.perform hallowed choice
          refine ⟨hvalid.withWorker hafter hextends ?_, hextends⟩
          rintro _ _ _ ⟨⟩
          exact ⟨hextends.knows hknown, hnext _ _ ⟨choice, rfl⟩⟩
      · exact hstay
  | finish workerId choice =>
      simp only [World.step, World.finish]
      split
      · rename_i job memory hworker
        obtain ⟨hknown, hsafe⟩ := hvalid.workers workerId _ _ _ hworker
        have hkind : job.kind = .payoutExecute := hsafe.result hvalid.shared
        refine ⟨hvalid.withWorker hvalid.shared (.refl _) ?_, .refl _⟩
        rintro _ _ _ ⟨⟩
        exact ⟨hknown, reconcilePayment_safe hvalid.shared hknown
          fun heq => by cases hkind.symm.trans heq⟩
      · rename_i job memory hworker
        have htransact := hvalid.shared.transact choice _
          (hvalid.allowed_succeed hworker)
        exact ⟨hvalid.withWorker htransact.1 htransact.2 nofun, htransact.2⟩
      · rename_i job error memory hworker
        have htransact := hvalid.shared.transact choice
          (.failOrRetryJob job workerId retryAfterSeconds error choice.now) trivial
        exact ⟨hvalid.withWorker htransact.1 htransact.2 nofun, htransact.2⟩
      · exact hstay
  | crash workerId => exact ⟨hvalid.withWorker hvalid.shared (.refl _) nofun, .refl _⟩
  | rollback payoutId =>
      exact hshared (hvalid.shared.run fun operation hmem => by
        obtain rfl := Option.mem_some_iff.mp hmem
        trivial)
  | deliver workerId =>
      simp only [World.step, World.deliver]
      split
      · rename_i job request next memory hworker
        obtain ⟨hknown, hsafe⟩ := hvalid.workers workerId _ _ _ hworker
        exact hshared ⟨hvalid.shared.send (hsafe.next hvalid.shared).1, Shared.extends_send _ _⟩
      · exact hstay
  | pay index =>
      simp only [World.step]
      split
      · rename_i payment hpayment
        exact hshared ⟨hvalid.shared.pay (List.mem_of_getElem? hpayment), Shared.extends_pay _ _⟩
      · exact hstay

/-- A step of the system is a step of each raffle. -/
theorem World.step_view (hvalid : world.Valid services) (action : Action)
    (raffleId : RaffleId) :
    (world.step services action).shared.store.db.view raffleId =
        world.shared.store.db.view raffleId ∨
      ∃ op, world.op action = some op ∧
        RaffleStep services.prim (op.scope world.shared.store) raffleId
          (world.shared.store.db.view raffleId)
          ((world.step services action).shared.store.db.view raffleId) := by
  rw [World.store_step]
  cases hop : world.op action with
  | none => exact .inl rfl
  | some op =>
      exact .inr ⟨op, rfl, world.shared.store.step_raffleStep hvalid.shared.lawful.sound op⟩

theorem Store.lawful_empty (prim : Primitives) : Store.empty.Lawful prim where
  sound := Store.sound_empty
  late raffleId := by
    change LateInv (Database.empty.view raffleId)
    rw [view_empty]
    exact ⟨fun _ hmem => absurd hmem List.not_mem_nil, fun _ hmem => absurd hmem List.not_mem_nil⟩
  closing raffleId := by
    change CloseInv (Database.empty.view raffleId)
    rw [view_empty]
    exact fun _ hmem => absurd hmem List.not_mem_nil
  decided raffleId := by
    change DecidedInv (Database.empty.view raffleId)
    rw [view_empty]
    exact fun _ hrow => by cases hrow

theorem Shared.valid_empty (prim : Primitives) : Shared.empty.Valid prim where
  lawful := Store.lawful_empty prim
  sent _ hmem := absurd hmem List.not_mem_nil
  paid := List.Subset.refl _
  paidOnce := List.nodup_nil
  confirmed _ hmem := absurd hmem List.not_mem_nil
  settled _ hmem := absurd hmem List.not_mem_nil
  settling _ hmem := absurd hmem List.not_mem_nil
  completed _ hmem := absurd hmem List.not_mem_nil

theorem World.valid_start (services : Services) : World.start.Valid services :=
  ⟨Shared.valid_empty _, fun _ _ _ _ hbusy => by cases hbusy⟩

/-- The invariant holds after every run. -/
theorem World.valid_after (services : Services) (actions : List Action) :
    (World.after services actions).Valid services :=
  StateMachine.invariant (fun _ action hvalid => (hvalid.step action).1) (valid_start services)
    actions

/-- A longer run takes nothing back. -/
theorem World.extends_after (services : Services) (actions more : List Action) :
    (World.after services actions).shared.Extends
      (World.after services (actions ++ more)).shared := by
  unfold World.after
  rw [StateMachine.run_append]
  exact StateMachine.run_related (R := fun a b : World => a.shared.Extends b.shared)
    (fun _ => .refl _) (fun _ _ _ => .trans) (fun _ action hvalid => (World.Valid.step hvalid action).1)
    (fun _ action hvalid => (World.Valid.step hvalid action).2) (valid_after services actions) more

end Invariant

/-! ## What a step notes -/

/-- The request that an action makes, unless it waits. -/
def World.request (world : World) : Action → Option (Choice × Request)
  | .work workerId choice =>
      match world.worker workerId with
      | .busy _ (.call request _) _ =>
          if request.waits world.shared.store then none else some (choice, request)
      | _ => none
  | _ => none

section Notes

variable {services : Services} {world : World} {action : Action} {shared : Shared}
  {choice : Choice} {workerId : String} {payload : JobPayload}

/-- What the history notes about claims and about reads. -/
def Shared.notes (shared : Shared) : List RaffleId × List InvoiceId :=
  (shared.missed, shared.unreferenced)

theorem Shared.notes_transact (op : Op) :
    (shared.transact services choice op).notes = shared.notes := by
  unfold Shared.transact
  split
  · split <;> rfl
  · rfl

theorem Shared.notes_pay (shared : Shared) (payment : Payment) :
    (shared.pay payment).notes = shared.notes := by
  unfold Shared.pay
  split <;> rfl

/-- Only a request is noted. -/
theorem World.notes_step (world : World) (action : Action) :
    (world.step services action).shared.notes = world.shared.notes ∨
      ∃ workerId payload choice request, world.request action = some (choice, request) ∧
        (world.step services action).shared =
          (world.shared.perform services workerId payload choice request).2 := by
  cases action with
  | api op =>
      simp only [World.step]
      split <;> exact .inl rfl
  | schedule workerId jobIds now =>
      simp only [World.step]
      split <;> exact .inl rfl
  | claim workerId choice =>
      simp only [World.step, World.claim]
      split
      · exact .inl (Shared.notes_transact _)
      · exact .inl (Shared.notes_transact _)
      · exact .inl rfl
  | work workerId choice =>
      cases hworker : world.worker workerId with
      | busy job task memory =>
          cases task with
          | done result => exact .inl (by simp only [World.step, World.work, hworker])
          | call request next =>
              simp only [World.step, World.work, World.request, hworker]
              split
              · exact .inl rfl
              · exact .inr ⟨workerId, job.payload, choice, request, rfl, rfl⟩
      | _ => exact .inl (by simp only [World.step, World.work, hworker])
  | finish workerId choice =>
      simp only [World.step, World.finish]
      split
      · exact .inl rfl
      · exact .inl (Shared.notes_transact _)
      · exact .inl (Shared.notes_transact _)
      · exact .inl rfl
  | crash workerId => exact .inl rfl
  | rollback payoutId => exact .inl rfl
  | deliver workerId =>
      simp only [World.step, World.deliver]
      split <;> exact .inl rfl
  | pay index =>
      simp only [World.step]
      split
      · exact .inl (Shared.notes_pay _ _)
      · exact .inl rfl

theorem Shared.notes_ask (question : Question) :
    (shared.perform services workerId payload choice (.ask question)).2.notes = shared.notes := by
  cases question with
  | payInvoice request =>
      simp only [Shared.perform]
      cases choice.reply (.payInvoice request) with
      | ok attempt => exact (shared.send _).notes_pay _
      | error error => rfl
  | _ => rfl

/-- Only two answers are noted: a claim that finds nothing, and an invoice without reference. -/
theorem Shared.notes_perform (services : Services) (shared : Shared) (request : Request) :
    (shared.perform services workerId payload choice request).2.notes = shared.notes ∨
      (∃ raffleId, request = .query (.claimPayout raffleId) ∧
        shared.perform services workerId payload choice (.query (.claimPayout raffleId)) =
          (.ok none, (shared.perform services workerId payload choice request).2)) ∨
      ∃ invoiceId, request = .query (.collectionPaymentReference invoiceId) ∧
        shared.perform services workerId payload choice
          (.query (.collectionPaymentReference invoiceId)) =
          (.ok none, (shared.perform services workerId payload choice request).2) := by
  cases request with
  | ask question => exact .inl (Shared.notes_ask question)
  | query statement =>
      cases hanswer : (shared.perform services workerId payload choice (.query statement)).1 with
      | ok value =>
          have hperform : shared.perform services workerId payload choice (.query statement) =
              (.ok value, (shared.perform services workerId payload choice (.query statement)).2) :=
            Prod.ext hanswer rfl
          obtain ⟨-, hafter⟩ := Shared.perform_ok hperform
          cases statement with
          | claimPayout raffleId =>
              cases value with
              | none => exact .inr (.inl ⟨raffleId, rfl, hperform⟩)
              | some payout => exact .inl (by rw [hafter]; rfl)
          | collectionPaymentReference invoiceId =>
              cases value with
              | none => exact .inr (.inr ⟨invoiceId, rfl, hperform⟩)
              | some reference => exact .inl (by rw [hafter]; rfl)
          | _ => exact .inl (by rw [hafter]; rfl)
      | error error =>
          refine .inl ?_
          simp only [Shared.perform] at hanswer ⊢
          split
          · split <;> rfl
          · rename_i hfault
            rw [hfault] at hanswer
            dsimp only at hanswer
            rw [hanswer]
            cases statement <;> rfl

/-- A step notes a raffle only when a claim misses one of its payouts. -/
theorem World.missed_step (hclaims : ∀ choice raffleId,
      world.request action = some (choice, .query (.claimPayout raffleId)) →
      choice.fault = none →
      payoutCandidates raffleId choice.now (world.shared.store.locked ++ choice.locked)
        world.shared.store.db = [] →
      ¬ world.shared.store.Withholds raffleId choice) :
    (world.step services action).shared.missed = world.shared.missed := by
  rcases world.notes_step action with hnotes | ⟨workerId, payload, choice, request, hrequest, hstep⟩
  · exact congrArg Prod.fst hnotes
  · rw [hstep]
    rcases world.shared.notes_perform services request with
      hnotes | ⟨raffleId, rfl, hperform⟩ | ⟨invoiceId, rfl, hperform⟩
    · exact congrArg Prod.fst hnotes
    · obtain ⟨hempty, hafter⟩ := Shared.claim_none hperform
      rw [hafter, Shared.miss,
        if_neg (hclaims choice raffleId hrequest (Shared.fault_none hperform) hempty)]
    · rw [Shared.reference_none hperform |>.2, Shared.unreference]
      split <;> rfl

/-- A step notes an invoice only when a job finds it pending without a reference. -/
theorem World.unreferenced_step (hreads : ∀ choice invoiceId,
      world.request action = some (choice, .query (.collectionPaymentReference invoiceId)) →
      choice.fault = none →
      collectionPaymentReference invoiceId world.shared.store.db = .ok none →
      ¬ world.shared.store.Pending invoiceId) :
    (world.step services action).shared.unreferenced = world.shared.unreferenced := by
  rcases world.notes_step action with hnotes | ⟨workerId, payload, choice, request, hrequest, hstep⟩
  · exact congrArg Prod.snd hnotes
  · rw [hstep]
    rcases world.shared.notes_perform services request with
      hnotes | ⟨raffleId, rfl, hperform⟩ | ⟨invoiceId, rfl, hperform⟩
    · exact congrArg Prod.snd hnotes
    · rw [Shared.claim_none hperform |>.2, Shared.miss]
      split <;> rfl
    · obtain ⟨hnone, hafter⟩ := Shared.reference_none hperform
      rw [hafter, Shared.unreference,
        if_neg (hreads choice invoiceId hrequest (Shared.fault_none hperform) hnone)]

end Notes

/-! ## A small system -/

namespace WorldSample

open SampleRun

def services : Services where
  prim := .standard
  describe _ := "database error"
  hasBitcoin := true
  hasResolver := true
  hasProofStore := true
  platformAddress := some "platform@openpool"
  decrypt _ := .ok "address"
  toVec _ := .ok []

/-- Blocks come every ten seconds, the last one at height 17. -/
def reply : (question : Question) → Except String question.Value
  | .tipHeight => .ok 17
  | .blockAt height => .ok {
      height
      hash := hash (.ofNat (101 + height.toNat))
      previousHash := hash (.ofNat (100 + height.toNat))
      time := secondsAfter (10 * height.toNat) }
  | .publishImmutable _ _ => .ok ⟨"uri", "version", "etag"⟩
  | .resolveExactAmount _ amountSats => .ok ⟨"bolt11", amountSats⟩
  | .payInvoice _ => .ok ⟨"provider payment"⟩
  | .getPayment _ => .ok .settled

/-- The surroundings `seconds` after the start. -/
def choiceAt (seconds : ℕ) (id : Uuid) : Choice where
  now := seconds * 1000000
  instant := ⟨secondsAfter seconds, by unfold secondsAfter; omega⟩
  id
  drawIds
  pick := 0
  locked := []
  fault := none
  reply

/-- The resolver does not answer. -/
def resolverDown (seconds : ℕ) (id : Uuid) : Choice :=
  { choiceAt seconds id with
    reply := fun
      | .resolveExactAmount _ _ => .error "resolver is down"
      | question => reply question }

/-- A job that needs at most a number of requests. -/
def round (requests : ℕ) (choice : Choice) : List Action :=
  List.replicate requests (.work "worker" choice) ++ [.finish "worker" choice]

def runJob (requests : ℕ) (choice : Choice) : List Action :=
  .claim "worker" choice :: round requests choice

/-- An open raffle with two invoices. -/
def invoiced : List Action := [
  .api (.createOrganizer ⟨organizerId, "organizer", [0xa1]⟩),
  .api (.createDraftRaffle newRaffle),
  .api (.transitionRaffle organizerId raffleId (some .scheduled)),
  .api (.transitionRaffle organizerId raffleId (some .opened)),
  .api (.createCollectionInvoice newInvoice),
  .api (.storeCollectionInvoice invoiceId "quote" "payment" "lnbc" (secondsAfter 50)),
  .api (.createCollectionInvoice secondInvoice),
  .api (.storeCollectionInvoice secondInvoiceId "second quote" "second payment" "second lnbc"
    (secondsAfter 50))]

/-- The provider reports their payments. -/
def reported : List Action := invoiced ++ [
  .api (.recordWebhookAndEnqueue ⟨"mavapay", "event", invoiceId, hash 11⟩ (uuid 12) (uuid 13)
    2000000),
  .api (.recordWebhookAndEnqueue ⟨"mavapay", "second event", secondInvoiceId, hash 17⟩ (uuid 16)
    (uuid 17) 3000000)]

def schedule (seconds : ℕ) : Action := .schedule "worker" (fun _ => uuid 7) (seconds * 1000000)

def settled : List Action :=
  reported ++ runJob 3 (choiceAt 3 (uuid 4)) ++ runJob 3 (choiceAt 4 (uuid 15))

def frozen : List Action := settled ++ schedule 100 :: runJob 2 (choiceAt 101 (uuid 8))

def drawn : List Action := frozen ++ runJob 18 (choiceAt 170 (uuid 25))

end WorldSample

end OpenPool
