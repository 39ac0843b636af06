import OpenPool.Api.System
import OpenPool.Worker.Requested

/-! # Runs of the API beside the workers

What one step can do. A handler goes along a path of its program, and no other step touches it;
the world of the workers is one that they reach with some transactions of the API. -/

namespace OpenPool.Api

open Program

/-! ## Steps -/

/-- What one step can do. -/
inductive System.Steps (deployment : Deployment) (system : System) : System → Prop
  | stay : Steps deployment system system
  | receive (call : Call) : Steps deployment system { system with
      handlers := system.handlers ++ [⟨call, [], router deployment.api call⟩] }
  | serve {index : ℕ} {call : Call} {trace : Trace} {request : Request}
      {next : request.Answer → Task Response} (choice : Choice)
      (h : system.handlers[index]? = some ⟨call, trace, .call request next⟩) :
      Steps deployment system { (system.perform deployment choice request).2 with
        handlers := system.handlers.set index
          ⟨call, ⟨request, (system.perform deployment choice request).1⟩ :: trace,
            next (system.perform deployment choice request).1⟩ }
  | work {action : OpenPool.Action} (h : ∀ op, action ≠ .api op) :
      Steps deployment system { system with world := system.world.step deployment.services action }

section Steps

variable {deployment : Deployment} {system system' : System} {call : Call} {trace : Trace}

theorem System.step_spec (deployment : Deployment) (system : System) (action : Action) :
    System.Steps deployment system (system.step deployment action) := by
  cases action with
  | receive call => exact .receive call
  | serve index choice =>
      change System.Steps deployment system (system.serve deployment index choice)
      unfold System.serve
      split
      · exact .serve choice ‹_›
      · exact .stay
  | work action =>
      cases action with
      | api op => exact .stay
      | _ => exact .work fun _ => nofun

/-! ## Handlers -/

/-- A handler of the call has asked, and been told, what is in the trace. -/
def System.Heard (system : System) (call : Call) (trace : Trace) : Prop :=
  ∃ handler ∈ system.handlers, handler.call = call ∧ trace <:+ handler.trace

/-- What a handler has been told stays in its trace. -/
theorem System.Steps.heard (h : System.Steps deployment system system')
    (hheard : system.Heard call trace) : system'.Heard call trace := by
  cases h with
  | stay => exact hheard
  | receive =>
      obtain ⟨handler, hmem, hhandler⟩ := hheard
      exact ⟨handler, List.mem_append_left _ hmem, hhandler⟩
  | work => exact hheard
  | @serve index served front request next choice hserved =>
      obtain ⟨handler, hmem, rfl, hsuffix⟩ := hheard
      obtain ⟨other, hother⟩ := List.mem_iff_getElem?.mp hmem
      obtain ⟨hlt, -⟩ := List.getElem?_eq_some_iff.mp hserved
      by_cases hsame : index = other
      · subst hsame
        rw [hserved] at hother
        cases hother
        refine ⟨_, List.mem_set hlt _, rfl, ?_⟩
        exact hsuffix.trans (List.suffix_cons _ _)
      · exact ⟨handler, List.mem_iff_getElem?.mpr
          ⟨other, (List.getElem?_set_ne hsame).trans hother⟩, rfl, hsuffix⟩

/-- The handlers go along the paths of their programs. -/
def System.OnPath (deployment : Deployment) (system : System) : Prop :=
  ∀ handler ∈ system.handlers, Path (router deployment.api handler.call) handler.trace handler.task

theorem System.Steps.onPath (h : System.Steps deployment system system')
    (hpath : system.OnPath deployment) : system'.OnPath deployment := by
  cases h with
  | stay => exact hpath
  | receive call =>
      intro handler hmem
      rcases List.mem_append.mp hmem with hmem | hmem
      · exact hpath handler hmem
      · obtain rfl := List.mem_singleton.mp hmem
        exact .start
  | work => exact hpath
  | serve choice hserved =>
      intro handler hmem
      rcases List.mem_or_eq_of_mem_set hmem with hmem | rfl
      · exact hpath handler hmem
      · exact (hpath _ (List.mem_of_getElem? hserved)).step _

theorem System.onPath_after (deployment : Deployment) (actions : List Action) :
    (System.after deployment actions).OnPath deployment :=
  StateMachine.invariant (fun (system : System) action => (system.step_spec deployment action).onPath)
    (fun _ hmem => absurd hmem List.not_mem_nil) actions

/-- What was heard stands on a path of the program. -/
theorem System.Heard.path (h : system.Heard call trace) (hpath : system.OnPath deployment) :
    ∃ task, Path (router deployment.api call) trace task := by
  obtain ⟨handler, hmem, rfl, hsuffix⟩ := h
  exact (hpath handler hmem).earlier hsuffix

/-- The call was received. -/
def System.Received (system : System) (call : Call) : Prop :=
  ∃ handler ∈ system.handlers, handler.call = call

theorem System.Heard.received (h : system.Heard call trace) : system.Received call := by
  obtain ⟨handler, hmem, hcall, -⟩ := h
  exact ⟨handler, hmem, hcall⟩

theorem System.Heard.earlier {trace' : Trace} (h : system.Heard call trace)
    (hsuffix : trace' <:+ trace) : system.Heard call trace' := by
  obtain ⟨handler, hmem, hcall, hlater⟩ := h
  exact ⟨handler, hmem, hcall, hsuffix.trans hlater⟩

/-- A handler of the call has got this answer. -/
def System.Told (system : System) (call : Call) (request : Request) (answer : request.Answer) :
    Prop :=
  ∃ handler ∈ system.handlers, handler.call = call ∧ Has handler.trace request answer

theorem System.Heard.told {request : Request} {answer : request.Answer}
    (h : system.Heard call trace) (hhas : Has trace request answer) :
    system.Told call request answer := by
  obtain ⟨handler, hmem, hcall, hsuffix⟩ := h
  exact ⟨handler, hmem, hcall, hhas.later hsuffix⟩

/-- A handler learns an answer by making its request, which then has its effect. -/
theorem System.Steps.told {request : Request} {answer : request.Answer}
    (h : System.Steps deployment system system') (htold : system'.Told call request answer) :
    system.Told call request answer ∨
      ∃ choice, (system.perform deployment choice request).1 = answer ∧
        system'.world = (system.perform deployment choice request).2.world := by
  obtain ⟨handler, hmem, rfl, hhas⟩ := htold
  cases h with
  | stay => exact .inl ⟨handler, hmem, rfl, hhas⟩
  | receive call =>
      rcases List.mem_append.mp hmem with hmem | hmem
      · exact .inl ⟨handler, hmem, rfl, hhas⟩
      · obtain rfl := List.mem_singleton.mp hmem
        cases hhas
  | work => exact .inl ⟨handler, hmem, rfl, hhas⟩
  | serve choice hserved =>
      rcases List.mem_or_eq_of_mem_set hmem with hmem | rfl
      · exact .inl ⟨handler, hmem, rfl, hhas⟩
      · rcases List.mem_cons.mp hhas with hnew | hold
        · cases hnew
          exact .inr ⟨choice, rfl, rfl⟩
        · exact .inl ⟨_, List.mem_of_getElem? hserved, rfl, hold⟩

/-- A statement that has answered with a value did so for the tables of this moment, and has taken
effect. -/
theorem System.perform_ok {choice : Choice} {statement : Statement} {value : statement.Value}
    (h : (system.perform deployment choice (.query statement)).1 = .ok value) :
    statement.answer system.db system.logins choice = .ok value ∧
      (system.perform deployment choice (.query statement)).2 =
        system.run deployment choice statement := by
  simp only [System.perform] at h ⊢
  split at h
  · cases h
  · exact ⟨h, rfl⟩

/-! ## The workers' world -/

theorem System.run_world (choice : Choice) (statement : Statement) :
    ∃ actions, (system.run deployment choice statement).world =
      StateMachine.run (World.step deployment.services) system.world actions := by
  unfold System.run
  cases statement.op choice with
  | none => exact ⟨[], rfl⟩
  | some op => exact ⟨[.api op], rfl⟩

theorem System.perform_world (choice : Choice) (request : Request) :
    ∃ actions, (system.perform deployment choice request).2.world =
      StateMachine.run (World.step deployment.services) system.world actions := by
  cases request with
  | query statement =>
      simp only [System.perform]
      split
      · split
        · exact system.run_world choice statement
        · exact ⟨[], rfl⟩
      · exact system.run_world choice statement
  | ask question => exact ⟨[], rfl⟩
  | draw source => exact ⟨[], rfl⟩

theorem System.Steps.world (h : System.Steps deployment system system') :
    ∃ actions, system'.world =
      StateMachine.run (World.step deployment.services) system.world actions := by
  cases h with
  | stay => exact ⟨[], rfl⟩
  | receive => exact ⟨[], rfl⟩
  | serve choice => exact system.perform_world choice _
  | @work action => exact ⟨[action], rfl⟩

/-- What holds of every world of the workers holds beside the handlers. -/
theorem System.world_after (deployment : Deployment) (actions : List Action) :
    ∃ worldActions, (System.after deployment actions).world =
      World.after deployment.services worldActions := by
  have hstep : ∀ (system : System) (world : World) (action : Action), system.world = world →
      ∃ worldActions, (system.step deployment action).world =
        StateMachine.run (World.step deployment.services) world worldActions := by
    rintro system world action rfl
    exact (system.step_spec deployment action).world
  exact StateMachine.simulation hstep rfl actions

theorem System.valid_after (deployment : Deployment) (actions : List Action) :
    (System.after deployment actions).world.Valid deployment.services := by
  obtain ⟨worldActions, hworld⟩ := System.world_after deployment actions
  rw [hworld]
  exact World.valid_after deployment.services worldActions

/-- A step takes nothing back. -/
theorem System.Steps.extends (h : System.Steps deployment system system')
    (hvalid : system.world.Valid deployment.services) :
    system'.world.Valid deployment.services ∧
      system.world.shared.Extends system'.world.shared := by
  obtain ⟨actions, hworld⟩ := h.world
  rw [hworld]
  exact ⟨StateMachine.invariant (fun _ action hvalid => (hvalid.step action).1) hvalid actions,
    StateMachine.run_related (R := fun a b : World => a.shared.Extends b.shared)
      (fun _ => .refl _) (fun _ _ _ => .trans)
      (fun _ action hvalid => (World.Valid.step hvalid action).1)
      (fun _ action hvalid => (World.Valid.step hvalid action).2) hvalid actions⟩

theorem System.after_append (deployment : Deployment) (front back : List Action) :
    System.after deployment (front ++ back) =
      StateMachine.run (System.step deployment) (System.after deployment front) back :=
  StateMachine.run_append _ _ _

theorem System.after_concat (deployment : Deployment) (actions : List Action) (action : Action) :
    System.after deployment (actions ++ [action]) =
      (System.after deployment actions).step deployment action :=
  StateMachine.run_concat _ _ _

/-- A longer run takes nothing back. -/
theorem System.extends_run (deployment : Deployment) (front back : List Action) :
    (System.after deployment front).world.shared.Extends
      (System.after deployment (front ++ back)).world.shared := by
  rw [System.after_append]
  exact StateMachine.run_related (R := fun a b : System => a.world.shared.Extends b.world.shared)
    (fun _ => .refl _) (fun _ _ _ => .trans)
    (fun system action hvalid => ((system.step_spec deployment action).extends hvalid).1)
    (fun system action hvalid => ((system.step_spec deployment action).extends hvalid).2)
    (System.valid_after deployment front) back

/-! ## The tables -/

def System.store (system : System) : Store := system.world.shared.store

theorem Statement.op_fromApi {choice : Choice} {statement : Statement} {op : Op}
    (h : statement.op choice = some op) : op.fromApi = true := by
  cases statement with
  | createOrganizer | createDraftRaffle | updateRaffle | transitionRaffle
  | createCollectionInvoice | storeCollectionInvoice | failCollectionInvoice
  | recordWebhookAndEnqueue | retryDeadJob =>
      obtain rfl := Option.some.inj h
      rfl
  | _ => cases h

theorem System.run_store (choice : Choice) (statement : Statement) :
    (system.run deployment choice statement).store =
      (statement.op choice).elim system.store (system.store.step deployment.services.prim) := by
  unfold System.run System.store
  cases hop : statement.op choice with
  | none => rfl
  | some op =>
      change (system.world.step deployment.services (.api op)).shared.store = _
      rw [World.store_step]
      simp only [World.op, if_pos (Statement.op_fromApi hop)]

/-- The statement takes effect, whether or not its answer arrives. -/
def Choice.happens (choice : Choice) : Bool :=
  choice.fault.elim true Fault.committed

/-- A request that has an effect is a statement, and has the effect of that statement. -/
theorem System.perform_cases (deployment : Deployment) (system : System) (choice : Choice)
    (request : Request) :
    (system.perform deployment choice request).2 = system ∨ ∃ statement,
      request = .query statement ∧ choice.happens = true ∧
        (system.perform deployment choice request).2 = system.run deployment choice statement := by
  cases request with
  | query statement =>
      simp only [System.perform, Choice.happens]
      split
      · split
        · rename_i fault hfault hcommitted
          exact .inr ⟨statement, rfl, hfault ▸ hcommitted, rfl⟩
        · exact .inl rfl
      · rename_i hfault
        exact .inr ⟨statement, rfl, hfault ▸ rfl, rfl⟩
  | ask question => exact .inl rfl
  | draw source => exact .inl rfl

/-- A statement that a handler has just made takes effect. -/
def System.Ran (system system' : System) (deployment : Deployment) (choice : Choice)
    (statement : Statement) : Prop :=
  ∃ call trace answer, system'.Heard call (⟨.query statement, answer⟩ :: trace) ∧
    system'.store = (system.run deployment choice statement).store ∧
    system'.logins = (system.run deployment choice statement).logins

/-- A step changes nothing that is stored, runs an operation of a worker, or a statement. -/
theorem System.Steps.stored (h : System.Steps deployment system system') :
    (system'.store = system.store ∧ system'.logins = system.logins) ∨
      (system'.logins = system.logins ∧ ∃ op : Op, op.fromWorker = true ∧
        system'.store = system.store.step deployment.services.prim op) ∨
      ∃ choice statement, system.Ran system' deployment choice statement := by
  cases h with
  | stay => exact .inl ⟨rfl, rfl⟩
  | receive => exact .inl ⟨rfl, rfl⟩
  | @work action haction =>
      unfold System.store
      rw [World.store_step]
      cases hop : system.world.op action with
      | none => exact .inl ⟨rfl, rfl⟩
      | some op => exact .inr (.inl ⟨rfl, op, World.op_fromWorker hop haction, rfl⟩)
  | @serve index call trace request next choice hserved =>
      rcases system.perform_cases deployment choice request with
        hsame | ⟨statement, rfl, -, hrun⟩
      · have hstore := congrArg System.store hsame
        have hlogins := congrArg System.logins hsame
        exact .inl ⟨hstore, hlogins⟩
      · have hstore := congrArg System.store hrun
        have hlogins := congrArg System.logins hrun
        obtain ⟨hlt, -⟩ := List.getElem?_eq_some_iff.mp hserved
        exact .inr (.inr ⟨choice, statement, call, trace, _,
          ⟨_, List.mem_set hlt _, rfl, List.suffix_rfl⟩, hstore, hlogins⟩)

/-- A step runs operations of the handlers and of the workers on the store. -/
theorem System.Steps.store_run (h : System.Steps deployment system system') :
    ∃ operations : List Op, (∀ op ∈ operations, op.fromApi = true ∨ op.fromWorker = true) ∧
      system'.store = StateMachine.run (Store.step deployment.services.prim) system.store
        operations := by
  rcases h.stored with ⟨hstore, -⟩ | ⟨-, op, hop, hstore⟩ | ⟨choice, statement, hran⟩
  · exact ⟨[], fun _ hmem => absurd hmem List.not_mem_nil, hstore⟩
  · exact ⟨[op], List.forall_mem_singleton.mpr (.inr hop), hstore⟩
  · obtain ⟨call, trace, answer, -, hstore, -⟩ := hran
    rw [System.run_store] at hstore
    cases hop : statement.op choice with
    | none =>
        rw [hop] at hstore
        exact ⟨[], fun _ hmem => absurd hmem List.not_mem_nil, hstore⟩
    | some op =>
        rw [hop] at hstore
        exact ⟨[op], List.forall_mem_singleton.mpr (.inl (Statement.op_fromApi hop)), hstore⟩

/-- Between two states of a run the store goes through operations. -/
theorem System.store_run (deployment : Deployment) (front back : List Action) :
    ∃ operations, (System.after deployment (front ++ back)).store =
      StateMachine.run (Store.step deployment.services.prim) (System.after deployment front).store
        operations := by
  rw [System.after_append]
  have hstep : ∀ (system : System) (store : Store) (action : Action), system.store = store →
      ∃ operations, (system.step deployment action).store =
        StateMachine.run (Store.step deployment.services.prim) store operations := by
    rintro system store action rfl
    obtain ⟨operations, -, hrun⟩ := (system.step_spec deployment action).store_run
    exact ⟨operations, hrun⟩
  exact StateMachine.simulation hstep rfl back

/-- The system refines the store: its tables are those of a run of operations. -/
theorem System.store_after (deployment : Deployment) (actions : List Action) :
    ∃ operations : List Op, (∀ op ∈ operations, op.fromApi = true ∨ op.fromWorker = true) ∧
      (System.after deployment actions).store =
        Store.after deployment.services.prim operations := by
  refine StateMachine.invariant (P := fun system : System => ∃ operations : List Op,
    (∀ op ∈ operations, op.fromApi = true ∨ op.fromWorker = true) ∧
      system.store = Store.after deployment.services.prim operations) ?_
    ⟨[], fun _ hmem => absurd hmem List.not_mem_nil, rfl⟩ actions
  rintro system action ⟨operations, hfrom, hstore⟩
  obtain ⟨more, hmore, hrun⟩ := (system.step_spec deployment action).store_run
  refine ⟨operations ++ more, List.forall_mem_append.mpr ⟨hfrom, hmore⟩, ?_⟩
  rw [hrun, hstore]
  exact (StateMachine.run_append _ _ _).symm

/-- What clients have asked for changes by a statement of a handler only. -/
theorem System.Steps.requested (h : System.Steps deployment system system') :
    system'.db.requested = system.db.requested ∨ ∃ choice statement op,
      system.Ran system' deployment choice statement ∧ statement.op choice = some op ∧
        RequestStep op system.db.requested system'.db.requested := by
  rcases h.stored with ⟨hstore, -⟩ | ⟨-, op, hop, hstore⟩ | ⟨choice, statement, hran⟩
  · exact .inl (congrArg (fun store => store.db.requested) hstore)
  · refine .inl ?_
    change system'.store.db.requested = system.store.db.requested
    rw [hstore]
    exact (Store.step_request _ _ op).eq_of_worker hop
  · have hstore := hran
    obtain ⟨call, trace, answer, -, hstore, -⟩ := hstore
    rw [System.run_store] at hstore
    cases hop : statement.op choice with
    | none =>
        rw [hop] at hstore
        exact .inl (congrArg (fun store => store.db.requested) hstore)
    | some op =>
        rw [hop] at hstore
        refine .inr ⟨choice, statement, op, hran, hop, ?_⟩
        change RequestStep op system.store.db.requested system'.store.db.requested
        rw [hstore]
        exact Store.step_request _ _ op

/-- The logins change by a statement of a handler only. -/
theorem System.Steps.logins (h : System.Steps deployment system system') :
    system'.logins = system.logins ∨ ∃ choice statement,
      system.Ran system' deployment choice statement ∧
        system'.logins = statement.login choice system.logins := by
  rcases h.stored with ⟨-, hlogins⟩ | ⟨hlogins, -⟩ | ⟨choice, statement, hran⟩
  · exact .inl hlogins
  · exact .inl hlogins
  · have hlogins := hran
    obtain ⟨call, trace, answer, -, -, hlogins⟩ := hlogins
    exact .inr ⟨choice, statement, hran, hlogins⟩

end Steps

end OpenPool.Api
