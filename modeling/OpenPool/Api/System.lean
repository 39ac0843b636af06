import OpenPool.Api.Routes
import OpenPool.Worker.World

/-! # The API beside the workers

Any number of handlers run at once, each between the requests of the others and the steps of the
workers. A handler that is not served any more has lost its connection, or its process. -/

namespace OpenPool.Api

open Fallible

/-- The configuration of both processes, which hold one key for the addresses. -/
structure Deployment where
  api : ApiState
  services : Services
  decrypts : ∀ value, services.decrypt value =
    (api.addressCipher.decrypt value).mapError ApiStartupError.toString

/-- What the surroundings decide about one request. -/
structure Choice where
  /-- The time of the transaction. -/
  now : ℤ
  eventRowId : Uuid
  jobId : Uuid
  fault : Option Fault
  reply : (question : Question) → Except String question.Value
  read : (source : Source) → source.Value
  /-- The columns that only the orders of lists read. -/
  createdAt : RaffleId → ℤ
  updatedAt : Uuid → ℤ

/-! ## One statement -/

/-- The operation a statement runs on the store; the others read it, or the logins. -/
def Statement.op (choice : Choice) : Statement → Option Op
  | createOrganizer organizer => some (.createOrganizer organizer)
  | createDraftRaffle raffle => some (.createDraftRaffle raffle)
  | updateRaffle organizerId raffle => some (.updateRaffle organizerId raffle)
  | transitionRaffle organizerId raffleId status =>
      some (.transitionRaffle organizerId raffleId status)
  | createCollectionInvoice invoice => some (.createCollectionInvoice invoice)
  | storeCollectionInvoice invoiceId quoteId paymentHash bolt11 expiresAt =>
      some (.storeCollectionInvoice invoiceId quoteId paymentHash bolt11 expiresAt)
  | failCollectionInvoice invoiceId => some (.failCollectionInvoice invoiceId)
  | recordWebhookAndEnqueue event =>
      some (.recordWebhookAndEnqueue event choice.eventRowId choice.jobId choice.now)
  | retryDeadJob id => some (.retryDeadJob id choice.now)
  | _ => none

/-- The logins after a statement. -/
def Statement.login (choice : Choice) (logins : Logins) : Statement → Logins
  | createOidcLoginAttempt attempt =>
      commit logins (OpenPool.createOidcLoginAttempt attempt logins)
  | consumeOidcLoginAttempt state =>
      commit logins (OpenPool.consumeOidcLoginAttempt state choice.now logins)
  | createOidcSession session => commit logins (OpenPool.createOidcSession session logins)
  | deleteOidcSession id => commit logins (OpenPool.deleteOidcSession id logins)
  | _ => logins

/-- What a statement answers. -/
def Statement.answer (db : Database) (logins : Logins) (choice : Choice) :
    (statement : Statement) → Except PersistenceError statement.Value
  | createOidcLoginAttempt attempt => (OpenPool.createOidcLoginAttempt attempt logins).map Prod.snd
  | consumeOidcLoginAttempt state =>
      (OpenPool.consumeOidcLoginAttempt state choice.now logins).map Prod.snd
  | createOidcSession session => (OpenPool.createOidcSession session logins).map Prod.snd
  | oidcSession id => OpenPool.oidcSession id choice.now logins
  | deleteOidcSession id => (OpenPool.deleteOidcSession id logins).map Prod.snd
  | createOrganizer organizer => returned (OpenPool.createOrganizer organizer db)
  | organizerExists organizerId => .ok (OpenPool.organizerExists organizerId db)
  | createDraftRaffle raffle => returned (OpenPool.createDraftRaffle raffle db)
  | updateRaffle organizerId raffle => returned (OpenPool.updateRaffle organizerId raffle db)
  | transitionRaffle organizerId raffleId status =>
      returned (OpenPool.transitionRaffle organizerId raffleId status db)
  | createCollectionInvoice invoice => returned (OpenPool.createCollectionInvoice invoice db)
  | storeCollectionInvoice invoiceId quoteId paymentHash bolt11 expiresAt =>
      returned (OpenPool.storeCollectionInvoice invoiceId quoteId paymentHash bolt11 expiresAt db)
  | failCollectionInvoice invoiceId => returned (OpenPool.failCollectionInvoice invoiceId db)
  | recordWebhookAndEnqueue event =>
      returned (OpenPool.recordWebhookAndEnqueue event choice.eventRowId choice.jobId choice.now db)
  | retryDeadJob id => returned (OpenPool.retryDeadJob id choice.now db)
  | listPublicRaffles => OpenPool.listPublicRaffles choice.createdAt db
  | organizerRaffles organizerId => OpenPool.organizerRaffles choice.createdAt organizerId db
  | publicRaffle raffleId => OpenPool.publicRaffle raffleId db
  | publicPool raffleId => OpenPool.publicPool raffleId db
  | publicEntries raffleId cursor limit => OpenPool.publicEntries raffleId cursor limit db
  | publicInvoice invoiceId => OpenPool.publicInvoice invoiceId db
  | raffleStatus raffleId => OpenPool.raffleStatus raffleId db
  | drawnTicket raffleId => OpenPool.drawnTicket raffleId db
  | payoutStatuses raffleId => .ok (OpenPool.payoutStatuses raffleId db)
  | proofAvailable raffleId => .ok (OpenPool.proofAvailable raffleId db)
  | publicProof raffleId => OpenPool.publicProof raffleId db
  | publicProofMetadata raffleId => OpenPool.publicProofMetadata raffleId db
  | publicRefund refundId => OpenPool.publicRefund refundId db
  | operatorJobs => .ok (OpenPool.operatorJobs choice.updatedAt db)

/-! ## The system -/

/-- A request that was received: what its handler has asked and been told, last first, and what
it does next. -/
structure Handler where
  call : Call
  trace : Trace
  task : Task Response

/-- The handlers are in the order in which their requests were received. -/
structure System where
  world : World
  logins : Logins
  handlers : List Handler

def System.start : System := ⟨.start, .empty, []⟩

def System.db (system : System) : Database := system.world.shared.store.db

inductive Action where
  | receive (call : Call)
  | serve (index : ℕ) (choice : Choice)
  | work (action : OpenPool.Action)

section Step

variable (deployment : Deployment)

/-- A statement takes effect. -/
def System.run (system : System) (choice : Choice) (statement : Statement) : System :=
  { system with
    world := (statement.op choice).elim system.world fun op =>
      system.world.step deployment.services (.api op)
    logins := statement.login choice system.logins }

/-- A request of a handler, executed by the database or by its surroundings. -/
def System.perform (system : System) (choice : Choice) :
    (request : Request) → request.Answer × System
  | .query statement =>
      match choice.fault with
      | some fault => (.error (.sqlx fault.error),
          if fault.committed then system.run deployment choice statement else system)
      | none => (statement.answer system.db system.logins choice,
          system.run deployment choice statement)
  | .ask question => (choice.reply question, system)
  | .draw source => (choice.read source, system)

/-- A handler makes its next request. -/
def System.serve (system : System) (index : ℕ) (choice : Choice) : System :=
  match system.handlers[index]? with
  | some ⟨call, trace, .call request next⟩ =>
      let (answer, after) := system.perform deployment choice request
      { after with
        handlers := system.handlers.set index ⟨call, ⟨request, answer⟩ :: trace, next answer⟩ }
  | _ => system

/-- The workers have every action but the transactions of the API. -/
def System.work (system : System) : OpenPool.Action → System
  | .api _ => system
  | action => { system with world := system.world.step deployment.services action }

def System.step (system : System) : Action → System
  | .receive call => { system with
      handlers := system.handlers ++ [⟨call, [], router deployment.api call⟩] }
  | .serve index choice => system.serve deployment index choice
  | .work action => system.work deployment action

/-- The system after a list of actions, from an empty database. -/
def System.after (actions : List Action) : System :=
  StateMachine.run (System.step deployment) .start actions

end Step

end OpenPool.Api
