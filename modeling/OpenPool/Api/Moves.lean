import OpenPool.Store.Moves
import OpenPool.Api.Collection

/-! # Who moves a raffle

Only its organizer schedules, opens or cancels a raffle. -/

namespace OpenPool.Api

open Fallible Program

/-- A handler has asked for the move. -/
def System.MadeMove (system : System) (raffleId : RaffleId) (organizerId : OrganizerId)
    (status : RaffleStatus) : Prop :=
  ∃ call, system.Made call (.transitionRaffle organizerId raffleId (some status))

/-- The organizer of the raffle has sent a request for the move, and meant it. -/
def System.MoveAsked (deployment : Deployment) (system : System) (row : RaffleRow)
    (status : RaffleStatus) : Prop :=
  ∃ call headers, system.Received call ∧ call.move = some (headers, row.id.uuid, status) ∧
    system.ActsAs deployment headers "organizer" row.organizerId.uuid ∧
    system.SameSite deployment headers

section Moves

variable {deployment : Deployment} {system system' : System} {raffleId : RaffleId}
  {organizerId : OrganizerId} {row : RaffleRow} {status : RaffleStatus}

theorem System.MadeMove.asked (h : system.MadeMove row.id row.organizerId status)
    (hpath : system.OnPath deployment) (hsound : system.SessionsSound deployment)
    (hdev : deployment.api.developmentIdentityEnabled = false) :
    system.MoveAsked deployment row status := by
  obtain ⟨call, hmade⟩ := h
  obtain ⟨trace, hheard, hallowed⟩ := hmade.allowed hpath
  generalize hraffle : row.id = raffleId at hallowed
  cases hallowed with
  | read _ _ hreads => cases hreads
  | transition _ headers id _ _ _ hmove hcsrf hself =>
      refine ⟨call, headers, hheard.received, ?_, hsound.organizer hheard hdev hself,
        hsound.sameSite hheard hdev hcsrf⟩
      rw [hraffle]
      exact hmove

/-- The status of each raffle is explained by what handlers have asked for. -/
def System.Moved (system : System) : Prop :=
  ∀ raffleId organizerId row, (system.db.view raffleId).raffle = some row →
    row.organizerId = organizerId → row.MovedBy (system.MadeMove raffleId organizerId)

theorem System.Steps.moved (h : System.Steps deployment system system')
    (hsound : system.store.Sound deployment.services.prim) (hmoved : system.Moved) :
    system'.Moved := by
  intro raffleId organizerId row hrow horganizer
  have hold : ∀ row, (system.db.view raffleId).raffle = some row → row.organizerId = organizerId →
      row.MovedBy (system'.MadeMove raffleId organizerId) := fun row hrow horganizer =>
    (hmoved raffleId organizerId row hrow horganizer).mono fun _ hmade =>
      hmade.imp fun _ => h.made
  change (system'.store.db.view raffleId).raffle = some row at hrow
  rcases h.stored with ⟨hstore, -⟩ | ⟨-, op, hop, hstore⟩ | ⟨choice, statement, hran⟩
  · rw [hstore] at hrow
    exact hold row hrow horganizer
  · rw [hstore] at hrow
    refine hsound.movedBy_step op (fun status hmove => ?_) hold hrow horganizer
    subst hmove
    cases hop
  · obtain ⟨call, hmade⟩ := hran.made
    obtain ⟨-, -, -, -, hstore, -⟩ := hran
    rw [hstore, System.run_store] at hrow
    cases hop : statement.op choice with
    | none =>
        rw [hop] at hrow
        exact hold row hrow horganizer
    | some op =>
        rw [hop] at hrow
        refine hsound.movedBy_step op (fun status hmove => ?_) hold hrow horganizer
        subst hmove
        obtain rfl := Option.some.inj (statementOf_op hop)
        exact ⟨call, hmade⟩

theorem System.moved_after (deployment : Deployment) (actions : List Action) :
    (System.after deployment actions).Moved := by
  refine StateMachine.history (P := fun (system : System) _ => system.Moved) ?_ ?_ actions
  · intro raffleId organizerId row hrow
    cases hrow
  · intro actions action hmoved
    exact (System.step_spec deployment _ action).moved
      (System.valid_after deployment actions).shared.lawful.sound hmoved

end Moves

/-- In every run a raffle is scheduled, opened or cancelled only where its organizer has asked for
it, logged in and from the same site; without the organizer an opened raffle is cancelled only if no
ticket of it was sold. -/
theorem raffles_moved_by_organizers (deployment : Deployment)
    (hdev : deployment.api.developmentIdentityEnabled = false) (actions : List Action)
    (row : RaffleRow) (hmem : row ∈ (System.after deployment actions).db.raffles.rows) :
    row.MovedBy ((System.after deployment actions).MoveAsked deployment row) :=
  (System.moved_after deployment actions row.id row.organizerId row (find_raffle hmem) rfl).mono
    fun _ hmade => hmade.asked (System.onPath_after deployment actions)
      (System.sessionsSound_after deployment actions) hdev

theorem sample_raffle_moved_by_organizer :
    ∃ row ∈ (System.after ApiSample.deployment ApiSample.opened).db.raffles.rows,
      row.status = .opened ∧ row.MovedBy
        ((System.after ApiSample.deployment ApiSample.opened).MoveAsked ApiSample.deployment row) := by
  have hsome : ∃ row ∈ (System.after ApiSample.deployment ApiSample.opened).db.raffles.rows,
      row.status = .opened := by decide +kernel
  obtain ⟨row, hmem, hstatus⟩ := hsome
  exact ⟨row, hmem, hstatus,
    raffles_moved_by_organizers ApiSample.deployment rfl ApiSample.opened row hmem⟩

end OpenPool.Api
