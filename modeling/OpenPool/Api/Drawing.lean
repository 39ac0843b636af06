import OpenPool.Api.Payments
import OpenPool.Worker.Drawn

/-! # Sold, then drawn

A worker asks for the blocks of a draw when the raffle is frozen. So at the time at which a ticket
could be bought, nobody has shown the system the block that decides. -/

namespace OpenPool.Api

open Fallible

/-- A worker is told this for its job after the first part of the run. -/
def AskedSince (deployment : Deployment) (job : ClaimedJob) (front back : List Action) :
    Knowledge := fun request answer =>
  StateMachine.Occurs (System.step deployment) (System.Asks deployment job request answer)
    (System.after deployment front) back

/-- On what a raffle is drawn: it was frozen, and after that a worker was shown the blocks. -/
structure DrawnOn (deployment : Deployment) (front back : List Action) (job : ClaimedJob)
    (raffleId : RaffleId) (frozen : RaffleRow) (close randomness : Block) : Prop where
  raffle : ((System.after deployment front).db.view raffleId).raffle = some frozen
  status : frozen.status = .randomnessPending
  shown : BlocksShown (AskedSince deployment job front back)
    ⟨ofTimestamp frozen.endTime, frozen.randomnessDelayBlocks⟩ close randomness

section Draws

variable {deployment : Deployment} {actions front back : List Action} {job : ClaimedJob}
  {raffleId : RaffleId} {frozen row : RaffleRow} {close randomness : Block}

theorem DrawnOn.append (h : DrawnOn deployment front back job raffleId frozen close randomness)
    (later : List Action) :
    DrawnOn deployment front (back ++ later) job raffleId frozen close randomness :=
  ⟨h.raffle, h.status, h.shown.mono fun _ _ htold => htold.append later⟩

end Draws

end OpenPool.Api
