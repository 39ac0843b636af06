import OpenPool.Store.LedgerCorrectness

/-! # The declared life cycle

The protocol declares the status changes of a raffle; the store guards its own statements. The
guards follow the declaration but for two: an organizer may cancel a raffle that is not open
yet, and a draw makes three declared changes at once. -/

namespace OpenPool

def RaffleStatus.canTransitionTo (current next : RaffleStatus) : Bool :=
  match current, next with
  | .draft, .scheduled
  | .scheduled, .opened
  | .opened, .closing
  | .closing, .randomnessPending
  | .randomnessPending, .drawReady
  | .drawReady, .winnerSelected
  | .winnerSelected, .payoutPending
  | .payoutPending, .paidOut
  | .opened, .cancelled
  | .closing, .cancelled
  | .cancelled, .refunding
  | .refunding, .refunded => true
  | _, _ => false

/-- The change of status a step makes, and the guard that lets it through. -/
def StatusChange (scope : Scope) (raffleId : RaffleId) (current next : RaffleStatus) : Prop :=
  current.canTransitionTo next = true ∨
    (scope.moved = some (raffleId, next) ∧ (current = .draft ∨ current = .scheduled) ∧
      next = .cancelled) ∨
    (∃ closeHeight randomnessHeight, scope.drawn = some (raffleId, closeHeight, randomnessHeight)) ∧
      current = .randomnessPending ∧ next = .payoutPending

section Steps

variable {prim : Primitives} {scope : Scope} {raffleId : RaffleId} {view view' : RaffleView}

/-- The moves an organizer makes are declared, but for the early cancellations. -/
theorem RaffleStatus.mayMove_declared {current next : RaffleStatus}
    (h : current.mayMove next = true) :
    current.canTransitionTo next = true ∨
      ((current = .draft ∨ current = .scheduled) ∧ next = .cancelled) := by
  rcases of_decide_eq_true h with ⟨rfl, rfl⟩ | ⟨rfl, rfl⟩ | ⟨rfl | rfl | rfl, rfl⟩
  · exact .inl rfl
  · exact .inl rfl
  · exact .inr ⟨.inl rfl, rfl⟩
  · exact .inr ⟨.inr rfl, rfl⟩
  · exact .inl rfl

theorem RaffleStep.statusChange (hstep : RaffleStep prim scope raffleId view view')
    {row row' : RaffleRow} (hrow : view.raffle = some row) (hrow' : view'.raffle = some row')
    (hne : row.status ≠ row'.status) : StatusChange scope raffleId row.status row'.status := by
  have hsame : ∀ other, view.raffle = some other → other = row := fun other hother =>
    Option.some.inj (hother.symm.trans hrow)
  cases hstep with
  | create other split habsent => cases habsent.symm.trans hrow
  | move other status hother hmove hmoved =>
      obtain rfl := hsame other hother
      obtain rfl := Option.some.inj hrow'
      rcases RaffleStatus.mayMove_declared hmove with hdeclared | hcancelled
      · exact .inl hdeclared
      · exact .inr (.inl ⟨hmoved, hcancelled⟩)
  | close other jobs hother hopen =>
      obtain rfl := hsame other hother
      obtain rfl := Option.some.inj hrow'
      rw [hopen]
      exact .inl rfl
  | freeze other head count jobs hother hclosing =>
      obtain rfl := hsame other hother
      obtain rfl := Option.some.inj hrow'
      rw [hclosing]
      left
      dsimp only
      split <;> rfl
  | draw other context closeHash ids now jobs hother hstatus hreads hundrawn hdrawn =>
      obtain rfl := hsame other hother
      obtain rfl := Option.some.inj hrow'
      exact .inr (.inr ⟨⟨_, _, hdrawn⟩, hstatus, rfl⟩)
  | payOut =>
      rw [hrow, Option.map_some] at hrow'
      obtain rfl := Option.some.inj hrow'
      by_cases hpending : row.status = .payoutPending
      · rw [if_pos hpending, hpending]
        exact .inl rfl
      · rw [if_neg hpending] at hne
        exact absurd rfl hne
  | edit other _ _ _ _ _ _ hother | settle other _ _ _ _ hother =>
      obtain rfl := hsame other hother
      obtain rfl := Option.some.inj hrow'
      exact absurd rfl hne
  | stay | pendingInvoice | collectionInvoice | changeInvoices | late | refund | proof | publish
  | changePayouts | changeJobs =>
      obtain rfl := Option.some.inj (hrow.symm.trans hrow')
      exact absurd rfl hne

/-- Only `transition_raffle` moves a raffle by request. -/
theorem Op.of_moved {store : Store} {op : Op} {status : RaffleStatus}
    (h : (op.scope store).moved = some (raffleId, status)) :
    ∃ organizerId, op = .transitionRaffle organizerId raffleId (some status) := by
  cases op with
  | transitionRaffle organizerId id target =>
      obtain ⟨other, rfl, heq⟩ := Option.map_eq_some_iff.mp h
      obtain ⟨rfl, rfl⟩ := Prod.mk.inj heq
      exact ⟨organizerId, rfl⟩
  | _ => cases h

/-- Only `create_draw_and_payouts` draws. -/
theorem Op.of_drawn {store : Store} {op : Op} {closeHeight randomnessHeight : UInt64}
    (h : (op.scope store).drawn = some (raffleId, closeHeight, randomnessHeight)) :
    ∃ closeHash randomnessHash ids now, op = .createDrawAndPayouts raffleId closeHeight closeHash
      randomnessHeight randomnessHash ids now := by
  cases op with
  | createDrawAndPayouts id close closeHash randomness randomnessHash ids now =>
      obtain ⟨rfl, rfl, rfl⟩ : id = raffleId ∧ close = closeHeight ∧
          randomness = randomnessHeight := by
        simpa [Op.scope] using h
      exact ⟨closeHash, randomnessHash, ids, now, rfl⟩
  | _ => cases h

end Steps

/-- In every run, a committed change of a raffle's status is declared, or it is the cancellation
of a raffle that is not open yet, or it is the draw's change to `PAYOUT_PENDING`. -/
theorem status_changes_declared (prim : Primitives) (operations : List Op) (op : Op)
    (raffleId : RaffleId) (row row' : RaffleRow)
    (hrow : (Store.after prim operations).db.raffles.find (·.id = raffleId) = some row)
    (hrow' : (Store.after prim (operations ++ [op])).db.raffles.find (·.id = raffleId) = some row')
    (hne : row.status ≠ row'.status) :
    row.status.canTransitionTo row'.status = true ∨
      (∃ organizerId, op = .transitionRaffle organizerId raffleId (some .cancelled) ∧
        (row.status = .draft ∨ row.status = .scheduled) ∧ row'.status = .cancelled) ∨
      ∃ closeHeight closeHash randomnessHeight randomnessHash ids now,
        op = .createDrawAndPayouts raffleId closeHeight closeHash randomnessHeight randomnessHash
          ids now ∧
        row.status = .randomnessPending ∧ row'.status = .payoutPending := by
  rw [Store.after, StateMachine.run_concat] at hrow'
  have hstep : RaffleStep prim (op.scope (Store.after prim operations)) raffleId _ _ :=
    (Store.after prim operations).step_raffleStep (Store.sound_after prim operations) op
  rcases hstep.statusChange hrow hrow' hne with
    hdeclared | ⟨hmoved, hbefore, hcancelled⟩ | ⟨⟨closeHeight, randomnessHeight, hdrawn⟩, hstatus⟩
  · exact .inl hdeclared
  · obtain ⟨organizerId, rfl⟩ := Op.of_moved hmoved
    exact .inr (.inl ⟨organizerId, by rw [hcancelled], hbefore, hcancelled⟩)
  · obtain ⟨closeHash, randomnessHash, ids, now, rfl⟩ := Op.of_drawn hdrawn
    exact .inr (.inr ⟨closeHeight, closeHash, randomnessHeight, randomnessHash, ids, now, rfl,
      hstatus⟩)

namespace SampleRun

/-- The organizer announces the raffle. -/
def announced : List Op := [
  .createOrganizer ⟨organizerId, "organizer", [0xa1]⟩,
  .createDraftRaffle newRaffle,
  .transitionRaffle organizerId raffleId (some .scheduled)]

/-- The status of the raffle after a run. -/
def statusAfter (operations : List Op) : Option RaffleStatus :=
  ((Store.after .standard operations).db.raffles.find (·.id = raffleId)).map RaffleRow.status

end SampleRun

/-- Opening the announced raffle is a declared change. -/
theorem status_changes_declared_sample :
    RaffleStatus.scheduled.canTransitionTo .opened = true := by
  obtain ⟨⟨row, hrow, hstatus⟩, row', hrow', hstatus'⟩ :
      (∃ row, (Store.after .standard SampleRun.announced).db.raffles.find
        (·.id = SampleRun.raffleId) = some row ∧ row.status = .scheduled) ∧
      ∃ row, (Store.after .standard (SampleRun.announced ++
        [.transitionRaffle SampleRun.organizerId SampleRun.raffleId (some .opened)])).db.raffles.find
          (·.id = SampleRun.raffleId) = some row ∧ row.status = .opened := by
    simp only [← Option.map_eq_some_iff]
    decide +kernel
  have h := status_changes_declared .standard SampleRun.announced
    (.transitionRaffle SampleRun.organizerId SampleRun.raffleId (some .opened)) SampleRun.raffleId
    row row' hrow hrow' (by rw [hstatus, hstatus']; nofun)
  rw [hstatus, hstatus'] at h
  rcases h with hdeclared | ⟨organizerId, hop, -⟩ | ⟨_, _, _, _, _, _, hop, -⟩
  · exact hdeclared
  · cases hop
  · cases hop

/-- The organizer cancels the announced raffle, which no declared change does. -/
theorem announced_raffle_cancelled :
    SampleRun.statusAfter SampleRun.announced = some .scheduled ∧
      SampleRun.statusAfter (SampleRun.announced ++
        [.transitionRaffle SampleRun.organizerId SampleRun.raffleId (some .cancelled)]) =
          some .cancelled ∧
      RaffleStatus.scheduled.canTransitionTo .cancelled = false := by
  decide +kernel

end OpenPool
