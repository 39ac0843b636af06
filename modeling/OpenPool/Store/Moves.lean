import OpenPool.Store.Recipients
import OpenPool.Store.StatusCorrectness

/-! # The moves of a raffle

A status tells which moves were asked for. What is left to the workers is to close an open raffle, to
cancel it if nothing was sold, and to draw and pay it. -/

namespace OpenPool

open Fallible

/-- The moves that were asked for explain the status of the raffle. -/
structure RaffleRow.MovedBy (asked : RaffleStatus → Prop) (row : RaffleRow) : Prop where
  scheduled : row.status ≠ .draft → row.status ≠ .cancelled → asked .scheduled
  opened : row.status ≠ .draft → row.status ≠ .scheduled → row.status ≠ .cancelled → asked .opened
  /-- A raffle that nobody has cancelled was frozen without a ticket. -/
  cancelled : row.status = .cancelled → asked .cancelled ∨
    asked .scheduled ∧ asked .opened ∧ row.totalTickets = 0 ∧ row.entriesRoot ≠ none

section Steps

variable {prim : Primitives} {scope : Scope} {raffleId : RaffleId} {view view' : RaffleView}
  {asked asked' : RaffleStatus → Prop} {row row' : RaffleRow} {organizerId : OrganizerId}

theorem RaffleRow.MovedBy.mono (h : row.MovedBy asked) (himp : ∀ status, asked status → asked' status) :
    row.MovedBy asked' where
  scheduled hdraft hcancelled := himp _ (h.scheduled hdraft hcancelled)
  opened hdraft hscheduled hcancelled := himp _ (h.opened hdraft hscheduled hcancelled)
  cancelled hstatus := by
    rcases h.cancelled hstatus with hcancelled | ⟨hscheduled, hopened, hempty⟩
    · exact .inl (himp _ hcancelled)
    · exact .inr ⟨himp _ hscheduled, himp _ hopened, hempty⟩

/-- A raffle that was opened goes on. -/
theorem RaffleRow.MovedBy.later (h : row.MovedBy asked) (hdraft : row.status ≠ .draft)
    (hscheduled : row.status ≠ .scheduled) (hcancelled : row.status ≠ .cancelled)
    (hlater : row'.status = .cancelled → row'.totalTickets = 0 ∧ row'.entriesRoot ≠ none) :
    row'.MovedBy asked where
  scheduled _ _ := h.scheduled hdraft hcancelled
  opened _ _ _ := h.opened hdraft hscheduled hcancelled
  cancelled hstatus := .inr
    ⟨h.scheduled hdraft hcancelled, h.opened hdraft hscheduled hcancelled, hlater hstatus⟩

theorem RaffleRow.MovedBy.move {status : RaffleStatus} (h : row.MovedBy asked)
    (hmove : row.status.mayMove status = true) (hasked : asked status) :
    RaffleRow.MovedBy asked { row with status } := by
  rcases of_decide_eq_true hmove with ⟨-, rfl⟩ | ⟨hscheduled, rfl⟩ | ⟨-, rfl⟩
  · exact ⟨fun _ _ => hasked, fun _ hne => absurd rfl hne, fun hstatus => by cases hstatus⟩
  · have hfirst : asked .scheduled :=
      h.scheduled (by rw [hscheduled]; decide) (by rw [hscheduled]; decide)
    exact ⟨fun _ _ => hfirst, fun _ _ _ => hasked, fun hstatus => by cases hstatus⟩
  · exact ⟨fun _ hne => absurd rfl hne, fun _ _ hne => absurd rfl hne, fun _ => .inl hasked⟩

/-- What a step leaves to be asked for is the move that it makes. -/
theorem RaffleStep.movedBy (hstep : RaffleStep prim scope raffleId view view')
    (hasked : ∀ row status, view.raffle = some row → row.organizerId = organizerId →
      scope.moved = some (raffleId, status) → asked status)
    (h : ∀ row, view.raffle = some row → row.organizerId = organizerId → row.MovedBy asked)
    (hrow' : view'.raffle = some row') (horganizer : row'.organizerId = organizerId) :
    row'.MovedBy asked := by
  cases hstep with
  | create row split habsent hid hnew =>
      obtain rfl := Option.some.inj hrow'
      have hdraft := hnew.status
      exact ⟨fun hne => absurd hdraft hne, fun hne => absurd hdraft hne,
        fun hstatus => by cases hdraft.symm.trans hstatus⟩
  | edit row name price start stop delay split hrow hstatus =>
      obtain rfl := Option.some.inj hrow'
      have hbefore := h row hrow horganizer
      exact ⟨hbefore.scheduled, hbefore.opened, hbefore.cancelled⟩
  | move row status hrow hmove hmoved =>
      obtain rfl := Option.some.inj hrow'
      exact (h row hrow horganizer).move hmove (hasked row status hrow horganizer hmoved)
  | close row jobs hrow hopen =>
      obtain rfl := Option.some.inj hrow'
      refine (h row hrow horganizer).later ?_ ?_ ?_ fun hstatus => by cases hstatus
      all_goals rw [hopen]; decide
  | settle row invoice entryRow entry pool hrow hopen =>
      obtain rfl := Option.some.inj hrow'
      refine (h row hrow horganizer).later ?_ ?_ ?_ fun hstatus => by cases hopen.symm.trans hstatus
      all_goals rw [hopen]; decide
  | freeze row head count jobs hrow hclosing =>
      obtain rfl := Option.some.inj hrow'
      refine (h row hrow horganizer).later ?_ ?_ ?_ fun hstatus => ?_
      · rw [hclosing]; decide
      · rw [hclosing]; decide
      · rw [hclosing]; decide
      · dsimp only at hstatus ⊢
        split at hstatus
        · exact ⟨‹_›, Option.some_ne_none _⟩
        · cases hstatus
  | draw row context closeHash ids now jobs hrow hstatus =>
      obtain rfl := Option.some.inj hrow'
      refine (h row hrow horganizer).later ?_ ?_ ?_ fun hcancelled => by cases hcancelled
      all_goals rw [hstatus]; decide
  | payOut change jobs =>
      obtain ⟨row, hrow, rfl⟩ := Option.map_eq_some_iff.mp hrow'
      by_cases hpending : row.status = .payoutPending
      · simp only [hpending, if_true] at horganizer ⊢
        refine (h row hrow horganizer).later ?_ ?_ ?_ fun hcancelled => by cases hcancelled
        all_goals rw [hpending]; decide
      · simp only [hpending, if_false] at horganizer ⊢
        exact h row hrow horganizer
  | stay | pendingInvoice | collectionInvoice | changeInvoices | late | refund | proof | publish
  | changePayouts | changeJobs => exact h row' hrow' horganizer

/-- A raffle moves for its organizer. -/
theorem transitionRaffle_owner {db : Database} {result : Database × Unit} {status : RaffleStatus}
    (h : transitionRaffle organizerId raffleId (some status) db = .ok result) :
    ∃ row, (db.view raffleId).raffle = some row ∧ row.organizerId = organizerId := by
  simp only [transitionRaffle, bind_eq_ok_iff, sql_eq_ok_iff, orElse_eq_ok_iff, pure_eq_ok_iff,
    ensure_eq_ok_iff] at h
  obtain ⟨_, -, ⟨raffles, returned⟩, hraffles, -, hreturned, -⟩ := h
  rw [(Table.rows_of_update hraffles).2, List.length_map] at hreturned
  obtain ⟨row, hrow⟩ := List.exists_mem_of_length_pos (hreturned ▸ Nat.zero_lt_one)
  obtain ⟨hmem, hfilter⟩ := List.mem_filter.mp hrow
  obtain ⟨rfl, horganizer, -⟩ := of_decide_eq_true hfilter
  exact ⟨row, find_raffle hmem, horganizer⟩

theorem Store.Sound.movedBy_step {store : Store} (hsound : store.Sound prim) (op : Op)
    (hasked : ∀ status, op = .transitionRaffle organizerId raffleId (some status) → asked status)
    (h : ∀ row, (store.db.view raffleId).raffle = some row → row.organizerId = organizerId →
      row.MovedBy asked)
    (hrow' : ((store.step prim op).db.view raffleId).raffle = some row')
    (horganizer : row'.organizerId = organizerId) : row'.MovedBy asked := by
  by_cases hsame : (store.step prim op).db = store.db
  · rw [hsame] at hrow'
    exact h row' hrow' horganizer
  · refine (store.step_raffleStep hsound op).movedBy (fun row status hrow howner hmoved => ?_) h hrow'
      horganizer
    obtain ⟨other, rfl⟩ := Op.of_moved hmoved
    -- a move that fails changes nothing, so this one has found the raffle of its organizer
    rcases commit_cases store.db (transitionRaffle other raffleId (some status) store.db) with
      hfailed | ⟨value, hok⟩
    · exact absurd hfailed hsame
    · obtain ⟨found, hfound, rfl⟩ := transitionRaffle_owner hok
      obtain rfl := Option.some.inj (hfound.symm.trans hrow)
      exact hasked status (by rw [howner])

end Steps

end OpenPool
