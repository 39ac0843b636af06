import OpenPool.Store.DrawSteps

/-! # Steps of the store, seen from one raffle

The remaining operations, and the step of the whole store. -/

namespace OpenPool

open Fallible

section Steps

variable {prim : Primitives} {scope : Scope} {db db' : Database} {raffleId : RaffleId}

theorem createOrganizer_step {organizer : NewOrganizer} {u : Unit}
    (h : createOrganizer organizer db = .ok (db', u)) :
    RaffleStep prim scope raffleId (db.view raffleId) (db'.view raffleId) := by
  simp only [createOrganizer, bind_eq_ok_iff, sql_eq_ok_iff, pure_eq_ok_iff, Prod.mk.injEq] at h
  obtain ⟨organizers, -, rfl, -⟩ := h
  exact .stay

theorem recordCanonicalBlock_step {height : UInt64} {blockHash previousHash : Hash32}
    {blockTime : ℤ} {u : Unit}
    (h : recordCanonicalBlock height blockHash previousHash blockTime db = .ok (db', u)) :
    RaffleStep prim scope raffleId (db.view raffleId) (db'.view raffleId) := by
  simp only [recordCanonicalBlock, bind_eq_ok_iff, pure_eq_ok_iff, Prod.mk.injEq] at h
  obtain ⟨_, -, displaced, -, blocks, -, rfl, -⟩ := h
  exact .stay

/-! ## Jobs -/

/-- A webhook's job belongs to no raffle: its key contains a colon. -/
theorem event_not_concerns {row : JobRow} {provider eventId : String} {invoiceId : InvoiceId}
    (hpayload : row.payload = .event provider eventId invoiceId)
    (hkey : row.deduplicationKey = s!"{provider}:{eventId}") : row.concerns raffleId = false := by
  refine decide_eq_false fun h => ?_
  rw [hpayload, hkey] at h
  rcases h with h | h
  · cases h
  · refine raffleId.uuid.colon_not_mem_toString ?_
    rw [← h]
    simp [toString]

theorem recordWebhookAndEnqueue_step {event : NewWebhookEvent} {eventRowId jobId : Uuid} {now : ℤ}
    {inserted : Bool}
    (h : recordWebhookAndEnqueue event eventRowId jobId now db = .ok (db', inserted)) :
    RaffleStep prim scope raffleId (db.view raffleId) (db'.view raffleId) := by
  simp only [recordWebhookAndEnqueue, insertJob, bind_eq_ok_iff, sql_eq_ok_iff, applyIf_eq_ok_iff,
    pure_eq_ok_iff, Prod.mk.injEq] at h
  obtain ⟨⟨events, isNew⟩, -, middle, hjob, rfl, -⟩ := h
  rcases hjob with ⟨-, ⟨jobs, added⟩, hjobs, rfl⟩ | ⟨-, rfl⟩
  · change RaffleStep prim scope raffleId (db.view raffleId)
      { db.view raffleId with jobs := jobs.select _ }
    rcases Table.select_of_insertOrIgnore hjobs (JobRow.concerns raffleId) with
      hselect | ⟨hconcerns, -⟩
    · rw [hselect]
      exact .stay
    · rw [event_not_concerns rfl rfl] at hconcerns
      cases hconcerns
  · exact .stay

theorem jobs_update_step {filter : JobRow → Bool} {set : JobRow → JobRow} {jobs : Table JobRow}
    {returned : List JobRow} (h : db.jobs.update filter set = .ok (jobs, returned))
    (hsame : ∀ row : JobRow, (set row).SameJob row)
    (hdone : ∀ row ∈ db.jobs.rows, filter row = true → (set row).status = .succeeded →
      scope.completed = some row.id) :
    RaffleStep prim scope raffleId (db.view raffleId) ({ db with jobs }.view raffleId) := by
  change RaffleStep prim scope raffleId (db.view raffleId)
    { db.view raffleId with jobs := jobs.select _ }
  have hconcerns : ∀ row, filter row = true →
      (set row).concerns raffleId = row.concerns raffleId := fun row _ => by
    rw [JobRow.concerns, (hsame row).payload, (hsame row).deduplicationKey]
    rfl
  rw [Table.select_of_update h hconcerns]
  refine .changeJobs _ (fun row => ?_) fun row hrow => ?_
  · split
    · exact hsame row
    · exact .refl row
  · split
    · rename_i hfilter
      exact fun hstatus => .inr (hdone row (Table.mem_select.mp hrow).1 hfilter hstatus)
    · exact .inl

theorem claimJob_step {workerId : String} {leaseSeconds now : ℤ} {locked : List Uuid}
    {choice : ℕ} {result : Option ClaimedJob}
    (h : claimJob workerId leaseSeconds now locked choice db = .ok (db', result)) :
    RaffleStep prim scope raffleId (db.view raffleId) (db'.view raffleId) := by
  unfold claimJob at h
  split at h
  · cases h
    exact .stay
  · simp only [bind_eq_ok_iff, mapError_eq_ok_iff, pure_eq_ok_iff, Prod.mk.injEq] at h
    obtain ⟨⟨jobs, returned⟩, hjobs, rfl, -⟩ := h
    refine jobs_update_step hjobs (fun _ => ⟨rfl, rfl, rfl, rfl⟩) fun row _ _ hstatus => ?_
    cases hstatus

theorem succeedJob_step {jobId : Uuid} {workerId : String} {u : Unit}
    (hscope : scope.completed = some jobId)
    (h : succeedJob jobId workerId db = .ok (db', u)) :
    RaffleStep prim scope raffleId (db.view raffleId) (db'.view raffleId) := by
  simp only [succeedJob, bind_eq_ok_iff, mapError_eq_ok_iff, pure_eq_ok_iff, Prod.mk.injEq] at h
  obtain ⟨⟨jobs, returned⟩, hjobs, -, -, rfl, -⟩ := h
  refine jobs_update_step hjobs (fun _ => ⟨rfl, rfl, rfl, rfl⟩) fun row _ hheld _ => ?_
  rw [hscope, (of_decide_eq_true hheld).1]

theorem failOrRetryJob_step {job : ClaimedJob} {workerId error : String}
    {retryAfterSeconds now : ℤ} {disposition : JobDisposition}
    (h : failOrRetryJob job workerId retryAfterSeconds error now db = .ok (db', disposition)) :
    RaffleStep prim scope raffleId (db.view raffleId) (db'.view raffleId) := by
  simp only [failOrRetryJob, bind_eq_ok_iff, mapError_eq_ok_iff, pure_eq_ok_iff,
    Prod.mk.injEq] at h
  obtain ⟨⟨jobs, returned⟩, hjobs, -, -, rfl, -⟩ := h
  refine jobs_update_step hjobs (fun _ => ⟨rfl, rfl, rfl, rfl⟩) fun row _ _ hstatus => ?_
  simp only [JobRow.returned] at hstatus
  split at hstatus <;> cases hstatus

theorem retryDeadJob_step {id : Uuid} {now : ℤ} {retried : Bool}
    (h : retryDeadJob id now db = .ok (db', retried)) :
    RaffleStep prim scope raffleId (db.view raffleId) (db'.view raffleId) := by
  simp only [retryDeadJob, bind_eq_ok_iff, sql_eq_ok_iff, pure_eq_ok_iff, Prod.mk.injEq] at h
  obtain ⟨⟨jobs, returned⟩, hjobs, rfl, -⟩ := h
  refine jobs_update_step hjobs (fun _ => ⟨rfl, rfl, rfl, rfl⟩) fun row _ _ hstatus => ?_
  cases hstatus

end Steps

end OpenPool
