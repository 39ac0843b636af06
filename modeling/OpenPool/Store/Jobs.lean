import OpenPool.Store.Conversions

/-! # Jobs

The durable queue, and the statements of other operations that add to it. `now` is the time
of the transaction; new identifiers are arguments. -/

namespace OpenPool

open Fallible

structure ClaimedJob where
  id : Uuid
  kind : JobKind
  deduplicationKey : String
  payload : JobPayload
  attempts : ℤ
  maxAttempts : ℤ
  leaseExpiresAt : ℤ
  deriving DecidableEq

structure NewJob where
  id : Uuid
  kind : JobKind
  deduplicationKey : String
  payload : JobPayload
  maxAttempts : ℤ
  availableAt : ℤ
  deriving DecidableEq

inductive JobDisposition where
  | retried
  | dead
  deriving DecidableEq

inductive JobError where
  | sqlx (error : SqlxError)
  | leaseLost
  deriving DecidableEq

/-- The key under which a job is unique. -/
def JobRow.isFor (kind : JobKind) (deduplicationKey : String) (row : JobRow) : Bool :=
  row.kind = kind ∧ row.deduplicationKey = deduplicationKey

/-- `INSERT INTO jobs … ON CONFLICT (kind, deduplication_key) DO NOTHING`. -/
def insertJob (id : Uuid) (kind : JobKind) (deduplicationKey : String) (payload : JobPayload)
    (now : ℤ) (db : Database) : Except PersistenceError Database := do
  let (jobs, _) ← sql (db.jobs.insertOrIgnore (JobRow.isFor kind deduplicationKey)
    { id, kind, deduplicationKey, payload, availableAt := now, createdAt := now })
  return { db with jobs }

def enqueue (job : NewJob) (now : ℤ) (db : Database) : Except JobError (Database × Bool) := do
  let (jobs, inserted) ← (db.jobs.insertOrIgnore (JobRow.isFor job.kind job.deduplicationKey)
    { id := job.id, kind := job.kind, deduplicationKey := job.deduplicationKey
      payload := job.payload, maxAttempts := job.maxAttempts, availableAt := job.availableAt
      createdAt := now }).mapError (.sqlx ∘ .violation)
  return ({ db with jobs }, inserted)

/-- The rows the `candidate` query of `claim` selects from. -/
def JobRow.claimable (now : ℤ) (row : JobRow) : Bool :=
  (row.status = .queued ∧ row.availableAt ≤ now) ∨
    (row.status = .running ∧ ∃ expiry ∈ row.leaseExpiresAt, expiry < now)

/-- The order of the `candidate` query of `claim`. -/
def JobRow.before (a b : JobRow) : Bool :=
  a.availableAt < b.availableAt ∨ (a.availableAt = b.availableAt ∧ a.createdAt ≤ b.createdAt)

/-- One of the first rows of a query with `ORDER BY … LIMIT 1`; `choice` picks among ties. -/
def firstBy {α : Type} (before : α → α → Bool) (rows : List α) (choice : ℕ) : Option α :=
  let first := rows.filter fun row => rows.all fun other => before row other
  first[choice % first.length]?

theorem firstBy_mem {α : Type} {before : α → α → Bool} {rows : List α} {choice : ℕ} {row : α}
    (h : firstBy before rows choice = some row) : row ∈ rows :=
  List.mem_of_mem_filter (List.mem_of_getElem? h)

theorem exists_first {α : Type} {before : α → α → Bool}
    (htotal : ∀ a b, before a b = true ∨ before b a = true)
    (htrans : ∀ a b c, before a b = true → before b c = true → before a c = true)
    {rows : List α} (hne : rows ≠ []) : ∃ row ∈ rows, ∀ other ∈ rows, before row other = true := by
  induction rows with
  | nil => exact absurd rfl hne
  | cons head tail ih =>
      have hself : before head head = true := (htotal head head).elim id id
      by_cases hempty : tail = []
      · subst hempty
        exact ⟨head, by simp, by simpa using hself⟩
      · obtain ⟨first, hmem, hfirst⟩ := ih hempty
        rcases htotal head first with hhead | hhead
        · refine ⟨head, by simp, fun other hother => ?_⟩
          rcases List.mem_cons.mp hother with rfl | hother
          · exact hself
          · exact htrans _ _ _ hhead (hfirst other hother)
        · refine ⟨first, List.mem_cons_of_mem _ hmem, fun other hother => ?_⟩
          rcases List.mem_cons.mp hother with rfl | hother
          · exact hhead
          · exact hfirst other hother

/-- A query with an order that finds nothing has nothing to find. -/
theorem eq_nil_of_firstBy {α : Type} {before : α → α → Bool} {rows : List α} {choice : ℕ}
    (htotal : ∀ a b, before a b = true ∨ before b a = true)
    (htrans : ∀ a b c, before a b = true → before b c = true → before a c = true)
    (h : firstBy before rows choice = none) : rows = [] := by
  by_contra hne
  obtain ⟨row, hmem, hfirst⟩ := exists_first htotal htrans hne
  have hmem' : row ∈ rows.filter fun row => rows.all fun other => before row other :=
    List.mem_filter.mpr ⟨hmem, List.all_eq_true.mpr hfirst⟩
  have hlength := List.length_pos_of_mem hmem'
  exact absurd (List.getElem?_eq_none_iff.mp h) (not_le.mpr (Nat.mod_lt _ hlength))

def JobRow.claimed (workerId : String) (leaseSeconds now : ℤ) (row : JobRow) : JobRow :=
  { row with
    status := .running
    attempts := row.attempts + 1
    leaseOwner := some workerId
    leaseExpiresAt := some (now + leaseSeconds * 1000000) }

def ClaimedJob.ofRow (row : JobRow) : ClaimedJob where
  id := row.id
  kind := row.kind
  deduplicationKey := row.deduplicationKey
  payload := row.payload
  attempts := row.attempts
  maxAttempts := row.maxAttempts
  leaseExpiresAt := row.leaseExpiresAt.getD 0

/-- The row the `candidate` query of `claim` finds, where other statements in flight have `locked`
rows (`FOR UPDATE SKIP LOCKED`). -/
def claimCandidate (now : ℤ) (locked : List Uuid) (choice : ℕ) (db : Database) : Option JobRow :=
  firstBy JobRow.before (db.jobs.select fun row => row.claimable now ∧ row.id ∉ locked) choice

def claimJob (workerId : String) (leaseSeconds now : ℤ) (locked : List Uuid) (choice : ℕ)
    (db : Database) : Except JobError (Database × Option ClaimedJob) :=
  match claimCandidate now locked choice db with
  | none => .ok (db, none)
  | some candidate => do
      let (jobs, returned) ← (db.jobs.update (fun row => row.id = candidate.id)
        (JobRow.claimed workerId leaseSeconds now)).mapError (.sqlx ∘ .violation)
      return ({ db with jobs }, returned.head?.map ClaimedJob.ofRow)

/-- The row is leased to the worker. -/
def JobRow.heldBy (id : Uuid) (workerId : String) (row : JobRow) : Bool :=
  row.id = id ∧ row.status = .running ∧ row.leaseOwner = some workerId

def JobRow.succeeded (row : JobRow) : JobRow :=
  { row with status := .succeeded, leaseOwner := none, leaseExpiresAt := none }

def succeedJob (jobId : Uuid) (workerId : String) (db : Database) :
    Except JobError (Database × Unit) := do
  let (jobs, returned) ← (db.jobs.update (JobRow.heldBy jobId workerId)
    JobRow.succeeded).mapError (.sqlx ∘ .violation)
  ensure (returned.length = 1) .leaseLost
  return ({ db with jobs }, ())

def JobRow.returned (status : JobStatus) (availableAt : ℤ) (error : String) (row : JobRow) :
    JobRow :=
  { row with
    status
    availableAt
    leaseOwner := none
    leaseExpiresAt := none
    lastError := some error }

def failOrRetryJob (job : ClaimedJob) (workerId : String) (retryAfterSeconds : ℤ) (error : String)
    (now : ℤ) (db : Database) : Except JobError (Database × JobDisposition) := do
  let status : JobStatus := if job.attempts ≥ job.maxAttempts then .dead else .queued
  let (jobs, returned) ← (db.jobs.update (JobRow.heldBy job.id workerId)
    (JobRow.returned status (now + retryAfterSeconds * 1000000) error)).mapError
      (.sqlx ∘ .violation)
  ensure (returned.length = 1) .leaseLost
  return ({ db with jobs }, if status = .dead then .dead else .retried)

/-- Requeue only a terminally dead job. -/
def retryDeadJob (id : Uuid) (now : ℤ) (db : Database) :
    Except PersistenceError (Database × Bool) := do
  let (jobs, returned) ← sql (db.jobs.update (fun row => row.id = id ∧ row.status = .dead)
    fun row => { row with
      status := .queued
      attempts := 0
      availableAt := now
      leaseOwner := none
      leaseExpiresAt := none
      lastError := none })
  return ({ db with jobs }, returned.length = 1)

end OpenPool
