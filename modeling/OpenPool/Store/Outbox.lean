import OpenPool.Library.Lease
import OpenPool.Library.StateMachine
import OpenPool.Store.Jobs

/-! # The outbox

The events that operations leave for a consumer, and the calls of `OutboxStore` as a state
machine. -/

namespace OpenPool

open Fallible

/-- A row of `outbox_events`; the payload is its JSON text. -/
structure OutboxEventRow where
  id : Uuid
  aggregateType : String
  aggregateId : Uuid
  eventType : String
  payload : String
  occurredAt : ℤ
  deliveredAt : Option ℤ := none
  attempts : ℤ := 0
  leaseOwner : Option String := none
  leaseExpiresAt : Option ℤ := none
  deriving DecidableEq

instance : Schema OutboxEventRow where
  Check row := 0 ≤ row.attempts
  Clash a b := a.id = b.id
  clash_symm _ _ h := h.symm
  decidableCheck _ := inferInstance
  decidableClash _ _ := inferInstance

structure ClaimedOutboxEvent where
  id : Uuid
  aggregateType : String
  aggregateId : Uuid
  eventType : String
  payload : String
  deriving DecidableEq

def ClaimedOutboxEvent.ofRow (row : OutboxEventRow) : ClaimedOutboxEvent where
  id := row.id
  aggregateType := row.aggregateType
  aggregateId := row.aggregateId
  eventType := row.eventType
  payload := row.payload

/-! ## Statements -/

/-- The row that `write_outbox` inserts, at the `now` of its transaction. -/
def newOutboxEvent (id aggregateId : Uuid) (eventType payload : String) (now : ℤ) :
    OutboxEventRow where
  id := id
  aggregateType := "raffle"
  aggregateId := aggregateId
  eventType := eventType
  payload := payload
  occurredAt := now

def writeOutbox (id aggregateId : Uuid) (eventType payload : String) (now : ℤ)
    (events : Table OutboxEventRow) : Except SqlxError (Table OutboxEventRow) :=
  (events.insert (newOutboxEvent id aggregateId eventType payload now)).mapError .violation

/-- The rows the `candidate` query of `claim` selects from. -/
def OutboxEventRow.claimable (now : ℤ) (row : OutboxEventRow) : Bool :=
  row.deliveredAt = none ∧ ∀ expiry ∈ row.leaseExpiresAt, expiry < now

/-- The order of the `candidate` query of `claim`. -/
def OutboxEventRow.before (a b : OutboxEventRow) : Bool := a.occurredAt ≤ b.occurredAt

def OutboxEventRow.claimed (consumer : String) (leaseSeconds now : ℤ) (row : OutboxEventRow) :
    OutboxEventRow :=
  { row with
    leaseOwner := some consumer
    leaseExpiresAt := some (now + leaseSeconds * 1000000)
    attempts := row.attempts + 1 }

/-- The row the `candidate` query of `claim` finds, where other transactions have `locked` rows. -/
def outboxCandidate (now : ℤ) (locked : List Uuid) (choice : ℕ) (events : Table OutboxEventRow) :
    Option OutboxEventRow :=
  firstBy OutboxEventRow.before
    (events.select fun row => row.claimable now ∧ row.id ∉ locked) choice

def claimOutboxEvent (consumer : String) (leaseSeconds now : ℤ) (locked : List Uuid)
    (choice : ℕ) (events : Table OutboxEventRow) :
    Except JobError (Table OutboxEventRow × Option ClaimedOutboxEvent) :=
  match outboxCandidate now locked choice events with
  | none => .ok (events, none)
  | some candidate => do
      let (events, returned) ← (events.update (fun row => row.id = candidate.id)
        (OutboxEventRow.claimed consumer leaseSeconds now)).mapError (.sqlx ∘ .violation)
      return (events, returned.head?.map ClaimedOutboxEvent.ofRow)

/-- The undelivered event is leased to the consumer. -/
def OutboxEventRow.heldBy (eventId : Uuid) (consumer : String) (row : OutboxEventRow) : Bool :=
  row.id = eventId ∧ row.leaseOwner = some consumer ∧ row.deliveredAt = none

def OutboxEventRow.delivered (now : ℤ) (row : OutboxEventRow) : OutboxEventRow :=
  { row with deliveredAt := some now, leaseOwner := none, leaseExpiresAt := none }

def markDelivered (eventId : Uuid) (consumer : String) (now : ℤ) (events : Table OutboxEventRow) :
    Except JobError (Table OutboxEventRow × Unit) := do
  let (events, returned) ← (events.update (OutboxEventRow.heldBy eventId consumer)
    (OutboxEventRow.delivered now)).mapError (.sqlx ∘ .violation)
  ensure (returned.length = 1) .leaseLost
  return (events, ())

/-! ## The machine -/

/-- The commit of an operation that writes an event, or a call of a consumer. -/
inductive OutboxOp where
  | write (id aggregateId : Uuid) (eventType payload : String) (now : ℤ)
  | claim (consumer : String) (leaseSeconds now : ℤ) (locked : List Uuid) (choice : ℕ)
  | markDelivered (eventId : Uuid) (consumer : String) (now : ℤ)

/-- The table, and the claims and deliveries that took effect, the latest first. -/
structure Outbox where
  events : Table OutboxEventRow
  history : List (Lease.Event Uuid String ClaimedOutboxEvent)

namespace Outbox

def empty : Outbox := ⟨.empty, []⟩

def step (outbox : Outbox) : OutboxOp → Outbox
  | .write id aggregateId eventType payload now =>
      match writeOutbox id aggregateId eventType payload now outbox.events with
      | .ok events => { outbox with events }
      | .error _ => outbox
  | .claim consumer leaseSeconds now locked choice =>
      match claimOutboxEvent consumer leaseSeconds now locked choice outbox.events with
      | .ok (events, some event) => ⟨events, .acquired event.id consumer event :: outbox.history⟩
      | .ok (events, none) => { outbox with events }
      | .error _ => outbox
  | .markDelivered eventId consumer now =>
      match OpenPool.markDelivered eventId consumer now outbox.events with
      | .ok (events, ()) => ⟨events, .released eventId :: outbox.history⟩
      | .error _ => outbox

/-- The outbox after a list of calls, from the empty table. -/
def after (operations : List OutboxOp) : Outbox :=
  StateMachine.run step .empty operations

/-- Who claimed the event last, where no delivery has taken effect since. -/
def holder (outbox : Outbox) (eventId : Uuid) : Option (String × ClaimedOutboxEvent) :=
  Lease.holder eventId outbox.history

end Outbox

/-! ## Statements about one event -/

/-- The lease a row shows. -/
def OutboxEventRow.lease (row : OutboxEventRow) : Option (String × ClaimedOutboxEvent) :=
  row.leaseOwner.map fun owner => (owner, .ofRow row)

theorem OutboxEventRow.heldBy_iff {row : OutboxEventRow} {eventId : Uuid} {consumer : String} :
    row.heldBy eventId consumer = true ↔
      row.id = eventId ∧ row.leaseOwner = some consumer ∧ row.deliveredAt = none :=
  decide_eq_true_iff

theorem OutboxEventRow.id_eq_of_heldBy {eventId : Uuid} {consumer : String}
    (a b : OutboxEventRow) (ha : a.heldBy eventId consumer = true)
    (hb : b.heldBy eventId consumer = true) : a.id = b.id :=
  (heldBy_iff.mp ha).1.trans (heldBy_iff.mp hb).1.symm

theorem OutboxEventRow.attempts_claimed {consumer : String} {leaseSeconds now : ℤ}
    (row : OutboxEventRow) (h : 0 ≤ row.attempts) :
    0 ≤ (row.claimed consumer leaseSeconds now).attempts := by
  simp only [claimed]
  omega

section Statements

variable {events : Table OutboxEventRow} {row : OutboxEventRow} {eventId : Uuid}
  {consumer : String}

theorem outboxCandidate_spec {now : ℤ} {locked : List Uuid} {choice : ℕ}
    (h : outboxCandidate now locked choice events = some row) :
    row ∈ events.rows ∧ row.claimable now = true := by
  obtain ⟨hmem, hclaimable⟩ := Table.mem_select.mp (firstBy_mem h)
  exact ⟨hmem, (of_decide_eq_true hclaimable).1⟩

theorem claimOutboxEvent_of_some {leaseSeconds now : ℤ} {locked : List Uuid} {choice : ℕ}
    (h : outboxCandidate now locked choice events = some row) :
    ∃ events', claimOutboxEvent consumer leaseSeconds now locked choice events =
        .ok (events', some (.ofRow row)) ∧
      Table.Replaces OutboxEventRow.id events.rows events'.rows row
        (row.claimed consumer leaseSeconds now) := by
  obtain ⟨events', hupdate, hreplaces⟩ := events.update_one OutboxEventRow.id
    (fun other => other.id = row.id) (OutboxEventRow.claimed consumer leaseSeconds now)
    (fun _ _ heq => heq) (fun row hcheck => row.attempts_claimed hcheck)
    (fun _ _ hclash => hclash) (fun _ => rfl)
    (fun _ _ ha hb => (of_decide_eq_true ha).trans (of_decide_eq_true hb).symm)
    (outboxCandidate_spec h).1 (decide_eq_true rfl)
  refine ⟨events', ?_, hreplaces⟩
  unfold claimOutboxEvent
  rw [h]
  simp only [hupdate]
  rfl

theorem markDelivered_of_held {now : ℤ} (hmem : row ∈ events.rows)
    (hheld : row.heldBy eventId consumer = true) :
    ∃ events', markDelivered eventId consumer now events = .ok (events', ()) ∧
      Table.Replaces OutboxEventRow.id events.rows events'.rows row (row.delivered now) := by
  obtain ⟨events', hupdate, hreplaces⟩ := events.update_one OutboxEventRow.id
    (OutboxEventRow.heldBy eventId consumer) (OutboxEventRow.delivered now) (fun _ _ heq => heq)
    (fun _ hcheck => hcheck) (fun _ _ hclash => hclash) (fun _ => rfl)
    OutboxEventRow.id_eq_of_heldBy hmem hheld
  refine ⟨events', ?_, hreplaces⟩
  unfold markDelivered
  rw [hupdate]
  rfl

theorem markDelivered_of_not_held {now : ℤ}
    (h : ∀ row ∈ events.rows, row.heldBy eventId consumer = false) :
    markDelivered eventId consumer now events = .error .leaseLost := by
  unfold markDelivered
  rw [Table.update_of_none h]
  rfl

end Statements

/-! ## What a call does -/

namespace Outbox

variable {outbox outbox' : Outbox}

/-- A call changes nothing, inserts an event or replaces the row of one event. -/
inductive Change (outbox : Outbox) : Outbox → Prop where
  | unchanged : outbox.Change outbox
  | written {events : Table OutboxEventRow} {row : OutboxEventRow}
      (hinsert : outbox.events.insert row = .ok events) (hdelivered : row.deliveredAt = none)
      (howner : row.leaseOwner = none) : outbox.Change { outbox with events }
  | claimed {events : Table OutboxEventRow} {row : OutboxEventRow} {consumer : String}
      {leaseSeconds now : ℤ} (hclaimable : row.claimable now = true)
      (hreplaces : Table.Replaces OutboxEventRow.id outbox.events.rows events.rows row
        (row.claimed consumer leaseSeconds now)) :
      outbox.Change ⟨events, .acquired row.id consumer (.ofRow row) :: outbox.history⟩
  | delivered {events : Table OutboxEventRow} {row : OutboxEventRow} {consumer : String}
      {now : ℤ} (hheld : row.heldBy row.id consumer = true)
      (hreplaces : Table.Replaces OutboxEventRow.id outbox.events.rows events.rows row
        (row.delivered now)) :
      outbox.Change ⟨events, .released row.id :: outbox.history⟩

theorem step_change (outbox : Outbox) (op : OutboxOp) : outbox.Change (outbox.step op) := by
  cases op with
  | write id aggregateId eventType payload now =>
      rw [step, writeOutbox]
      cases hinsert : outbox.events.insert (newOutboxEvent id aggregateId eventType payload now) with
      | error violation => exact .unchanged
      | ok events => exact .written hinsert rfl rfl
  | claim consumer leaseSeconds now locked choice =>
      rw [step]
      cases hcandidate : outboxCandidate now locked choice outbox.events with
      | none =>
          rw [claimOutboxEvent, hcandidate]
          exact .unchanged
      | some row =>
          obtain ⟨events, hcall, hreplaces⟩ := claimOutboxEvent_of_some hcandidate
          rw [hcall]
          exact .claimed (outboxCandidate_spec hcandidate).2 hreplaces
  | markDelivered eventId consumer now =>
      rw [step]
      by_cases hheld : ∃ row ∈ outbox.events.rows, row.heldBy eventId consumer = true
      · obtain ⟨row, hmem, hheld⟩ := hheld
        obtain ⟨events, hcall, hreplaces⟩ := markDelivered_of_held hmem hheld
        obtain rfl : row.id = eventId := (OutboxEventRow.heldBy_iff.mp hheld).1
        rw [hcall]
        exact .delivered hheld hreplaces
      · rw [markDelivered_of_not_held (by simpa using hheld)]
        exact .unchanged

/-- The row of a delivered event stays, and nobody claims or delivers the event again. -/
theorem Change.keeps_delivered (h : outbox.Change outbox') {row : OutboxEventRow}
    (hmem : row ∈ outbox.events.rows) (hdelivered : row.deliveredAt ≠ none) :
    row ∈ outbox'.events.rows ∧ ∃ events, outbox'.history = events ++ outbox.history ∧
      ∀ event ∈ events, event.id ≠ row.id := by
  have hother : ∀ old ∈ outbox.events.rows, old.deliveredAt = none → row.id ≠ old.id :=
    fun old hold hnone heq => hdelivered (outbox.events.eq_of_clash hmem hold heq ▸ hnone)
  cases h with
  | unchanged => exact ⟨hmem, [], rfl, by simp⟩
  | written hinsert =>
      refine ⟨?_, [], rfl, by simp⟩
      rw [Table.rows_of_insert hinsert]
      exact List.mem_append_left _ hmem
  | claimed hclaimable hreplaces =>
      have hrow := hother _ hreplaces.old_mem (of_decide_eq_true hclaimable).1
      exact ⟨(hreplaces.mem_iff row).mpr (.inr ⟨hmem, hrow⟩), [_], rfl,
        by simpa [Lease.Event.id] using hrow.symm⟩
  | delivered hheld hreplaces =>
      have hrow := hother _ hreplaces.old_mem (OutboxEventRow.heldBy_iff.mp hheld).2.2
      exact ⟨(hreplaces.mem_iff row).mpr (.inr ⟨hmem, hrow⟩), [_], rfl,
        by simpa [Lease.Event.id] using hrow.symm⟩

end Outbox

end OpenPool
