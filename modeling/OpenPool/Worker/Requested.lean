import OpenPool.Store.Terms
import OpenPool.Worker.Runs

/-! # What workers leave as it is

A worker decides about invoices and raffles, but nothing of what clients have asked for changes
by its steps. -/

namespace OpenPool

/-- The operations of the workers. -/
def Op.fromWorker : Op → Bool
  | createPendingInvoice _ | createRefundEligibility .. => false
  | op => !op.fromApi

theorem RequestStep.eq_of_worker {op : Op} {before after : Requested}
    (h : RequestStep op before after) (hop : op.fromWorker = true) : after = before := by
  cases h with
  | stay => rfl
  | _ => cases hop

section Steps

variable {services : Services} {world : World} {action : Action} {op : Op}

theorem Statement.op_fromWorker {store : Store} {workerId : String} {choice : Choice}
    {statement : Statement} (h : statement.op store workerId choice = some op) :
    op.fromWorker = true := by
  cases statement with
  | frozenDrawContext | canonicalBlockMatches | payoutRecipientCiphertext | pendingInvoices
  | collectionPaymentReference => cases h
  | countUnsettled | markPaidOut | enqueueProof | commitSettle =>
      obtain ⟨_, -, rfl⟩ := Option.map_eq_some_iff.mp h
      rfl
  | _ =>
      obtain rfl := Option.some.inj h
      rfl

/-- Every action but a transaction of the API runs an operation of a worker, or none. -/
theorem World.op_fromWorker (h : world.op action = some op) (haction : ∀ op, action ≠ .api op) :
    op.fromWorker = true := by
  cases action with
  | api op => exact absurd rfl (haction op)
  | schedule workerId jobIds now =>
      simp only [World.op] at h
      split at h
      · obtain rfl := Option.some.inj h
        rfl
      · cases h
  | claim workerId choice =>
      simp only [World.op] at h
      split at h
      · obtain ⟨-, ⟨⟩⟩ := Option.ite_none_right_eq_some.mp h
        rfl
      · cases h
  | work workerId choice =>
      simp only [World.op] at h
      split at h
      · exact Statement.op_fromWorker (Option.ite_none_right_eq_some.mp h).2
      · cases h
  | finish workerId choice =>
      simp only [World.op] at h
      split at h
      · obtain ⟨-, ⟨⟩⟩ := Option.ite_none_right_eq_some.mp h
        rfl
      · obtain ⟨-, ⟨⟩⟩ := Option.ite_none_right_eq_some.mp h
        rfl
      · cases h
  | rollback =>
      obtain rfl := Option.some.inj h
      rfl
  | crash | deliver | pay => cases h

end Steps

end OpenPool
