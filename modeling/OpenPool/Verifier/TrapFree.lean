import OpenPool.Protocol.Allocation
import OpenPool.Protocol.Fairness
import OpenPool.Verifier.Semantics

/-! # The verifier does not trap

`verify` once more with the checks of a debug build. `summarizeLedger` is the one of the release
build: it compares, saturates and adds with `checked_add`, so it holds nothing that could trap. -/

namespace OpenPool

open Fallible

def winningTicketChecked (seed : Hash32) (totalTickets : UInt64) :
    Option (Except ProtocolError UInt64) :=
  if totalTickets = 0 then some (.error .zeroTickets)
  else do
    let remainder ← seed.val.foldlM (fun remainder byte => do
      let product ← Checked.mul 128 remainder 256
      let sum ← Checked.add 128 product byte.toNat
      Checked.rem sum totalTickets.toNat) 0
    let ticket ← Checked.cast 64 remainder
    return .ok (UInt64.ofNat ticket)

section Verify

variable (sha256 : List UInt8 → Hash32)

/-- `draw` with one assertion the source does not make: the modulus is positive wherever
`winning_ticket` is reached. -/
def drawChecked (entries : List LedgerEntry) (input : DrawInput) :
    Option (Except ProtocolError DrawResult) :=
  match (do
    let summary ← summarizeLedger sha256 entries
    ensure (summary.totalTickets = input.totalTickets)
      (.totalTicketsMismatch summary.totalTickets input.totalTickets)
    ensure (summary.entriesRoot = input.entriesRoot) .entriesRootMismatch :
      Except ProtocolError Unit) with
  | .error error => some (.error error)
  | .ok () => do
      let seed := drawSeed sha256 input
      Checked.assert (0 < input.totalTickets)
      match ← winningTicketChecked seed input.totalTickets with
      | .error error => return .error error
      | .ok ticket =>
          return (orElse (entries.find? fun entry => entry.data.ticketRange.contains ticket)
            (.winningEntryNotFound ticket)).map fun winner =>
              ⟨seed, ticket, winner.data.entryId, winner.data.ticketRange⟩

def drawIssuesChecked (payload : ProofPayload) (summary : LedgerSummary) :
    Option (List VerificationIssue) := do
  match ← drawChecked sha256 payload.entries (recomputedInput payload summary) with
  | .ok expected =>
      return issueIf (expected ≠ payload.draw) .drawInvalid
        "stored draw does not match recomputed draw"
  | .error error => return [⟨.drawInvalid, error.toString⟩]

def payoutIssuesChecked (payload : ProofPayload) (summary : LedgerSummary) :
    Option (List VerificationIssue) := do
  let valid ← payload.payoutSplit.isValidChecked
  if valid = false then
    return [⟨.payoutMismatch, "payout split does not total 10,000 basis points"⟩]
  else
    let amounts ← payload.payoutSplit.allocateChecked summary.totalPoolSats
    return issueIf (amounts ≠ payload.payouts ∨
        payload.payouts.checkedTotal ≠ some summary.totalPoolSats)
      .payoutMismatch "payouts do not reconcile to the frozen pool and split"

def summaryIssuesChecked (payload : ProofPayload) : Option (List VerificationIssue) :=
  match summarizeLedger sha256 payload.entries with
  | .ok summary => do
      let drawIssues ← drawIssuesChecked sha256 payload summary
      let payoutIssues ← payoutIssuesChecked payload summary
      return raffleIdIssues payload ++ freezeIssues payload summary ++ heightIssues payload ++
        drawIssues ++ payoutIssues
  | .error error => some [⟨.ledgerInvalid, error.toString⟩]

end Verify

def verifyChecked (prim : Primitives) (document : ProofDocument) : Option VerificationResult := do
  let summaryIssues ← summaryIssuesChecked prim.sha256 document.payload
  return ⟨versionIssues document.payload ++ summaryIssues ++ proofHashIssues prim document⟩

/-! ## Nothing traps -/

/-- The remainder stays below a `u64` modulus, so a product with 256 stays below `u128`. -/
theorem winningTicketChecked_eq (seed : Hash32) (totalTickets : UInt64) :
    winningTicketChecked seed totalTickets = some (winningTicket seed totalTickets) := by
  unfold winningTicketChecked winningTicket
  by_cases hzero : totalTickets = 0
  · rw [if_pos hzero, if_pos hzero]
  · have hpos : 0 < totalTickets.toNat := by
      rw [Nat.pos_iff_ne_zero, ne_eq, ← UInt64.toNat_zero, UInt64.toNat_inj]
      exact hzero
    have hlt := totalTickets.toNat_lt
    rw [if_neg hzero, if_neg hzero,
      Checked.foldlM_eq_some (fun remainder => remainder < totalTickets.toNat)
        (fun remainder byte hbound => ?_) (fun remainder byte _ => Nat.mod_lt _ hpos) _ _ hpos]
    · simp only [Option.bind_eq_bind, Option.bind_some]
      rw [Checked.cast_of_lt]
      · rfl
      · rw [Bytes.foldl_mod]
        exact (Nat.mod_lt _ hpos).trans hlt
    · have hbyte := byte.toNat_lt
      rw [Checked.mul_of_lt (by omega)]
      simp only [Option.bind_eq_bind, Option.bind_some]
      rw [Checked.add_of_lt (by omega)]
      exact Checked.rem_of_pos hpos

section Rules

variable {sha256 : List UInt8 → Hash32}

theorem drawChecked_eq (entries : List LedgerEntry) (input : DrawInput) :
    drawChecked sha256 entries input = some (draw sha256 entries input) := by
  unfold drawChecked draw
  cases hsummary : summarizeLedger sha256 entries with
  | error error => rfl
  | ok summary =>
      obtain ⟨raffleId, haccepted⟩ := (summarizeLedger_eq_ok_iff entries summary).mp hsummary
      by_cases htickets : summary.totalTickets = input.totalTickets
      · by_cases hroot : summary.entriesRoot = input.entriesRoot
        · have hpos : 0 < input.totalTickets := by
            rw [← htickets, UInt64.lt_iff_toNat_lt]
            exact haccepted.tiles.stop_pos haccepted.nonempty
          simp only [ok_bind, ensure_of _ _ htickets, ensure_of _ _ hroot,
            Checked.assert_of hpos, winningTicketChecked_eq, Option.bind_eq_bind, Option.bind_some]
          cases winningTicket (drawSeed sha256 input) input.totalTickets with
          | error error => rfl
          | ok ticket =>
              simp only [ok_bind]
              cases entries.find? fun entry => entry.data.ticketRange.contains ticket <;> rfl
        · simp only [ok_bind, ensure_of _ _ htickets, ensure_of_not _ _ hroot, error_bind]
      · simp only [ok_bind, ensure_of_not _ _ htickets, error_bind]

theorem drawIssuesChecked_eq (payload : ProofPayload) (summary : LedgerSummary) :
    drawIssuesChecked sha256 payload summary = some (drawIssues sha256 payload summary) := by
  rw [drawIssuesChecked, drawChecked_eq, drawIssues]
  cases draw sha256 payload.entries (recomputedInput payload summary) <;> rfl

theorem payoutIssuesChecked_eq (payload : ProofPayload) (summary : LedgerSummary) :
    payoutIssuesChecked payload summary = some (payoutIssues payload summary) := by
  rw [payoutIssuesChecked, PayoutSplit.isValidChecked_eq, payoutIssues]
  cases hvalid : payload.payoutSplit.isValid with
  | false => rfl
  | true =>
      simp only [Option.bind_eq_bind, Option.bind_some, PayoutSplit.allocateChecked_eq hvalid]
      rfl

theorem summaryIssuesChecked_eq (payload : ProofPayload) :
    summaryIssuesChecked sha256 payload = some (summaryIssues sha256 payload) := by
  unfold summaryIssuesChecked summaryIssues
  cases summarizeLedger sha256 payload.entries with
  | error error => rfl
  | ok summary =>
      simp only [drawIssuesChecked_eq, payoutIssuesChecked_eq, Option.bind_eq_bind,
        Option.bind_some]
      rfl

end Rules

/-- On every document, whatever its fields hold, no check of the debug build fails: a split that
`allocate` sees sums to 10,000, and a modulus that `winning_ticket` sees is positive. -/
theorem verify_never_traps (prim : Primitives) (document : ProofDocument) :
    verifyChecked prim document = some (verify prim document) := by
  rw [verifyChecked, summaryIssuesChecked_eq]
  rfl

end OpenPool
