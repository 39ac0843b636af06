import OpenPool.Protocol.Proof

/-! # The proof verifier -/

namespace OpenPool

inductive VerificationCode where
  | protocolVersionMismatch
  | ledgerInvalid
  | raffleIdMismatch
  | freezeMismatch
  | randomnessHeightMismatch
  | drawInvalid
  | payoutMismatch
  | proofHashMismatch
  deriving DecidableEq

structure VerificationIssue where
  code : VerificationCode
  detail : String
  deriving DecidableEq

structure VerificationResult where
  issues : List VerificationIssue
  deriving DecidableEq

def VerificationResult.isVerified (result : VerificationResult) : Bool := result.issues.isEmpty

/-- The issue a check pushes when its condition holds. -/
def issueIf (condition : Prop) [Decidable condition] (code : VerificationCode) (detail : String) :
    List VerificationIssue :=
  if condition then [⟨code, detail⟩] else []

def versionIssues (payload : ProofPayload) : List VerificationIssue :=
  issueIf (payload.protocolVersion ≠ protocolVersion) .protocolVersionMismatch
    s!"expected protocol version {protocolVersion}, got {payload.protocolVersion}"

def raffleIdIssues (payload : ProofPayload) : List VerificationIssue :=
  issueIf (payload.entries.head?.any fun entry => entry.data.raffleId ≠ payload.raffleId)
    .raffleIdMismatch "proof raffle ID does not match the ledger raffle ID"

def freezeIssues (payload : ProofPayload) (summary : LedgerSummary) : List VerificationIssue :=
  issueIf (summary.entryCount ≠ payload.freeze.entryCount ∨
      summary.totalTickets ≠ payload.freeze.totalTickets ∨
      summary.totalPoolSats ≠ payload.freeze.totalPoolSats ∨
      summary.entryChainHead ≠ payload.freeze.entryChainHead ∨
      summary.entriesRoot ≠ payload.freeze.entriesRoot)
    .freezeMismatch "freeze facts do not match the recomputed ledger"

def heightIssues (payload : ProofPayload) : List VerificationIssue :=
  issueIf (payload.bitcoin.randomnessBlockHeight ≤ payload.bitcoin.closeBlockHeight)
    .randomnessHeightMismatch "randomness block height must be greater than close block height"

/-- The draw input `verify` rebuilds, with the root and tickets it recomputed. -/
def recomputedInput (payload : ProofPayload) (summary : LedgerSummary) : DrawInput where
  raffleId := payload.raffleId
  entriesRoot := summary.entriesRoot
  closeBlockHeight := payload.bitcoin.closeBlockHeight
  randomnessBlockHeight := payload.bitcoin.randomnessBlockHeight
  randomnessBlockHash := payload.bitcoin.randomnessBlockHash
  totalTickets := summary.totalTickets

def drawIssues (sha256 : List UInt8 → Hash32) (payload : ProofPayload) (summary : LedgerSummary) :
    List VerificationIssue :=
  match draw sha256 payload.entries (recomputedInput payload summary) with
  | .ok expected =>
      issueIf (expected ≠ payload.draw) .drawInvalid "stored draw does not match recomputed draw"
  | .error error => [⟨.drawInvalid, error.toString⟩]

def payoutIssues (payload : ProofPayload) (summary : LedgerSummary) : List VerificationIssue :=
  if payload.payoutSplit.isValid = false then
    [⟨.payoutMismatch, "payout split does not total 10,000 basis points"⟩]
  else
    issueIf (payload.payoutSplit.allocate summary.totalPoolSats ≠ payload.payouts ∨
        payload.payouts.checkedTotal ≠ some summary.totalPoolSats)
      .payoutMismatch "payouts do not reconcile to the frozen pool and split"

/-- The checks that compare the payload with the summary of its entries. -/
def summaryIssues (sha256 : List UInt8 → Hash32) (payload : ProofPayload) :
    List VerificationIssue :=
  match summarizeLedger sha256 payload.entries with
  | .ok summary =>
      raffleIdIssues payload ++ freezeIssues payload summary ++ heightIssues payload ++
        drawIssues sha256 payload summary ++ payoutIssues payload summary
  | .error error => [⟨.ledgerInvalid, error.toString⟩]

def proofHashIssues (prim : Primitives) (document : ProofDocument) : List VerificationIssue :=
  match proofHash prim document.payload with
  | .ok expected =>
      issueIf (expected ≠ document.proofHash) .proofHashMismatch
        "proof hash does not match canonical proof payload"
  | .error error => [⟨.proofHashMismatch, error.toString⟩]

def verify (prim : Primitives) (document : ProofDocument) : VerificationResult :=
  ⟨versionIssues document.payload ++ summaryIssues prim.sha256 document.payload ++
    proofHashIssues prim document⟩

/-! ## When each check is silent -/

@[simp] theorem issueIf_eq_nil_iff (condition : Prop) [Decidable condition]
    (code : VerificationCode) (detail : String) :
    issueIf condition code detail = [] ↔ ¬ condition := by
  unfold issueIf
  split <;> simp_all

theorem versionIssues_eq_nil_iff (payload : ProofPayload) :
    versionIssues payload = [] ↔ payload.protocolVersion = protocolVersion := by
  simp [versionIssues]

theorem heightIssues_eq_nil_iff (payload : ProofPayload) :
    heightIssues payload = [] ↔
      payload.bitcoin.closeBlockHeight.toNat < payload.bitcoin.randomnessBlockHeight.toNat := by
  simp [heightIssues, UInt64.lt_iff_toNat_lt]

theorem drawIssues_eq_nil_iff (sha256 : List UInt8 → Hash32) (payload : ProofPayload)
    (summary : LedgerSummary) :
    drawIssues sha256 payload summary = [] ↔
      draw sha256 payload.entries (recomputedInput payload summary) = .ok payload.draw := by
  unfold drawIssues
  cases draw sha256 payload.entries (recomputedInput payload summary) <;> simp

theorem payoutIssues_eq_nil_iff (payload : ProofPayload) (summary : LedgerSummary) :
    payoutIssues payload summary = [] ↔ payload.payoutSplit.bps = 10000 ∧
      Allocated payload.payoutSplit summary.totalPoolSats payload.payouts := by
  rw [← payload.payoutSplit.isValid_iff]
  unfold payoutIssues
  split
  · rename_i h
    simp [h]
  · rename_i h
    have hvalid : payload.payoutSplit.isValid = true := by simpa using h
    have hspec := payload.payoutSplit.allocate_spec
      (payload.payoutSplit.isValid_iff.mp hvalid) summary.totalPoolSats
    simp only [issueIf_eq_nil_iff, not_or, not_not, hvalid, true_and]
    constructor
    · rintro ⟨heq, -⟩
      rwa [heq] at hspec
    · intro halloc
      exact ⟨hspec.unique halloc, (PayoutAmounts.checkedTotal_eq_some_iff _ _).mpr halloc.total⟩

theorem proofHashIssues_eq_nil_iff (prim : Primitives) (document : ProofDocument) :
    proofHashIssues prim document = [] ↔
      proofHash prim document.payload = .ok document.proofHash := by
  unfold proofHashIssues
  cases proofHash prim document.payload <;> simp

/-- The freeze facts repeat the summary. -/
def FreezeFacts.summary (freeze : FreezeFacts) : LedgerSummary :=
  ⟨freeze.entryCount, freeze.totalTickets, freeze.totalPoolSats, freeze.entryChainHead,
    freeze.entriesRoot⟩

theorem freezeIssues_eq_nil_iff (payload : ProofPayload) (summary : LedgerSummary) :
    freezeIssues payload summary = [] ↔ summary = payload.freeze.summary := by
  obtain ⟨count, tickets, pool, head, root⟩ := summary
  simp only [freezeIssues, issueIf_eq_nil_iff, not_or, not_not, FreezeFacts.summary,
    LedgerSummary.mk.injEq]

theorem summaryIssues_eq_nil_iff (sha256 : List UInt8 → Hash32) (payload : ProofPayload) :
    summaryIssues sha256 payload = [] ↔
      summarizeLedger sha256 payload.entries = .ok payload.freeze.summary ∧
      raffleIdIssues payload = [] ∧ heightIssues payload = [] ∧
      drawIssues sha256 payload payload.freeze.summary = [] ∧
      payoutIssues payload payload.freeze.summary = [] := by
  unfold summaryIssues
  cases h : summarizeLedger sha256 payload.entries with
  | error error => simp
  | ok summary =>
      simp only [List.append_eq_nil_iff, freezeIssues_eq_nil_iff, Except.ok.injEq]
      constructor
      · rintro ⟨⟨⟨⟨hraffle, rfl⟩, hheight⟩, hdraw⟩, hpayout⟩
        exact ⟨rfl, hraffle, hheight, hdraw, hpayout⟩
      · rintro ⟨rfl, hraffle, hheight, hdraw, hpayout⟩
        exact ⟨⟨⟨⟨hraffle, rfl⟩, hheight⟩, hdraw⟩, hpayout⟩

/-- A document is verified when its summary is the frozen one and every check is silent. -/
theorem isVerified_iff (prim : Primitives) (document : ProofDocument) :
    (verify prim document).isVerified = true ↔
      document.payload.protocolVersion = protocolVersion ∧
      summaryIssues prim.sha256 document.payload = [] ∧
      proofHash prim document.payload = .ok document.proofHash := by
  simp only [VerificationResult.isVerified, verify, List.isEmpty_iff, List.append_eq_nil_iff,
    versionIssues_eq_nil_iff, proofHashIssues_eq_nil_iff, and_assoc]

end OpenPool
