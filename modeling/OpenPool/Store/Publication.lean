import OpenPool.Store.LastPayout
import OpenPool.Store.PublicInvoices

/-! # Published proofs

Two operations write proofs: one inserts the proof of a raffle, the other records where it was
published. A recorded publication is never replaced. -/

namespace OpenPool

open Fallible

/-! ## Who writes proofs -/

def Op.writesProofs : Op → Bool
  | .generateTerminalProof .. | .recordProofPublication .. => true
  | _ => false

section Frames

variable {prim : Primitives} {store : Store} {db db' : Database}

theorem insertRaffleJob_proofs {id : Uuid} {kind : JobKind} {raffleId : RaffleId} {now : ℤ}
    (h : insertRaffleJob id kind raffleId now db = .ok db') : db'.proofs = db.proofs := by
  obtain ⟨jobs, rfl, -⟩ := insertRaffleJob_spec h
  rfl

theorem insertCloseJobs_proofs {jobIds : RaffleId → Uuid} {now : ℤ} {rows : List RaffleRow}
    (h : insertCloseJobs jobIds now db rows = .ok db') : db'.proofs = db.proofs := by
  induction rows generalizing db with
  | nil =>
      cases h
      rfl
  | cons row rows ih =>
      simp only [insertCloseJobs, bind_eq_ok_iff] at h
      obtain ⟨middle, hjob, hrest⟩ := h
      exact (ih hrest).trans (insertRaffleJob_proofs hjob)

theorem insertPayouts_proofs {raffleId : RaffleId} {payoutIds : RecipientType → Uuid} {now : ℤ}
    {payouts : List (RecipientType × UInt64)}
    (h : insertPayouts raffleId payoutIds now db payouts = .ok db') : db'.proofs = db.proofs := by
  induction payouts generalizing db with
  | nil =>
      cases h
      rfl
  | cons payout payouts ih =>
      obtain ⟨recipient, amount⟩ := payout
      unfold insertPayouts at h
      split at h
      · simp only [bind_eq_ok_iff] at h
        obtain ⟨amountSats, -, ⟨table, inserted⟩, -, hrest⟩ := h
        exact (ih hrest).trans rfl
      · exact ih h

theorem settleInvoice_proofs {invoiceId : InvoiceId} {entryId : EntryId} {settledAt : ℤ} :
    Keeps Database.proofs db
      (settleInvoiceAndAppendEntry prim.sha256 invoiceId entryId settledAt db) := by
  rw [settleInvoiceAndAppendEntry, keeps_bind_iff]
  intro invoice _
  split
  · intro new value h
    cases hentry : settledEntry invoiceId db with
    | error error => simp [hentry, Except.map] at h
    | ok entry =>
        obtain ⟨rfl, -⟩ : db = new ∧ entry = value := by simpa [hentry, Except.map] using h
        rfl
  · simp only [appendEntry, keeps_bind_iff, keeps_pure_iff]
    intros
    trivial

theorem recordWebhookAndEnqueue_proofs {event : NewWebhookEvent} {eventRowId jobId : Uuid}
    {now : ℤ} :
    Keeps Database.proofs db (recordWebhookAndEnqueue event eventRowId jobId now db) := by
  simp only [recordWebhookAndEnqueue, keeps_bind_iff, keeps_pure_iff, applyIf_eq_ok_iff]
  rintro ⟨webhookEvents, inserted⟩ - middle hjob
  rcases hjob with ⟨-, hjob⟩ | ⟨-, rfl⟩
  · simp only [insertJob, bind_eq_ok_iff, pure_eq_ok_iff] at hjob
    obtain ⟨⟨jobs, enqueued⟩, -, rfl⟩ := hjob
    rfl
  · rfl

theorem freezeRaffle_proofs {raffleId : RaffleId} {jobId : Uuid} {now : ℤ} :
    Keeps Database.proofs db (freezeRaffle prim.sha256 raffleId jobId now db) := by
  simp only [freezeRaffle, keeps_bind_iff, keeps_pure_iff, applyIf_eq_ok_iff]
  rintro row - - - count - head - raffles - db' hjob
  rcases hjob with ⟨-, hjob⟩ | ⟨-, rfl⟩
  · exact (insertRaffleJob_proofs hjob).trans rfl
  · rfl

theorem createDrawAndPayouts_proofs {raffleId : RaffleId} {closeHeight randomnessHeight : UInt64}
    {closeHash randomnessHash : Hash32} {ids : DrawIds} {now : ℤ} :
    Keeps Database.proofs db (createDrawAndPayouts prim raffleId closeHeight closeHash
      randomnessHeight randomnessHash ids now db) := by
  simp only [createDrawAndPayouts, keeps_bind_iff, keeps_pure_iff]
  rintro raffle - - - root - entries - total - result - split - pool - ticket - - - draws - paid
    hpayouts queued hjob close - randomness - raffles -
  exact (insertRaffleJob_proofs hjob).trans ((insertPayouts_proofs hpayouts).trans rfl)

theorem commit_proofs {transaction : SettleTransaction} :
    Keeps Database.proofs db (transaction.commit db) := by
  simp only [SettleTransaction.commit, keeps_bind_iff]
  intro payouts _
  unfold SettleStage.finish
  split
  · simp only [markPaidOut, keeps_bind_iff, keeps_pure_iff, bind_eq_ok_iff, pure_eq_ok_iff]
    rintro paid ⟨raffles, -, rfl⟩ queued hjob
    exact (insertRaffleJob_proofs hjob).trans rfl
  · rintro new value h
    cases h
    rfl

theorem exec_proofs {ε α : Type} {operation : Database → Except ε (Database × α)}
    (h : Keeps Database.proofs store.db (operation store.db)) :
    (store.exec operation).db.proofs = store.db.proofs :=
  h.commit

/-- Every other operation leaves the proofs as they are. -/
theorem Store.step_proofs (prim : Primitives) (store : Store) {op : Op}
    (hop : op.writesProofs = false) : (store.step prim op).db.proofs = store.db.proofs := by
  cases op with
  | generateTerminalProof | recordProofPublication => cases hop
  | createOrganizer | createDraftRaffle | transitionRaffle | updateRaffle | createPendingInvoice
  | createCollectionInvoice | storeCollectionInvoice | failCollectionInvoice
  | markCollectionUncollectible | createRefundEligibility | markLateSettlementForRefund
  | recordCanonicalBlock | succeedJob | failOrRetryJob | retryDeadJob =>
      refine exec_proofs ?_
      simp only [createOrganizer, createDraftRaffle, transitionRaffle, updateRaffle,
        createPendingInvoice, createCollectionInvoice, storeCollectionInvoice,
        failCollectionInvoice, markCollectionUncollectible, createRefundEligibility,
        markLateSettlementForRefund, recordCanonicalBlock, succeedJob, failOrRetryJob,
        retryDeadJob, keeps_bind_iff, keeps_pure_iff]
      intros
      trivial
  | settleInvoice => exact exec_proofs settleInvoice_proofs
  | recordWebhookAndEnqueue => exact exec_proofs recordWebhookAndEnqueue_proofs
  | freezeRaffle => exact exec_proofs freezeRaffle_proofs
  | createDrawAndPayouts => exact exec_proofs createDrawAndPayouts_proofs
  | scheduleDueCloses =>
      refine exec_proofs ?_
      simp only [scheduleDueCloses, keeps_bind_iff, keeps_pure_iff]
      exact fun _ _ _ hjobs => (insertCloseJobs_proofs hjobs).trans rfl
  | claimPayout raffleId workerId now locked choice =>
      refine exec_proofs ?_
      unfold claimPayout
      split
      · rintro new value h
        cases h
        rfl
      · simp only [keeps_bind_iff, keeps_pure_iff]
        intros
        trivial
  | claimJob workerId leaseSeconds now locked choice =>
      refine exec_proofs ?_
      unfold claimJob
      split
      · rintro new value h
        cases h
        rfl
      · simp only [keeps_bind_iff, keeps_pure_iff]
        intros
        trivial
  | failPayout payoutId workerId reason =>
      change (ite _ _ _ : Store).db.proofs = _
      split
      · rfl
      · refine exec_proofs ?_
        simp only [failPayout, keeps_bind_iff, keeps_pure_iff]
        intros
        trivial
  | beginSettle => exact congrArg Database.proofs (beginSettle_db ..)
  | countUnsettled | markPaidOut | enqueueProof | rollbackSettle => rfl
  | commitSettle payoutId =>
      change (store.commitSettle payoutId).db.proofs = _
      rcases commitSettle_cases store payoutId with hsame | ⟨transaction, -, -, hcommit⟩
      · rw [hsame]
      · rw [hcommit]
        exact exec_proofs commit_proofs

end Frames

/-! ## What happens to a proof -/

/-- The row is what it was, or a publication was recorded where there was none. -/
structure ProofRow.Later (row row' : ProofRow) : Prop where
  id : row'.id = row.id
  raffleId : row'.raffleId = row.raffleId
  protocolVersion : row'.protocolVersion = row.protocolVersion
  proofJson : row'.proofJson = row.proofJson
  proofHash : row'.proofHash = row.proofHash
  published : row.storageUri ≠ none → row' = row

theorem ProofRow.Later.refl (row : ProofRow) : row.Later row :=
  ⟨rfl, rfl, rfl, rfl, rfl, fun _ => rfl⟩

theorem ProofRow.Later.trans {a b c : ProofRow} (h : a.Later b) (h' : b.Later c) : a.Later c where
  id := h'.id.trans h.id
  raffleId := h'.raffleId.trans h.raffleId
  protocolVersion := h'.protocolVersion.trans h.protocolVersion
  proofJson := h'.proofJson.trans h.proofJson
  proofHash := h'.proofHash.trans h.proofHash
  published := fun hpublished => by
    obtain rfl := h.published hpublished
    exact h'.published hpublished

section Steps

variable {prim : Primitives} {store : Store}

theorem generateTerminalProof_proofs {db db' : Database} {raffleId : RaffleId} {proofId : Uuid}
    {document : ProofDocument}
    (h : generateTerminalProof prim raffleId proofId db = .ok (db', document)) :
    db'.proofs.rows = db.proofs.rows ++ [{ id := proofId, raffleId, protocolVersion
                                           proofJson := document
                                           proofHash := document.proofHash.val }] := by
  simp only [generateTerminalProof, bind_eq_ok_iff, pure_eq_ok_iff, sql_eq_ok_iff,
    Prod.mk.injEq] at h
  obtain ⟨raffle, -, -, -, entries, -, root, -, head, -, close, -, closeHeight, -, randomness, -,
    randomnessHeight, -, hash, -, tickets, -, result, -, split, -, pool, -, proof, -, -, -, proofs,
    hinsert, rfl, rfl⟩ := h
  exact Table.rows_of_insert hinsert

theorem recordProofPublication_proofs {db db' : Database} {raffleId : RaffleId}
    {storageUri versionId etag : String} {now : ℤ} {u : Unit}
    (h : recordProofPublication raffleId storageUri versionId etag now db = .ok (db', u)) :
    ∃ change : ProofRow → ProofRow, (∀ row : ProofRow, row.Later (change row)) ∧
      db'.proofs.rows = db.proofs.rows.map change := by
  simp only [recordProofPublication, bind_eq_ok_iff, pure_eq_ok_iff, sql_eq_ok_iff,
    Prod.mk.injEq] at h
  obtain ⟨⟨proofs, returned⟩, hupdate, -, -, rfl, -⟩ := h
  refine ⟨_, fun row => ?_, (Table.rows_of_update hupdate).1⟩
  split
  · rename_i hmatch
    exact ⟨rfl, rfl, rfl, rfl, rfl, fun hpublished =>
      absurd (of_decide_eq_true hmatch).2.2 hpublished⟩
  · exact .refl row

/-- A step keeps every proof, up to the publication. -/
theorem Store.proof_later (prim : Primitives) (store : Store) (op : Op) {row : ProofRow}
    (hmem : row ∈ store.db.proofs.rows) :
    ∃ row' ∈ (store.step prim op).db.proofs.rows, row.Later row' := by
  by_cases hop : op.writesProofs = true
  · cases op with
    | generateTerminalProof raffleId proofId =>
        change ∃ row' ∈ (commit store.db (generateTerminalProof ..)).proofs.rows, _
        rcases commit_cases store.db (generateTerminalProof prim raffleId proofId store.db) with
          hsame | ⟨document, hok⟩
        · rw [hsame]
          exact ⟨row, hmem, .refl row⟩
        · rw [generateTerminalProof_proofs hok]
          exact ⟨row, List.mem_append_left _ hmem, .refl row⟩
    | recordProofPublication raffleId storageUri versionId etag now =>
        change ∃ row' ∈ (commit store.db (recordProofPublication ..)).proofs.rows, _
        rcases commit_cases store.db
          (recordProofPublication raffleId storageUri versionId etag now store.db) with
          hsame | ⟨u, hok⟩
        · rw [hsame]
          exact ⟨row, hmem, .refl row⟩
        · obtain ⟨change, hlater, hrows⟩ := recordProofPublication_proofs hok
          rw [hrows]
          exact ⟨change row, List.mem_map_of_mem hmem, hlater row⟩
    | _ => cases hop
  · rw [store.step_proofs prim (by simpa using hop)]
    exact ⟨row, hmem, .refl row⟩

theorem Store.proof_later_run (prim : Primitives) (store : Store) (operations : List Op)
    {row : ProofRow} (hmem : row ∈ store.db.proofs.rows) :
    ∃ row' ∈ (StateMachine.run (Store.step prim) store operations).db.proofs.rows,
      row.Later row' := by
  have hstep : ∀ (store : Store) (op : Op), (∃ row' ∈ store.db.proofs.rows, row.Later row') →
      ∃ row' ∈ (store.step prim op).db.proofs.rows, row.Later row' := by
    rintro store op ⟨row', hmem', hlater⟩
    obtain ⟨row'', hmem'', hlater'⟩ := store.proof_later prim op hmem'
    exact ⟨row'', hmem'', hlater.trans hlater'⟩
  exact StateMachine.invariant hstep ⟨row, hmem, .refl row⟩ operations

/-- Every row holds the hash of its document. -/
def Database.ProofsHashed (db : Database) : Prop :=
  ∀ row ∈ db.proofs.rows, row.proofHash = row.proofJson.proofHash.val

theorem Store.proofsHashed_step (prim : Primitives) (store : Store) (op : Op)
    (h : store.db.ProofsHashed) : (store.step prim op).db.ProofsHashed := by
  by_cases hop : op.writesProofs = true
  · cases op with
    | generateTerminalProof raffleId proofId =>
        change Database.ProofsHashed (commit store.db (generateTerminalProof ..))
        rcases commit_cases store.db (generateTerminalProof prim raffleId proofId store.db) with
          hsame | ⟨document, hok⟩
        · rw [hsame]
          exact h
        · intro row hmem
          rw [generateTerminalProof_proofs hok] at hmem
          rcases List.mem_append.mp hmem with hmem | hmem
          · exact h row hmem
          · rw [List.mem_singleton.mp hmem]
    | recordProofPublication raffleId storageUri versionId etag now =>
        change Database.ProofsHashed (commit store.db (recordProofPublication ..))
        rcases commit_cases store.db
          (recordProofPublication raffleId storageUri versionId etag now store.db) with
          hsame | ⟨u, hok⟩
        · rw [hsame]
          exact h
        · intro row hmem
          obtain ⟨change, hlater, hrows⟩ := recordProofPublication_proofs hok
          rw [hrows] at hmem
          obtain ⟨old, hold, rfl⟩ := List.mem_map.mp hmem
          rw [(hlater old).proofHash, (hlater old).proofJson]
          exact h old hold
    | _ => cases hop
  · unfold Database.ProofsHashed
    rw [store.step_proofs prim (by simpa using hop)]
    exact h

theorem Store.proofsHashed_after (prim : Primitives) (operations : List Op) :
    (Store.after prim operations).db.ProofsHashed :=
  StateMachine.invariant (fun (store : Store) op h => store.proofsHashed_step prim op h)
    (fun _ hmem => absurd hmem List.not_mem_nil) operations

end Steps

end OpenPool
