import OpenPool.Library.StateMachine
import OpenPool.Store.ProofCorrectness
import OpenPool.Worker.ProofStorage
import OpenPool.Worker.Runs

/-! # Retries of a proof job

A proof job inserts the proof, uploads it and records the upload, each on its own. An attempt
that stops in between leaves its row behind, and the next attempt cannot insert it again. -/

namespace OpenPool

open Fallible Program

/-- What the attempts of a proof job change. -/
structure Publishing where
  store : Store
  objects : Bucket

/-- What the surroundings decide about an attempt. -/
structure Attempt where
  choice : Choice
  version : ObjectVersion

/-- An attempt that stops after a number of its requests. -/
structure Stopped where
  attempt : Attempt
  requests : ℕ

section Attempts

variable (services : Services) (workerId bucket : String) (job : ClaimedJob)

/-- The database and the object store answer normally. -/
def Attempt.perform (attempt : Attempt) :
    (request : Request) → Publishing → request.Answer × Publishing
  | .query statement, state =>
      (statement.answer services.prim state.store workerId attempt.choice,
        { state with
          store := (statement.op state.store workerId attempt.choice).elim state.store
            (state.store.step services.prim) })
  | .ask (.publishImmutable proofHash canonicalJson), state =>
      let (published, objects) :=
        publishImmutable bucket proofHash canonicalJson attempt.version state.objects
      (published.mapError ProofStorageError.toString, { state with objects })
  | .ask question, state => (attempt.choice.reply question, state)

def Attempt.run (attempt : Attempt) (state : Publishing) : Except String Unit × Publishing :=
  (proofGenerate services job).run (attempt.perform services workerId bucket) state

/-- The state that a stopped attempt leaves behind. -/
def Stopped.run (state : Publishing) (stopped : Stopped) : Publishing :=
  (proofGenerate services job).stopAfter (stopped.attempt.perform services workerId bucket)
    stopped.requests state

/-- The state that a list of stopped attempts leaves behind. -/
def afterStopped (attempts : List Stopped) (state : Publishing) : Publishing :=
  StateMachine.run (Stopped.run services workerId bucket job) state attempts

end Attempts

/-- The raffle has exactly one proof, and its publication is recorded. -/
def Store.Published (store : Store) (raffleId : RaffleId) : Prop :=
  ∃ proof, store.db.proofs.select (·.raffleId = raffleId) = [proof] ∧ proof.storageUri ≠ none ∧
    proof.storageVersionId ≠ none ∧ proof.storageEtag ≠ none ∧ proof.publishedAt ≠ none

/-- The row of the raffle's proof has been inserted. -/
def Store.Proved (store : Store) (raffleId : RaffleId) : Prop :=
  ∃ proof ∈ store.db.proofs.rows, proof.raffleId = raffleId ∧
    proof.protocolVersion = protocolVersion

section Retries

variable {services : Services} {workerId bucket : String} {job : ClaimedJob} {raffleId : RaffleId}
  {attempt : Attempt} {state : Publishing} {prim : Primitives} {proofId : Uuid} {db : Database}

/-- What an attempt does with the proof it has generated. -/
def publishProof (services : Services) (raffleId : RaffleId) (proof : ProofDocument) :
    Task Unit := do
  if services.hasProofStore = false then
    Program.fail "immutable proof storage is not configured"
  let canonicalJson ← Program.orFail id (services.toVec proof)
  let publication ← ask
    (.publishImmutable (String.ofList (Bytes.toHex proof.proofHash.val)) canonicalJson)
  query services (.recordProofPublication raffleId publication)

theorem proofGenerate_eq (hjob : job.payload.raffleId = some raffleId) :
    proofGenerate services job =
      .call (.query (.generateTerminalProof raffleId)) fun answer =>
        Program.orFail (PersistenceError.toString services.describe) answer >>=
          publishProof services raffleId := by
  unfold proofGenerate
  rw [hjob]
  rfl

/-! ## A row that exists -/

/-- What generating a proof writes. -/
theorem generateTerminalProof_inserts {db' : Database} {document : ProofDocument}
    (h : generateTerminalProof prim raffleId proofId db = .ok (db', document)) :
    ∃ proofs, db.proofs.insert
      { id := proofId, raffleId, protocolVersion, proofJson := document
        proofHash := document.proofHash.val } = .ok proofs ∧ db' = { db with proofs } := by
  simp only [generateTerminalProof, bind_eq_ok_iff, sql_eq_ok_iff, pure_eq_ok_iff,
    Prod.mk.injEq] at h
  -- the fourteen reads and checks before the document
  obtain ⟨-, -, -, -, -, -, -, -, -, -, -, -, -, -, -, -, -, -, -, -, -, -, -, -, -, -, -, -,
    document, -, -, -, proofs, hproofs, rfl, rfl⟩ := h
  exact ⟨proofs, hproofs, rfl⟩

/-- A row after a publication is recorded. -/
def ProofRow.withPublication (raffleId : RaffleId) (publication : PublishedProof) (now : ℤ)
    (row : ProofRow) : ProofRow :=
  if row.raffleId = raffleId ∧ row.protocolVersion = OpenPool.protocolVersion ∧
      row.storageUri = none then
    { row with
      storageUri := some publication.uri
      storageVersionId := some publication.versionId
      storageEtag := some publication.etag
      publishedAt := some now }
  else row

theorem rows_of_recordProofPublication {publication : PublishedProof} {now : ℤ} {db' : Database}
    {u : Unit} (h : recordProofPublication raffleId publication.uri publication.versionId
      publication.etag now db = .ok (db', u)) :
    db'.proofs.rows = db.proofs.rows.map (ProofRow.withPublication raffleId publication now) := by
  simp only [recordProofPublication, bind_eq_ok_iff, sql_eq_ok_iff, pure_eq_ok_iff,
    Prod.mk.injEq] at h
  obtain ⟨⟨proofs, returned⟩, hproofs, -, -, rfl, -⟩ := h
  rw [(Table.rows_of_update hproofs).1]
  refine List.map_congr_left fun row _ => ?_
  simp only [ProofRow.withPublication, decide_eq_true_eq]

theorem ProofRow.withPublication_key (publication : PublishedProof) (now : ℤ) (row : ProofRow) :
    (row.withPublication raffleId publication now).raffleId = row.raffleId ∧
      (row.withPublication raffleId publication now).protocolVersion = row.protocolVersion := by
  unfold withPublication
  split <;> exact ⟨rfl, rfl⟩

/-- A raffle has one proof of each version. -/
theorem generateTerminalProof_of_proved {store : Store} (h : store.Proved raffleId)
    (prim : Primitives) (proofId : Uuid) : ∃ error, generateTerminalProof prim raffleId proofId store.db =
      .error error := by
  cases hgenerate : generateTerminalProof prim raffleId proofId store.db with
  | error error => exact ⟨error, rfl⟩
  | ok result =>
      obtain ⟨proof, hmem, hraffle, hversion⟩ := h
      obtain ⟨proofs, hproofs, -⟩ := generateTerminalProof_inserts hgenerate
      exact absurd (.inr ⟨hraffle, hversion⟩) (Table.not_clash_of_insert hproofs proof hmem)

theorem proved_of_generate {store : Store} {document : ProofDocument}
    (h : generateTerminalProof prim raffleId proofId store.db = .ok (db, document)) :
    (store.exec (generateTerminalProof prim raffleId proofId)).Proved raffleId := by
  obtain ⟨proofs, hproofs, rfl⟩ := generateTerminalProof_inserts h
  have hrows := Table.rows_of_insert hproofs
  rw [Store.exec, h]
  exact ⟨_, hrows ▸ List.mem_append_right _ (List.mem_singleton_self _), rfl, rfl⟩

/-- What the operations of a proof job keep. -/
theorem Store.Proved.exec {ε α : Type} {store : Store} (h : store.Proved raffleId)
    {operation : Database → Except ε (Database × α)}
    (hkept : ∀ db' value, operation store.db = .ok (db', value) →
      ∀ row ∈ store.db.proofs.rows, ∃ row' ∈ db'.proofs.rows, row'.raffleId = row.raffleId ∧
        row'.protocolVersion = row.protocolVersion) : (store.exec operation).Proved raffleId := by
  obtain ⟨proof, hmem, hraffle, hversion⟩ := h
  unfold Store.exec
  cases hresult : operation store.db with
  | error error => exact ⟨proof, hmem, hraffle, hversion⟩
  | ok result =>
      obtain ⟨proof', hmem', hraffle', hversion'⟩ := hkept _ _ hresult proof hmem
      exact ⟨proof', hmem', hraffle'.trans hraffle, hversion'.trans hversion⟩

/-- The requests of a proof job. -/
def Request.Publishes : Request → Prop
  | .query (.generateTerminalProof _) | .query (.recordProofPublication _ _)
  | .ask (.publishImmutable _ _) => True
  | _ => False

theorem publishProof_publishes {proof : ProofDocument} :
    (publishProof services raffleId proof).Requests Request.Publishes := by
  unfold publishProof
  split
  · trivial
  · exact Requests.bind trivial fun json =>
      (requests_ask trivial).bind fun publication => requests_query trivial

theorem perform_keeps_proved {request : Request} (hrequest : request.Publishes)
    (h : state.store.Proved raffleId) :
    (attempt.perform services workerId bucket request state).2.store.Proved raffleId := by
  unfold Request.Publishes at hrequest
  split at hrequest
  · refine h.exec fun db' document hgenerate row hmem => ?_
    obtain ⟨proofs, hproofs, rfl⟩ := generateTerminalProof_inserts hgenerate
    have hrows := Table.rows_of_insert hproofs
    exact ⟨row, hrows ▸ List.mem_append_left _ hmem, rfl, rfl⟩
  · refine h.exec fun db' u hrecord row hmem => ?_
    have hrows := rows_of_recordProofPublication hrecord
    exact ⟨_, hrows ▸ List.mem_map_of_mem hmem, row.withPublication_key _ _⟩
  · exact h
  · exact hrequest.elim

/-! ## Attempts -/

theorem ask_bind {α : Type} (question : Question) (next : question.Value → Task α) :
    ask question >>= next =
      .call (.ask question) fun answer => Program.orFail id answer >>= next := rfl

theorem run_query {σ : Type} (perform : (request : Request) → σ → request.Answer × σ)
    (statement : Statement) (state : σ) : (query services statement).run perform state =
      ((perform (.query statement) state).1.mapError (PersistenceError.toString services.describe),
        (perform (.query statement) state).2) := rfl

/-- The first request of an attempt. -/
theorem perform_generate : attempt.perform services workerId bucket
      (.query (.generateTerminalProof raffleId)) state =
    (returned (generateTerminalProof services.prim raffleId attempt.choice.id state.store.db),
      { state with
        store := state.store.exec
          (generateTerminalProof services.prim raffleId attempt.choice.id) }) := rfl

/-- The last request of an attempt. -/
theorem perform_record {publication : PublishedProof} :
    attempt.perform services workerId bucket
      (.query (.recordProofPublication raffleId publication)) state =
    (returned (recordProofPublication raffleId publication.uri publication.versionId
        publication.etag attempt.choice.now state.store.db),
      { state with
        store := state.store.exec (recordProofPublication raffleId publication.uri
          publication.versionId publication.etag attempt.choice.now) }) := rfl

/-- An attempt that finds the row inserted fails. -/
theorem run_of_proved (services : Services) (workerId bucket : String) (attempt : Attempt)
    (hjob : job.payload.raffleId = some raffleId)
    (h : state.store.Proved raffleId) :
    ∃ error, (attempt.run services workerId bucket job state).1 = .error error := by
  obtain ⟨error, herror⟩ := generateTerminalProof_of_proved h services.prim attempt.choice.id
  refine ⟨error.toString services.describe, ?_⟩
  rw [Attempt.run, proofGenerate_eq hjob, Program.run, perform_generate, herror]
  rfl

theorem publishing_answer {answer : Except PersistenceError ProofDocument} :
    (Program.orFail (PersistenceError.toString services.describe) answer >>=
      publishProof services raffleId).Requests Request.Publishes :=
  Requests.bind trivial fun _ => publishProof_publishes

theorem keeps_proved : ∀ request (state : Publishing), Request.Publishes request →
    state.store.Proved raffleId →
      (attempt.perform services workerId bucket request state).2.store.Proved raffleId :=
  fun _ _ hrequest h => perform_keeps_proved hrequest h

/-- A stopped attempt keeps the row. -/
theorem stopped_of_proved {requests : ℕ} (hjob : job.payload.raffleId = some raffleId)
    (h : state.store.Proved raffleId) :
    (Stopped.run services workerId bucket job state ⟨attempt, requests⟩).store.Proved
      raffleId := by
  rw [Stopped.run, proofGenerate_eq hjob]
  refine Requests.stopAfter keeps_proved ?_ h requests
  exact ⟨trivial, fun _ => publishing_answer⟩

/-- An attempt that gets past its first request leaves the row. -/
theorem stopped_of_generates {requests : ℕ} (hjob : job.payload.raffleId = some raffleId)
    {document : ProofDocument} (hgenerate : generateTerminalProof services.prim raffleId
      attempt.choice.id state.store.db = .ok (db, document)) :
    (Stopped.run services workerId bucket job state
      ⟨attempt, requests + 1⟩).store.Proved raffleId := by
  rw [Stopped.run, proofGenerate_eq hjob, stopAfter]
  exact Requests.stopAfter keeps_proved publishing_answer (proved_of_generate hgenerate) requests

/-! ## The first attempt -/

/-- The first publication of a proof is recorded. -/
theorem recordProofPublication_succeeds {proof : ProofRow} (publication : PublishedProof)
    (now : ℤ) (hproof : db.proofs.select (·.raffleId = raffleId) = [proof])
    (hversion : proof.protocolVersion = protocolVersion) (hnew : proof.storageUri = none) :
    ∃ db', recordProofPublication raffleId publication.uri publication.versionId publication.etag
        now db = .ok (db', ()) ∧
      db'.proofs.select (·.raffleId = raffleId) =
        [proof.withPublication raffleId publication now] := by
  obtain ⟨proofs, returned, hupdate⟩ := Table.update_eq_ok db.proofs
    (fun row => row.raffleId = raffleId ∧ row.protocolVersion = protocolVersion ∧
      row.storageUri = none)
    (fun row => { row with
      storageUri := some publication.uri
      storageVersionId := some publication.versionId
      storageEtag := some publication.etag
      publishedAt := some now })
    (fun row hmem => by
      have hcheck := db.proofs.checked row hmem
      split
      · exact ⟨hcheck.1, .inr ⟨nofun, nofun, nofun, nofun⟩⟩
      · exact hcheck)
    (fun a _ b _ hclash => by split at hclash <;> split at hclash <;> exact hclash)
  have hcount : returned.length = 1 := by
    have hselected : db.proofs.rows.filter (fun row => row.raffleId = raffleId ∧
        row.protocolVersion = protocolVersion ∧ row.storageUri = none) = [proof] := by
      have hsplit : (db.proofs.select (·.raffleId = raffleId)).filter (fun row =>
          row.protocolVersion = protocolVersion ∧ row.storageUri = none) = [proof] := by
        simp [hproof, hversion, hnew]
      rw [← hsplit, Table.select, List.filter_filter]
      refine List.filter_congr fun row _ => ?_
      rw [← Bool.decide_and, decide_eq_decide]
      exact and_comm
    rw [(Table.rows_of_update hupdate).2, hselected]
    rfl
  refine ⟨{ db with proofs }, ?_, ?_⟩
  · simp only [recordProofPublication, bind_eq_ok_iff, sql_eq_ok_iff, pure_eq_ok_iff]
    exact ⟨(proofs, returned), hupdate, (), by rw [ensurePublished, if_pos hcount], rfl⟩
  · rw [Table.select_of_update hupdate fun _ _ => rfl, hproof, List.map_singleton]
    simp only [ProofRow.withPublication, decide_eq_true_eq]

/-- The upload of a proof whose key is free. -/
theorem perform_publish (services : Services) (workerId bucket : String) (attempt : Attempt)
    {document : ProofDocument} (json : List UInt8)
    (habsent : ∀ key, objectKey (String.ofList (Bytes.toHex document.proofHash.val)) = .ok key →
      state.objects key = none) :
    ∃ publication objects, attempt.perform services workerId bucket
      (.ask (.publishImmutable (String.ofList (Bytes.toHex document.proofHash.val)) json)) state =
        (.ok publication, { state with objects }) := by
  have hkey := objectKey_toHex document.proofHash
  obtain ⟨publication, objects, hupload⟩ : ∃ publication objects, publishImmutable bucket
      (String.ofList (Bytes.toHex document.proofHash.val)) json attempt.version state.objects =
        (.ok publication, objects) :=
    ⟨_, _, publishImmutable_of_absent hkey (habsent _ hkey)⟩
  exact ⟨publication, objects, by rw [Attempt.perform, hupload]; rfl⟩

theorem publishProof_eq {document : ProofDocument} {json : List UInt8}
    (hconfigured : services.hasProofStore = true) (hjson : services.toVec document = .ok json) :
    publishProof services raffleId document =
      ask (.publishImmutable (String.ofList (Bytes.toHex document.proofHash.val)) json) >>=
        fun publication => query services (.recordProofPublication raffleId publication) := by
  unfold publishProof
  rw [if_neg (by simp [hconfigured]), hjson]
  rfl

/-- The upload and its record. -/
theorem publishProof_succeeds (workerId bucket : String) (attempt : Attempt) (state : Publishing)
    (hconfigured : services.hasProofStore = true)
    {document : ProofDocument} {json : List UInt8} (hjson : services.toVec document = .ok json)
    {proof : ProofRow} (hproof : state.store.db.proofs.select (·.raffleId = raffleId) = [proof])
    (hversion : proof.protocolVersion = protocolVersion) (hnew : proof.storageUri = none)
    (habsent : ∀ key, objectKey (String.ofList (Bytes.toHex document.proofHash.val)) = .ok key →
      state.objects key = none) :
    ∃ state', (publishProof services raffleId document).run
        (attempt.perform services workerId bucket) state = (.ok (), state') ∧
      state'.store.Published raffleId := by
  obtain ⟨publication, objects, hpublish⟩ := perform_publish services workerId bucket
    attempt json habsent
  obtain ⟨db', hrecord, hselect⟩ := recordProofPublication_succeeds publication
    attempt.choice.now hproof hversion hnew
  refine ⟨⟨{ state.store with db := db' }, objects⟩, ?_, ?_⟩
  · rw [publishProof_eq hconfigured hjson, ask_bind, Program.run, hpublish, orFail_ok,
      Program.ok_bind, run_query, perform_record]
    simp only [Store.exec, hrecord, commit_ok]
    rfl
  · have hmem : proof ∈ state.store.db.proofs.select (·.raffleId = raffleId) :=
      hproof ▸ List.mem_singleton_self proof
    have hraffle : proof.raffleId = raffleId := of_decide_eq_true (Table.mem_select.mp hmem).2
    refine ⟨_, hselect, ?_⟩
    rw [ProofRow.withPublication, if_pos ⟨hraffle, hversion, hnew⟩]
    exact ⟨Option.some_ne_none _, Option.some_ne_none _, Option.some_ne_none _,
      Option.some_ne_none _⟩

/-- An attempt that finds neither a row nor an object publishes the proof. -/
theorem run_of_unproved (hjob : job.payload.raffleId = some raffleId)
    (hconfigured : services.hasProofStore = true)
    (hjson : ∀ document, ∃ json, services.toVec document = .ok json)
    (hnone : ∀ proof ∈ state.store.db.proofs.rows, proof.raffleId ≠ raffleId)
    {document : ProofDocument} (hgenerate : generateTerminalProof services.prim raffleId
      attempt.choice.id state.store.db = .ok (db, document))
    (habsent : ∀ key, objectKey (String.ofList (Bytes.toHex document.proofHash.val)) = .ok key →
      state.objects key = none) :
    (attempt.run services workerId bucket job state).1 = .ok () ∧
      (attempt.run services workerId bucket job state).2.store.Published raffleId := by
  obtain ⟨json, hjson⟩ := hjson document
  obtain ⟨proofs, hproofs, rfl⟩ := generateTerminalProof_inserts hgenerate
  have hproof : proofs.select (·.raffleId = raffleId) = [⟨attempt.choice.id, raffleId,
      protocolVersion, document, document.proofHash, none, none, none, none⟩] := by
    rw [Table.select_of_insert hproofs, Table.select, List.filter_eq_nil_iff.mpr (by simpa), if_pos]
    · rfl
    · simp
  obtain ⟨state', hrun, hpublished⟩ := publishProof_succeeds workerId bucket attempt
    { state with store := { state.store with db := { state.store.db with proofs } } }
    hconfigured hjson hproof rfl rfl
    habsent
  have hattempt : attempt.run services workerId bucket job state = (.ok (), state') := by
    rw [Attempt.run, proofGenerate_eq hjob, Program.run, perform_generate, Store.exec, hgenerate]
    exact hrun
  rw [hattempt]
  exact ⟨rfl, hpublished⟩

/-! ## Sequences of attempts -/

/-- Stopped attempts leave the state as it was, if none got past its first request, or the row. -/
theorem retry_cases (workerId bucket : String) (state : Publishing)
    (hjob : job.payload.raffleId = some raffleId) {attempts : List Stopped}
    (hgenerates : ∀ stopped ∈ attempts, ∃ db document, generateTerminalProof services.prim raffleId
      stopped.attempt.choice.id state.store.db = .ok (db, document)) :
    (∀ stopped ∈ attempts, stopped.requests = 0) ∧
        afterStopped services workerId bucket job attempts state = state ∨
      ¬ (∀ stopped ∈ attempts, stopped.requests = 0) ∧
        (afterStopped services workerId bucket job attempts state).store.Proved raffleId := by
  induction attempts with
  | nil => exact .inl ⟨nofun, rfl⟩
  | cons stopped attempts ih =>
      obtain ⟨attempt, requests⟩ := stopped
      rw [List.forall_mem_cons] at hgenerates ⊢
      cases requests with
      | zero =>
          refine (ih hgenerates.2).imp (fun h => ⟨⟨rfl, h.1⟩, h.2⟩) fun h => ⟨?_, h.2⟩
          exact fun hall => h.1 hall.2
      | succ requests =>
          obtain ⟨db, document, hgenerate⟩ := hgenerates.1
          refine .inr ⟨fun hall => absurd hall.1 (Nat.succ_ne_zero _), ?_⟩
          exact StateMachine.invariant (P := fun state : Publishing => state.store.Proved raffleId)
            (fun _ _ h => stopped_of_proved hjob h) (stopped_of_generates hjob hgenerate) attempts

/-- The bucket has no object under the key of the raffle's proof. -/
def Bucket.Lacks (objects : Bucket) (prim : Primitives) (raffleId : RaffleId) (db : Database) :
    Prop :=
  ∀ proofId db' document, generateTerminalProof prim raffleId proofId db = .ok (db', document) →
    ∀ key, objectKey (String.ofList (Bytes.toHex document.proofHash.val)) = .ok key →
      objects key = none

end Retries

/-- An attempt publishes the proof of a paid-out raffle exactly when every attempt before it
stopped before it inserted the proof. -/
theorem publication_survives_iff (services : Services) (workerId bucket : String)
    (hconfigured : services.hasProofStore = true)
    (hjcs : ∀ payload, ∃ json, services.prim.jcs payload = .ok json)
    (hjson : ∀ document, ∃ json, services.toVec document = .ok json) (operations : List Op)
    (hdraws : StateMachine.Meets (Store.step services.prim) Op.DrawsAfterDelay .empty operations)
    (raffleId : RaffleId) (row : RaffleRow)
    (hrow : (Store.after services.prim operations).db.raffles.find (·.id = raffleId) = some row)
    (hpaid : row.status = .paidOut)
    (hnone : ∀ proof ∈ (Store.after services.prim operations).db.proofs.rows,
      proof.raffleId ≠ raffleId)
    (objects : Bucket)
    (habsent : objects.Lacks services.prim raffleId (Store.after services.prim operations).db)
    (job : ClaimedJob) (hjob : job.payload.raffleId = some raffleId) (attempts : List Stopped)
    (last : Attempt)
    (hfresh : ∀ attempt ∈ last :: attempts.map Stopped.attempt,
      ∀ proof ∈ (Store.after services.prim operations).db.proofs.rows,
        proof.id ≠ attempt.choice.id) :
    ((last.run services workerId bucket job (afterStopped services workerId bucket job attempts
        ⟨Store.after services.prim operations, objects⟩)).1 = .ok () ∧
      (last.run services workerId bucket job (afterStopped services workerId bucket job attempts
        ⟨Store.after services.prim operations, objects⟩)).2.store.Published raffleId) ↔
    ∀ stopped ∈ attempts, stopped.requests = 0 := by
  obtain ⟨document, -, -, hgenerates⟩ := (Store.sound_after services.prim operations).generates
    hjcs (Store.heightInv_after hdraws raffleId) hrow hpaid
  have hgenerate : ∀ attempt ∈ last :: attempts.map Stopped.attempt, ∃ db document,
      generateTerminalProof services.prim raffleId attempt.choice.id
        (Store.after services.prim operations).db = .ok (db, document) := by
    intro attempt hmem
    obtain ⟨proofs, hproofs⟩ := insert_proof _ hnone (hfresh attempt hmem) document
    exact ⟨_, _, hgenerates _ _ hproofs⟩
  have hstopped : ∀ stopped ∈ attempts, ∃ db document, generateTerminalProof services.prim raffleId
      stopped.attempt.choice.id (Store.after services.prim operations).db = .ok (db, document) :=
    fun stopped hmem => hgenerate _ (List.mem_cons_of_mem _ (List.mem_map_of_mem hmem))
  rcases retry_cases workerId bucket ⟨Store.after services.prim operations, objects⟩ hjob hstopped with
    ⟨hall, hstate⟩ | ⟨hsome, hproved⟩
  · obtain ⟨db, document, hlast⟩ := hgenerate last (List.mem_cons_self ..)
    rw [hstate]
    exact iff_of_true (run_of_unproved hjob hconfigured hjson hnone hlast (habsent _ _ _ hlast)) hall
  · obtain ⟨error, herror⟩ := run_of_proved services workerId bucket last hjob hproved
    refine iff_of_false (fun h => ?_) hsome
    rw [herror] at h
    cases h.1

namespace PublicationSample

open SampleRun

def job : ClaimedJob where
  id := uuid 26
  kind := .proofGenerate
  deduplicationKey := "proof"
  payload := .raffle raffleId
  attempts := 1
  maxAttempts := 12
  leaseExpiresAt := 0

def attempt (proofId : Uuid) : Attempt where
  choice := WorldSample.choiceAt 5 proofId
  version := ⟨⟨"version", by decide⟩, ⟨"etag", by decide⟩⟩

/-- The paid-out raffle, and an empty bucket. -/
def start : Publishing := ⟨Store.after .standard paidOut, fun _ => none⟩

/-- The proof is inserted but not uploaded. -/
def stopped : List Stopped := [⟨attempt (uuid 27), 1⟩]

end PublicationSample

open PublicationSample SampleRun in
/-- The attempt after one that stopped at once. -/
theorem publication_survives_sample :
    ((attempt (uuid 28)).run WorldSample.services "worker" "bucket" job
        (afterStopped WorldSample.services "worker" "bucket" job [⟨attempt (uuid 27), 0⟩]
          start)).1 = .ok () := by
  obtain ⟨⟨hfound, hnone⟩, hdraws⟩ := paidOut_unproved
  obtain ⟨row, hrow, hpaid⟩ := Option.map_eq_some_iff.mp hfound
  have hempty : ∀ proof, proof ∉ (Store.after .standard paidOut).db.proofs.rows :=
    List.eq_nil_iff_forall_not_mem.mp hnone
  refine ((publication_survives_iff WorldSample.services "worker" "bucket" rfl
    (fun payload => ⟨_, rfl⟩) (fun document => ⟨_, rfl⟩) paidOut hdraws raffleId row hrow hpaid ?_
    (fun _ => none) (fun _ _ _ _ _ _ => rfl) job rfl [⟨attempt (uuid 27), 0⟩] (attempt (uuid 28))
    ?_).mpr ?_).1
  · exact fun proof hmem => absurd hmem (hempty proof)
  · exact fun _ _ proof hmem => absurd hmem (hempty proof)
  · exact fun stopped hmem => by rw [List.mem_singleton.mp hmem]

open PublicationSample SampleRun in
/-- An attempt that stops before the upload leaves a row that the next one cannot insert. -/
theorem publication_lost :
    ¬ (((attempt (uuid 28)).run WorldSample.services "worker" "bucket" job
        (afterStopped WorldSample.services "worker" "bucket" job stopped start)).1 = .ok () ∧
      ((attempt (uuid 28)).run WorldSample.services "worker" "bucket" job
        (afterStopped WorldSample.services "worker" "bucket" job stopped
          start)).2.store.Published raffleId) := by
  obtain ⟨document, proofs, -, hgenerate⟩ := paidOut_generates (uuid 27)
  have hproved : (afterStopped WorldSample.services "worker" "bucket" job stopped
      start).store.Proved raffleId := stopped_of_generates rfl hgenerate
  obtain ⟨error, herror⟩ := run_of_proved WorldSample.services "worker" "bucket"
    (attempt (uuid 28)) (rfl : job.payload.raffleId = some raffleId) hproved
  rintro ⟨hok, -⟩
  rw [herror] at hok
  cases hok

end OpenPool
