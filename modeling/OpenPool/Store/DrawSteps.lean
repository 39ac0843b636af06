import OpenPool.Store.RaffleSteps

/-! # Draws, proofs and payouts, seen from one raffle -/

namespace OpenPool

open Fallible

/-! ## Idempotency keys -/

theorem Uuid.length_toString (uuid : Uuid) : uuid.toString.toList.length = 36 := by
  have hhex : ∀ bytes : List UInt8, (Bytes.toHex bytes).length = 2 * bytes.length := by
    intro bytes
    induction bytes with
    | nil => rfl
    | cons byte bytes ih =>
        simp only [Bytes.toHex, List.flatMap_cons, List.length_append] at ih ⊢
        rw [ih]
        simp only [List.length_cons, List.length_nil]
        omega
  simp [toString, groups, List.intercalate, List.intersperse, hhex]

theorem RecipientType.text_inj {a b : RecipientType} (h : a.text = b.text) : a = b := by
  revert h
  cases a <;> cases b <;> decide

/-- A key names its raffle and its recipient. -/
theorem payoutKey_inj {a b : RaffleId} {x y : RecipientType}
    (h : payoutKey a x = payoutKey b y) : a = b ∧ x = y := by
  simp only [payoutKey, toString, String.append_assoc, String.append_right_inj] at h
  have hlist : a.uuid.toString.toList ++ (":" ++ x.text).toList =
      b.uuid.toString.toList ++ (":" ++ y.text).toList := by
    rw [← String.toList_append, ← String.toList_append, h]
  obtain ⟨huuid, htext⟩ := List.append_inj hlist
    ((Uuid.length_toString a.uuid).trans (Uuid.length_toString b.uuid).symm)
  rw [String.toList_inj, String.append_right_inj] at htext
  obtain ⟨a⟩ := a
  obtain ⟨b⟩ := b
  exact ⟨congrArg RaffleId.mk (Uuid.toString_inj.mp (String.toList_inj.mp huuid)),
    RecipientType.text_inj htext⟩

section Steps

variable {prim : Primitives} {scope : Scope} {db db' : Database} {raffleId : RaffleId}

/-! ## Draws -/

/-- No payout anywhere uses a key of the raffle. -/
def Database.KeysFree (db : Database) (raffleId : RaffleId) : Prop :=
  ∀ row ∈ db.payouts.rows, ∀ recipient, row.idempotencyKey ≠ payoutKey raffleId recipient

theorem insertPayouts_spec {ids : RecipientType → Uuid} {now : ℤ}
    {list : List (RecipientType × UInt64)}
    (h : insertPayouts raffleId ids now db list = .ok db') (hnodup : (list.map Prod.fst).Nodup)
    (hfree : ∀ payout ∈ list, ∀ row ∈ db.payouts.rows,
      row.idempotencyKey ≠ payoutKey raffleId payout.1) :
    ∃ payouts, db' = { db with payouts } ∧ payouts.rows = db.payouts.rows ++
      (list.filter fun payout => 0 < payout.2.toNat).map fun payout =>
        { id := ids payout.1, raffleId, recipientType := payout.1
          idempotencyKey := payoutKey raffleId payout.1, amountSats := payout.2.toNat
          createdAt := now } := by
  induction list generalizing db with
  | nil =>
      cases h
      exact ⟨_, rfl, by simp⟩
  | cons payout list ih =>
      obtain ⟨recipient, amount⟩ := payout
      simp only [List.map_cons, List.nodup_cons] at hnodup
      simp only [insertPayouts] at h
      split at h
      · rename_i hpos
        simp only [bind_eq_ok_iff, sql_eq_ok_iff, asI64_eq_ok_iff] at h
        obtain ⟨_, ⟨rfl, -⟩, ⟨payouts, inserted⟩, hinsert, hrest⟩ := h
        have hrows : payouts.rows = db.payouts.rows ++
            [{ id := ids recipient, raffleId, recipientType := recipient
               idempotencyKey := payoutKey raffleId recipient, amountSats := amount.toNat
               createdAt := now }] := by
          rcases Table.rows_of_insertOrIgnore hinsert with ⟨-, -, other, hmem, hother⟩ | ⟨-, hrows, -⟩
          · exact absurd (of_decide_eq_true hother)
              (hfree (recipient, amount) (List.mem_cons_self ..) other hmem)
          · exact hrows
        obtain ⟨payouts', rfl, hrows'⟩ := ih hrest hnodup.2 (by
          intro later hlater row hrow
          rw [hrows] at hrow
          rcases List.mem_append.mp hrow with hrow | hrow
          · exact hfree later (by simp [hlater]) row hrow
          · rw [List.mem_singleton.mp hrow]
            intro heq
            refine hnodup.1 ?_
            rw [(payoutKey_inj heq).2]
            exact List.mem_map_of_mem hlater)
        refine ⟨payouts', rfl, ?_⟩
        rw [hrows', hrows, List.filter_cons_of_pos (by simpa using hpos)]
        simp
      · rename_i hpos
        obtain ⟨payouts', rfl, hrows'⟩ := ih h hnodup.2 fun later hlater =>
          hfree later (by simp [hlater])
        refine ⟨payouts', rfl, ?_⟩
        rw [hrows', List.filter_cons_of_neg (by simpa using hpos)]

theorem payoutList_nodup (amounts : PayoutAmounts) :
    ((payoutList amounts).map Prod.fst).Nodup := by
  simp [payoutList]

theorem requireHash_eq_ok_iff (value : Option (List UInt8)) (hash : Hash32) :
    requireHash value = .ok hash ↔ value = some hash.val := by
  simp only [requireHash, bind_eq_ok_iff, orElse_eq_ok_iff, hashFromBytes_eq_ok_iff]
  constructor
  · rintro ⟨_, hvalue, rfl⟩
    exact hvalue
  · exact fun hvalue => ⟨_, hvalue, rfl⟩

theorem readSplit_eq_ok_iff (split : PayoutSplit) :
    readSplit raffleId db = .ok split ↔
      ∃ row ∈ (db.view raffleId).split, row.read = .ok split := by
  simp only [readSplit, bind_eq_ok_iff, fetchOne_eq_ok_iff]
  rfl

theorem count_entries (db : Database) (raffleId : RaffleId) :
    db.entries.count (·.raffleId = raffleId) = (db.view raffleId).entries.length :=
  List.countP_eq_length_filter

theorem raffleId_of_mem_payoutRows {payoutIds : RecipientType → Uuid} {now : ℤ}
    {amounts : PayoutAmounts} {row : PayoutRow}
    (h : row ∈ payoutRows raffleId payoutIds now amounts) : row.raffleId = raffleId := by
  obtain ⟨payout, -, rfl⟩ := List.mem_map.mp h
  rfl

theorem createDrawAndPayouts_step {id : RaffleId} {closeHeight randomnessHeight : UInt64}
    {closeHash randomnessHash : Hash32} {ids : DrawIds} {now : ℤ} {result : DrawResult}
    (hfree : (db.view id).payouts = [] → db.KeysFree id)
    (hempty : ∀ row, (db.view id).raffle = some row → row.status = .randomnessPending →
      (db.view id).payouts = [])
    (hscope : scope.drawn = some (id, closeHeight, randomnessHeight))
    (h : createDrawAndPayouts prim id closeHeight closeHash randomnessHeight randomnessHash ids now
      db = .ok (db', result)) :
    RaffleStep prim scope raffleId (db.view raffleId) (db'.view raffleId) := by
  simp only [createDrawAndPayouts, bind_eq_ok_iff, fetchOne_eq_ok_iff, ensure_eq_ok_iff,
    requireHash_eq_ok_iff, asU64_eq_ok_iff, asI64_eq_ok_iff, mapError_eq_ok_iff,
    readSplit_eq_ok_iff, references_eq_ok_iff, sql_eq_ok_iff, execute_eq_ok_iff, pure_eq_ok_iff,
    Prod.mk.injEq] at h
  obtain ⟨raffle, hraffle, -, hstatus, root, hroot, entries, hentries, tickets, htickets, result,
    hresult, split, hsplit, pool, hpool, _, ⟨rfl, -⟩, -, -, draws, hdraws, db₁, hpayouts, db₂, hjob,
    _, ⟨rfl, -⟩, _, ⟨rfl, -⟩, raffles, ⟨returned, hraffles⟩, rfl, -⟩ := h
  obtain ⟨payouts, rfl, hrows⟩ := insertPayouts_spec hpayouts (payoutList_nodup _)
    fun payout _ row hrow => hfree (hempty raffle hraffle hstatus) row hrow payout.1
  obtain ⟨jobs, rfl, hjobs, hother⟩ := insertRaffleJob_spec hjob
  change payouts.rows = db.payouts.rows ++
    payoutRows id ids.payout now (split.allocate ⟨pool⟩) at hrows
  change db.raffles.update _ _ = _ at hraffles
  change RaffleStep prim scope raffleId (db.view raffleId)
    { db.view raffleId with
      raffle := raffles.find _, draw := draws.find _, payouts := payouts.select _
      jobs := jobs.select _ }
  have hselect : payouts.select (·.raffleId = raffleId) = (db.view raffleId).payouts ++
      (payoutRows id ids.payout now (split.allocate ⟨pool⟩)).filter (·.raffleId = raffleId) := by
    rw [Table.select, hrows, List.filter_append]
    rfl
  rw [hselect, Table.find_of_insert hdraws]
  by_cases hid : id = raffleId
  · subst hid
    have hundrawn : (db.view id).draw = none :=
      Table.find_eq_none_iff.mpr fun other hmem => decide_eq_false fun heq =>
        Table.not_clash_of_insert hdraws other hmem (.inr heq)
    have hdraw : db.draws.find (fun row => row.raffleId = id) = none := hundrawn
    have hraffleId : raffle.id = id := view_raffle_id hraffle
    let context : DrawContext := {
      closeHeight, randomnessHeight, randomnessHash, root, split, result
      totalTickets := tickets, totalPoolSats := pool, ledger := entries }
    have hreads : context.Reads prim.sha256 id raffle (db.view id).split (db.view id).entries :=
      ⟨hroot, htickets, hpool, hentries, hsplit, hresult⟩
    have hall : ∀ row ∈ payoutRows id ids.payout now (split.allocate ⟨pool⟩),
        decide (row.raffleId = id) = true :=
      fun row hrow => decide_eq_true (raffleId_of_mem_payoutRows hrow)
    rw [Table.find_updated hraffles (fun _ _ => rfl) hraffle (decide_eq_true hraffleId), hdraw,
      Option.none_or, if_pos (decide_eq_true rfl), List.filter_eq_self.mpr hall]
    exact .draw raffle context closeHash ids now _ hraffle hstatus hreads hundrawn hscope hjobs
  · have hjobs' : jobs.select (JobRow.concerns raffleId) = (db.view raffleId).jobs :=
      hother raffleId hid
    have hnone : ∀ row ∈ payoutRows id ids.payout now (split.allocate ⟨pool⟩),
        ¬ decide (row.raffleId = raffleId) = true := fun row hrow hrowId =>
      hid ((raffleId_of_mem_payoutRows hrow).symm.trans (of_decide_eq_true hrowId))
    rw [Table.find_not_updated hraffles (fun _ _ => rfl) fun other hother => by
        have : other.id = raffleId := view_raffle_id hother
        simp [this, Ne.symm hid],
      if_neg (by simp [hid]), Option.or_none, List.filter_eq_nil_iff.mpr hnone, List.append_nil,
      hjobs']
    exact .stay

/-! ## Proofs -/

theorem generateTerminalProof_step {id : RaffleId} {proofId : Uuid} {document : ProofDocument}
    (h : generateTerminalProof prim id proofId db = .ok (db', document)) :
    RaffleStep prim scope raffleId (db.view raffleId) (db'.view raffleId) := by
  simp only [generateTerminalProof, bind_eq_ok_iff, fetchOne_eq_ok_iff, ensure_eq_ok_iff,
    requireHash_eq_ok_iff, orElse_eq_ok_iff, asU64_eq_ok_iff, mapError_eq_ok_iff,
    readSplit_eq_ok_iff, sql_eq_ok_iff, ProofDocument.create_eq_ok_iff, pure_eq_ok_iff,
    Prod.mk.injEq] at h
  obtain ⟨raffle, hraffle, -, hstatus, entries, hentries, root, hroot, head, hhead, _, hclose,
    closeHeight, rfl, _, hrandomness, randomnessHeight, rfl, randomnessHash, hhash, tickets,
    htickets, result, hresult, split, hsplit, pool, hpool, document, ⟨hpayload, -⟩, -, hverified,
    proofs, hproofs, rfl, -⟩ := h
  change RaffleStep prim scope raffleId (db.view raffleId)
    { db.view raffleId with proofs := proofs.select _ }
  rw [Table.select_of_insert hproofs]
  by_cases hid : id = raffleId
  · subst hid
    let context : DrawContext := {
      closeHeight, randomnessHeight, randomnessHash, root, split, result
      totalTickets := tickets, totalPoolSats := pool, ledger := entries }
    rw [if_pos (decide_eq_true rfl)]
    refine .proof raffle context head document proofId hraffle hstatus
      ⟨hroot, htickets, hpool, hentries, hsplit, hresult⟩ ⟨hclose, hrandomness, hhash⟩ hhead ?_
      hverified
    rw [hpayload, count_entries]
    rfl
  · rw [if_neg (by simp [hid]), List.append_nil]
    exact .stay

theorem recordProofPublication_step {id : RaffleId} {storageUri versionId etag : String} {now : ℤ}
    {u : Unit} (h : recordProofPublication id storageUri versionId etag now db = .ok (db', u)) :
    RaffleStep prim scope raffleId (db.view raffleId) (db'.view raffleId) := by
  simp only [recordProofPublication, bind_eq_ok_iff, sql_eq_ok_iff, pure_eq_ok_iff,
    Prod.mk.injEq] at h
  obtain ⟨⟨proofs, returned⟩, hproofs, -, -, rfl, -⟩ := h
  change RaffleStep prim scope raffleId (db.view raffleId)
    { db.view raffleId with proofs := proofs.select _ }
  rw [Table.select_of_update hproofs fun _ _ => rfl]
  refine .publish _ fun row => ?_
  split <;> rfl

/-! ## Payouts -/

/-- The payout a primary key names is one row. -/
theorem eq_of_payout_id {a b : PayoutRow} (ha : a ∈ db.payouts.rows) (hb : b ∈ db.payouts.rows)
    (hid : a.id = b.id) : a = b :=
  db.payouts.eq_of_clash ha hb (.inl hid)

/-- An update of payouts at rows that are neither settled nor locked elsewhere. -/
theorem payoutChange_of_update {filter : PayoutRow → Bool} {set : PayoutRow → PayoutRow}
    (hterms : ∀ row, (set row).terms = row.terms)
    (hlocked : ∀ row ∈ db.payouts.rows, filter row = true → row.id ∉ scope.locked)
    (hsettled : ∀ row ∈ db.payouts.rows, filter row = true → row.status ≠ .settled)
    (hnew : ∀ row ∈ db.payouts.rows, filter row = true → (set row).status = .settled →
      scope.settled = some row.id) :
    PayoutChange scope (db.view raffleId).payouts fun row => if filter row then set row else row := by
  constructor
  · intro row
    split
    · exact hterms row
    · rfl
  · intro row hrow hmem
    exact if_neg fun hfilter => hlocked row (Table.mem_select.mp hrow).1 hfilter hmem
  · intro row hrow hstatus
    exact if_neg fun hfilter => hsettled row (Table.mem_select.mp hrow).1 hfilter hstatus
  · intro row hrow
    split
    · rename_i hfilter
      exact fun hstatus => .inr (hnew row (Table.mem_select.mp hrow).1 hfilter hstatus)
    · exact .inl

theorem claimPayout_step {id : RaffleId} {workerId : String} {now : ℤ} {choice : ℕ}
    {locked : List Uuid} {result : Option PayoutRow} (hlocked : scope.locked ⊆ locked)
    (h : claimPayout id workerId now choice locked db = .ok (db', result)) :
    RaffleStep prim scope raffleId (db.view raffleId) (db'.view raffleId) := by
  unfold claimPayout at h
  split at h
  · cases h
    exact .stay
  · rename_i candidate hcandidate
    simp only [bind_eq_ok_iff, sql_eq_ok_iff, pure_eq_ok_iff, Prod.mk.injEq] at h
    obtain ⟨⟨payouts, returned⟩, hpayouts, rfl, -⟩ := h
    obtain ⟨hmem, hfilter⟩ := Table.mem_select.mp (firstBy_mem hcandidate)
    obtain ⟨hclaimable, hunlocked⟩ := of_decide_eq_true hfilter
    have hstatus := (of_decide_eq_true hclaimable).2
    have hcandidate : ∀ row ∈ db.payouts.rows, decide (row.id = candidate.id) = true →
        row = candidate :=
      fun row hrow hid => eq_of_payout_id hrow hmem (of_decide_eq_true hid)
    change RaffleStep prim scope raffleId (db.view raffleId)
      { db.view raffleId with payouts := payouts.select _ }
    rw [Table.select_of_update hpayouts fun _ _ => rfl]
    refine .changePayouts _ (payoutChange_of_update (fun _ => rfl) ?_ ?_ ?_)
    · exact fun row hrow hid => hcandidate row hrow hid ▸ fun hmem => hunlocked (hlocked hmem)
    · intro row hrow hid hsettled
      rw [hcandidate row hrow hid] at hsettled
      simp [hsettled] at hstatus
    · intro row _ _ hsettled
      cases hsettled

theorem heldBy_iff {row : PayoutRow} {payoutId : Uuid} {workerId : String} :
    row.heldBy payoutId workerId = true ↔
      row.id = payoutId ∧ row.status = .processing ∧ row.leaseOwner = some workerId :=
  decide_eq_true_iff

theorem failPayout_step {payoutId : Uuid} {workerId reason : String} {u : Unit}
    (hunlocked : payoutId ∉ scope.locked)
    (h : failPayout payoutId workerId reason db = .ok (db', u)) :
    RaffleStep prim scope raffleId (db.view raffleId) (db'.view raffleId) := by
  simp only [failPayout, bind_eq_ok_iff, execute_eq_ok_iff, pure_eq_ok_iff, Prod.mk.injEq] at h
  obtain ⟨payouts, ⟨returned, hpayouts⟩, rfl, -⟩ := h
  change RaffleStep prim scope raffleId (db.view raffleId)
    { db.view raffleId with payouts := payouts.select _ }
  rw [Table.select_of_update hpayouts fun _ _ => rfl]
  refine .changePayouts _ (payoutChange_of_update (fun _ => rfl) ?_ ?_ ?_)
  · exact fun row _ hheld => (heldBy_iff.mp hheld).1 ▸ hunlocked
  · intro row _ hheld hsettled
    cases hsettled.symm.trans (heldBy_iff.mp hheld).2.1
  · intro row _ _ hsettled
    cases hsettled

/-! ## Settling -/

/-- A transaction that counted no unsettled payout. -/
def SettleStage.closes : SettleStage → Bool
  | .updated => false
  | .counted remaining => remaining = 0
  | .paidOut => true
  | .enqueued _ _ => true

/-- What an open transaction knows about the committed database. -/
structure SettleTransaction.Sound (db : Database) (transaction : SettleTransaction) : Prop where
  held : ∃ row ∈ db.payouts.rows, row.heldBy transaction.payoutId transaction.workerId = true ∧
    row.raffleId = transaction.raffleId
  last : transaction.stage.closes = true → ∀ row ∈ (db.view transaction.raffleId).payouts,
    row.id = transaction.payoutId ∨ row.status = .settled

theorem commit_step {transaction : SettleTransaction} {paidOut : Bool}
    (hsound : transaction.Sound db) (hunlocked : transaction.payoutId ∉ scope.locked)
    (hscope : scope.settled = some transaction.payoutId)
    (h : transaction.commit db = .ok (db', paidOut)) :
    RaffleStep prim scope raffleId (db.view raffleId) (db'.view raffleId) := by
  simp only [SettleTransaction.commit, bind_eq_ok_iff, execute_eq_ok_iff] at h
  obtain ⟨payouts, ⟨returned, hpayouts⟩, h⟩ := h
  have hchange : PayoutChange scope (db.view raffleId).payouts fun row =>
      if row.heldBy transaction.payoutId transaction.workerId then
        row.settledWith transaction.providerReference else row := by
    refine payoutChange_of_update (fun _ => rfl) ?_ ?_ ?_
    · exact fun row _ hheld => (heldBy_iff.mp hheld).1 ▸ hunlocked
    · intro row _ hheld hsettled
      cases hsettled.symm.trans (heldBy_iff.mp hheld).2.1
    · exact fun row _ hheld _ => (heldBy_iff.mp hheld).1 ▸ hscope
  have hselect : payouts.select (·.raffleId = raffleId) = (db.view raffleId).payouts.map fun row =>
      if row.heldBy transaction.payoutId transaction.workerId then
        row.settledWith transaction.providerReference else row :=
    Table.select_of_update hpayouts fun _ _ => rfl
  cases hstage : transaction.stage with
  | enqueued jobId now =>
      simp only [hstage, SettleStage.finish, markPaidOut, bind_eq_ok_iff, execute_eq_ok_iff,
        pure_eq_ok_iff, Prod.mk.injEq] at h
      obtain ⟨_, ⟨raffles, ⟨returned', hraffles⟩, rfl⟩, _, hjob, rfl, -⟩ := h
      obtain ⟨jobs, rfl, hjobs, hother⟩ := insertRaffleJob_spec hjob
      change RaffleStep prim scope raffleId (db.view raffleId)
        { db.view raffleId with
          raffle := raffles.find _, payouts := payouts.select _, jobs := jobs.select _ }
      rw [hselect]
      by_cases hid : transaction.raffleId = raffleId
      · subst hid
        have hraffle : raffles.find (·.id = transaction.raffleId) =
            (db.view transaction.raffleId).raffle.map fun row =>
              if row.status = .payoutPending then { row with status := .paidOut } else row := by
          rw [Table.find_of_update hraffles fun _ _ => rfl]
          refine Option.map_congr fun row hrow => ?_
          simp [view_raffle_id hrow]
        rw [hraffle]
        refine .payOut _ _ hchange (fun row hrow => ?_) hjobs
        obtain ⟨held, hmem, hheld, -⟩ := hsound.held
        rcases hsound.last (by rw [hstage]; rfl) row hrow with hid | hsettled
        · obtain rfl : row = held := eq_of_payout_id (Table.mem_select.mp hrow).1 hmem
            (hid.trans (heldBy_iff.mp hheld).1.symm)
          rw [if_pos hheld]
          rfl
        · rw [hchange.settled row hrow hsettled]
          exact hsettled
      · rw [Table.find_not_updated hraffles (fun _ _ => rfl) fun other hother => by
            have : other.id = raffleId := view_raffle_id hother
            simp [this, Ne.symm hid],
          hother raffleId hid]
        exact .changePayouts _ hchange
  | updated | counted | paidOut =>
      simp only [hstage, SettleStage.finish, Except.ok.injEq, Prod.mk.injEq] at h
      obtain ⟨rfl, -⟩ := h
      change RaffleStep prim scope raffleId (db.view raffleId)
        { db.view raffleId with payouts := payouts.select _ }
      rw [hselect]
      exact .changePayouts _ hchange

end Steps

end OpenPool
