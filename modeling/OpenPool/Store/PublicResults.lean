import OpenPool.Store.Publication

/-! # Public results and proofs

The page of a result puts together what four queries saw at four times. What it shows is
consistent all the same, and stays true. -/

namespace OpenPool

open Fallible

/-! ## What stays -/

section Steps

variable {prim : Primitives} {scope : Scope} {raffleId : RaffleId} {view view' : RaffleView}
  {store : Store}

/-- A raffle that is paid out stays paid out. -/
theorem RaffleStep.paidOut_kept (hstep : RaffleStep prim scope raffleId view view')
    (h : ∃ row, view.raffle = some row ∧ row.status = .paidOut) :
    ∃ row, view'.raffle = some row ∧ row.status = .paidOut := by
  obtain ⟨row, hrow, hstatus⟩ := h
  -- a paid-out raffle shows no row with another status
  have hother : ∀ other, view.raffle = some other → other.status ≠ .paidOut → False :=
    fun other hview hne => hne (Option.some.inj (hview.symm.trans hrow) ▸ hstatus)
  cases hstep with
  | create other split habsent => cases habsent.symm.trans hrow
  | edit other _ _ _ _ _ _ hview hedit =>
      exact (hother other hview (by rcases hedit with hedit | hedit <;> rw [hedit] <;> nofun)).elim
  | move other status hview hmove =>
      refine (hother other hview fun hpaid => ?_).elim
      rw [hpaid] at hmove
      rcases of_decide_eq_true hmove with ⟨hfrom, -⟩ | ⟨hfrom, -⟩ | ⟨hfrom, -⟩
      · cases hfrom
      · cases hfrom
      · rcases hfrom with hfrom | hfrom | hfrom <;> cases hfrom
  | settle other _ _ _ _ hview hopen | close other _ hview hopen =>
      exact (hother other hview (by rw [hopen]; nofun)).elim
  | freeze other _ _ _ hview hclosing => exact (hother other hview (by rw [hclosing]; nofun)).elim
  | draw other _ _ _ _ _ hview hpending =>
      exact (hother other hview (by rw [hpending]; nofun)).elim
  | payOut =>
      refine ⟨_, by rw [hrow]; rfl, ?_⟩
      beta_reduce
      split
      · rfl
      · exact hstatus
  | stay | pendingInvoice | collectionInvoice | changeInvoices | late | refund | proof | publish
  | changePayouts | changeJobs => exact ⟨row, hrow, hstatus⟩

/-- What every step keeps of a raffle, every run keeps. -/
theorem Store.Sound.view_run (hsound : store.Sound prim) {P : RaffleView → Prop}
    (hkept : ∀ {scope view view'}, RaffleStep prim scope raffleId view view' → P view → P view')
    (operations : List Op) (h : P (store.db.view raffleId)) :
    P ((StateMachine.run (Store.step prim) store operations).db.view raffleId) := by
  have hstep : ∀ (store : Store) (op : Op), (store.Sound prim ∧ P (store.db.view raffleId)) →
      (store.step prim op).Sound prim ∧ P ((store.step prim op).db.view raffleId) :=
    fun store op ⟨hsound, h⟩ => ⟨hsound.step op, hkept (store.step_raffleStep hsound op) h⟩
  exact (StateMachine.invariant hstep ⟨hsound, h⟩ operations).2

theorem Store.Sound.run (hsound : store.Sound prim) (operations : List Op) :
    (StateMachine.run (Store.step prim) store operations).Sound prim :=
  StateMachine.invariant (fun store op (h : store.Sound prim) => h.step op) hsound operations

end Steps

/-! ## Draws and payouts -/

section Queries

variable {prim : Primitives} {store : Store} {raffleId : RaffleId}

/-- A stored draw has a ticket that can be shown. -/
theorem Store.Sound.drawnTicket_of_draw (hsound : store.Sound prim) {drawRow : DrawRow}
    (hdraw : (store.db.view raffleId).draw = some drawRow) :
    ∃ ticket, drawnTicket raffleId store.db = .ok (some ticket) ∧
      drawRow.winningTicket = ticket.toNat := by
  cases hrow : store.db.raffles.find (·.id = raffleId) with
  | none => cases ((hsound.draw raffleId).absent hrow).1.symm.trans hdraw
  | some row =>
      have hstate := hsound.drawState hrow
      cases hdrawn : row.status.drawn with
      | false => cases (hstate.undrawn hdrawn).1.symm.trans hdraw
      | true =>
          obtain ⟨context, hexecuted⟩ := hstate.executed hdrawn
          obtain ⟨id, hcontext⟩ := hexecuted.draw
          obtain rfl := Option.some.inj (hdraw.symm.trans hcontext)
          refine ⟨context.result.winningTicket, ?_, rfl⟩
          rw [drawnTicket, mapM_asU64_eq_ok_iff]
          exact congrArg (Option.map DrawRow.winningTicket) hdraw

theorem drawnTicket_eq_ok_some_iff {db : Database} {ticket : UInt64} :
    drawnTicket raffleId db = .ok (some ticket) ↔
      ∃ drawRow, (db.view raffleId).draw = some drawRow ∧
        drawRow.winningTicket = ticket.toNat := by
  rw [drawnTicket, mapM_asU64_eq_ok_iff, Option.map_some, Option.map_eq_some_iff]
  exact Iff.rfl

theorem raffleStatus_eq_ok_iff {db : Database} {status : RaffleStatus} :
    raffleStatus raffleId db = .ok status ↔
      ∃ row, (db.view raffleId).raffle = some row ∧ row.status = status := by
  simp only [raffleStatus, bind_eq_ok_iff, orElse_eq_ok_iff, pure_eq_ok_iff]
  exact Iff.rfl

/-- The payouts that are shown are those of the raffle. -/
theorem mem_payoutStatuses {db : Database} {status : PayoutStatus} :
    status ∈ payoutStatuses raffleId db ↔
      ∃ payout ∈ (db.view raffleId).payouts, payout.status = status := by
  simp only [payoutStatuses, List.mem_map, (List.perm_insertionSort _ _).mem_iff]
  exact Iff.rfl

/-- A paid-out raffle has payouts, and all are settled. -/
theorem Store.Sound.payouts_paidOut (hsound : store.Sound prim) {row : RaffleRow}
    (hrow : (store.db.view raffleId).raffle = some row) (hstatus : row.status = .paidOut) :
    payoutStatuses raffleId store.db ≠ [] ∧
      ∀ status ∈ payoutStatuses raffleId store.db, status = .settled := by
  have hstate := hsound.drawState hrow
  refine ⟨fun hnil => ?_, fun status hmem => ?_⟩
  · obtain ⟨context, hexecuted⟩ := hstate.executed (by rw [hstatus]; rfl)
    obtain ⟨payoutIds, now, hterms⟩ := hexecuted.payouts
    obtain ⟨hfrozen, -⟩ := hsound.tracks hrow
    have hpool := hsound.pool_pos hrow (hfrozen.frozen (.inr (by rw [hstatus]; rfl))).2
    have hcontext := hexecuted.reads.totalPoolSats
    have hne : payoutRows raffleId payoutIds now context.amounts ≠ [] :=
      payoutRows_ne_nil hexecuted.reads.allocated.2 (by
        change 0 < context.totalPoolSats.toNat
        omega)
    refine hne (List.map_eq_nil_iff.mp (hterms.symm.trans ?_))
    rw [List.map_eq_nil_iff]
    have hlength := congrArg List.length hnil
    rw [payoutStatuses, List.length_map, List.length_insertionSort] at hlength
    exact List.length_eq_zero_iff.mp hlength
  · obtain ⟨payout, hpayout, rfl⟩ := mem_payoutStatuses.mp hmem
    exact (hstate.paid hstatus).1 payout hpayout

/-- A proof belongs to a raffle that is paid out. -/
theorem Store.Sound.paidOut_of_proof (hsound : store.Sound prim) {proof : ProofRow}
    (hmem : proof ∈ (store.db.view raffleId).proofs) :
    ∃ row, (store.db.view raffleId).raffle = some row ∧ row.status = .paidOut := by
  cases hrow : store.db.raffles.find (·.id = raffleId) with
  | none =>
      rw [((hsound.draw raffleId).absent hrow).2.2] at hmem
      cases hmem
  | some row =>
      refine ⟨row, hrow, ?_⟩
      by_contra hstatus
      rw [(hsound.drawState hrow).unproved hstatus] at hmem
      cases hmem

end Queries

/-! ## The page of a result -/

/-- Four queries of a result that see four stores, each of them later than the one before. -/
theorem Store.Sound.page_consistent {prim : Primitives} {first second third fourth : Store}
    (hsound : first.Sound prim) {toSecond toThird toFourth : List Op}
    (hsecond : second = StateMachine.run (Store.step prim) first toSecond)
    (hthird : third = StateMachine.run (Store.step prim) second toThird)
    (hfourth : fourth = StateMachine.run (Store.step prim) third toFourth)
    {raffleId : RaffleId} {result : PublicResult}
    (h : publicResult raffleId first.db second.db third.db fourth.db = .ok result) :
    (result.status.drawn = true → result.winningTicket ≠ none) ∧
    (∀ ticket, result.winningTicket = some ticket → ∀ later, drawnTicket raffleId
      (StateMachine.run (Store.step prim) second later).db = .ok (some ticket)) ∧
    (result.status = .paidOut → result.payoutStatuses ≠ [] ∧
      ∀ status ∈ result.payoutStatuses, status = .settled) ∧
    (result.proofAvailable = true → ∀ later, raffleStatus raffleId
      (StateMachine.run (Store.step prim) fourth later).db = .ok .paidOut) := by
  simp only [publicResult, bind_eq_ok_iff, pure_eq_ok_iff] at h
  obtain ⟨status, hstatus, winner, hwinner, rfl⟩ := h
  have hsecondSound : second.Sound prim := hsecond ▸ hsound.run toSecond
  have hthirdSound : third.Sound prim := hthird ▸ hsecondSound.run toThird
  have hfourthSound : fourth.Sound prim := hfourth ▸ hthirdSound.run toFourth
  obtain ⟨row, hrow, rfl⟩ := raffleStatus_eq_ok_iff.mp hstatus
  refine ⟨fun hdrawn => ?_, fun ticket hticket later => ?_, fun hpaid => ?_,
    fun hproof later => ?_⟩
  · have hlater : (second.db.view raffleId).IsDrawn := by
      rw [hsecond]
      exact hsound.view_run RaffleStep.isDrawn toSecond ⟨row, hrow, hdrawn⟩
    obtain ⟨row', hrow', hdrawn'⟩ := hlater
    obtain ⟨context, hexecuted⟩ := (hsecondSound.drawState hrow').executed hdrawn'
    obtain ⟨id, hdraw⟩ := hexecuted.draw
    obtain ⟨ticket, hticket, -⟩ := hsecondSound.drawnTicket_of_draw hdraw
    rw [hticket] at hwinner
    exact Except.ok.inj hwinner ▸ Option.some_ne_none ticket
  · obtain rfl : winner = some ticket := hticket
    obtain ⟨drawRow, hdraw, hwinning⟩ := drawnTicket_eq_ok_some_iff.mp hwinner
    rw [drawnTicket_eq_ok_some_iff]
    exact ⟨drawRow, Store.draw_kept hsecondSound hdraw later, hwinning⟩
  · have hpaidOut : ∃ row, (third.db.view raffleId).raffle = some row ∧ row.status = .paidOut := by
      rw [hthird]
      refine hsecondSound.view_run
        (P := fun view => ∃ row, view.raffle = some row ∧ row.status = .paidOut)
        RaffleStep.paidOut_kept toThird ?_
      rw [hsecond]
      exact hsound.view_run
        (P := fun view => ∃ row, view.raffle = some row ∧ row.status = .paidOut)
        RaffleStep.paidOut_kept toSecond ⟨row, hrow, hpaid⟩
    obtain ⟨row', hrow', hpaid'⟩ := hpaidOut
    exact hthirdSound.payouts_paidOut hrow' hpaid'
  · obtain ⟨proof, hproofMem, hmatch⟩ := List.any_eq_true.mp hproof
    have hview : proof ∈ (fourth.db.view raffleId).proofs :=
      Table.mem_select.mpr ⟨hproofMem, decide_eq_true (of_decide_eq_true hmatch).1⟩
    rw [raffleStatus_eq_ok_iff]
    exact hfourthSound.view_run
      (P := fun view => ∃ row, view.raffle = some row ∧ row.status = .paidOut)
      RaffleStep.paidOut_kept later (hfourthSound.paidOut_of_proof hview)

/-- The four queries of a result see four states of a run. A drawn raffle shows its ticket, which is
the same in all later states; a paid-out raffle shows payouts that are all settled; and where a proof
is announced, the raffle is paid out from then on. -/
theorem public_result_consistent (prim : Primitives) (first second third fourth later : List Op)
    (raffleId : RaffleId) (result : PublicResult)
    (h : publicResult raffleId (Store.after prim first).db (Store.after prim (first ++ second)).db
      (Store.after prim (first ++ second ++ third)).db
      (Store.after prim (first ++ second ++ third ++ fourth)).db = .ok result) :
    (result.status.drawn = true → result.winningTicket ≠ none) ∧
    (∀ ticket, result.winningTicket = some ticket →
      drawnTicket raffleId (Store.after prim (first ++ second ++ later)).db = .ok (some ticket)) ∧
    (result.status = .paidOut → result.payoutStatuses ≠ [] ∧
      ∀ status ∈ result.payoutStatuses, status = .settled) ∧
    (result.proofAvailable = true → raffleStatus raffleId
      (Store.after prim (first ++ second ++ third ++ fourth ++ later)).db = .ok .paidOut) := by
  obtain ⟨hdrawn, hticket, hpaid, hproof⟩ := (Store.sound_after prim first).page_consistent
    (Store.after_append prim first second) (Store.after_append prim _ third)
    (Store.after_append prim _ fourth) h
  refine ⟨hdrawn, fun ticket hwinner => ?_, hpaid, fun havailable => ?_⟩
  · rw [Store.after_append]
    exact hticket ticket hwinner later
  · rw [Store.after_append]
    exact hproof havailable later

theorem public_result_consistent_for_sample : ∃ result,
    publicResult SampleRun.raffleId (Store.after .standard SampleRun.drawn).db
      (Store.after .standard SampleRun.paidOut).db (Store.after .standard SampleRun.paidOut).db
      (Store.after .standard SampleRun.paidOut).db = .ok result ∧
    result.status = .payoutPending ∧ result.winningTicket ≠ none := by
  obtain ⟨result, hresult⟩ : ∃ result,
      publicResult SampleRun.raffleId (Store.after .standard SampleRun.drawn).db
        (Store.after .standard SampleRun.paidOut).db (Store.after .standard SampleRun.paidOut).db
        (Store.after .standard SampleRun.paidOut).db = .ok result :=
    exists_of_isOk (by decide +kernel)
  have hstatus : raffleStatus SampleRun.raffleId (Store.after .standard SampleRun.drawn).db =
      .ok .payoutPending := by
    decide +kernel
  have hstatus : result.status = .payoutPending := by
    simp only [publicResult, hstatus, ok_bind, bind_eq_ok_iff, pure_eq_ok_iff] at hresult
    obtain ⟨winner, -, rfl⟩ := hresult
    rfl
  refine ⟨result, hresult, hstatus, ?_⟩
  exact (public_result_consistent .standard SampleRun.drawn (SampleRun.pay (SampleRun.uuid 21) ++
    SampleRun.pay (SampleRun.uuid 22) ++ SampleRun.pay (SampleRun.uuid 23)) [] [] []
    SampleRun.raffleId result hresult).1 (by rw [hstatus]; rfl)

/-! ## The page of a proof -/

section Proofs

variable {prim : Primitives} {store : Store} {raffleId : RaffleId} {db : Database}

theorem findProof_eq_ok_iff {proof : ProofRow} :
    findProof raffleId db = .ok proof ↔ proof ∈ db.proofs.rows ∧ proof.raffleId = raffleId ∧
      proof.protocolVersion = protocolVersion := by
  simp only [findProof, orElse_eq_ok_iff]
  constructor
  · intro h
    obtain ⟨hmem, hmatch⟩ := Table.mem_of_find h
    exact ⟨hmem, of_decide_eq_true hmatch⟩
  · rintro ⟨hmem, hmatch⟩
    refine Table.find_eq_some hmem (decide_eq_true hmatch) fun a b ha hb => .inr ?_
    exact ⟨(of_decide_eq_true ha).1.trans (of_decide_eq_true hb).1.symm,
      (of_decide_eq_true ha).2.trans (of_decide_eq_true hb).2.symm⟩

/-- The metadata of a proof. -/
def ProofRow.metadata (row : ProofRow) (proofHash : Hash32) : PublicProofMetadata where
  raffleId := row.raffleId.uuid
  proofHash := Hash32.toHex proofHash
  storageUri := row.storageUri
  storageVersionId := row.storageVersionId
  storageEtag := row.storageEtag
  publishedAt := row.publishedAt.map ofTimestamp

theorem publicProofMetadata_of_find {proof : ProofRow} (hfind : findProof raffleId db = .ok proof)
    {proofHash : Hash32} (hhash : proof.proofHash = proofHash.val) :
    publicProofMetadata raffleId db = .ok (proof.metadata proofHash) := by
  rw [publicProofMetadata, hfind, ok_bind, (hashFromBytes_eq_ok_iff _ _).mpr hhash, ok_bind,
    ← (findProof_eq_ok_iff.mp hfind).2.1]
  rfl

/-- The proof of a raffle is verified, and it tells the draw that is stored. -/
theorem Store.Sound.proof_of_raffle (hsound : store.Sound prim) {proof : ProofRow}
    (hfind : findProof raffleId store.db = .ok proof) :
    (verify prim proof.proofJson).isVerified = true ∧
      proof.proofJson.payload.raffleId = raffleId ∧
      drawnTicket raffleId store.db = .ok (some proof.proofJson.payload.draw.winningTicket) := by
  obtain ⟨hmem, hid, -⟩ := findProof_eq_ok_iff.mp hfind
  have hview : proof ∈ (store.db.view raffleId).proofs :=
    Table.mem_select.mpr ⟨hmem, decide_eq_true hid⟩
  obtain ⟨row, hrow, hstatus⟩ := hsound.paidOut_of_proof hview
  have hstate := hsound.drawState hrow
  obtain ⟨context, hproved⟩ := hstate.proved proof hview
  obtain ⟨executed, hexecuted⟩ := hstate.executed (by rw [hstatus]; rfl)
  obtain rfl := DrawContext.unique hexecuted.reads hexecuted.stored hproved.reads hproved.stored
  obtain ⟨head, -, hpayload⟩ := hproved.payload
  obtain ⟨id, hdraw⟩ := hexecuted.draw
  refine ⟨hproved.verified, by rw [hpayload]; rfl, ?_⟩
  rw [drawnTicket_eq_ok_some_iff, hpayload]
  exact ⟨_, hdraw, rfl⟩

end Proofs

/-- A proof that is public verifies, tells the draw that the result shows, and is the same in every
later state. So is its metadata, as soon as it says where the proof was published. -/
theorem public_proof_stable (prim : Primitives) (front back : List Op) (raffleId : RaffleId)
    (document : ProofDocument)
    (h : publicProof raffleId (Store.after prim front).db = .ok document) :
    (verify prim document).isVerified = true ∧ document.payload.raffleId = raffleId ∧
    drawnTicket raffleId (Store.after prim front).db =
      .ok (some document.payload.draw.winningTicket) ∧
    publicProof raffleId (Store.after prim (front ++ back)).db = .ok document ∧
    ∃ metadata later, publicProofMetadata raffleId (Store.after prim front).db = .ok metadata ∧
      publicProofMetadata raffleId (Store.after prim (front ++ back)).db = .ok later ∧
      Hash32.fromHex metadata.proofHash = .ok document.proofHash ∧
      later.proofHash = metadata.proofHash ∧
      (metadata.storageUri ≠ none → later = metadata) := by
  simp only [publicProof, bind_eq_ok_iff, pure_eq_ok_iff] at h
  obtain ⟨proof, hfind, rfl⟩ := h
  obtain ⟨hverified, hraffle, hticket⟩ :=
    (Store.sound_after prim front).proof_of_raffle hfind
  obtain ⟨hmem, hid, hversion⟩ := findProof_eq_ok_iff.mp hfind
  obtain ⟨proof', hmem', hlater⟩ := Store.proof_later_run prim (Store.after prim front) back hmem
  rw [← Store.after_append] at hmem'
  have hfind' : findProof raffleId (Store.after prim (front ++ back)).db = .ok proof' :=
    findProof_eq_ok_iff.mpr ⟨hmem', hlater.raffleId.trans hid, hlater.protocolVersion.trans hversion⟩
  have hhash := Store.proofsHashed_after prim front proof hmem
  have hhash' := hlater.proofHash.trans hhash
  refine ⟨hverified, hraffle, hticket, ?_, proof.metadata proof.proofJson.proofHash,
    proof'.metadata proof.proofJson.proofHash, publicProofMetadata_of_find hfind hhash,
    publicProofMetadata_of_find hfind' hhash', Hash32.fromHex_toHex _, rfl, fun hpublished => ?_⟩
  · rw [publicProof, hfind', ok_bind, hlater.proofJson]
    rfl
  · rw [hlater.published hpublished]

theorem public_proof_stable_for_sample : ∃ document,
    publicProof SampleRun.raffleId (Store.after .standard SampleRun.proved).db = .ok document ∧
      (verify .standard document).isVerified = true := by
  obtain ⟨document, proofs, hrows, hgenerate⟩ := SampleRun.paidOut_generates (SampleRun.uuid 27)
  have hafter : Store.after .standard SampleRun.proved =
      (Store.after .standard SampleRun.paidOut).exec
        (generateTerminalProof .standard SampleRun.raffleId (SampleRun.uuid 27)) :=
    StateMachine.run_concat _ _ _
  have hproofs : (Store.after .standard SampleRun.proved).db.proofs = proofs := by
    rw [hafter, Store.exec, hgenerate]
    rfl
  have hpublic : publicProof SampleRun.raffleId (Store.after .standard SampleRun.proved).db =
      .ok document := by
    have hfind : findProof SampleRun.raffleId (Store.after .standard SampleRun.proved).db =
        .ok ⟨SampleRun.uuid 27, SampleRun.raffleId, protocolVersion, document, document.proofHash,
          none, none, none, none⟩ := by
      rw [findProof_eq_ok_iff, hproofs, hrows]
      exact ⟨List.mem_singleton_self _, rfl, rfl⟩
    rw [publicProof, hfind]
    rfl
  exact ⟨document, hpublic, (public_proof_stable .standard SampleRun.proved [] SampleRun.raffleId
    document hpublic).1⟩

end OpenPool
