import OpenPool.Store.LedgerInvariant

/-! # The draw of a raffle

Between the draw and the proof nothing that the draw was computed from changes: the stored
draw, the payouts and the proofs all belong to one context that the rows still hold. -/

namespace OpenPool

/-- The stored draw and the payouts are those of the context. -/
structure DrawContext.Executed (sha256 : List UInt8 → Hash32) (raffleId : RaffleId)
    (row : RaffleRow) (split : Option PayoutSplitRow) (entries : List EntryRow)
    (draw : Option DrawRow) (payouts : List PayoutTerms) (context : DrawContext) : Prop where
  reads : context.Reads sha256 raffleId row split entries
  stored : context.Stored row
  draw : ∃ id, draw = some (context.row raffleId id)
  payouts : ∃ payoutIds now, payouts =
    (payoutRows raffleId payoutIds now context.amounts).map PayoutRow.terms

/-- The proof is the one of the context. -/
structure DrawContext.Proved (prim : Primitives) (raffleId : RaffleId) (row : RaffleRow)
    (split : Option PayoutSplitRow) (entries : List EntryRow) (document : ProofDocument)
    (context : DrawContext) : Prop where
  reads : context.Reads prim.sha256 raffleId row split entries
  stored : context.Stored row
  payload : ∃ head, row.chainHead = .ok head ∧
    document.payload = context.payload raffleId entries.length head
  verified : (verify prim document).isVerified = true

/-- The rows determine the context. -/
theorem DrawContext.unique {sha256 : List UInt8 → Hash32} {raffleId : RaffleId} {row : RaffleRow}
    {split : Option PayoutSplitRow} {entries : List EntryRow} {a b : DrawContext}
    (ha : a.Reads sha256 raffleId row split entries) (ha' : a.Stored row)
    (hb : b.Reads sha256 raffleId row split entries) (hb' : b.Stored row) : a = b := by
  have hclose : a.closeHeight = b.closeHeight := by
    have := Option.some.inj (ha'.closeHeight.symm.trans hb'.closeHeight)
    exact UInt64.toNat_inj.mp (by exact_mod_cast this)
  have hrandomness : a.randomnessHeight = b.randomnessHeight := by
    have := Option.some.inj (ha'.randomnessHeight.symm.trans hb'.randomnessHeight)
    exact UInt64.toNat_inj.mp (by exact_mod_cast this)
  have hhash : a.randomnessHash = b.randomnessHash :=
    Subtype.ext (Option.some.inj (ha'.randomnessHash.symm.trans hb'.randomnessHash))
  have hroot : a.root = b.root := Subtype.ext (Option.some.inj (ha.root.symm.trans hb.root))
  have htickets : a.totalTickets = b.totalTickets :=
    UInt64.toNat_inj.mp (by exact_mod_cast ha.totalTickets.symm.trans hb.totalTickets)
  have hpool : a.totalPoolSats = b.totalPoolSats :=
    UInt64.toNat_inj.mp (by exact_mod_cast ha.totalPoolSats.symm.trans hb.totalPoolSats)
  have hledger : a.ledger = b.ledger := Except.ok.inj (ha.ledger.symm.trans hb.ledger)
  have hsplit : a.split = b.split := by
    obtain ⟨row, hrow, hread⟩ := ha.split
    obtain ⟨row', hrow', hread'⟩ := hb.split
    obtain rfl : row = row' := Option.some.inj (hrow.symm.trans hrow')
    exact Except.ok.inj (hread.symm.trans hread')
  have hresult : a.result = b.result := by
    have hinput : a.input raffleId = b.input raffleId := by
      simp only [DrawContext.input, hclose, hrandomness, hhash, hroot, htickets]
    have := ha.result
    rw [hinput, hledger] at this
    exact Except.ok.inj (this.symm.trans hb.result)
  obtain ⟨⟩ := a
  obtain ⟨⟩ := b
  simp only [DrawContext.mk.injEq] at *
  exact ⟨hclose, hrandomness, hhash, hroot, htickets, hpool, hledger, hsplit, hresult⟩

/-- What holds of the draw, the payouts and the proofs of a raffle in each status. -/
structure DrawState (prim : Primitives) (raffleId : RaffleId) (row : RaffleRow)
    (split : Option PayoutSplitRow) (entries : List EntryRow) (draw : Option DrawRow)
    (payouts : List PayoutRow) (proofs : List ProofRow) (jobs : List JobRow) : Prop where
  hasSplit : split ≠ none
  undrawn : row.status.drawn = false →
    draw = none ∧ payouts = [] ∧ row.closeBlockHeight = none
  executed : row.status.drawn = true → ∃ context : DrawContext,
    context.Executed prim.sha256 raffleId row split entries draw (payouts.map PayoutRow.terms)
  paid : row.status = .paidOut →
    (∀ payout ∈ payouts, payout.status = .settled) ∧ ∃ job ∈ jobs, job.kind = .proofGenerate
  unproved : row.status ≠ .paidOut → proofs = []
  proved : ∀ proof ∈ proofs, ∃ context : DrawContext,
    context.Proved prim raffleId row split entries proof.proofJson

def DrawInv (prim : Primitives) (raffleId : RaffleId) (view : RaffleView) : Prop :=
  match view.raffle with
  | none => view.draw = none ∧ view.payouts = [] ∧ view.proofs = []
  | some row => DrawState prim raffleId row view.split view.entries view.draw view.payouts
      view.proofs view.jobs

section Steps

variable {prim : Primitives} {scope : Scope} {raffleId : RaffleId} {view view' : RaffleView}
  {row : RaffleRow} {split : Option PayoutSplitRow} {entries entries' : List EntryRow}
  {draw : Option DrawRow} {payouts : List PayoutRow} {proofs : List ProofRow}
  {jobs jobs' : List JobRow}

theorem PayoutChange.map_terms {change : PayoutRow → PayoutRow}
    (h : PayoutChange scope payouts change) (rows : List PayoutRow) :
    (rows.map change).map PayoutRow.terms = rows.map PayoutRow.terms := by
  rw [List.map_map]
  exact List.map_congr_left fun row _ => h.terms row

theorem JobsGrow.mem {kind : JobKind} (h : JobsGrow raffleId kind jobs jobs') :
    ∃ job ∈ jobs', job.kind = kind := by
  rcases h with ⟨rfl, hjob⟩ | ⟨job, hnew, rfl⟩
  · exact hjob
  · exact ⟨job, by simp, hnew.kind⟩

/-- A raffle that is not there has no draw, payouts or proofs. -/
theorem DrawInv.absent (h : DrawInv prim raffleId view) (hrow : view.raffle = none) :
    view.draw = none ∧ view.payouts = [] ∧ view.proofs = [] := by
  unfold DrawInv at h
  rw [hrow] at h
  exact h

theorem DrawInv.present (h : DrawInv prim raffleId view) (hrow : view.raffle = some row) :
    DrawState prim raffleId row view.split view.entries view.draw view.payouts view.proofs
      view.jobs := by
  unfold DrawInv at h
  rw [hrow] at h
  exact h

/-- Before the draw there are no payouts. -/
theorem DrawInv.drawn_of_payouts (h : DrawInv prim raffleId view) (hne : view.payouts ≠ []) :
    ∃ row, view.raffle = some row ∧ row.status.drawn = true := by
  cases hrow : view.raffle with
  | none => exact absurd (h.absent hrow).2.1 hne
  | some row =>
      refine ⟨row, rfl, ?_⟩
      cases hdrawn : row.status.drawn with
      | true => rfl
      | false => exact absurd ((h.present hrow).undrawn hdrawn).2.1 hne

/-- The key of a payout is made from its raffle and its recipient. -/
theorem DrawInv.key (h : DrawInv prim raffleId view) :
    ∀ payout ∈ view.payouts, payout.raffleId = raffleId ∧
      payout.idempotencyKey = payoutKey raffleId payout.recipientType := by
  intro payout hmem
  obtain ⟨row, hrow, hdrawn⟩ := h.drawn_of_payouts (List.ne_nil_of_mem hmem)
  obtain ⟨context, -, -, -, payoutIds, now, hpayouts⟩ := (h.present hrow).executed hdrawn
  have hterms := List.mem_map_of_mem (f := PayoutRow.terms) hmem
  rw [hpayouts] at hterms
  obtain ⟨inserted, hinserted, hterms⟩ := List.mem_map.mp hterms
  obtain ⟨source, -, rfl⟩ := List.mem_map.mp hinserted
  simp only [PayoutRow.terms, PayoutTerms.mk.injEq] at hterms
  obtain ⟨-, hraffleId, hrecipient, hkey, -⟩ := hterms
  exact ⟨hraffleId.symm, by rw [← hkey, hrecipient]⟩

/-- Before the draw there is nothing to keep but the absence of draw, payouts and proofs. -/
theorem DrawState.before (h : DrawState prim raffleId row split entries draw payouts proofs jobs)
    (hbefore : row.status.drawn = false) {row' : RaffleRow} {split' : Option PayoutSplitRow}
    (hsplit : split' ≠ none) (hstatus : row'.status.drawn = false)
    (hclose : row'.closeBlockHeight = row.closeBlockHeight) :
    DrawState prim raffleId row' split' entries' draw payouts proofs jobs' := by
  obtain ⟨hdraw, hpayouts, hheight⟩ := h.undrawn hbefore
  have hproofs : proofs = [] := h.unproved fun hpaid => by
    rw [hpaid] at hbefore
    cases hbefore
  refine ⟨hsplit, fun _ => ⟨hdraw, hpayouts, hclose.trans hheight⟩, ?_, ?_, fun _ => hproofs, ?_⟩
  · intro hdrawn
    cases hstatus.symm.trans hdrawn
  · intro hpaid
    rw [hpaid] at hstatus
    cases hstatus
  · rw [hproofs]
    exact nofun

theorem drawn_of_beforeFreeze {status : RaffleStatus} (h : status.beforeFreeze = true) :
    status.drawn = false := by
  cases status <;> cases h <;> rfl

/-- A change of payouts after the draw. -/
theorem DrawState.changePayouts
    (h : DrawState prim raffleId row split entries draw payouts proofs jobs)
    {change : PayoutRow → PayoutRow} (hchange : PayoutChange scope payouts change) :
    DrawState prim raffleId row split entries draw (payouts.map change) proofs jobs := by
  refine ⟨h.hasSplit, fun hstatus => ?_, fun hstatus => ?_, fun hstatus => ?_, h.unproved, h.proved⟩
  · obtain ⟨hdraw, hpayouts, hclose⟩ := h.undrawn hstatus
    rw [hpayouts]
    exact ⟨hdraw, rfl, hclose⟩
  · rw [hchange.map_terms]
    exact h.executed hstatus
  · obtain ⟨hsettled, hjob⟩ := h.paid hstatus
    refine ⟨fun payout hmem => ?_, hjob⟩
    obtain ⟨old, hold, rfl⟩ := List.mem_map.mp hmem
    rw [hchange.settled old hold (hsettled old hold)]
    exact hsettled old hold

/-- The raffle is paid out once every payout is settled. -/
theorem DrawState.payOut
    (h : DrawState prim raffleId row split entries draw payouts proofs jobs)
    {change : PayoutRow → PayoutRow} (hchange : PayoutChange scope payouts change)
    (hall : ∀ payout ∈ payouts, (change payout).status = .settled)
    (hjob : ∃ job ∈ jobs', job.kind = .proofGenerate) :
    DrawState prim raffleId
      (if row.status = .payoutPending then { row with status := .paidOut } else row)
      split entries draw (payouts.map change) proofs jobs' := by
  have hsettled : ∀ payout ∈ payouts.map change, payout.status = .settled := by
    intro payout hmem
    obtain ⟨old, hold, rfl⟩ := List.mem_map.mp hmem
    exact hall old hold
  have hafter := h.changePayouts hchange
  split
  · rename_i hstatus
    have hproofs : proofs = [] := h.unproved (by rw [hstatus]; nofun)
    refine ⟨h.hasSplit, nofun, fun _ => ?_, fun _ => ⟨hsettled, hjob⟩, nofun, ?_⟩
    · obtain ⟨context, hreads, hstored, hdraw, hpayouts⟩ :=
        hafter.executed (by rw [hstatus]; rfl)
      exact ⟨context, ⟨hreads.root, hreads.totalTickets, hreads.totalPoolSats, hreads.ledger,
        hreads.split, hreads.result⟩, ⟨hstored.closeHeight, hstored.randomnessHeight,
        hstored.randomnessHash⟩, hdraw, hpayouts⟩
    · rw [hproofs]
      exact nofun
  · exact ⟨hafter.hasSplit, hafter.undrawn, hafter.executed, fun _ => ⟨hsettled, hjob⟩,
      hafter.unproved, hafter.proved⟩

theorem RaffleStep.drawInv (hstep : RaffleStep prim scope raffleId view view')
    (h : DrawInv prim raffleId view) : DrawInv prim raffleId view' := by
  unfold DrawInv
  cases hstep with
  | create row split habsent hid hnew =>
      obtain ⟨hdraw, hpayouts, hproofs⟩ := h.absent habsent
      have hdrawn : row.status.drawn = false := by
        rw [hnew.status]
        rfl
      refine ⟨?_, fun _ => ⟨hdraw, hpayouts, hnew.closeBlockHeight⟩, ?_, ?_, fun _ => hproofs, ?_⟩
      · cases view.split <;> nofun
      · intro hstatus
        cases hdrawn.symm.trans hstatus
      · intro hpaid
        cases hnew.status.symm.trans hpaid
      · change ∀ proof ∈ view.proofs, _
        rw [hproofs]
        exact nofun
  | edit row name price start stop delay split hrow hstatus =>
      replace h := h.present hrow
      have hbefore : row.status.drawn = false := by
        rcases hstatus with hstatus | hstatus <;> rw [hstatus] <;> rfl
      exact h.before hbefore (by simpa using h.hasSplit) hbefore rfl
  | move row status hrow hmove =>
      replace h := h.present hrow
      obtain ⟨hbefore, hafter⟩ := RaffleStatus.mayMove_cases hmove
      refine h.before (drawn_of_beforeFreeze hbefore) h.hasSplit ?_ rfl
      rcases hafter with hafter | rfl
      · exact drawn_of_beforeFreeze hafter
      · rfl
  | close row jobs hrow hopen hjobs =>
      replace h := h.present hrow
      exact h.before (by rw [hopen]; rfl) h.hasSplit rfl rfl
  | settle row invoice entryRow entry pool hrow hopen =>
      replace h := h.present hrow
      have hbefore : row.status.drawn = false := by
        rw [hopen]
        rfl
      exact h.before hbefore h.hasSplit hbefore rfl
  | freeze row head count jobs hrow hclosing =>
      replace h := h.present hrow
      refine h.before (by rw [hclosing]; rfl) h.hasSplit ?_ rfl
      change RaffleStatus.drawn (if row.totalTickets = 0 then _ else _) = false
      split <;> rfl
  | draw row context closeHash ids now jobs hrow hstatus hreads hundrawn =>
      replace h := h.present hrow
      obtain ⟨-, hpayouts, -⟩ := h.undrawn (by rw [hstatus]; rfl)
      have hproofs : view.proofs = [] := h.unproved (by rw [hstatus]; nofun)
      refine ⟨h.hasSplit, nofun, fun _ => ⟨context, ?_, ⟨rfl, rfl, rfl⟩, ⟨ids.draw, rfl⟩,
        ids.payout, now, ?_⟩, nofun, fun _ => hproofs, ?_⟩
      · exact ⟨hreads.root, hreads.totalTickets, hreads.totalPoolSats, hreads.ledger, hreads.split,
          hreads.result⟩
      · simp only [hpayouts, List.nil_append]
      · change ∀ proof ∈ view.proofs, _
        rw [hproofs]
        exact nofun
  | proof row context head document id hrow hstatus hreads hstored hhead hpayload hverified =>
      replace h := h.present hrow
      rw [hrow]
      refine ⟨h.hasSplit, h.undrawn, h.executed, h.paid, fun hne => absurd hstatus hne, ?_⟩
      intro proof hmem
      rcases List.mem_append.mp hmem with hmem | hmem
      · exact h.proved proof hmem
      · rw [List.mem_singleton.mp hmem]
        exact ⟨context, hreads, hstored, ⟨head, hhead, hpayload⟩, hverified⟩
  | publish change hsame =>
      cases hrow : view.raffle with
      | none =>
          obtain ⟨hdraw, hpayouts, hproofs⟩ := h.absent hrow
          exact ⟨hdraw, hpayouts, by rw [hproofs]; rfl⟩
      | some row =>
          replace h := h.present hrow
          refine ⟨h.hasSplit, h.undrawn, h.executed, h.paid, fun hne => ?_, fun proof hmem => ?_⟩
          · rw [h.unproved hne]
            rfl
          · obtain ⟨old, hold, rfl⟩ := List.mem_map.mp hmem
            rw [hsame]
            exact h.proved old hold
  | changePayouts change hchange =>
      cases hrow : view.raffle with
      | none =>
          obtain ⟨hdraw, hpayouts, hproofs⟩ := h.absent hrow
          exact ⟨hdraw, by rw [hpayouts]; rfl, hproofs⟩
      | some row =>
          replace h := h.present hrow
          exact h.changePayouts hchange
  | payOut change jobs hchange hall hjobs =>
      cases hrow : view.raffle with
      | none =>
          obtain ⟨hdraw, hpayouts, hproofs⟩ := h.absent hrow
          exact ⟨hdraw, by rw [hpayouts]; rfl, hproofs⟩
      | some row =>
          replace h := h.present hrow
          exact h.payOut hchange hall hjobs.mem
  | changeJobs change hsame hdone =>
      cases hrow : view.raffle with
      | none => exact h.absent hrow
      | some row =>
          replace h := h.present hrow
          refine ⟨h.hasSplit, h.undrawn, h.executed, fun hpaid => ?_, h.unproved, h.proved⟩
          obtain ⟨hsettled, job, hmem, hkind⟩ := h.paid hpaid
          exact ⟨hsettled, change job, List.mem_map_of_mem hmem, (hsame job).kind.trans hkind⟩
  | stay | pendingInvoice | collectionInvoice | changeInvoices | late | refund => exact h

/-! ## Jobs -/

def RaffleView.IsDrawn (view : RaffleView) : Prop :=
  ∃ row, view.raffle = some row ∧ row.status.drawn = true

theorem RaffleStep.isDrawn (hstep : RaffleStep prim scope raffleId view view')
    (h : view.IsDrawn) : view'.IsDrawn := by
  obtain ⟨row, hrow, hdrawn⟩ := h
  -- a raffle that has been drawn shows no row with a status before the draw
  have hother : ∀ other, view.raffle = some other → other.status.drawn = false → False := by
    intro other hview hstatus
    obtain rfl : other = row := Option.some.inj (hview.symm.trans hrow)
    cases hstatus.symm.trans hdrawn
  cases hstep with
  | create row split habsent =>
      cases habsent.symm.trans hrow
  | edit row name price start stop delay split hrow hstatus =>
      exact absurd (by rcases hstatus with hstatus | hstatus <;> rw [hstatus] <;> rfl)
        (hother row hrow)
  | move row status hrow hmove =>
      exact absurd (drawn_of_beforeFreeze (RaffleStatus.mayMove_cases hmove).1) (hother row hrow)
  | close row jobs hrow hopen =>
      exact absurd (by rw [hopen]; rfl) (hother row hrow)
  | settle row invoice entryRow entry pool hrow hopen =>
      exact absurd (by rw [hopen]; rfl) (hother row hrow)
  | freeze row head count jobs hrow hclosing =>
      exact absurd (by rw [hclosing]; rfl) (hother row hrow)
  | draw row context closeHash ids now jobs hrow hstatus =>
      exact ⟨_, rfl, rfl⟩
  | payOut change jobs =>
      refine ⟨_, by rw [hrow]; rfl, ?_⟩
      beta_reduce
      split
      · rfl
      · exact hdrawn
  | stay | pendingInvoice | collectionInvoice | changeInvoices | late | refund | proof | publish
  | changePayouts | changeJobs => exact ⟨row, hrow, hdrawn⟩

/-- The jobs of a raffle name it, and a payout job exists only after the draw. -/
def JobInv (raffleId : RaffleId) (view : RaffleView) : Prop :=
  ∀ job ∈ view.jobs, job.payload = .raffle raffleId ∧
    job.deduplicationKey = raffleId.uuid.toString ∧ (job.kind = .payoutExecute → view.IsDrawn)

theorem JobsGrow.jobInv {kind : JobKind} (hgrow : JobsGrow raffleId kind view.jobs view'.jobs)
    (h : JobInv raffleId view) (hdrawn : view.IsDrawn → view'.IsDrawn)
    (hkind : kind = .payoutExecute → view'.IsDrawn) : JobInv raffleId view' := by
  intro job hmem
  have hold : job ∈ view.jobs → _ := fun hmem =>
    (h job hmem).imp_right fun hjob => hjob.imp_right fun hpayout heq => hdrawn (hpayout heq)
  rcases hgrow with ⟨hjobs, -⟩ | ⟨row, hnew, hjobs⟩
  · exact hold (hjobs ▸ hmem)
  · rw [hjobs] at hmem
    rcases List.mem_append.mp hmem with hmem | hmem
    · exact hold hmem
    · obtain rfl := List.mem_singleton.mp hmem
      exact ⟨hnew.payload, hnew.deduplicationKey, fun heq => hkind (hnew.kind.symm.trans heq)⟩

theorem RaffleStep.jobInv (hstep : RaffleStep prim scope raffleId view view')
    (h : JobInv raffleId view) : JobInv raffleId view' := by
  have hdrawn := hstep.isDrawn
  cases hstep with
  | close row jobs hrow hopen hjobs => exact hjobs.jobInv h hdrawn nofun
  | freeze row head count jobs hrow hclosing hhead hcount hjobs =>
      split at hjobs
      · subst hjobs
        exact fun job hmem => (h job hmem).imp_right fun hjob =>
          hjob.imp_right fun hpayout heq => hdrawn (hpayout heq)
      · exact hjobs.jobInv h hdrawn nofun
  | draw row context closeHash ids now jobs hrow hstatus hreads hundrawn hscope hjobs =>
      exact hjobs.jobInv h hdrawn fun _ => ⟨_, rfl, rfl⟩
  | payOut change jobs hchange hall hjobs => exact hjobs.jobInv h hdrawn nofun
  | changeJobs change hsame =>
      intro job hmem
      obtain ⟨old, hold, rfl⟩ := List.mem_map.mp hmem
      obtain ⟨hpayload, hkey, hpayout⟩ := h old hold
      exact ⟨(hsame old).payload.trans hpayload, (hsame old).deduplicationKey.trans hkey,
        fun heq => hpayout ((hsame old).kind.symm.trans heq)⟩
  | create | edit | move | settle | stay | pendingInvoice | collectionInvoice | changeInvoices | late
  | refund | proof | publish | changePayouts =>
      exact fun job hmem => (h job hmem).imp_right fun hjob =>
        hjob.imp_right fun hpayout heq => hdrawn (hpayout heq)

end Steps

end OpenPool
