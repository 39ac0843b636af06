import OpenPool.Store.LedgerCorrectness
import OpenPool.Verifier.Exactness

/-! # Draws and proofs of reachable stores

A raffle that is paid out has a proof that the verifier accepts, and the proof publishes the
draw and the payouts that were executed. -/

namespace OpenPool

open Fallible

/-! ## Heights -/

section Heights

variable {prim : Primitives} {scope : Scope} {raffleId : RaffleId} {view view' : RaffleView}

/-- The randomness block of a drawn raffle lies its delay above the close block. -/
def HeightInv (view : RaffleView) : Prop :=
  ∀ row, view.raffle = some row → row.status.drawn = true → ∃ close randomness : ℤ,
    row.closeBlockHeight = some close ∧ row.randomnessBlockHeight = some randomness ∧
      randomness = close + row.randomnessDelayBlocks

theorem RaffleStep.heightInv (hstep : RaffleStep prim scope raffleId view view')
    (hdelay : ∀ row close randomness, view.raffle = some row →
      scope.drawn = some (raffleId, close, randomness) →
      (randomness.toNat : ℤ) = close.toNat + row.randomnessDelayBlocks)
    (h : HeightInv view) : HeightInv view' := by
  intro row' hrow' hdrawn'
  cases hstep with
  | create row split habsent hid hnew =>
      cases hrow'
      rw [hnew.status] at hdrawn'
      cases hdrawn'
  | edit row name price start stop delay split hrow hstatus =>
      cases hrow'
      rcases hstatus with hstatus | hstatus <;> rw [hstatus] at hdrawn' <;> cases hdrawn'
  | move row status hrow hmove =>
      cases hrow'
      rcases (RaffleStatus.mayMove_cases hmove).2 with hafter | rfl
      · cases (drawn_of_beforeFreeze hafter).symm.trans hdrawn'
      · cases hdrawn'
  | close row jobs hrow hopen =>
      cases hrow'
      cases hdrawn'
  | settle row invoice entryRow entry pool hrow hopen =>
      cases hrow'
      change row.status.drawn = true at hdrawn'
      rw [hopen] at hdrawn'
      cases hdrawn'
  | freeze row head count jobs hrow hclosing =>
      cases hrow'
      change RaffleStatus.drawn (if row.totalTickets = 0 then _ else _) = true at hdrawn'
      split at hdrawn' <;> cases hdrawn'
  | draw row context closeHash ids now jobs hrow hstatus hreads hundrawn hscope =>
      cases hrow'
      exact ⟨_, _, rfl, rfl, hdelay row _ _ hrow hscope⟩
  | payOut change jobs hchange hall hjobs =>
      obtain ⟨row, hrow, hrow'⟩ := Option.map_eq_some_iff.mp hrow'
      split at hrow'
      · rename_i hstatus
        obtain ⟨close, randomness, hheights⟩ := h row hrow (by rw [hstatus]; rfl)
        subst hrow'
        exact ⟨close, randomness, hheights⟩
      · subst hrow'
        exact h row hrow hdrawn'
  | stay | pendingInvoice | collectionInvoice | changeInvoices | late | refund | proof | publish
  | changePayouts | changeJobs => exact h row' hrow' hdrawn'

end Heights

/-- A draw takes its randomness from the block the raffle's delay above the close block. -/
def Op.DrawsAfterDelay (store : Store) : Op → Prop
  | .createDrawAndPayouts raffleId closeHeight _ randomnessHeight _ _ _ =>
      ∀ row ∈ store.db.raffles.find (·.id = raffleId),
        (randomnessHeight.toNat : ℤ) = closeHeight.toNat + row.randomnessDelayBlocks
  | _ => True

instance (store : Store) (op : Op) : Decidable (op.DrawsAfterDelay store) := by
  unfold Op.DrawsAfterDelay
  split <;> infer_instance

section Store

variable {prim : Primitives} {store : Store} {raffleId : RaffleId} {row : RaffleRow}

theorem Op.DrawsAfterDelay.heightInv {op : Op} (hdelay : op.DrawsAfterDelay store)
    (hsound : store.Sound prim) (h : HeightInv (store.db.view raffleId)) :
    HeightInv ((store.step prim op).db.view raffleId) := by
  refine (store.step_raffleStep hsound op).heightInv (fun row close randomness hrow hscope => ?_) h
  cases op <;> cases hscope
  exact hdelay row hrow

theorem Store.heightInv_after {operations : List Op}
    (h : StateMachine.Meets (Store.step prim) Op.DrawsAfterDelay .empty operations) :
    ∀ raffleId, HeightInv ((Store.after prim operations).db.view raffleId) := by
  have hstep : ∀ (store : Store) (op : Op), op.DrawsAfterDelay store →
      (store.Sound prim ∧ ∀ raffleId, HeightInv (store.db.view raffleId)) →
      (store.step prim op).Sound prim ∧
        ∀ raffleId, HeightInv ((store.step prim op).db.view raffleId) :=
    fun store op hdelay ⟨hsound, hheights⟩ =>
      ⟨hsound.step op, fun raffleId => hdelay.heightInv hsound (hheights raffleId)⟩
  exact (h.invariant hstep ⟨Store.sound_empty, fun _ row hrow => nomatch hrow⟩).2

/-! ## The context of a drawn raffle -/

theorem Store.Sound.drawState (hsound : store.Sound prim)
    (hrow : store.db.raffles.find (·.id = raffleId) = some row) :
    DrawState prim raffleId row (store.db.view raffleId).split (store.db.view raffleId).entries
      (store.db.view raffleId).draw (store.db.view raffleId).payouts
      (store.db.view raffleId).proofs (store.db.view raffleId).jobs :=
  (hsound.draw raffleId).present hrow

/-- The summary that the proof of a context repeats. -/
def DrawContext.summary (context : DrawContext) (entryCount : ℕ) (head : Hash32) :
    LedgerSummary where
  entryCount := UInt64.ofNat entryCount
  totalTickets := context.totalTickets
  totalPoolSats := ⟨context.totalPoolSats⟩
  entryChainHead := head
  entriesRoot := context.root

/-- The ledger a draw reads is accepted, with the totals and the root the draw reads. -/
theorem Store.Sound.accepted (hsound : store.Sound prim)
    (hrow : store.db.raffles.find (·.id = raffleId) = some row) {context : DrawContext}
    (hreads : context.Reads prim.sha256 raffleId row (store.db.view raffleId).split
      (store.db.view raffleId).entries) (hdrawn : row.status.drawn = true) :
    ∃ head, row.chainHead = .ok head ∧ LedgerAccepted prim.sha256 raffleId context.ledger
      (context.summary (store.db.view raffleId).entries.length head) := by
  obtain ⟨hfrozen, ledger, cursor, htracks⟩ := hsound.tracks hrow
  have hne : (store.db.view raffleId).entries ≠ [] :=
    htracks.tickets_pos.mpr (hfrozen.frozen (.inr hdrawn)).2
  have hlength := htracks.segment.length_lt
  rw [← htracks.reads.length_eq] at hlength
  have hcount : UInt64.toNat (.ofNat (store.db.view raffleId).entries.length) =
      (store.db.view raffleId).entries.length := UInt64.toNat_ofNat_of_lt' hlength
  have hledger : context.ledger = ledger :=
    Except.ok.inj (hreads.ledger.symm.trans htracks.read)
  have htickets : context.totalTickets = cursor.expectedTicketStart :=
    UInt64.toNat_inj.mp (by exact_mod_cast hreads.totalTickets.symm.trans htracks.tickets)
  have hpool : context.totalPoolSats = cursor.totalPoolSats :=
    UInt64.toNat_inj.mp (by exact_mod_cast hreads.totalPoolSats.symm.trans htracks.pool)
  have hroot : context.root = entriesRoot prim.sha256 raffleId
      (.ofNat (store.db.view raffleId).entries.length) cursor.previousHash := by
    obtain ⟨n, head, hn, hhead, hbytes⟩ := hfrozen.root _ hreads.root
    obtain rfl : cursor.previousHash = head :=
      Except.ok.inj (htracks.chainHead.symm.trans hhead)
    obtain rfl : n = .ofNat _ := UInt64.toNat_inj.mp (hn.trans hcount.symm)
    exact Subtype.ext hbytes
  refine ⟨cursor.previousHash, htracks.chainHead, ?_⟩
  have haccepted := htracks.accepted hne hcount
  rw [LedgerCursor.summary, ← hroot, ← htickets, ← hpool, ← hledger] at haccepted
  exact haccepted

theorem PayoutSplitRow.read_valid {row : PayoutSplitRow} {split : PayoutSplit}
    (h : row.read = .ok split) : split.bps = 10000 := by
  simp only [PayoutSplitRow.read, bind_eq_ok_iff, mapError_eq_ok_iff,
    PayoutSplit.new_eq_ok_iff] at h
  obtain ⟨-, -, -, -, -, -, -, hvalid⟩ := h
  exact hvalid

/-- The amounts of a context are the exact allocation of the pool. -/
theorem DrawContext.Reads.allocated {sha256 : List UInt8 → Hash32}
    {split : Option PayoutSplitRow} {entries : List EntryRow} {context : DrawContext}
    (h : context.Reads sha256 raffleId row split entries) :
    context.split.bps = 10000 ∧
      Allocated context.split ⟨context.totalPoolSats⟩ context.amounts := by
  obtain ⟨splitRow, -, hread⟩ := h.split
  have hvalid := PayoutSplitRow.read_valid hread
  exact ⟨hvalid, PayoutSplit.allocate_spec hvalid _⟩

/-! ## Every paid-out raffle has a valid proof -/

/-- The document built from a context passes the verifier. -/
theorem DrawContext.verified {context : DrawContext} {split : Option PayoutSplitRow}
    {entries : List EntryRow} {head hash : Hash32} {entryCount : ℕ}
    (hreads : context.Reads prim.sha256 raffleId row split entries)
    (haccepted : LedgerAccepted prim.sha256 raffleId context.ledger
      (context.summary entryCount head))
    (hheights : context.closeHeight.toNat < context.randomnessHeight.toNat)
    (hhash : proofHash prim (context.payload raffleId entryCount head) = .ok hash) :
    (verify prim ⟨context.payload raffleId entryCount head, hash⟩).isVerified = true := by
  obtain ⟨-, -, hdrawn⟩ := (draw_eq_ok_iff haccepted _ _).mp hreads.result
  obtain ⟨hvalid, hallocated⟩ := hreads.allocated
  exact (isVerified_iff_accepted _ _).mpr
    ⟨rfl, haccepted, hheights, hdrawn, hvalid, hallocated, hhash⟩

/-- The heights a context stores are in order. -/
theorem DrawContext.Stored.height_lt {context : DrawContext} (hstored : context.Stored row)
    (hheights : HeightInv (store.db.view raffleId))
    (hrow : store.db.raffles.find (·.id = raffleId) = some row)
    (hdrawn : row.status.drawn = true) :
    context.closeHeight.toNat < context.randomnessHeight.toNat := by
  obtain ⟨close, randomness, hclose, hrandomness, hdelay⟩ := hheights row hrow hdrawn
  have hpositive : 0 < row.randomnessDelayBlocks :=
    (store.db.raffles.checked row (Table.mem_of_find hrow).1).2.2.1
  have hclose' := Option.some.inj (hclose.symm.trans hstored.closeHeight)
  have hrandomness' := Option.some.inj (hrandomness.symm.trans hstored.randomnessHeight)
  omega

/-- A paid-out raffle has a verified document that every attempt to generate its proof stores, as
long as the row can be inserted. -/
theorem Store.Sound.generates (hsound : store.Sound prim)
    (hjcs : ∀ payload, ∃ json, prim.jcs payload = .ok json)
    (hheights : HeightInv (store.db.view raffleId))
    (hrow : store.db.raffles.find (·.id = raffleId) = some row) (hpaid : row.status = .paidOut) :
    ∃ document : ProofDocument, (verify prim document).isVerified = true ∧
      document.payload.raffleId = raffleId ∧
      ∀ proofId proofs, store.db.proofs.insert
        { id := proofId, raffleId, protocolVersion, proofJson := document
          proofHash := document.proofHash.val } = .ok proofs →
        generateTerminalProof prim raffleId proofId store.db =
          .ok ({ store.db with proofs }, document) := by
  have hdrawn : row.status.drawn = true := by rw [hpaid]; rfl
  obtain ⟨context, hreads, hstored, -, -⟩ := (hsound.drawState hrow).executed hdrawn
  obtain ⟨head, hhead, haccepted⟩ := hsound.accepted hrow hreads hdrawn
  have hlt := hstored.height_lt hheights hrow hdrawn
  obtain ⟨json, hjson⟩ := hjcs (context.payload raffleId _ head)
  have hhash := (proofHash_eq_ok_iff prim _ _).mpr ⟨json, hjson, rfl⟩
  have hverified := DrawContext.verified hreads haccepted hlt hhash
  let document : ProofDocument :=
    ⟨context.payload raffleId (store.db.view raffleId).entries.length head, prim.sha256 json⟩
  refine ⟨document, hverified, rfl, fun proofId proofs hproofs => ?_⟩
  simp only [generateTerminalProof, bind_eq_ok_iff, fetchOne_eq_ok_iff, ensure_eq_ok_iff,
    requireHash_eq_ok_iff, orElse_eq_ok_iff, asU64_eq_ok_iff, mapError_eq_ok_iff,
    readSplit_eq_ok_iff, sql_eq_ok_iff, ProofDocument.create_eq_ok_iff, pure_eq_ok_iff,
    Prod.mk.injEq, count_entries]
  exact ⟨row, hrow, (), hpaid, context.ledger, hreads.ledger, context.root, hreads.root, head,
    hhead, _, hstored.closeHeight, context.closeHeight, rfl, _, hstored.randomnessHeight,
    context.randomnessHeight, rfl, context.randomnessHash, hstored.randomnessHash,
    context.totalTickets, hreads.totalTickets, context.result, hreads.result, context.split,
    hreads.split, context.totalPoolSats, hreads.totalPoolSats, document, ⟨rfl, hhash⟩, (),
    hverified, proofs, hproofs, rfl, rfl⟩

/-- The first proof of a raffle can be inserted. -/
theorem insert_proof {proofs : Table ProofRow} (proofId : Uuid)
    (hnone : ∀ proof ∈ proofs.rows, proof.raffleId ≠ raffleId)
    (hfresh : ∀ proof ∈ proofs.rows, proof.id ≠ proofId) (document : ProofDocument) :
    ∃ proofs', proofs.insert
      { id := proofId, raffleId, protocolVersion, proofJson := document
        proofHash := document.proofHash.val } = .ok proofs' :=
  Table.insert_eq_ok ⟨document.proofHash.property, .inl ⟨rfl, rfl, rfl, rfl⟩⟩
    fun proof hmem hclash =>
      hclash.elim (hfresh proof hmem) fun hsame => hnone proof hmem hsame.1

/-- Generating the proof of a paid-out raffle that has none stores a document of the raffle that
passes the verifier, after every run whose draws respect the raffle's delay. -/
theorem generateTerminalProof_succeeds (prim : Primitives)
    (hjcs : ∀ payload, ∃ json, prim.jcs payload = .ok json) (operations : List Op)
    (hdraws : StateMachine.Meets (Store.step prim) Op.DrawsAfterDelay .empty operations)
    (raffleId : RaffleId) (row : RaffleRow)
    (hrow : (Store.after prim operations).db.raffles.find (·.id = raffleId) = some row)
    (hpaid : row.status = .paidOut)
    (hnone : ∀ proof ∈ (Store.after prim operations).db.proofs.rows, proof.raffleId ≠ raffleId)
    (proofId : Uuid)
    (hfresh : ∀ proof ∈ (Store.after prim operations).db.proofs.rows, proof.id ≠ proofId) :
    ∃ document proofs,
      generateTerminalProof prim raffleId proofId (Store.after prim operations).db =
        .ok ({ (Store.after prim operations).db with proofs }, document) ∧
      (verify prim document).isVerified = true ∧ document.payload.raffleId = raffleId ∧
      proofs.rows = (Store.after prim operations).db.proofs.rows ++
        [{ id := proofId, raffleId, protocolVersion, proofJson := document
           proofHash := document.proofHash.val }] := by
  obtain ⟨document, hverified, hraffle, hgenerates⟩ :=
    (Store.sound_after prim operations).generates hjcs (Store.heightInv_after hdraws raffleId)
      hrow hpaid
  obtain ⟨proofs, hproofs⟩ := insert_proof proofId hnone hfresh document
  exact ⟨document, proofs, hgenerates proofId proofs hproofs, hverified, hraffle,
    Table.rows_of_insert hproofs⟩

/-! ## What was executed is what is published -/

/-- A draw is stored once. -/
theorem RaffleStep.draw_kept {scope : Scope} {view view' : RaffleView}
    (hstep : RaffleStep prim scope raffleId view view') {drawRow : DrawRow}
    (hdraw : view.draw = some drawRow) : view'.draw = some drawRow := by
  cases hstep with
  | draw row context closeHash ids now jobs hrow hstatus hreads hundrawn =>
      cases hundrawn.symm.trans hdraw
  | create | edit | move | close | settle | freeze | payOut | stay | pendingInvoice
  | collectionInvoice | changeInvoices | late | refund | proof | publish | changePayouts
  | changeJobs => exact hdraw

theorem Store.draw_kept (hsound : store.Sound prim) {drawRow : DrawRow}
    (hdraw : (store.db.view raffleId).draw = some drawRow) (operations : List Op) :
    ((StateMachine.run (Store.step prim) store operations).db.view raffleId).draw =
      some drawRow := by
  have hstep : ∀ (store : Store) (op : Op),
      (store.Sound prim ∧ (store.db.view raffleId).draw = some drawRow) →
      (store.step prim op).Sound prim ∧
        ((store.step prim op).db.view raffleId).draw = some drawRow :=
    fun store op ⟨hsound, hdraw⟩ =>
      ⟨hsound.step op, (store.step_raffleStep hsound op).draw_kept hdraw⟩
  exact (StateMachine.invariant hstep ⟨hsound, hdraw⟩ operations).2

theorem select_draws (db : Database) (raffleId : RaffleId) :
    db.draws.select (·.raffleId = raffleId) = (db.view raffleId).draw.toList :=
  Table.select_eq_toList_find fun _ _ ha hb =>
    .inr ((of_decide_eq_true ha).trans (of_decide_eq_true hb).symm)

/-- The payouts of a context, as the proof lists them. -/
def payoutComponents (amounts : PayoutAmounts) : List (RecipientType × ℤ) :=
  ((payoutList amounts).filter fun payout => payout.2 ≠ 0).map fun payout =>
    (payout.1, (payout.2.toNat : ℤ))

theorem payoutComponents_of_terms {payouts : List PayoutRow} {payoutIds : RecipientType → Uuid}
    {now : ℤ} {amounts : PayoutAmounts}
    (h : payouts.map PayoutRow.terms =
      (payoutRows raffleId payoutIds now amounts).map PayoutRow.terms) :
    payouts.map (fun payout => (payout.recipientType, payout.amountSats)) =
      payoutComponents amounts := by
  have hterms := congrArg (List.map fun terms : PayoutTerms =>
    (terms.recipientType, terms.amountSats)) h
  have hpositive : (fun payout : RecipientType × UInt64 => decide (0 < payout.2.toNat)) =
      fun payout => decide (payout.2 ≠ 0) := by
    funext payout
    rw [decide_eq_decide, Nat.pos_iff_ne_zero, ne_eq, ← UInt64.toNat_zero, UInt64.toNat_inj]
  rw [List.map_map, List.map_map] at hterms
  refine hterms.trans ?_
  rw [payoutRows, List.map_map, payoutComponents, hpositive]
  rfl

/-- The entry that owns the winning ticket, and the invoice that paid for it. -/
theorem Store.Sound.winner (hsound : store.Sound prim)
    (hrow : store.db.raffles.find (·.id = raffleId) = some row) {context : DrawContext}
    (hreads : context.Reads prim.sha256 raffleId row (store.db.view raffleId).split
      (store.db.view raffleId).entries) (hdrawn : row.status.drawn = true) :
    ∃ entry ∈ (store.db.view raffleId).entries, ∃ invoice ∈ (store.db.view raffleId).invoices,
      entry.id = context.result.winnerEntryId ∧ entry.invoiceId = invoice.id ∧
      ∀ other ∈ (store.db.view raffleId).entries,
        (other.ticketStart ≤ context.result.winningTicket.toNat ∧
          context.result.winningTicket.toNat < other.ticketEnd) ↔ other = entry := by
  obtain ⟨head, -, haccepted⟩ := hsound.accepted hrow hreads hdrawn
  obtain ⟨-, -, hresult⟩ := (draw_eq_ok_iff haccepted _ _).mp hreads.result
  obtain ⟨winner, hwinner, howns, hid, -⟩ := hresult.winner
  obtain ⟨-, ledger, cursor, htracks⟩ := hsound.tracks hrow
  obtain rfl : context.ledger = ledger :=
    Except.ok.inj (hreads.ledger.symm.trans htracks.read)
  -- the row of the winning entry, and the invoice of that row
  obtain ⟨entry, hentry, hread⟩ : ∃ entry ∈ (store.db.view raffleId).entries,
      entry.Reads winner := by
    obtain ⟨i, hi, rfl⟩ := List.getElem_of_mem hwinner
    have hlength := htracks.reads.length_eq
    exact ⟨_, List.getElem_mem (by omega), htracks.reads.get (by omega) hi⟩
  obtain ⟨invoice, hinvoice, hpaid, -⟩ := (hsound.invoices raffleId).paid entry hentry
  refine ⟨entry, hentry, invoice, hinvoice, hread.id.trans hid.symm, hpaid.invoiceId, ?_⟩
  intro other hother
  obtain ⟨owner, howner, hreadOther⟩ : ∃ owner ∈ context.ledger, other.Reads owner := by
    obtain ⟨i, hi, rfl⟩ := List.getElem_of_mem hother
    have hlength := htracks.reads.length_eq
    exact ⟨_, List.getElem_mem (by omega), htracks.reads.get hi (by omega)⟩
  rw [hreadOther.ticketStart, hreadOther.ticketEnd]
  constructor
  · rintro ⟨hstart, hend⟩
    have hsame : owner = winner := haccepted.tiles.owner_unique howner hwinner
      ⟨by exact_mod_cast hstart, by exact_mod_cast hend⟩ howns
    refine store.db.entries.eq_of_clash (Table.mem_select.mp hother).1
      (Table.mem_select.mp hentry).1 (.inl ?_)
    rw [hreadOther.id, hread.id, hsame]
  · rintro rfl
    rw [← hreadOther.ticketStart, ← hreadOther.ticketEnd, hread.ticketStart, hread.ticketEnd]
    exact ⟨by exact_mod_cast howns.1, by exact_mod_cast howns.2⟩

theorem winnerAddress_eq {db : Database} {drawRow : DrawRow} {entry : EntryRow}
    {invoice : InvoiceRow} (hdraw : (db.view raffleId).draw = some drawRow)
    (hentry : entry ∈ (db.view raffleId).entries) (hid : entry.id = drawRow.winnerEntryId)
    (hinvoice : invoice ∈ (db.view raffleId).invoices) (hpaid : entry.invoiceId = invoice.id) :
    winnerAddress raffleId db = some invoice.payoutAddressCiphertext := by
  have hdraw' : db.draws.find (·.raffleId = raffleId) = some drawRow := hdraw
  have hentry' : db.entries.find (·.id = drawRow.winnerEntryId) = some entry :=
    Table.find_eq_some (Table.mem_select.mp hentry).1 (decide_eq_true hid) fun _ _ ha hb =>
      .inl ((of_decide_eq_true ha).trans (of_decide_eq_true hb).symm)
  have hinvoice' : db.invoices.find (·.id = entry.invoiceId) = some invoice :=
    Table.find_eq_some (Table.mem_select.mp hinvoice).1 (decide_eq_true hpaid.symm)
      fun _ _ ha hb => .inl ((of_decide_eq_true ha).trans (of_decide_eq_true hb).symm)
  simp [winnerAddress, hdraw', hentry', hinvoice']

theorem decodeAddress_eq_ok_some_iff (address : Option (List UInt8)) (ciphertext : List UInt8) :
    decodeAddress (some address) = .ok (some ciphertext) ↔ address = some ciphertext := by
  cases address <;> simp [decodeAddress]

/-- A raffle has at most one draw, which never changes, and a proof publishes that draw, the
payouts of the raffle and the owner of the winning ticket, who is the one that is paid. -/
theorem executed_is_published (prim : Primitives) (operations : List Op) (raffleId : RaffleId) :
    ((Store.after prim operations).db.draws.select (·.raffleId = raffleId) = [] ∨
      ∃ drawRow, ∀ later, (Store.after prim (operations ++ later)).db.draws.select
        (·.raffleId = raffleId) = [drawRow]) ∧
    ∀ proof ∈ (Store.after prim operations).db.proofs.rows, proof.raffleId = raffleId →
      ∃ drawRow,
        (Store.after prim operations).db.draws.select (·.raffleId = raffleId) = [drawRow] ∧
        drawRow.winningTicket = proof.proofJson.payload.draw.winningTicket.toNat ∧
        drawRow.winnerEntryId = proof.proofJson.payload.draw.winnerEntryId ∧
        ((Store.after prim operations).db.payouts.select (·.raffleId = raffleId)).map
          (fun payout => (payout.recipientType, payout.amountSats)) =
            payoutComponents proof.proofJson.payload.payouts ∧
        ∃ entry ∈ (Store.after prim operations).db.entries.select (·.raffleId = raffleId),
          ∃ invoice ∈ (Store.after prim operations).db.invoices.rows,
            entry.invoiceId = invoice.id ∧
            (∀ other ∈ (Store.after prim operations).db.entries.select (·.raffleId = raffleId),
              (other.ticketStart ≤ proof.proofJson.payload.draw.winningTicket.toNat ∧
                proof.proofJson.payload.draw.winningTicket.toNat < other.ticketEnd) ↔
                  other = entry) ∧
            ∀ payout ∈ (Store.after prim operations).db.payouts.select (·.raffleId = raffleId),
              payout.recipientType = .winner →
              ∀ claimed, ClaimedPayout.ofRow payout = .ok claimed → ∀ ciphertext,
                payoutRecipientCiphertext claimed (Store.after prim operations).db =
                  .ok (some ciphertext) ↔ invoice.payoutAddressCiphertext = some ciphertext := by
  have hsound := Store.sound_after prim operations
  constructor
  · cases hdraw : ((Store.after prim operations).db.view raffleId).draw with
    | none => exact .inl (by rw [select_draws, hdraw]; rfl)
    | some drawRow =>
        refine .inr ⟨drawRow, fun later => ?_⟩
        have hkept := Store.draw_kept hsound hdraw later
        rw [Store.after, ← StateMachine.run_append] at hkept
        rw [select_draws, Store.after, hkept]
        rfl
  · intro proof hmem hid
    have hproof : proof ∈ ((Store.after prim operations).db.view raffleId).proofs :=
      Table.mem_select.mpr ⟨hmem, decide_eq_true hid⟩
    obtain ⟨row, hrow⟩ : ∃ row,
        (Store.after prim operations).db.raffles.find (·.id = raffleId) = some row := by
      cases hrow : ((Store.after prim operations).db.view raffleId).raffle with
      | none =>
          rw [((hsound.draw raffleId).absent hrow).2.2] at hproof
          cases hproof
      | some row => exact ⟨row, hrow⟩
    have hstate := hsound.drawState hrow
    have hpaid : row.status = .paidOut := by
      by_contra hne
      rw [hstate.unproved hne] at hproof
      cases hproof
    have hdrawn : row.status.drawn = true := by rw [hpaid]; rfl
    -- the proof and the stored draw have one context
    obtain ⟨context, hreads, hstored, ⟨drawId, hdraw⟩, payoutIds, now, hpayouts⟩ :=
      hstate.executed hdrawn
    obtain ⟨published, hproved⟩ := hstate.proved proof hproof
    obtain rfl : context = published :=
      DrawContext.unique hreads hstored hproved.reads hproved.stored
    obtain ⟨head, -, hpayload⟩ := hproved.payload
    obtain ⟨entry, hentry, invoice, hinvoice, hwinner, hpayer, howner⟩ :=
      hsound.winner hrow hreads hdrawn
    rw [hpayload]
    refine ⟨context.row raffleId drawId, by rw [select_draws, hdraw]; rfl, rfl, rfl,
      payoutComponents_of_terms hpayouts, entry, hentry, invoice, (Table.mem_select.mp hinvoice).1,
      hpayer, howner, ?_⟩
    intro payout hpayout hrecipient claimed hclaimed ciphertext
    simp only [ClaimedPayout.ofRow, bind_eq_ok_iff, pure_eq_ok_iff] at hclaimed
    obtain ⟨amount, -, rfl⟩ := hclaimed
    have hpayoutId : payout.raffleId = raffleId := of_decide_eq_true (Table.mem_select.mp hpayout).2
    simp only [payoutRecipientCiphertext, hrecipient, hpayoutId,
      winnerAddress_eq hdraw hentry hwinner hinvoice hpayer, decodeAddress_eq_ok_some_iff]

end Store

/-! ## A run

The raffle of the sample run is drawn, paid out and proved. -/

namespace SampleRun

def drawIds : DrawIds where
  draw := uuid 20
  payout
    | .winner => uuid 21
    | .organizer => uuid 22
    | .platform => uuid 23
    | .refund => uuid 24
  job := uuid 25

def drawn : List Op := frozen ++ [
  .createDrawAndPayouts raffleId 100 (hash 9) 106 (hash 10) drawIds 100000002]

/-- One worker claims the next payout and settles it. -/
def pay (payoutId : Uuid) : List Op := [
  .claimPayout raffleId "worker" 100000003 [] 0,
  .beginSettle payoutId "worker" "payment",
  .countUnsettled payoutId,
  .markPaidOut payoutId,
  .enqueueProof payoutId (uuid 26) 100000004,
  .commitSettle payoutId]

def paidOut : List Op := drawn ++ pay (uuid 21) ++ pay (uuid 22) ++ pay (uuid 23)

def proved : List Op := paidOut ++ [.generateTerminalProof raffleId (uuid 27)]

end SampleRun

namespace SampleRun

/-- The raffle of the run is paid out, as drawn after its delay, and has no proof yet. -/
theorem paidOut_unproved : (((Store.after .standard paidOut).db.raffles.find
      (·.id = raffleId)).map RaffleRow.status = some .paidOut ∧
      (Store.after .standard paidOut).db.proofs.rows = []) ∧
    StateMachine.Meets (Store.step .standard) Op.DrawsAfterDelay .empty paidOut := by
  decide +kernel

theorem paidOut_generates (proofId : Uuid) : ∃ document proofs,
    proofs.rows = [⟨proofId, raffleId, protocolVersion, document, document.proofHash, none, none,
      none, none⟩] ∧
    generateTerminalProof .standard raffleId proofId (Store.after .standard paidOut).db =
      .ok ({ (Store.after .standard paidOut).db with proofs }, document) := by
  obtain ⟨⟨hfound, hnone⟩, hdraws⟩ := paidOut_unproved
  obtain ⟨row, hrow, hpaid⟩ := Option.map_eq_some_iff.mp hfound
  obtain ⟨document, -, -, hgenerates⟩ := (Store.sound_after .standard paidOut).generates
    (fun payload => ⟨_, rfl⟩) (Store.heightInv_after hdraws raffleId) hrow hpaid
  have hempty : ∀ proof, proof ∉ (Store.after .standard paidOut).db.proofs.rows :=
    List.eq_nil_iff_forall_not_mem.mp hnone
  obtain ⟨proofs, hproofs⟩ := insert_proof proofId
    (fun proof hmem (_ : proof.raffleId = raffleId) => hempty proof hmem)
    (fun proof hmem _ => hempty proof hmem) document
  have hrows := Table.rows_of_insert hproofs
  rw [hnone, List.nil_append] at hrows
  exact ⟨document, proofs, hrows, hgenerates _ _ hproofs⟩

/-- The run that proves the raffle adds one row. -/
theorem proved_db : ∃ proof : ProofRow, proof.raffleId = raffleId ∧
    (Store.after .standard proved).db.proofs.rows = [proof] ∧
      (Store.after .standard proved).db.payouts = (Store.after .standard paidOut).db.payouts := by
  obtain ⟨document, proofs, hrows, hgenerate⟩ := paidOut_generates (uuid 27)
  have hafter : Store.after .standard proved =
      (Store.after .standard paidOut).exec (generateTerminalProof .standard raffleId (uuid 27)) :=
    StateMachine.run_concat _ _ _
  rw [hafter, Store.exec, hgenerate]
  refine ⟨_, ?_, hrows, rfl⟩
  rfl

end SampleRun

theorem generateTerminalProof_succeeds_for_sample :
    ∃ document proofs,
      generateTerminalProof .standard SampleRun.raffleId (SampleRun.uuid 27)
        (Store.after .standard SampleRun.paidOut).db =
          .ok ({ (Store.after .standard SampleRun.paidOut).db with proofs }, document) ∧
      (verify .standard document).isVerified = true ∧
      document.payload.raffleId = SampleRun.raffleId ∧
      proofs.rows = [⟨SampleRun.uuid 27, SampleRun.raffleId, protocolVersion, document,
        document.proofHash, none, none, none, none⟩] := by
  obtain ⟨⟨hfound, hnone⟩, hdraws⟩ := SampleRun.paidOut_unproved
  obtain ⟨row, hrow, hpaid⟩ := Option.map_eq_some_iff.mp hfound
  have hempty : ∀ proof, proof ∉ (Store.after .standard SampleRun.paidOut).db.proofs.rows :=
    List.eq_nil_iff_forall_not_mem.mp hnone
  obtain ⟨document, proofs, hgenerate, hverified, hraffle, hrows⟩ :=
    generateTerminalProof_succeeds .standard (fun payload => ⟨_, rfl⟩) SampleRun.paidOut hdraws
      SampleRun.raffleId row hrow hpaid (fun proof hmem => absurd hmem (hempty proof))
      (SampleRun.uuid 27) (fun proof hmem => absurd hmem (hempty proof))
  rw [hnone, List.nil_append] at hrows
  exact ⟨document, proofs, hgenerate, hverified, hraffle, hrows⟩

theorem executed_is_published_for_sample :
    ∃ proof ∈ (Store.after .standard SampleRun.proved).db.proofs.rows, ∃ drawRow,
      (Store.after .standard SampleRun.proved).db.draws.select
        (·.raffleId = SampleRun.raffleId) = [drawRow] ∧
      drawRow.winnerEntryId = proof.proofJson.payload.draw.winnerEntryId ∧
      payoutComponents proof.proofJson.payload.payouts =
        [(.winner, 4000), (.organizer, 750), (.platform, 250)] := by
  obtain ⟨proof, hid, hproofs, hpayouts⟩ := SampleRun.proved_db
  have hamounts : ((Store.after .standard SampleRun.paidOut).db.payouts.select
      (·.raffleId = SampleRun.raffleId)).map
        (fun payout => (payout.recipientType, payout.amountSats)) =
          [(.winner, 4000), (.organizer, 750), (.platform, 250)] := by
    decide +kernel
  rw [← hpayouts] at hamounts
  have hmem : proof ∈ (Store.after .standard SampleRun.proved).db.proofs.rows :=
    hproofs ▸ List.mem_singleton_self _
  obtain ⟨drawRow, hdraws, -, hwinner, hcomponents, -⟩ :=
    (executed_is_published .standard SampleRun.proved SampleRun.raffleId).2 proof hmem hid
  exact ⟨proof, hmem, drawRow, hdraws, hwinner, hcomponents.symm.trans hamounts⟩

end OpenPool
