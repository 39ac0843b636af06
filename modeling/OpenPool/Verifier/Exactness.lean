import OpenPool.Verifier.Semantics

/-! # Exactness of the verifier

The verifier accepts exactly the documents that satisfy a specification in terms of natural
numbers, tilings and hash chains. -/

namespace OpenPool

/-- What a proof document has to say to be valid. -/
structure ValidProof (prim : Primitives) (document : ProofDocument) : Prop where
  version : document.payload.protocolVersion = "OPENPOOL-1"
  nonempty : document.payload.entries ≠ []
  raffle : ∀ entry ∈ document.payload.entries, entry.data.raffleId = document.payload.raffleId
  index : ∀ (i : ℕ) (entry : LedgerEntry), document.payload.entries[i]? = some entry →
    entry.data.entryIndex.toNat = i
  tiles : Tiling.Tiles LedgerEntry.ticketStart LedgerEntry.ticketStop 0 document.payload.entries
    document.payload.freeze.totalTickets.toNat
  chained : HashChain.Chained LedgerEntry.previousEntryHash LedgerEntry.entryHash
    (LedgerEntry.digest prim.sha256) zeroHash document.payload.entries
  count : document.payload.freeze.entryCount.toNat = document.payload.entries.length
  pool : document.payload.freeze.totalPoolSats.asU64.toNat =
    (document.payload.entries.map LedgerEntry.sats).sum
  head : document.payload.entries.getLast?.map LedgerEntry.entryHash =
    some document.payload.freeze.entryChainHead
  root : document.payload.freeze.entriesRoot =
    entriesRoot prim.sha256 document.payload.raffleId document.payload.freeze.entryCount
      document.payload.freeze.entryChainHead
  height : document.payload.bitcoin.closeBlockHeight.toNat <
    document.payload.bitcoin.randomnessBlockHeight.toNat
  seed : document.payload.draw.seed = drawSeed prim.sha256
    { raffleId := document.payload.raffleId
      entriesRoot := document.payload.freeze.entriesRoot
      closeBlockHeight := document.payload.bitcoin.closeBlockHeight
      randomnessBlockHeight := document.payload.bitcoin.randomnessBlockHeight
      randomnessBlockHash := document.payload.bitcoin.randomnessBlockHash
      totalTickets := document.payload.freeze.totalTickets }
  ticket : document.payload.draw.winningTicket.toNat =
    Bytes.toNat document.payload.draw.seed.val % document.payload.freeze.totalTickets.toNat
  winner : ∃ (i : ℕ) (entry : LedgerEntry), document.payload.entries[i]? = some entry ∧
    (∀ (j : ℕ) (other : LedgerEntry), document.payload.entries[j]? = some other →
      (other.Owns document.payload.draw.winningTicket.toNat ↔ j = i)) ∧
    document.payload.draw.winnerEntryId = entry.data.entryId ∧
    document.payload.draw.winnerTicketRange = entry.data.ticketRange
  split : document.payload.payoutSplit.bps = 10000
  payouts : Allocated document.payload.payoutSplit document.payload.freeze.totalPoolSats
    document.payload.payouts
  hash : ∃ json, prim.jcs document.payload = .ok json ∧ prim.sha256 json = document.proofHash

theorem index_eq_range_iff (entries : List LedgerEntry) :
    entries.map LedgerEntry.index = List.range entries.length ↔
      ∀ (i : ℕ) (entry : LedgerEntry), entries[i]? = some entry →
        entry.data.entryIndex.toNat = i := by
  rw [map_index_eq_range_iff]
  constructor
  · intro h i entry hentry
    obtain ⟨hlt, rfl⟩ := List.getElem?_eq_some_iff.mp hentry
    exact h i hlt
  · intro h i hlt
    exact h i entries[i] (List.getElem?_eq_getElem hlt)

theorem getLast_map_eq_some_iff {entries : List LedgerEntry} (h : entries ≠ []) (hash : Hash32) :
    entries.getLast?.map LedgerEntry.entryHash = some hash ↔
      hash = HashChain.head LedgerEntry.entryHash zeroHash entries := by
  rw [List.getLast?_eq_some_getLast h, HashChain.head_eq_getLast LedgerEntry.entryHash zeroHash
    entries h, Option.map_some, Option.some.injEq, eq_comm]

/-- The ledger part of a valid proof. -/
theorem accepted_and_raffle_iff (prim : Primitives) (payload : ProofPayload) :
    summarizeLedger prim.sha256 payload.entries = .ok payload.freeze.summary ∧
        raffleIdIssues payload = [] ↔
      LedgerAccepted prim.sha256 payload.raffleId payload.entries payload.freeze.summary := by
  rw [summarizeLedger_eq_ok_iff]
  constructor
  · rintro ⟨⟨raffleId, h⟩, hraffle⟩
    suffices heq : raffleId = payload.raffleId by rwa [heq] at h
    rw [← h.raffle _ (List.head_mem h.nonempty)]
    simpa [raffleIdIssues, List.head?_eq_some_head h.nonempty] using hraffle
  · intro h
    have hfirst := h.raffle _ (List.head_mem h.nonempty)
    exact ⟨⟨_, h⟩, by simp [raffleIdIssues, List.head?_eq_some_head h.nonempty, hfirst]⟩

/-- Over a tiling, an owner of the ticket is the owner at one position. -/
theorem winner_iff {raffleId : RaffleId} {sha256 : List UInt8 → Hash32}
    {entries : List LedgerEntry} {summary : LedgerSummary}
    (h : LedgerAccepted sha256 raffleId entries summary) (ticket : ℕ)
    (P : LedgerEntry → Prop) :
    (∃ winner ∈ entries, winner.Owns ticket ∧ P winner) ↔
      ∃ (i : ℕ) (entry : LedgerEntry), entries[i]? = some entry ∧
        (∀ (j : ℕ) (other : LedgerEntry), entries[j]? = some other →
          (other.Owns ticket ↔ j = i)) ∧ P entry := by
  constructor
  · rintro ⟨winner, hmem, howns, hP⟩
    obtain ⟨i, hi⟩ := List.mem_iff_getElem?.mp hmem
    refine ⟨i, winner, hi, fun j other hj => ⟨fun hother => ?_, ?_⟩, hP⟩
    · exact h.tiles.owner_index_unique hj hi hother howns
    · rintro rfl
      rwa [Option.some.inj (hj.symm.trans hi)]
  · rintro ⟨i, entry, hi, howner, hP⟩
    exact ⟨entry, List.mem_of_getElem? hi, (howner i entry hi).mpr rfl, hP⟩

/-- The verifier in terms of the specifications of the ledger, the draw and the payouts. -/
theorem isVerified_iff_accepted (prim : Primitives) (document : ProofDocument) :
    (verify prim document).isVerified = true ↔
      document.payload.protocolVersion = protocolVersion ∧
      LedgerAccepted prim.sha256 document.payload.raffleId document.payload.entries
        document.payload.freeze.summary ∧
      document.payload.bitcoin.closeBlockHeight.toNat <
        document.payload.bitcoin.randomnessBlockHeight.toNat ∧
      Drawn prim.sha256 document.payload.entries
        (recomputedInput document.payload document.payload.freeze.summary)
        document.payload.draw ∧
      document.payload.payoutSplit.bps = 10000 ∧
      Allocated document.payload.payoutSplit document.payload.freeze.totalPoolSats
        document.payload.payouts ∧
      proofHash prim document.payload = .ok document.proofHash := by
  rw [isVerified_iff, summaryIssues_eq_nil_iff, heightIssues_eq_nil_iff, drawIssues_eq_nil_iff,
    payoutIssues_eq_nil_iff, ← accepted_and_raffle_iff]
  constructor
  · rintro ⟨hversion, ⟨hledger, hraffle, hheight, hdraw, hsplit, hpayouts⟩, hhash⟩
    have h := (accepted_and_raffle_iff prim document.payload).mp ⟨hledger, hraffle⟩
    obtain ⟨-, -, hdrawn⟩ := (draw_eq_ok_iff h _ _).mp hdraw
    exact ⟨hversion, ⟨hledger, hraffle⟩, hheight, hdrawn, hsplit, hpayouts, hhash⟩
  · rintro ⟨hversion, ⟨hledger, hraffle⟩, hheight, hdrawn, hsplit, hpayouts, hhash⟩
    have h := (accepted_and_raffle_iff prim document.payload).mp ⟨hledger, hraffle⟩
    exact ⟨hversion, ⟨hledger, hraffle, hheight, (draw_eq_ok_iff h _ _).mpr ⟨rfl, rfl, hdrawn⟩,
      hsplit, hpayouts⟩, hhash⟩

/-- The verifier accepts a document if and only if it is a valid proof. -/
theorem verify_isVerified_iff_validProof (prim : Primitives) (document : ProofDocument) :
    (verify prim document).isVerified = true ↔ ValidProof prim document := by
  rw [isVerified_iff_accepted, proofHash_eq_ok_iff]
  constructor
  · rintro ⟨hversion, h, hheight, hdrawn, hsplit, hpayouts, hhash⟩
    exact {
      version := hversion
      nonempty := h.nonempty
      raffle := h.raffle
      index := (index_eq_range_iff _).mp h.index
      tiles := h.tiles
      chained := h.chained
      count := h.count
      pool := h.pool.symm
      head := (getLast_map_eq_some_iff h.nonempty _).mpr h.head
      root := h.root
      height := hheight
      seed := hdrawn.seed
      ticket := hdrawn.ticket
      winner := (winner_iff h _ _).mp hdrawn.winner
      split := hsplit
      payouts := hpayouts
      hash := hhash }
  · intro h
    have hledger : LedgerAccepted prim.sha256 document.payload.raffleId document.payload.entries
        document.payload.freeze.summary := {
      nonempty := h.nonempty
      raffle := h.raffle
      index := (index_eq_range_iff _).mpr h.index
      tiles := h.tiles
      chained := h.chained
      count := h.count
      pool := h.pool.symm
      head := (getLast_map_eq_some_iff h.nonempty _).mp h.head
      root := h.root }
    have hdrawn : Drawn prim.sha256 document.payload.entries
        (recomputedInput document.payload document.payload.freeze.summary)
        document.payload.draw :=
      ⟨h.seed, h.ticket, (winner_iff hledger _ _).mpr h.winner⟩
    exact ⟨h.version, hledger, h.height, hdrawn, h.split, h.payouts, h.hash⟩

end OpenPool
