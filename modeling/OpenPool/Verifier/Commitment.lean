import Mathlib.Data.Set.Function
import OpenPool.Verifier.Exactness

/-! # What the entries root commits to -/

namespace OpenPool

/-- The entries agree in every field that is hashed, and in their hashes. -/
structure SameCommitted (x y : LedgerEntry) : Prop where
  raffleId : x.data.raffleId = y.data.raffleId
  entryIndex : x.data.entryIndex = y.data.entryIndex
  participantPublicId : x.data.participantPublicId = y.data.participantPublicId
  paymentReferenceHash : x.data.paymentReferenceHash = y.data.paymentReferenceHash
  amountSats : x.data.amountSats = y.data.amountSats
  ticketRange : x.data.ticketRange = y.data.ticketRange
  settledAtUnixMs : x.data.settledAtUnixMs = y.data.settledAtUnixMs
  previousEntryHash : x.previousEntryHash = y.previousEntryHash
  entryHash : x.entryHash = y.entryHash

/-- The inputs of SHA-256 on the way from the entries to the root. -/
def rootPreimages (entries : List LedgerEntry) (summary : LedgerSummary) : List (List UInt8) :=
  entries.head?.toList.map (fun first =>
      entriesRootPreimage first.data.raffleId summary.entryCount summary.entryChainHead) ++
    entries.map fun entry => entryPreimage entry.data entry.previousEntryHash

/-- SHA-256 has no collision among the inputs that lead to two roots. -/
def CollisionFree (sha256 : List UInt8 → Hash32) (xs ys : List LedgerEntry)
    (sx sy : LedgerSummary) : Prop :=
  Set.InjOn sha256 {preimage | preimage ∈ rootPreimages xs sx ∨ preimage ∈ rootPreimages ys sy}

theorem sameCommitted_of_hashed {x y : LedgerEntry} (hdata : x.data.hashed = y.data.hashed)
    (hprevious : x.previousEntryHash = y.previousEntryHash) (hown : x.entryHash = y.entryHash) :
    SameCommitted x y := by
  simp only [EntryData.hashed, HashedFields.mk.injEq] at hdata
  obtain ⟨hraffle, hindex, hparticipant, hreference, hamount, hrange, hsettled⟩ := hdata
  exact ⟨hraffle, hindex, hparticipant, hreference, hamount, hrange, hsettled, hprevious, hown⟩

theorem entryPreimage_mem_rootPreimages {entries : List LedgerEntry} {entry : LedgerEntry}
    (h : entry ∈ entries) (summary : LedgerSummary) :
    entryPreimage entry.data entry.previousEntryHash ∈ rootPreimages entries summary :=
  List.mem_append_right _ (List.mem_map_of_mem h)

section Binding

variable {sha256 : List UInt8 → Hash32} {raffleX raffleY : RaffleId} {xs ys : List LedgerEntry}
  {sx sy : LedgerSummary}

theorem LedgerAccepted.rootPreimage_mem (h : LedgerAccepted sha256 raffleX xs sx) :
    entriesRootPreimage raffleX sx.entryCount sx.entryChainHead ∈ rootPreimages xs sx := by
  refine List.mem_append_left _ ?_
  have hfirst := h.raffle _ (List.head_mem h.nonempty)
  simp [List.head?_eq_some_head h.nonempty, hfirst]

/-- Two accepted ledgers with one root agree entry by entry. -/
theorem LedgerAccepted.binding (hx : LedgerAccepted sha256 raffleX xs sx)
    (hy : LedgerAccepted sha256 raffleY ys sy) (hfree : CollisionFree sha256 xs ys sx sy)
    (hroot : sx.entriesRoot = sy.entriesRoot) :
    raffleX = raffleY ∧ List.Forall₂ SameCommitted xs ys := by
  have hpreimage : entriesRootPreimage raffleX sx.entryCount sx.entryChainHead =
      entriesRootPreimage raffleY sy.entryCount sy.entryChainHead := by
    refine hfree (.inl hx.rootPreimage_mem) (.inr hy.rootPreimage_mem) ?_
    rw [hx.root, hy.root] at hroot
    exact hroot
  obtain ⟨hraffle, hcount, hhead⟩ := entriesRootPreimage_inj.mp hpreimage
  have hlength : xs.length = ys.length := by rw [← hx.count, ← hy.count, hcount]
  rw [hx.head, hy.head] at hhead
  have hbinding := hx.chained.binding _ _ _ (fun entry => entry.data.hashed) hy.chained hlength
    hhead (by
      intro x hmemx y hmemy hdigest
      exact entryPreimage_inj.mp (hfree (.inl (entryPreimage_mem_rootPreimages hmemx _))
        (.inr (entryPreimage_mem_rootPreimages hmemy _)) hdigest))
  refine ⟨hraffle, hbinding.imp ?_⟩
  rintro x y ⟨hdata, hprevious, hown⟩
  exact sameCommitted_of_hashed hdata hprevious hown

end Binding

/-! ## A sample ledger

The golden proof with two entries, for any entry ids. -/

namespace Sample

def uuidOf (byte : UInt8) : Uuid := .replicate 16 byte

def hashOf (byte : UInt8) : Hash32 := .replicate 32 byte

def raffleId : RaffleId := ⟨uuidOf 0x11⟩

def entryA : EntryId := ⟨uuidOf 0xaa⟩

def entryB : EntryId := ⟨uuidOf 0xbb⟩

def first (entryId : EntryId) : LedgerEntry :=
  .create Sha256.digest
    { raffleId, entryId
      entryIndex := 0
      participantPublicId := hashOf 1
      paymentReferenceHash := hashOf 11
      amountSats := ⟨2000⟩
      ticketRange := ⟨0, 2⟩
      settledAtUnixMs := 1700000000000 } zeroHash

def second (firstId entryId : EntryId) : LedgerEntry :=
  .create Sha256.digest
    { raffleId, entryId
      entryIndex := 1
      participantPublicId := hashOf 2
      paymentReferenceHash := hashOf 12
      amountSats := ⟨3000⟩
      ticketRange := ⟨2, 5⟩
      settledAtUnixMs := 1700000000001 } (first firstId).entryHash

def entries (a b : EntryId) : List LedgerEntry := [first a, second a b]

def freeze (a b : EntryId) : FreezeFacts where
  entryCount := 2
  totalTickets := 5
  totalPoolSats := ⟨5000⟩
  entryChainHead := (second a b).entryHash
  entriesRoot := entriesRoot Sha256.digest raffleId 2 (second a b).entryHash

def bitcoin : BitcoinFacts := ⟨900000, 900006, hashOf 42⟩

def seed (a b : EntryId) : Hash32 :=
  drawSeed Sha256.digest ⟨raffleId, (freeze a b).entriesRoot, 900000, 900006, hashOf 42, 5⟩

def split : PayoutSplit := ⟨⟨9500⟩, ⟨400⟩, ⟨100⟩⟩

def payload (a b : EntryId) : ProofPayload where
  protocolVersion := protocolVersion
  raffleId
  payoutSplit := split
  entries := entries a b
  freeze := freeze a b
  bitcoin
  draw := ⟨seed a b, 1, a, ⟨0, 2⟩⟩
  payouts := split.allocate ⟨5000⟩

def document (a b : EntryId) : ProofDocument :=
  ⟨payload a b, Sha256.digest (payload a b).toJson⟩

theorem accepted (a b : EntryId) :
    LedgerAccepted Sha256.digest raffleId (entries a b) (freeze a b).summary where
  nonempty := by simp [entries]
  raffle := by simp [entries, first, second, LedgerEntry.create]
  index := rfl
  tiles := ⟨rfl, Nat.zero_lt_two, rfl, (by decide : 2 < 5), rfl⟩
  chained := ⟨rfl, rfl, rfl, rfl, trivial⟩
  count := rfl
  pool := rfl
  head := rfl
  root := rfl

/-- The entry id is not among the hashed fields. -/
theorem first_entryHash_eq (a a' : EntryId) : (first a).entryHash = (first a').entryHash := by
  change Sha256.digest (entryPreimage _ _) = Sha256.digest (entryPreimage _ _)
  exact congrArg Sha256.digest rfl

theorem second_preimage_eq (a b a' b' : EntryId) :
    entryPreimage (second a b).data (first a).entryHash =
      entryPreimage (second a' b').data (first a').entryHash := by
  rw [first_entryHash_eq a a']
  rfl

theorem second_entryHash_eq (a b a' b' : EntryId) :
    (second a b).entryHash = (second a' b').entryHash :=
  congrArg Sha256.digest (second_preimage_eq a b a' b')

theorem entriesRoot_eq (a b a' b' : EntryId) :
    (freeze a b).entriesRoot = (freeze a' b').entriesRoot :=
  congrArg (entriesRoot Sha256.digest raffleId 2) (second_entryHash_eq a b a' b')

theorem seed_eq (a b a' b' : EntryId) : seed a b = seed a' b' := by
  unfold seed
  rw [entriesRoot_eq a b a' b']

/-- The first entry holds the ticket that is drawn. -/
theorem ticket_eq (a b : EntryId) : Bytes.toNat (seed a b).val % 5 = 1 := by
  rw [seed_eq a b entryA entryB]
  decide +kernel

theorem drawn (a b : EntryId) : Drawn Sha256.digest (entries a b)
    (recomputedInput (payload a b) (freeze a b).summary) (payload a b).draw where
  seed := rfl
  ticket := (ticket_eq a b).symm
  winner := ⟨first a, List.mem_cons_self .., ⟨Nat.zero_le _, Nat.one_lt_two⟩, rfl, rfl⟩

theorem verified (a b : EntryId) : (verify .standard (document a b)).isVerified = true := by
  rw [isVerified_iff_accepted]
  have hheight : bitcoin.closeBlockHeight.toNat < bitcoin.randomnessBlockHeight.toNat := by decide
  have hsplit : split.bps = 10000 := by decide
  exact ⟨rfl, accepted a b, hheight, drawn a b, hsplit, split.allocate_spec hsplit _, rfl⟩

theorem rootPreimages_eq (a b a' b' : EntryId) :
    rootPreimages (entries a b) (freeze a b).summary =
      rootPreimages (entries a' b') (freeze a' b').summary := by
  change [entriesRootPreimage raffleId 2 (second a b).entryHash,
      entryPreimage (first a).data zeroHash,
      entryPreimage (second a b).data (first a).entryHash] =
    [entriesRootPreimage raffleId 2 (second a' b').entryHash,
      entryPreimage (first a').data zeroHash,
      entryPreimage (second a' b').data (first a').entryHash]
  rw [second_preimage_eq a b a' b', second_entryHash_eq a b a' b']
  rfl

theorem collisionFree :
    CollisionFree Sha256.digest (entries entryA entryB) (entries entryB entryA)
      (freeze entryA entryB).summary (freeze entryB entryA).summary := by
  have hfree : ∀ x ∈ rootPreimages (entries entryA entryB) (freeze entryA entryB).summary,
      ∀ y ∈ rootPreimages (entries entryA entryB) (freeze entryA entryB).summary,
        Sha256.digest x = Sha256.digest y → x = y := by decide +kernel
  intro x hx y hy heq
  rw [rootPreimages_eq entryB entryA entryA entryB, Set.mem_ofPred_eq, or_self] at hx hy
  exact hfree x hx y hy heq

end Sample

/-! ## The root binds the ledger -/

/-- Accepted ledgers with the same root have the same length and agree in every hashed field
at every index, raffle id and hashes included. -/
theorem entriesRoot_binds_entries {sha256 : List UInt8 → Hash32} {xs ys : List LedgerEntry}
    {sx sy : LedgerSummary} (hx : summarizeLedger sha256 xs = .ok sx)
    (hy : summarizeLedger sha256 ys = .ok sy) (hfree : CollisionFree sha256 xs ys sx sy)
    (hroot : sx.entriesRoot = sy.entriesRoot) :
    xs.length = ys.length ∧ ∀ (i : ℕ) (x y : LedgerEntry),
      xs[i]? = some x → ys[i]? = some y → SameCommitted x y := by
  obtain ⟨raffleX, hx⟩ := (summarizeLedger_eq_ok_iff _ _).mp hx
  obtain ⟨raffleY, hy⟩ := (summarizeLedger_eq_ok_iff _ _).mp hy
  obtain ⟨-, hsame⟩ := hx.binding hy hfree hroot
  refine ⟨hsame.length_eq, ?_⟩
  intro i x y hgetx hgety
  obtain ⟨hi, rfl⟩ := List.getElem?_eq_some_iff.mp hgetx
  obtain ⟨hj, rfl⟩ := List.getElem?_eq_some_iff.mp hgety
  exact hsame.get hi hj

/-- Two ledgers that differ in their entry ids have one root. -/
theorem entriesRoot_binds_sample :
    SameCommitted (Sample.second Sample.entryA Sample.entryB)
      (Sample.second Sample.entryB Sample.entryA) :=
  (entriesRoot_binds_entries (Sample.accepted Sample.entryA Sample.entryB).summarizeLedger_eq
    (Sample.accepted Sample.entryB Sample.entryA).summarizeLedger_eq Sample.collisionFree
    (Sample.entriesRoot_eq ..)).2 1 _ _ rfl rfl

/-! ## The root fixes the winner -/

theorem tiles_stop_eq {xs ys : List LedgerEntry} {start m n : ℕ}
    (hsame : List.Forall₂ SameCommitted xs ys)
    (hx : Tiling.Tiles LedgerEntry.ticketStart LedgerEntry.ticketStop start xs m)
    (hy : Tiling.Tiles LedgerEntry.ticketStart LedgerEntry.ticketStop start ys n) : m = n := by
  induction hsame generalizing start with
  | nil => exact hx.symm.trans hy
  | cons hxy _ ih =>
      obtain ⟨-, -, hx⟩ := hx
      obtain ⟨-, -, hy⟩ := hy
      refine ih hx ?_
      rwa [LedgerEntry.ticketStop, hxy.ticketRange]

/-- Two verified proofs of one raffle with one root and the same block facts draw the same
seed, ticket and ticket range, and their winners stand at one index of the ledger and agree
in every hashed field. The entry ids published for the winner are those the documents give
that entry; they are not hashed. -/
theorem entriesRoot_fixes_winner {prim : Primitives} {a b : ProofDocument}
    (ha : (verify prim a).isVerified = true) (hb : (verify prim b).isVerified = true)
    (hraffle : a.payload.raffleId = b.payload.raffleId)
    (hroot : a.payload.freeze.entriesRoot = b.payload.freeze.entriesRoot)
    (hbitcoin : a.payload.bitcoin = b.payload.bitcoin)
    (hfree : CollisionFree prim.sha256 a.payload.entries b.payload.entries
      a.payload.freeze.summary b.payload.freeze.summary) :
    a.payload.draw.seed = b.payload.draw.seed ∧
    a.payload.draw.winningTicket = b.payload.draw.winningTicket ∧
    a.payload.draw.winnerTicketRange = b.payload.draw.winnerTicketRange ∧
    ∃ (i : ℕ) (x y : LedgerEntry), a.payload.entries[i]? = some x ∧
      b.payload.entries[i]? = some y ∧ SameCommitted x y ∧
      x.Owns a.payload.draw.winningTicket.toNat ∧
      a.payload.draw.winnerEntryId = x.data.entryId ∧
      b.payload.draw.winnerEntryId = y.data.entryId := by
  obtain ⟨-, hledgera, -, hdrawna, -⟩ := (isVerified_iff_accepted prim a).mp ha
  obtain ⟨-, hledgerb, -, hdrawnb, -⟩ := (isVerified_iff_accepted prim b).mp hb
  obtain ⟨-, hsame⟩ := hledgera.binding hledgerb hfree hroot
  have htickets : a.payload.freeze.totalTickets.toNat = b.payload.freeze.totalTickets.toNat :=
    tiles_stop_eq hsame hledgera.tiles hledgerb.tiles
  have hseed : a.payload.draw.seed = b.payload.draw.seed := by
    rw [hdrawna.seed, hdrawnb.seed, drawSeed, drawSeed, drawPreimage, drawPreimage]
    simp only [recomputedInput, FreezeFacts.summary, hraffle, hroot, hbitcoin]
  have hticket : a.payload.draw.winningTicket = b.payload.draw.winningTicket := by
    refine UInt64.toNat_inj.mp ?_
    rw [hdrawna.ticket, hdrawnb.ticket, hseed]
    exact congrArg (Bytes.toNat b.payload.draw.seed.val % ·) htickets
  obtain ⟨x, hmemx, hownsx, hidx, hrangex⟩ := hdrawna.winner
  obtain ⟨y, hmemy, hownsy, hidy, hrangey⟩ := hdrawnb.winner
  obtain ⟨i, hi⟩ := List.mem_iff_getElem?.mp hmemx
  obtain ⟨j, hj⟩ := List.mem_iff_getElem?.mp hmemy
  -- the entry of `b` at the winner's index owns the same ticket, so it is the winner of `b`
  obtain ⟨hlt, hgetx⟩ := List.getElem?_eq_some_iff.mp hi
  have hlt' : i < b.payload.entries.length := hsame.length_eq ▸ hlt
  have hxy : SameCommitted x b.payload.entries[i] := hgetx ▸ hsame.get hlt hlt'
  have howns : b.payload.entries[i].Owns b.payload.draw.winningTicket.toNat := by
    rw [← hticket]
    simpa only [LedgerEntry.Owns, Tiling.Owns, LedgerEntry.ticketStart, LedgerEntry.ticketStop,
      hxy.ticketRange] using hownsx
  have hij : i = j := hledgerb.tiles.owner_index_unique
    (List.getElem?_eq_getElem hlt') hj howns hownsy
  subst hij
  have hgety : b.payload.entries[i] = y := (List.getElem?_eq_some_iff.mp hj).2
  rw [hgety] at hxy
  refine ⟨hseed, hticket, ?_, i, x, y, hi, hj, hxy, hownsx, hidx, hidy⟩
  rw [hrangex, hrangey, hxy.ticketRange]

theorem entriesRoot_fixes_winner_sample :
    (Sample.payload Sample.entryA Sample.entryB).draw.seed =
      (Sample.payload Sample.entryB Sample.entryA).draw.seed ∧
    (Sample.payload Sample.entryA Sample.entryB).draw.winningTicket =
      (Sample.payload Sample.entryB Sample.entryA).draw.winningTicket ∧
    (Sample.payload Sample.entryA Sample.entryB).draw.winnerTicketRange =
      (Sample.payload Sample.entryB Sample.entryA).draw.winnerTicketRange :=
  have h := entriesRoot_fixes_winner (Sample.verified Sample.entryA Sample.entryB)
    (Sample.verified Sample.entryB Sample.entryA) rfl (Sample.entriesRoot_eq ..) rfl
    Sample.collisionFree
  ⟨h.1, h.2.1, h.2.2.1⟩

/-- The two sample proofs are verified and share raffle, root and block facts, and SHA-256 has
no collision among their inputs, yet they publish different winner entry ids. -/
theorem winnerEntryId_not_fixed :
    (verify .standard (Sample.document Sample.entryA Sample.entryB)).isVerified = true ∧
    (verify .standard (Sample.document Sample.entryB Sample.entryA)).isVerified = true ∧
    (Sample.payload Sample.entryA Sample.entryB).raffleId =
      (Sample.payload Sample.entryB Sample.entryA).raffleId ∧
    (Sample.payload Sample.entryA Sample.entryB).freeze.entriesRoot =
      (Sample.payload Sample.entryB Sample.entryA).freeze.entriesRoot ∧
    (Sample.payload Sample.entryA Sample.entryB).bitcoin =
      (Sample.payload Sample.entryB Sample.entryA).bitcoin ∧
    CollisionFree Primitives.standard.sha256 (Sample.payload Sample.entryA Sample.entryB).entries
      (Sample.payload Sample.entryB Sample.entryA).entries
      (Sample.payload Sample.entryA Sample.entryB).freeze.summary
      (Sample.payload Sample.entryB Sample.entryA).freeze.summary ∧
    (Sample.payload Sample.entryA Sample.entryB).draw.winnerEntryId ≠
      (Sample.payload Sample.entryB Sample.entryA).draw.winnerEntryId :=
  ⟨Sample.verified .., Sample.verified .., rfl, Sample.entriesRoot_eq .., rfl,
    Sample.collisionFree, by decide +kernel⟩

end OpenPool
