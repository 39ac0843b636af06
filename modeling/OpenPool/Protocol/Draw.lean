import OpenPool.Protocol.Ledger

/-! # The draw -/

namespace OpenPool

open Fallible

structure DrawInput where
  raffleId : RaffleId
  entriesRoot : Hash32
  closeBlockHeight : UInt64
  randomnessBlockHeight : UInt64
  randomnessBlockHash : Hash32
  totalTickets : UInt64
  deriving DecidableEq

structure DrawResult where
  seed : Hash32
  winningTicket : UInt64
  winnerEntryId : EntryId
  winnerTicketRange : TicketRange
  deriving DecidableEq

def drawTag : List UInt8 := "OPENPOOL-DRAW-V1".toUTF8.toList ++ [0]

def drawPreimage (input : DrawInput) : List UInt8 :=
  [drawTag,
    input.raffleId.uuid.val,
    input.entriesRoot.val,
    toBeBytes input.closeBlockHeight,
    toBeBytes input.randomnessBlockHeight,
    input.randomnessBlockHash.val].flatten

/-- The remainder is a `u128` that stays below the modulus, so no product overflows. -/
def winningTicket (seed : Hash32) (totalTickets : UInt64) : Except ProtocolError UInt64 :=
  if totalTickets = 0 then .error .zeroTickets
  else .ok (UInt64.ofNat (seed.val.foldl
    (fun remainder byte => (remainder * 256 + byte.toNat) % totalTickets.toNat) 0))

section Draw

variable (sha256 : List UInt8 → Hash32)

def drawSeed (input : DrawInput) : Hash32 := sha256 (drawPreimage input)

def draw (entries : List LedgerEntry) (input : DrawInput) : Except ProtocolError DrawResult := do
  let summary ← summarizeLedger sha256 entries
  ensure (summary.totalTickets = input.totalTickets)
    (.totalTicketsMismatch summary.totalTickets input.totalTickets)
  ensure (summary.entriesRoot = input.entriesRoot) .entriesRootMismatch
  let seed := drawSeed sha256 input
  let ticket ← winningTicket seed input.totalTickets
  let winner ← orElse (entries.find? fun entry => entry.data.ticketRange.contains ticket)
    (.winningEntryNotFound ticket)
  return ⟨seed, ticket, winner.data.entryId, winner.data.ticketRange⟩

/-- An entry owns the tickets of its range. -/
def LedgerEntry.Owns (entry : LedgerEntry) (ticket : ℕ) : Prop :=
  Tiling.Owns LedgerEntry.ticketStart LedgerEntry.ticketStop ticket entry

/-- The draw the facts determine: the ticket is the seed, read as an integer, modulo the
number of tickets, and the winner is an entry that owns it. -/
structure Drawn (entries : List LedgerEntry) (input : DrawInput) (result : DrawResult) : Prop where
  seed : result.seed = drawSeed sha256 input
  ticket : result.winningTicket.toNat = Bytes.toNat result.seed.val % input.totalTickets.toNat
  winner : ∃ winner ∈ entries, winner.Owns result.winningTicket.toNat ∧
    result.winnerEntryId = winner.data.entryId ∧ result.winnerTicketRange = winner.data.ticketRange

variable {sha256}

theorem winningTicket_eq_ok_iff (seed : Hash32) (totalTickets ticket : UInt64) :
    winningTicket seed totalTickets = .ok ticket ↔
      0 < totalTickets.toNat ∧ ticket.toNat = Bytes.toNat seed.val % totalTickets.toNat := by
  unfold winningTicket
  split
  · rename_i h
    subst h
    simp
  · rename_i h
    have hpos : 0 < totalTickets.toNat := by
      rw [Nat.pos_iff_ne_zero, ne_eq, ← UInt64.toNat_zero, UInt64.toNat_inj]
      exact h
    have hlt := Nat.mod_lt (Bytes.toNat seed.val) hpos
    have hbound : Bytes.toNat seed.val % totalTickets.toNat < UInt64.size :=
      hlt.trans totalTickets.toNat_lt
    rw [Bytes.foldl_mod, Except.ok.injEq, ← UInt64.toNat_inj, UInt64.toNat_ofNat_of_lt' hbound]
    exact ⟨fun heq => ⟨hpos, heq.symm⟩, fun heq => heq.2.symm⟩

theorem owns_iff_contains (entry : LedgerEntry) (ticket : UInt64) :
    entry.data.ticketRange.contains ticket = true ↔ entry.Owns ticket.toNat :=
  TicketRange.contains_iff _ _

theorem owns_of_find {entries : List LedgerEntry} {ticket : UInt64} {winner : LedgerEntry}
    (h : (entries.find? fun entry => entry.data.ticketRange.contains ticket) = some winner) :
    winner ∈ entries ∧ winner.Owns ticket.toNat := by
  have hcontains := List.find?_some h
  exact ⟨List.mem_of_find?_eq_some h, (owns_iff_contains winner ticket).mp hcontains⟩

/-- Drawing succeeds on every accepted ledger, with the result the facts determine. -/
theorem draw_eq_ok_iff {raffleId : RaffleId} {entries : List LedgerEntry} {summary : LedgerSummary}
    (h : LedgerAccepted sha256 raffleId entries summary) (input : DrawInput) (result : DrawResult) :
    draw sha256 entries input = .ok result ↔
      input.totalTickets = summary.totalTickets ∧ input.entriesRoot = summary.entriesRoot ∧
        Drawn sha256 entries input result := by
  simp only [draw, h.summarizeLedger_eq, bind_eq_ok_iff, ensure_eq_ok_iff, orElse_eq_ok_iff,
    pure_eq_ok_iff, Except.ok.injEq, exists_eq_left', exists_const, winningTicket_eq_ok_iff]
  constructor
  · rintro ⟨htickets, hroot, ticket, ⟨-, hticket⟩, winner, hwinner, rfl⟩
    obtain ⟨hmem, howns⟩ := owns_of_find hwinner
    exact ⟨htickets.symm, hroot.symm, rfl, hticket, winner, hmem, howns, rfl, rfl⟩
  · obtain ⟨seed, ticket, entryId, range⟩ := result
    rintro ⟨htickets, hroot, rfl, hticket, winner, hmem, howns, rfl, rfl⟩
    have hpos : 0 < input.totalTickets.toNat := by
      rw [htickets]
      exact h.tiles.stop_pos h.nonempty
    refine ⟨htickets.symm, hroot.symm, ticket, ⟨hpos, hticket⟩, winner, ?_, rfl⟩
    -- the first entry that contains the ticket is its only owner
    cases hfind : entries.find? fun entry => entry.data.ticketRange.contains ticket with
    | none =>
        have := List.find?_eq_none.mp hfind winner hmem
        exact absurd ((owns_iff_contains _ _).mpr howns) this
    | some other =>
        obtain ⟨hmem', howns'⟩ := owns_of_find hfind
        rw [h.tiles.owner_unique hmem' hmem howns' howns]

theorem exists_draw {raffleId : RaffleId} {entries : List LedgerEntry} {summary : LedgerSummary}
    (h : LedgerAccepted sha256 raffleId entries summary) (input : DrawInput)
    (htickets : input.totalTickets = summary.totalTickets)
    (hroot : input.entriesRoot = summary.entriesRoot) :
    ∃ result, draw sha256 entries input = .ok result := by
  have hpos : 0 < input.totalTickets.toNat := by
    rw [htickets]
    exact h.tiles.stop_pos h.nonempty
  obtain ⟨ticket, hticket⟩ : ∃ ticket : UInt64,
      ticket.toNat = Bytes.toNat (drawSeed sha256 input).val % input.totalTickets.toNat :=
    ⟨_, UInt64.toNat_ofNat_of_lt' ((Nat.mod_lt _ hpos).trans input.totalTickets.toNat_lt)⟩
  obtain ⟨winner, hmem, howns⟩ := h.tiles.exists_owner (Nat.zero_le ticket.toNat) (by
    rw [hticket, ← htickets]
    exact Nat.mod_lt _ hpos)
  exact ⟨⟨_, ticket, winner.data.entryId, winner.data.ticketRange⟩,
    (draw_eq_ok_iff h input _).mpr ⟨htickets, hroot, rfl, hticket, winner, hmem, howns, rfl, rfl⟩⟩

end Draw

end OpenPool
