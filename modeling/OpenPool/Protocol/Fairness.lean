import OpenPool.Library.Residues
import OpenPool.Library.Sha256
import OpenPool.Protocol.Draw

/-! # Owners of tickets, and the fairness of the draw

The entries of an accepted ledger share out the tickets, so the draw always finds one winner,
and a uniform seed chooses every ticket equally often up to one. -/

namespace OpenPool

open Fallible

/-- The entry at position `i` owns the ticket. -/
def OwnsAt (entries : List LedgerEntry) (ticket : UInt64) (i : ℕ) : Prop :=
  ∃ entry, entries[i]? = some entry ∧ entry.data.ticketRange.contains ticket = true

/-- Each ticket below the total has one owner, and no other ticket has any. -/
structure Partitioned (entries : List LedgerEntry) (totalTickets : UInt64) : Prop where
  owned : ∀ ticket, ticket < totalTickets → ∃! i, OwnsAt entries ticket i
  outside : ∀ ticket, totalTickets ≤ ticket → ∀ i, ¬ OwnsAt entries ticket i

section Owners

variable {sha256 : List UInt8 → Hash32} {raffleId : RaffleId} {entries : List LedgerEntry}
  {summary : LedgerSummary}

theorem LedgerAccepted.ownsAt_unique (h : LedgerAccepted sha256 raffleId entries summary)
    {ticket : UInt64} {i j : ℕ} (hi : OwnsAt entries ticket i) (hj : OwnsAt entries ticket j) :
    i = j := by
  obtain ⟨a, ha, hcontains⟩ := hi
  obtain ⟨b, hb, hcontains'⟩ := hj
  apply h.tiles.owner_index_unique ha hb
  · exact (owns_iff_contains a ticket).mp hcontains
  · exact (owns_iff_contains b ticket).mp hcontains'

theorem LedgerAccepted.partitioned (h : LedgerAccepted sha256 raffleId entries summary) :
    Partitioned entries summary.totalTickets where
  owned := by
    intro ticket hlt
    obtain ⟨owner, hmem, howns⟩ := h.tiles.exists_owner (Nat.zero_le ticket.toNat)
      (UInt64.lt_iff_toNat_lt.mp hlt)
    obtain ⟨i, hi⟩ := List.mem_iff_getElem?.mp hmem
    have hat : OwnsAt entries ticket i := ⟨owner, hi, (owns_iff_contains owner ticket).mpr howns⟩
    exact ⟨i, hat, fun j hj => h.ownsAt_unique hj hat⟩
  outside := by
    rintro ticket hle i ⟨entry, hi, hcontains⟩
    have howns := (owns_iff_contains entry ticket).mp hcontains
    have hbounds := h.tiles.bounds entry (List.mem_of_getElem? hi)
    have hle := UInt64.le_iff_toNat_le.mp hle
    have hlt := howns.2
    omega

end Owners

/-! ## The errors of the draw -/

/-- The errors `draw` adds to those of the summary after the comparison of the inputs. -/
def ProtocolError.isDrawError : ProtocolError → Bool
  | zeroTickets => true
  | winningEntryNotFound _ => true
  | _ => false

section Errors

variable (sha256 : List UInt8 → Hash32) {e : ProtocolError}

theorem ne_of_isDrawError {e' : ProtocolError} (h : e.isDrawError = true)
    (h' : e'.isDrawError = false) : e' ≠ e := by
  rintro rfl
  simp [h] at h'

theorem summarizeEntry_avoids (h : e.isDrawError = true) (raffleId : RaffleId) (position : ℕ)
    (cursor : LedgerCursor) (entry : LedgerEntry) :
    Avoids e (summarizeEntry sha256 raffleId position cursor entry) := by
  unfold summarizeEntry
  refine (avoids_orElse (ne_of_isDrawError h (by rfl))).bind fun _ _ => ?_
  refine (avoids_ensure (ne_of_isDrawError h (by rfl))).bind fun _ _ => ?_
  refine (avoids_ensure (ne_of_isDrawError h (by rfl))).bind fun _ _ => ?_
  refine (avoids_ensure (ne_of_isDrawError h (by rfl))).bind fun _ _ => ?_
  refine (avoids_ensure (ne_of_isDrawError h (by rfl))).bind fun _ _ => ?_
  refine (avoids_ensure (ne_of_isDrawError h (by rfl))).bind fun _ _ => ?_
  refine (avoids_ensure (ne_of_isDrawError h (by rfl))).bind fun _ _ => ?_
  exact (avoids_orElse (ne_of_isDrawError h (by rfl))).bind fun _ _ => avoids_ok _

theorem summarizeEntries_avoids (h : e.isDrawError = true) (raffleId : RaffleId) (position : ℕ)
    (cursor : LedgerCursor) (entries : List LedgerEntry) :
    Avoids e (summarizeEntries sha256 raffleId position cursor entries) := by
  induction entries generalizing position cursor with
  | nil => exact avoids_ok cursor
  | cons entry entries ih =>
      apply (summarizeEntry_avoids sha256 h raffleId position cursor entry).bind
      intro next _
      exact ih (position + 1) next

theorem summarizeLedger_avoids (h : e.isDrawError = true) (entries : List LedgerEntry) :
    Avoids e (summarizeLedger sha256 entries) := by
  unfold summarizeLedger
  refine (avoids_orElse (ne_of_isDrawError h (by rfl))).bind fun first _ => ?_
  refine (summarizeEntries_avoids sha256 h _ 0 _ entries).bind fun cursor _ => ?_
  exact (avoids_orElse (ne_of_isDrawError h (by rfl))).bind fun count _ => avoids_ok _

end Errors

/-- What a draw over the entries' own total and root returns. -/
structure DrawnFrom (entries : List LedgerEntry) (totalTickets : UInt64) (result : DrawResult) :
    Prop where
  ticket : result.winningTicket < totalTickets
  winner : ∃ i winner, entries[i]? = some winner ∧
    (∀ j, OwnsAt entries result.winningTicket j ↔ j = i) ∧
    result.winnerEntryId = winner.data.entryId ∧ result.winnerTicketRange = winner.data.ticketRange

section Exact

variable {sha256 : List UInt8 → Hash32} {raffleId : RaffleId} {entries : List LedgerEntry}
  {summary : LedgerSummary}

theorem LedgerAccepted.exists_drawnFrom (h : LedgerAccepted sha256 raffleId entries summary)
    (input : DrawInput) (htickets : input.totalTickets = summary.totalTickets)
    (hroot : input.entriesRoot = summary.entriesRoot) :
    ∃ result, draw sha256 entries input = .ok result ∧
      DrawnFrom entries summary.totalTickets result := by
  obtain ⟨result, hdraw⟩ := exists_draw h input htickets hroot
  have hdrawn := ((draw_eq_ok_iff h input result).mp hdraw).2.2
  obtain ⟨winner, hmem, howns, hid, hrange⟩ := hdrawn.winner
  obtain ⟨i, hi⟩ := List.mem_iff_getElem?.mp hmem
  have hat : OwnsAt entries result.winningTicket i :=
    ⟨winner, hi, (owns_iff_contains winner _).mpr howns⟩
  refine ⟨result, hdraw, ?_, i, winner, hi, ?_, hid, hrange⟩
  · rw [UInt64.lt_iff_toNat_lt, hdrawn.ticket, htickets]
    exact Nat.mod_lt _ (h.tiles.stop_pos h.nonempty)
  · intro j
    constructor
    · intro hj
      exact h.ownsAt_unique hj hat
    · rintro rfl
      exact hat

theorem draw_eq_error (input : DrawInput)
    (h : ∀ summary, summarizeLedger sha256 entries = .ok summary →
      ¬ (input.totalTickets = summary.totalTickets ∧ input.entriesRoot = summary.entriesRoot)) :
    ∃ error, draw sha256 entries input = .error error := by
  cases hdraw : draw sha256 entries input with
  | error error => exact ⟨error, rfl⟩
  | ok result =>
      have hok := hdraw
      simp only [draw, bind_eq_ok_iff, ensure_eq_ok_iff, exists_const] at hok
      obtain ⟨summary, hsummary, htickets, hroot, -⟩ := hok
      exact absurd ⟨htickets.symm, hroot.symm⟩ (h summary hsummary)

/-- Over an accepted ledger the comparisons of total and root are the only ones to fail. -/
theorem draw_avoids {e : ProtocolError} (h : e.isDrawError = true) (entries : List LedgerEntry)
    (input : DrawInput) : Avoids e (draw sha256 entries input) := by
  cases hsummary : summarizeLedger sha256 entries with
  | error error =>
      have hne := summarizeLedger_avoids sha256 h entries
      rw [hsummary] at hne
      simpa [draw, hsummary, Avoids] using hne
  | ok summary =>
      obtain ⟨raffleId, haccepted⟩ := (summarizeLedger_eq_ok_iff entries summary).mp hsummary
      by_cases htickets : summary.totalTickets = input.totalTickets
      · by_cases hroot : summary.entriesRoot = input.entriesRoot
        · obtain ⟨result, hok⟩ := exists_draw haccepted input htickets.symm hroot.symm
          rw [hok]
          exact avoids_ok result
        · rw [draw, hsummary, ok_bind, ensure_of _ _ htickets, ok_bind, ensure_of_not _ _ hroot]
          exact fun heq => ne_of_isDrawError h (by rfl) (Except.error.inj heq)
      · rw [draw, hsummary, ok_bind, ensure_of_not _ _ htickets]
        exact fun heq => ne_of_isDrawError h (by rfl) (Except.error.inj heq)

end Exact

/-- The draw finds the one owner of its ticket whenever total and root are those of an accepted
ledger; otherwise it fails, and never for want of tickets or of an owner. -/
theorem draw_finds_owner (sha256 : List UInt8 → Hash32) (entries : List LedgerEntry) :
    (∀ summary, summarizeLedger sha256 entries = .ok summary →
      Partitioned entries summary.totalTickets ∧
        ∀ input : DrawInput, input.totalTickets = summary.totalTickets →
          input.entriesRoot = summary.entriesRoot →
            ∃ result, draw sha256 entries input = .ok result ∧
              DrawnFrom entries summary.totalTickets result) ∧
    (∀ input : DrawInput, (∀ summary, summarizeLedger sha256 entries = .ok summary →
      ¬ (input.totalTickets = summary.totalTickets ∧ input.entriesRoot = summary.entriesRoot)) →
        ∃ error, draw sha256 entries input = .error error) ∧
    ∀ input, draw sha256 entries input ≠ .error .zeroTickets ∧
      ∀ ticket, draw sha256 entries input ≠ .error (.winningEntryNotFound ticket) := by
  refine ⟨?_, fun input h => draw_eq_error input h, ?_⟩
  · intro summary hsummary
    obtain ⟨raffleId, haccepted⟩ := (summarizeLedger_eq_ok_iff entries summary).mp hsummary
    exact ⟨haccepted.partitioned, fun input htickets hroot =>
      haccepted.exists_drawnFrom input htickets hroot⟩
  · intro input
    exact ⟨draw_avoids rfl entries input, fun ticket => draw_avoids rfl entries input⟩

/-! ## Fairness -/

/-- The number of seeds that choose the ticket. -/
noncomputable def seedsChoosing (totalTickets ticket : UInt64) : ℕ :=
  Nat.card {seed : Hash32 // winningTicket seed totalTickets = .ok ticket}

/-- The number of seeds that choose a ticket of the range. -/
noncomputable def seedsWithin (totalTickets : UInt64) (range : TicketRange) : ℕ :=
  Nat.card {seed : Hash32 //
    ∃ ticket, winningTicket seed totalTickets = .ok ticket ∧ range.contains ticket = true}

theorem seedsChoosing_eq {totalTickets : UInt64} (hpos : 0 < totalTickets.toNat) (ticket : UInt64) :
    seedsChoosing totalTickets ticket =
      Nat.count (fun n => n % totalTickets.toNat = ticket.toNat) (2 ^ 256) := by
  rw [seedsChoosing, show (2 : ℕ) ^ 256 = 256 ^ 32 by norm_num, ← Bytes.card_sized]
  apply Nat.card_congr
  apply Equiv.subtypeEquivRight
  intro seed
  rw [winningTicket_eq_ok_iff, and_iff_right hpos, eq_comm]

theorem seedsWithin_eq {totalTickets : UInt64} (hpos : 0 < totalTickets.toNat)
    (range : TicketRange) :
    seedsWithin totalTickets range =
      Nat.count (fun n => range.start.toNat ≤ n % totalTickets.toNat ∧
        n % totalTickets.toNat < range.stop.toNat) (2 ^ 256) := by
  rw [seedsWithin, show (2 : ℕ) ^ 256 = 256 ^ 32 by norm_num, ← Bytes.card_sized]
  apply Nat.card_congr
  apply Equiv.subtypeEquivRight
  intro seed
  simp only [winningTicket_eq_ok_iff, TicketRange.contains_iff]
  constructor
  · rintro ⟨ticket, ⟨-, hticket⟩, hcontains⟩
    rwa [← hticket]
  · intro hcontains
    have hlt := (Nat.mod_lt (Bytes.toNat seed.val) hpos).trans totalTickets.toNat_lt
    have hticket := UInt64.toNat_ofNat_of_lt' hlt
    exact ⟨_, ⟨hpos, hticket⟩, by rwa [hticket]⟩

/-- Among all seeds, those that choose a ticket of an entry with `k` tickets number `k` times
`2 ^ 256 / T`, rounded down or up, and two tickets differ by at most one seed. -/
theorem draw_fair {sha256 : List UInt8 → Hash32} {entries : List LedgerEntry}
    {summary : LedgerSummary} (h : summarizeLedger sha256 entries = .ok summary) :
    (∀ entry ∈ entries,
      entry.data.ticketRange.count.toNat * (2 ^ 256 / summary.totalTickets.toNat) ≤
          seedsWithin summary.totalTickets entry.data.ticketRange ∧
        seedsWithin summary.totalTickets entry.data.ticketRange ≤
          entry.data.ticketRange.count.toNat * (2 ^ 256 ⌈/⌉ summary.totalTickets.toNat)) ∧
    ∀ a b, a < summary.totalTickets → b < summary.totalTickets →
      seedsChoosing summary.totalTickets a ≤ seedsChoosing summary.totalTickets b + 1 := by
  obtain ⟨raffleId, haccepted⟩ := (summarizeLedger_eq_ok_iff entries summary).mp h
  have hpos := haccepted.tiles.stop_pos haccepted.nonempty
  constructor
  · intro entry hmem
    obtain ⟨-, hlt, hstop⟩ := haccepted.tiles.bounds entry hmem
    rw [seedsWithin_eq hpos, TicketRange.toNat_count hlt]
    exact Residues.count_range_bounds hpos hstop (2 ^ 256)
  · intro a b ha hb
    rw [seedsChoosing_eq hpos, seedsChoosing_eq hpos]
    exact Residues.count_le_succ hpos (2 ^ 256) (UInt64.lt_iff_toNat_lt.mp ha)
      (UInt64.lt_iff_toNat_lt.mp hb)

namespace TwoEntries

def raffleId : RaffleId := ⟨⟨List.replicate 16 0x11, rfl⟩⟩

def first : LedgerEntry :=
  .create Sha256.digest ⟨raffleId, ⟨⟨List.replicate 16 0xaa, rfl⟩⟩, 0, zeroHash, zeroHash, ⟨3000⟩,
    ⟨0, 3⟩, 1700000000000⟩ zeroHash

def second : LedgerEntry :=
  .create Sha256.digest ⟨raffleId, ⟨⟨List.replicate 16 0xbb, rfl⟩⟩, 1, zeroHash, zeroHash, ⟨2000⟩,
    ⟨3, 5⟩, 1700000001000⟩ first.entryHash

def summary : LedgerSummary where
  entryCount := 2
  totalTickets := 5
  totalPoolSats := ⟨5000⟩
  entryChainHead := second.entryHash
  entriesRoot := entriesRoot Sha256.digest raffleId 2 second.entryHash

theorem accepted : LedgerAccepted Sha256.digest raffleId [first, second] summary where
  nonempty := by simp
  raffle := by simp [first, second, LedgerEntry.create]
  index := rfl
  tiles := ⟨rfl, by decide, rfl, by decide, rfl⟩
  chained := ⟨rfl, rfl, rfl, rfl, trivial⟩
  count := rfl
  pool := rfl
  head := rfl
  root := rfl

end TwoEntries

/-- Three of five tickets: the seeds that choose one of them. -/
theorem draw_fair_two_entries :
    3 * (2 ^ 256 / 5) ≤ seedsWithin 5 ⟨0, 3⟩ ∧ seedsWithin 5 ⟨0, 3⟩ ≤ 3 * (2 ^ 256 ⌈/⌉ 5) :=
  (draw_fair TwoEntries.accepted.summarizeLedger_eq).1 TwoEntries.first (by simp)

end OpenPool
