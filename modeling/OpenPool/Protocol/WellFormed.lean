import OpenPool.Protocol.Ledger

/-! # Well-formed ledgers

The rules of a ledger are stated position by position, without the running totals of the
loop; the loop accepts exactly the ledgers that keep them. -/

namespace OpenPool

section WellFormed

variable (sha256 : List UInt8 → Hash32)

/-- The rules every position of a ledger keeps. -/
structure WellFormed (entries : List LedgerEntry) : Prop where
  nonempty : entries ≠ []
  raffle : ∀ first ∈ entries.head?, ∀ entry ∈ entries, entry.data.raffleId = first.data.raffleId
  index : ∀ i (h : i < entries.length), entries[i].index = i
  range : ∀ entry ∈ entries, entry.ticketStart < entry.ticketStop
  firstStart : ∀ first ∈ entries.head?, first.ticketStart = 0
  nextStart : ∀ i (h : i + 1 < entries.length), entries[i + 1].ticketStart = entries[i].ticketStop
  firstPrevious : ∀ first ∈ entries.head?, first.previousEntryHash = zeroHash
  nextPrevious : ∀ i (h : i + 1 < entries.length),
    entries[i + 1].previousEntryHash = entries[i].entryHash
  hash : ∀ entry ∈ entries, entry.entryHash = entryHash sha256 entry.data entry.previousEntryHash
  pool : (entries.map LedgerEntry.sats).sum < 2 ^ 64

/-- The number of tickets of an entry's range. -/
def LedgerEntry.size (entry : LedgerEntry) : ℕ := entry.ticketStop - entry.ticketStart

/-- The summary says what the entries add up to and where the chain ends. -/
structure Summarizes (entries : List LedgerEntry) (summary : LedgerSummary) : Prop where
  count : summary.entryCount.toNat = entries.length
  tickets : summary.totalTickets.toNat = (entries.map LedgerEntry.size).sum
  pool : summary.totalPoolSats.asU64.toNat = (entries.map LedgerEntry.sats).sum
  head : ∀ last ∈ entries.getLast?, summary.entryChainHead = last.entryHash
  root : ∀ first ∈ entries.head?, summary.entriesRoot =
    entriesRoot sha256 first.data.raffleId summary.entryCount summary.entryChainHead

variable {sha256}

theorem LedgerAccepted.wellFormed {raffleId : RaffleId} {entries : List LedgerEntry}
    {summary : LedgerSummary} (h : LedgerAccepted sha256 raffleId entries summary) :
    WellFormed sha256 entries := by
  obtain ⟨hrange, hstart, hmeet⟩ := (Tiling.exists_tiles_iff 0 entries).mp ⟨_, h.tiles⟩
  obtain ⟨hprevious, hlink, hown⟩ := (HashChain.chained_iff _ _ _ zeroHash entries).mp h.chained
  exact {
    nonempty := h.nonempty
    raffle := fun first hfirst entry hmem =>
      (h.raffle entry hmem).trans (h.raffle first (List.mem_of_mem_head? hfirst)).symm
    index := (map_index_eq_range_iff entries).mp h.index
    range := hrange
    firstStart := hstart
    nextStart := fun i hi => hmeet.getElem i hi
    firstPrevious := hprevious
    nextPrevious := fun i hi => hlink.getElem i hi
    hash := hown
    pool := by
      rw [h.pool]
      exact summary.totalPoolSats.asU64.toNat_lt }

theorem WellFormed.exists_accepted {entries : List LedgerEntry} (h : WellFormed sha256 entries) :
    ∃ raffleId summary, LedgerAccepted sha256 raffleId entries summary := by
  have hne := h.nonempty
  obtain ⟨stop, htiles⟩ := (Tiling.exists_tiles_iff 0 entries).mpr
    ⟨h.range, h.firstStart, List.isChain_iff_getElem.mpr h.nextStart⟩
  have hstop : stop = (entries.getLast hne).ticketStop := htiles.stop_eq_getLast hne
  -- the last range ends at a `u64`, so there are fewer entries than that
  have hlength : entries.length < UInt64.size := by
    have hle := htiles.length_le
    have hlt : stop < 2 ^ 64 := by
      rw [hstop]
      exact (entries.getLast hne).data.ticketRange.stop.toNat_lt
    change entries.length < 2 ^ 64
    omega
  let count := UInt64.ofNat entries.length
  let pool := UInt64.ofNat (entries.map LedgerEntry.sats).sum
  let head := HashChain.head LedgerEntry.entryHash zeroHash entries
  let raffleId := (entries.head hne).data.raffleId
  refine ⟨raffleId, ⟨count, (entries.getLast hne).data.ticketRange.stop, ⟨pool⟩, head,
    entriesRoot sha256 raffleId count head⟩, ?_⟩
  exact {
    nonempty := hne
    raffle := h.raffle _ (List.head_mem_head? hne)
    index := (map_index_eq_range_iff entries).mpr h.index
    tiles := by
      rw [hstop] at htiles
      exact htiles
    chained := (HashChain.chained_iff _ _ _ zeroHash entries).mpr
      ⟨h.firstPrevious, List.isChain_iff_getElem.mpr h.nextPrevious, h.hash⟩
    count := UInt64.toNat_ofNat_of_lt' hlength
    pool := (UInt64.toNat_ofNat_of_lt' h.pool).symm
    head := rfl
    root := rfl }

theorem LedgerAccepted.summarizes {raffleId : RaffleId} {entries : List LedgerEntry}
    {summary : LedgerSummary} (h : LedgerAccepted sha256 raffleId entries summary) :
    Summarizes sha256 entries summary where
  count := h.count
  tickets := by
    have hsizes := h.tiles.sum_sizes
    rw [Nat.zero_add] at hsizes
    exact hsizes.symm
  pool := h.pool.symm
  head := by
    intro last hlast
    rw [List.getLast?_eq_some_getLast h.nonempty, Option.mem_some_iff] at hlast
    rw [h.head, HashChain.head_eq_getLast _ _ _ h.nonempty, hlast]
  root := by
    intro first hfirst
    rw [h.raffle first (List.mem_of_mem_head? hfirst)]
    exact h.root

theorem summarizeLedger_isOk_iff (entries : List LedgerEntry) :
    (∃ summary, summarizeLedger sha256 entries = .ok summary) ↔ WellFormed sha256 entries := by
  simp only [summarizeLedger_eq_ok_iff]
  constructor
  · rintro ⟨summary, raffleId, h⟩
    exact h.wellFormed
  · intro h
    obtain ⟨raffleId, summary, haccepted⟩ := h.exists_accepted
    exact ⟨summary, raffleId, haccepted⟩

/-- Every rule but the first speaks of a position and its neighbour, so it holds in any front. -/
theorem WellFormed.front {front back : List LedgerEntry} (h : WellFormed sha256 (front ++ back))
    (hne : front ≠ []) : WellFormed sha256 front := by
  have hhead : ∀ first ∈ front.head?, first ∈ (front ++ back).head? := by
    intro first hfirst
    rwa [List.head?_append_of_ne_nil front hne]
  have hlength : ∀ i, i < front.length → i < (front ++ back).length := by
    intro i hi
    rw [List.length_append]
    omega
  exact {
    nonempty := hne
    raffle := fun first hfirst entry hmem =>
      h.raffle first (hhead first hfirst) entry (List.mem_append_left back hmem)
    index := fun i hi => by
      have hindex := h.index i (hlength i hi)
      rwa [List.getElem_append_left hi] at hindex
    range := fun entry hmem => h.range entry (List.mem_append_left back hmem)
    firstStart := fun first hfirst => h.firstStart first (hhead first hfirst)
    nextStart := fun i hi => by
      have hnext := h.nextStart i (hlength (i + 1) hi)
      rwa [List.getElem_append_left hi, List.getElem_append_left (Nat.lt_of_succ_lt hi)] at hnext
    firstPrevious := fun first hfirst => h.firstPrevious first (hhead first hfirst)
    nextPrevious := fun i hi => by
      have hnext := h.nextPrevious i (hlength (i + 1) hi)
      rwa [List.getElem_append_left hi, List.getElem_append_left (Nat.lt_of_succ_lt hi)] at hnext
    hash := fun entry hmem => h.hash entry (List.mem_append_left back hmem)
    pool := by
      have hpool := h.pool
      rw [List.map_append, List.sum_append] at hpool
      omega }

/-- The loop accepts exactly the well-formed ledgers, its totals are exact, and it accepts
every nonempty front of a ledger it accepts. -/
theorem summarizeLedger_wellFormed (sha256 : List UInt8 → Hash32) (entries : List LedgerEntry) :
    ((∃ summary, summarizeLedger sha256 entries = .ok summary) ↔ WellFormed sha256 entries) ∧
      ∀ summary, summarizeLedger sha256 entries = .ok summary →
        Summarizes sha256 entries summary ∧
          ∀ front, front <+: entries → front ≠ [] →
            ∃ summary', summarizeLedger sha256 front = .ok summary' := by
  refine ⟨summarizeLedger_isOk_iff entries, ?_⟩
  intro summary hsummary
  have hwellFormed := (summarizeLedger_isOk_iff entries).mp ⟨summary, hsummary⟩
  obtain ⟨raffleId, haccepted⟩ := (summarizeLedger_eq_ok_iff entries summary).mp hsummary
  refine ⟨haccepted.summarizes, ?_⟩
  rintro front ⟨back, rfl⟩ hne
  exact (summarizeLedger_isOk_iff front).mpr (hwellFormed.front hne)

end WellFormed

end OpenPool
