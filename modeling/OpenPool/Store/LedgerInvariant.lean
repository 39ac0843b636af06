import OpenPool.Store.Lifecycle

/-! # The ledger of a raffle

The entries of a raffle form a ledger that the verifier accepts, the raffle's columns hold its
totals, and a stored root is the root of exactly these entries. -/

namespace OpenPool

/-! ## Statuses -/

def RaffleStatus.beforeFreeze : RaffleStatus → Bool
  | draft => true
  | scheduled => true
  | opened => true
  | closing => true
  | _ => false

def RaffleStatus.drawn : RaffleStatus → Bool
  | payoutPending => true
  | paidOut => true
  | _ => false

theorem RaffleStatus.mayMove_cases {current target : RaffleStatus}
    (h : current.mayMove target = true) :
    current.beforeFreeze = true ∧ (target.beforeFreeze = true ∨ target = .cancelled) := by
  rcases of_decide_eq_true h with ⟨rfl, rfl⟩ | ⟨rfl, rfl⟩ | ⟨rfl | rfl | rfl, rfl⟩ <;> decide

/-! ## The totals -/

/-- The columns of a raffle that its ledger determines. -/
structure LedgerColumns where
  totalPoolSats : ℤ
  totalTickets : ℤ
  entryChainHead : Option (List UInt8)

def RaffleRow.columns (row : RaffleRow) : LedgerColumns :=
  ⟨row.totalPoolSats, row.totalTickets, row.entryChainHead⟩

/-- The rows say what the ledger says, and the columns hold its totals. -/
structure Tracks (sha256 : List UInt8 → Hash32) (raffleId : RaffleId) (columns : LedgerColumns)
    (entries : List EntryRow) (ledger : List LedgerEntry) (cursor : LedgerCursor) : Prop where
  reads : List.Forall₂ EntryRow.Reads entries ledger
  segment : LedgerSegment sha256 raffleId 0 .start ledger cursor
  pool : columns.totalPoolSats = cursor.totalPoolSats.toNat
  tickets : columns.totalTickets = cursor.expectedTicketStart.toNat
  head : columns.entryChainHead = if entries = [] then none else some cursor.previousHash.val

section Ledger

variable {sha256 : List UInt8 → Hash32} {raffleId : RaffleId} {row : RaffleRow}
  {entries : List EntryRow} {ledger : List LedgerEntry} {cursor : LedgerCursor}

theorem RaffleRow.IsNew.tracks (h : row.IsNew) :
    Tracks sha256 raffleId row.columns [] [] .start where
  reads := .nil
  segment := (ledgerSegment_nil _ _ _ _).mpr rfl
  pool := h.totalPoolSats
  tickets := h.totalTickets
  head := h.entryChainHead

theorem Tracks.ledger_eq_nil_iff (h : Tracks sha256 raffleId row.columns entries ledger cursor) :
    ledger = [] ↔ entries = [] := by
  rw [← List.length_eq_zero_iff, ← List.length_eq_zero_iff, h.reads.length_eq]

theorem Tracks.chainHead (h : Tracks sha256 raffleId row.columns entries ledger cursor) :
    row.chainHead = .ok cursor.previousHash := by
  have hhead : row.entryChainHead = _ := h.head
  by_cases hempty : entries = []
  · have hsegment := h.segment
    rw [h.ledger_eq_nil_iff.mpr hempty, ledgerSegment_nil] at hsegment
    rw [if_pos hempty] at hhead
    rw [RaffleRow.chainHead, hhead, ← hsegment]
    rfl
  · rw [if_neg hempty] at hhead
    rw [RaffleRow.chainHead, hhead]
    exact (hashFromBytes_eq_ok_iff _ _).mpr rfl

theorem Tracks.tickets_pos (h : Tracks sha256 raffleId row.columns entries ledger cursor) :
    entries ≠ [] ↔ row.totalTickets ≠ 0 := by
  have htickets : row.totalTickets = _ := h.tickets
  have hlength := h.segment.tiles.length_le
  have hzero : LedgerCursor.start.expectedTicketStart.toNat = 0 := rfl
  constructor
  · intro hne
    have := List.length_pos_iff.mpr (mt h.ledger_eq_nil_iff.mp hne)
    omega
  · rintro htotal rfl
    have hsegment := h.segment
    rw [h.ledger_eq_nil_iff.mpr rfl, ledgerSegment_nil] at hsegment
    subst hsegment
    exact htotal htickets

/-- An entry that continues the ledger takes its totals along. -/
theorem Tracks.append (h : Tracks sha256 raffleId row.columns entries ledger cursor)
    {entryRow : EntryRow} {entry : LedgerEntry} {pool : ℤ} (hreads : entryRow.Reads entry)
    (hid : row.id = raffleId) (hcontinues : entry.Continues sha256 row entries.length)
    (hpool : pool = row.totalPoolSats + entry.sats) (hbound : pool < 2 ^ 63) :
    ∃ after, Tracks sha256 raffleId (row.withEntry pool entry).columns (entries ++ [entryRow])
      (ledger ++ [entry]) after := by
  have hbefore : row.totalPoolSats = _ := h.pool
  have hstart : row.totalTickets = _ := h.tickets
  have hsum : (UInt64.ofNat (cursor.totalPoolSats.toNat + entry.sats)).toNat =
      cursor.totalPoolSats.toNat + entry.sats := UInt64.toNat_ofNat_of_lt' (by
    change _ < 2 ^ 64
    omega)
  let after : LedgerCursor := ⟨entry.data.ticketRange.stop, entry.entryHash,
    UInt64.ofNat (cursor.totalPoolSats.toNat + entry.sats)⟩
  have hprevious : entry.previousEntryHash = cursor.previousHash :=
    Except.ok.inj (hcontinues.previousHash.symm.trans h.chainHead)
  refine ⟨after, ⟨List.rel_append h.reads (.cons hreads .nil), ?_, ?_, rfl, ?_⟩⟩
  · refine (ledgerSegment_append ..).mpr ⟨cursor, h.segment, ?_⟩
    rw [ledgerSegment_cons, Nat.zero_add, ← h.reads.length_eq]
    refine ⟨after, (summarizeEntry_eq_ok_iff ..).mpr ⟨hcontinues.raffleId.trans hid,
      hcontinues.index, ?_, hcontinues.nonempty, hprevious, ?_, hsum, rfl, rfl⟩,
      (ledgerSegment_nil ..).mpr rfl⟩
    · have := hcontinues.ticketStart
      omega
    · rw [← hprevious]
      exact hcontinues.entryHash
  · change pool = ((UInt64.ofNat _).toNat : ℤ)
    rw [hsum, hpool, hbefore, Nat.cast_add]
  · rw [if_neg (by simp)]
    rfl

end Ledger

/-! ## The root -/

/-- The root of a raffle with `count` entries. -/
structure Frozen (sha256 : List UInt8 → Hash32) (raffleId : RaffleId) (row : RaffleRow)
    (count : ℕ) : Prop where
  unfrozen : row.status.beforeFreeze = true → row.entriesRoot = none
  root : ∀ bytes, row.entriesRoot = some bytes → ∃ (n : UInt64) (head : Hash32),
    n.toNat = count ∧ row.chainHead = .ok head ∧ bytes = (entriesRoot sha256 raffleId n head).val
  frozen : row.status = .randomnessPending ∨ row.status.drawn = true →
    row.entriesRoot ≠ none ∧ row.totalTickets ≠ 0

/-- The ledger invariant of a raffle. -/
def LedgerInv (sha256 : List UInt8 → Hash32) (raffleId : RaffleId) (raffle : Option RaffleRow)
    (entries : List EntryRow) : Prop :=
  match raffle with
  | none => entries = []
  | some row => row.id = raffleId ∧ Frozen sha256 raffleId row entries.length ∧
      ∃ ledger cursor, Tracks sha256 raffleId row.columns entries ledger cursor

section Steps

variable {prim : Primitives} {scope : Scope} {raffleId : RaffleId} {view view' : RaffleView}
  {row : RaffleRow} {count : ℕ}

theorem RaffleRow.IsNew.frozen {sha256 : List UInt8 → Hash32} (h : row.IsNew) :
    Frozen sha256 raffleId row count := by
  refine ⟨fun _ => h.entriesRoot, ?_, ?_⟩
  · intro bytes hbytes
    cases h.entriesRoot.symm.trans hbytes
  · intro hstatus
    rw [h.status] at hstatus
    rcases hstatus with hstatus | hstatus <;> cases hstatus

/-- A new status before the freeze, or the end of a raffle, keeps the root. -/
theorem Frozen.withStatus {sha256 : List UInt8 → Hash32} (h : Frozen sha256 raffleId row count)
    {status : RaffleStatus} (hbefore : row.status.beforeFreeze = true)
    (hstatus : status.beforeFreeze = true ∨ status = .cancelled) :
    Frozen sha256 raffleId { row with status } count := by
  refine ⟨fun _ => h.unfrozen hbefore, h.root, fun hafter => ?_⟩
  change status = .randomnessPending ∨ status.drawn = true at hafter
  rcases hstatus with hstatus | rfl
  · rcases hafter with rfl | hafter
    · cases hstatus
    · cases status <;> cases hstatus <;> cases hafter
  · rcases hafter with hafter | hafter <;> cases hafter

theorem RaffleStep.ledgerInv (hstep : RaffleStep prim scope raffleId view view')
    (h : LedgerInv prim.sha256 raffleId view.raffle view.entries) :
    LedgerInv prim.sha256 raffleId view'.raffle view'.entries := by
  cases hstep with
  | create row split habsent hid hnew =>
      rw [habsent] at h
      obtain h : view.entries = [] := h
      rw [h]
      exact ⟨hid, hnew.frozen, _, _, hnew.tracks⟩
  | edit row name price start stop delay split hrow hstatus =>
      rw [hrow] at h
      obtain ⟨hid, hfrozen, htracks⟩ := h
      exact ⟨hid, ⟨hfrozen.unfrozen, hfrozen.root, hfrozen.frozen⟩, htracks⟩
  | move row status hrow hmove =>
      rw [hrow] at h
      obtain ⟨hid, hfrozen, htracks⟩ := h
      obtain ⟨hbefore, hafter⟩ := RaffleStatus.mayMove_cases hmove
      exact ⟨hid, hfrozen.withStatus hbefore hafter, htracks⟩
  | close row jobs hrow hopen =>
      rw [hrow] at h
      obtain ⟨hid, hfrozen, htracks⟩ := h
      exact ⟨hid, hfrozen.withStatus (by rw [hopen]; rfl) (.inl rfl), htracks⟩
  | settle row invoice entryRow entry pool hrow hopen _ _ hreads _ hcontinues hpool hbound =>
      rw [hrow] at h
      obtain ⟨hid, hfrozen, ledger, cursor, htracks⟩ := h
      obtain ⟨after, hafter⟩ := htracks.append hreads hid hcontinues hpool hbound
      have hroot : row.entriesRoot = none := hfrozen.unfrozen (by rw [hopen]; rfl)
      refine ⟨hid, ⟨fun _ => hroot, ?_, ?_⟩, _, after, hafter⟩
      · intro bytes hbytes
        cases hroot.symm.trans hbytes
      · intro hstatus
        change row.status = _ ∨ row.status.drawn = true at hstatus
        rw [hopen] at hstatus
        rcases hstatus with hstatus | hstatus <;> cases hstatus
  | freeze row head count jobs hrow hclosing hhead hcount =>
      rw [hrow] at h
      obtain ⟨hid, -, htracks⟩ := h
      refine ⟨hid, ⟨fun hbefore => ?_, ?_, fun hstatus => ⟨Option.some_ne_none _, ?_⟩⟩, htracks⟩
      · by_cases htickets : row.totalTickets = 0 <;> simp [htickets, RaffleStatus.beforeFreeze]
          at hbefore
      · rintro bytes ⟨⟩
        exact ⟨count, head, hcount, hhead, rfl⟩
      · intro htickets
        change row.totalTickets = 0 at htickets
        simp [htickets, RaffleStatus.drawn] at hstatus
  | draw row context closeHash ids now jobs hrow hstatus =>
      rw [hrow] at h
      obtain ⟨hid, hfrozen, htracks⟩ := h
      exact ⟨hid, ⟨nofun, hfrozen.root, fun _ => hfrozen.frozen (.inl hstatus)⟩, htracks⟩
  | payOut change jobs hchange hall hjobs =>
      cases hrow : view.raffle with
      | none =>
          rw [hrow] at h
          exact h
      | some row =>
          rw [hrow] at h
          obtain ⟨hid, hfrozen, htracks⟩ := h
          simp only [Option.map_some]
          split
          · rename_i hstatus
            exact ⟨hid, ⟨nofun, hfrozen.root, fun _ => hfrozen.frozen (.inr (by rw [hstatus]; rfl))⟩,
              htracks⟩
          · exact ⟨hid, hfrozen, htracks⟩
  | stay | pendingInvoice | collectionInvoice | changeInvoices | late | refund | proof | publish
  | changePayouts | changeJobs => exact h

end Steps

end OpenPool
