import OpenPool.Store.Reachable

/-! # The stored ledger is the verified ledger

What the store keeps up to date entry by entry is what `summarize_ledger` computes from the
rows. -/

namespace OpenPool

open Fallible

section Tracks

variable {sha256 : List UInt8 → Hash32} {raffleId : RaffleId} {columns : LedgerColumns}
  {entries : List EntryRow} {ledger : List LedgerEntry} {cursor : LedgerCursor}

/-- A column of the rows, read off the ledger. -/
theorem Tracks.map_eq {α : Type} {column : EntryRow → α} {field : LedgerEntry → α}
    (h : Tracks sha256 raffleId columns entries ledger cursor)
    (hread : ∀ row entry, row.Reads entry → column row = field entry) :
    entries.map column = ledger.map field := by
  rw [← List.forall₂_eq_eq_eq]
  exact List.rel_map hread h.reads

theorem Tracks.indices (h : Tracks sha256 raffleId columns entries ledger cursor) :
    entries.map EntryRow.entryIndex = (List.range ledger.length).map Nat.cast := by
  have hindex := h.segment.index
  rw [← List.range_eq_range'] at hindex
  rw [← hindex, List.map_map]
  exact h.map_eq fun _ _ hread => hread.entryIndex

/-- The rows are stored in the order of their index. -/
theorem Tracks.ordered (h : Tracks sha256 raffleId columns entries ledger cursor) :
    orderByEntryIndex entries = entries :=
  orderByEntryIndex_eq_self (sorted_of_indices h.indices)

theorem Tracks.read (h : Tracks sha256 raffleId columns entries ledger cursor) :
    ledgerEntriesFromRows (orderByEntryIndex entries) = .ok ledger := by
  rw [h.ordered]
  exact (ledgerEntriesFromRows_eq_ok_iff _ _).mpr h.reads

/-- The summary of a tracked ledger. -/
def LedgerCursor.summary (sha256 : List UInt8 → Hash32) (raffleId : RaffleId) (count : UInt64)
    (cursor : LedgerCursor) : LedgerSummary where
  entryCount := count
  totalTickets := cursor.expectedTicketStart
  totalPoolSats := ⟨cursor.totalPoolSats⟩
  entryChainHead := cursor.previousHash
  entriesRoot := entriesRoot sha256 raffleId count cursor.previousHash

theorem Tracks.accepted (h : Tracks sha256 raffleId columns entries ledger cursor)
    (hne : entries ≠ []) {count : UInt64} (hcount : count.toNat = entries.length) :
    LedgerAccepted sha256 raffleId ledger (cursor.summary sha256 raffleId count) := by
  refine (ledgerAccepted_iff_segment _ _ _).mpr ⟨?_, h.segment, ?_, rfl⟩
  · intro hnil
    rw [hnil] at h
    exact hne (List.forall₂_nil_right_iff.mp h.reads)
  · rw [← h.reads.length_eq]
    exact hcount

end Tracks

section Store

variable {prim : Primitives} {scope : Scope} {raffleId : RaffleId} {view view' : RaffleView}
  {db : Database}

/-! ## The root is written once -/

theorem RaffleStep.root_kept (hstep : RaffleStep prim scope raffleId view view')
    (hledger : LedgerInv prim.sha256 raffleId view.raffle view.entries) {row : RaffleRow}
    {bytes : List UInt8} (hrow : view.raffle = some row) (hroot : row.entriesRoot = some bytes) :
    ∃ row', view'.raffle = some row' ∧ row'.entriesRoot = some bytes := by
  rw [hrow] at hledger
  obtain ⟨-, hfrozen, -⟩ := hledger
  have hrow' : ∀ other, view.raffle = some other → other = row := fun other hother =>
    Option.some.inj (hother.symm.trans hrow)
  cases hstep with
  | create other split habsent => cases habsent.symm.trans hrow
  | freeze other head count jobs hother hclosing =>
      rw [hrow' other hother] at hclosing
      have := hfrozen.unfrozen (by rw [hclosing]; rfl)
      cases this.symm.trans hroot
  | edit other _ _ _ _ _ _ hother | move other _ hother | close other _ hother
  | settle other _ _ _ _ hother | draw other _ _ _ _ _ hother =>
      rw [hrow' other hother]
      exact ⟨_, rfl, hroot⟩
  | payOut =>
      refine ⟨_, by rw [hrow]; rfl, ?_⟩
      beta_reduce
      split <;> exact hroot
  | stay | pendingInvoice | collectionInvoice | changeInvoices | late | refund | proof | publish
  | changePayouts | changeJobs => exact ⟨row, hrow, hroot⟩

/-- A committed freeze writes the root. -/
theorem freezeRaffle_root {jobId : Uuid} {now : ℤ} {db' : Database} {root : Hash32}
    (h : freezeRaffle prim.sha256 raffleId jobId now db = .ok (db', root)) :
    ∃ row, (db'.view raffleId).raffle = some row ∧ row.entriesRoot = some root.val := by
  simp only [freezeRaffle, bind_eq_ok_iff, pure_eq_ok_iff, fetchOne_eq_ok_iff, execute_eq_ok_iff,
    applyIf_eq_ok_iff, Prod.mk.injEq] at h
  obtain ⟨row, hrow, -, -, count, -, head, -, raffles, ⟨returned, hraffles⟩, middle, hjob, rfl,
    rfl⟩ := h
  have hmiddle : middle.raffles = raffles := by
    rcases hjob with ⟨-, hjob⟩ | ⟨-, rfl⟩
    · obtain ⟨jobs, rfl, -⟩ := insertRaffleJob_spec hjob
      rfl
    · rfl
  have hfind := Table.find_updated hraffles (fun _ _ => rfl) hrow
    (decide_eq_true (view_raffle_id hrow))
  rw [← hmiddle] at hfind
  exact ⟨_, hfind, rfl⟩

/-- A root that is stored stays stored. -/
theorem Store.root_kept {store : Store} (hsound : store.Sound prim) {row : RaffleRow}
    {bytes : List UInt8} (hrow : (store.db.view raffleId).raffle = some row)
    (hroot : row.entriesRoot = some bytes) (operations : List Op) :
    ∃ row', ((StateMachine.run (Store.step prim) store operations).db.view raffleId).raffle =
      some row' ∧ row'.entriesRoot = some bytes := by
  have hstep : ∀ (store : Store) (op : Op),
      (store.Sound prim ∧
        ∃ row, (store.db.view raffleId).raffle = some row ∧ row.entriesRoot = some bytes) →
      (store.step prim op).Sound prim ∧
        ∃ row, ((store.step prim op).db.view raffleId).raffle = some row ∧
          row.entriesRoot = some bytes :=
    fun store op ⟨hsound, _, hrow, hroot⟩ => ⟨hsound.step op,
      (store.step_raffleStep hsound op).root_kept (hsound.ledger raffleId) hrow hroot⟩
  exact (StateMachine.invariant hstep ⟨hsound, row, hrow, hroot⟩ operations).2

theorem Store.root_of_freeze {front : List Op} {jobId : Uuid} {now : ℤ}
    {result : Database × Hash32} (back : List Op)
    (h : freezeRaffle prim.sha256 raffleId jobId now (Store.after prim front).db = .ok result) :
    ∃ row bytes, ((Store.after prim (front ++ .freezeRaffle raffleId jobId now :: back)).db.view
      raffleId).raffle = some row ∧ row.entriesRoot = some bytes := by
  obtain ⟨db', root⟩ := result
  obtain ⟨row, hrow, hroot⟩ := freezeRaffle_root h
  have hsound := (Store.sound_after prim front).step (.freezeRaffle raffleId jobId now)
  have hdb : ((Store.after prim front).step prim (.freezeRaffle raffleId jobId now)).db =
      db' := by
    change commit _ (freezeRaffle _ _ _ _ _) = _
    rw [h]
    rfl
  rw [← hdb] at hrow
  obtain ⟨row', hrow', hroot'⟩ := Store.root_kept hsound hrow hroot back
  refine ⟨row', _, ?_, hroot'⟩
  rw [Store.after, StateMachine.run_append]
  exact hrow'

/-! ## The invariant -/

theorem Store.Sound.tracks {store : Store} (hsound : store.Sound prim) {row : RaffleRow}
    (hrow : store.db.raffles.find (·.id = raffleId) = some row) :
    Frozen prim.sha256 raffleId row (store.db.view raffleId).entries.length ∧
      ∃ ledger cursor, Tracks prim.sha256 raffleId row.columns (store.db.view raffleId).entries
        ledger cursor := by
  have hledger := hsound.ledger raffleId
  have hview : (store.db.view raffleId).raffle = some row := hrow
  rw [hview] at hledger
  exact hledger.2

/-- After every run, a raffle has no entries and no totals, or its entries are a ledger that
the verifier accepts, with the stored totals and, after a freeze, with the stored root. -/
theorem ledger_matches_raffle (prim : Primitives) (operations : List Op) (raffleId : RaffleId)
    (row : RaffleRow)
    (hrow : (Store.after prim operations).db.raffles.find (·.id = raffleId) = some row) :
    ((Store.after prim operations).db.entries.select (·.raffleId = raffleId) = [] ∧
      row.totalTickets = 0 ∧ row.totalPoolSats = 0 ∧ row.entryChainHead = none) ∨
    ∃ entries summary,
      readEntries raffleId (Store.after prim operations).db = .ok entries ∧
      summarizeLedger prim.sha256 entries = .ok summary ∧
      row.totalTickets = summary.totalTickets.toNat ∧
      row.totalPoolSats = summary.totalPoolSats.asU64.toNat ∧
      row.entryChainHead = some summary.entryChainHead.val ∧
      ∀ front jobId now back, operations = front ++ .freezeRaffle raffleId jobId now :: back →
        (∃ result, freezeRaffle prim.sha256 raffleId jobId now (Store.after prim front).db =
          .ok result) →
        row.entriesRoot = some summary.entriesRoot.val := by
  have hsound := Store.sound_after prim operations
  obtain ⟨hfrozen, ledger, cursor, htracks⟩ := hsound.tracks hrow
  by_cases hempty : ((Store.after prim operations).db.view raffleId).entries = []
  · have hzero : row.totalTickets = 0 := by
      by_contra hne
      exact htracks.tickets_pos.mpr hne hempty
    have hsegment := htracks.segment
    rw [htracks.ledger_eq_nil_iff.mpr hempty, ledgerSegment_nil] at hsegment
    have hhead := htracks.head
    rw [if_pos hempty] at hhead
    refine .inl ⟨hempty, hzero, ?_, hhead⟩
    rw [show row.totalPoolSats = _ from htracks.pool, ← hsegment]
    rfl
  · have hlength := htracks.segment.length_lt
    rw [← htracks.reads.length_eq] at hlength
    have hcount : UInt64.toNat
        (.ofNat ((Store.after prim operations).db.view raffleId).entries.length) =
        ((Store.after prim operations).db.view raffleId).entries.length :=
      UInt64.toNat_ofNat_of_lt' hlength
    have haccepted := htracks.accepted hempty hcount
    have hhead := htracks.head
    rw [if_neg hempty] at hhead
    refine .inr ⟨ledger, _, htracks.read, haccepted.summarizeLedger_eq, htracks.tickets,
      htracks.pool, hhead, ?_⟩
    rintro front jobId now back rfl ⟨result, hresult⟩
    obtain ⟨row', bytes, hrow', hroot⟩ := Store.root_of_freeze back hresult
    obtain rfl : row = row' := Option.some.inj (hrow.symm.trans hrow')
    obtain ⟨n, head, hn, hchain, rfl⟩ := hfrozen.root bytes hroot
    obtain rfl : cursor.previousHash = head :=
      Except.ok.inj (htracks.chainHead.symm.trans hchain)
    obtain rfl : n = UInt64.ofNat _ := UInt64.toNat_inj.mp (hn.trans hcount.symm)
    exact hroot

end Store

/-! ## A run

A raffle with one invoice of two tickets. -/

namespace SampleRun

def uuid (byte : UInt8) : Uuid := .replicate 16 byte

def hash (byte : UInt8) : Hash32 := .replicate 32 byte

def organizerId : OrganizerId := ⟨uuid 1⟩

def raffleId : RaffleId := ⟨uuid 2⟩

def invoiceId : InvoiceId := ⟨uuid 3⟩

def entryId : EntryId := ⟨uuid 4⟩

def secondInvoiceId : InvoiceId := ⟨uuid 14⟩

def secondEntryId : EntryId := ⟨uuid 15⟩

/-- The instant `seconds` after 2000-01-01 UTC. -/
def secondsAfter (seconds : ℤ) : ℤ := postgresEpoch + seconds * 1000000000

def newRaffle : NewDraftRaffle where
  id := raffleId
  organizerId
  name := "raffle"
  entryPriceSats := ⟨1000⟩
  startTime := secondsAfter 0
  endTime := secondsAfter 100
  randomnessDelayBlocks := 6
  payoutSplit := ⟨⟨8000⟩, ⟨1500⟩, ⟨500⟩⟩

def newInvoice : NewCollectionInvoice where
  id := invoiceId
  raffleId
  participantPublicId := hash 5
  paymentReferenceHash := hash 6
  payoutAddressCiphertext := [0xa2]
  ticketCount := 2
  requestedAt := secondsAfter 1
  expiresAt := secondsAfter 50

/-- Another buyer asks for three tickets. -/
def secondInvoice : NewCollectionInvoice :=
  { newInvoice with
    id := secondInvoiceId
    participantPublicId := hash 15
    paymentReferenceHash := hash 16
    payoutAddressCiphertext := [0xa3]
    ticketCount := 3 }

/-- The raffle sells tickets to two buyers. -/
def sold : List Op := [
  .createOrganizer ⟨organizerId, "organizer", [0xa1]⟩,
  .createDraftRaffle newRaffle,
  .transitionRaffle organizerId raffleId (some .scheduled),
  .transitionRaffle organizerId raffleId (some .opened),
  .createCollectionInvoice newInvoice,
  .createCollectionInvoice secondInvoice,
  .settleInvoice invoiceId entryId ⟨secondsAfter 2, by decide⟩,
  .settleInvoice secondInvoiceId secondEntryId ⟨secondsAfter 3, by decide⟩]

/-- The raffle closes and is frozen. -/
def frozen : List Op := sold ++ [
  .scheduleDueCloses (fun _ => uuid 7) 100000000,
  .freezeRaffle raffleId (uuid 8) 100000001]

end SampleRun

theorem ledger_matches_frozen_raffle :
    ∃ row entries summary,
      (Store.after .standard SampleRun.frozen).db.raffles.find (·.id = SampleRun.raffleId) =
        some row ∧
      readEntries SampleRun.raffleId (Store.after .standard SampleRun.frozen).db = .ok entries ∧
      summarizeLedger Sha256.digest entries = .ok summary ∧
      row.totalTickets = summary.totalTickets.toNat ∧ row.totalTickets = 5 ∧
      row.entriesRoot = some summary.entriesRoot.val := by
  have hfound : ((Store.after .standard SampleRun.frozen).db.raffles.find
      (·.id = SampleRun.raffleId)).map RaffleRow.totalTickets = some 5 := by
    decide +kernel
  obtain ⟨row, hrow, htickets⟩ := Option.map_eq_some_iff.mp hfound
  rcases ledger_matches_raffle .standard SampleRun.frozen SampleRun.raffleId row hrow with
    ⟨-, hzero, -⟩ | ⟨entries, summary, hread, hsummary, htotal, -, -, hroot⟩
  · omega
  · refine ⟨row, entries, summary, hrow, hread, hsummary, htotal, htickets,
      hroot (SampleRun.sold ++ [.scheduleDueCloses (fun _ => SampleRun.uuid 7) 100000000])
        (SampleRun.uuid 8) 100000001 [] rfl ?_⟩
    exact exists_of_isOk (by decide +kernel)

end OpenPool
