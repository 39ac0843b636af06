import OpenPool.Library.Paging
import OpenPool.Store.LedgerCorrectness
import OpenPool.Store.Monotone
import OpenPool.Store.PublicEntries

/-! # Reading all pages of a raffle

A reader follows the cursors of the pages while the store goes on with its operations. -/

namespace OpenPool

open Fallible

/-! ## The pool column -/

/-- The pool was written as a `BIGINT`. -/
def PoolBound (view : RaffleView) : Prop :=
  ∀ row, view.raffle = some row → row.totalPoolSats < 2 ^ 63

section Ledger

variable {prim : Primitives} {scope : Scope} {raffleId : RaffleId} {view view' : RaffleView}

theorem RaffleStep.poolBound (hstep : RaffleStep prim scope raffleId view view')
    (h : PoolBound view) : PoolBound view' := by
  intro row' hrow'
  cases hstep with
  | create row split habsent hid hnew =>
      obtain rfl := Option.some.inj hrow'
      rw [hnew.totalPoolSats]
      decide
  | edit row _ _ _ _ _ _ hrow | move row _ hrow | close row _ hrow | freeze row _ _ _ hrow
  | draw row _ _ _ _ _ hrow =>
      obtain rfl := Option.some.inj hrow'
      exact h row hrow
  | settle row invoice entryRow entry pool _ _ _ _ _ _ _ _ hbound =>
      obtain rfl := Option.some.inj hrow'
      exact hbound
  | payOut =>
      obtain ⟨row, hrow, rfl⟩ := Option.map_eq_some_iff.mp hrow'
      have hbound := h row hrow
      split <;> exact hbound
  | stay | pendingInvoice | collectionInvoice | changeInvoices | late | refund | proof | publish
  | changePayouts | changeJobs => exact h row' hrow'

/-- Every entry pays at least one satoshi, so a raffle has no more entries than satoshis. -/
theorem Tracks.length_le_pool {sha256 : List UInt8 → Hash32} {columns : LedgerColumns}
    {entries : List EntryRow} {ledger : List LedgerEntry} {cursor : LedgerCursor}
    (h : Tracks sha256 raffleId columns entries ledger cursor)
    (hpaid : ∀ row ∈ entries, 0 < row.amountSats) :
    (ledger.length : ℤ) ≤ columns.totalPoolSats := by
  have hamounts : entries.map EntryRow.amountSats = ledger.map fun entry => (entry.sats : ℤ) :=
    h.map_eq fun _ _ hread => hread.amountSats
  have hone : ∀ sats ∈ ledger.map LedgerEntry.sats, 1 ≤ sats := by
    intro sats hmem
    obtain ⟨entry, hentry, rfl⟩ := List.mem_map.mp hmem
    have hamount : (entry.sats : ℤ) ∈ entries.map EntryRow.amountSats := by
      rw [hamounts]
      exact List.mem_map_of_mem hentry
    obtain ⟨row, hrow, heq⟩ := List.mem_map.mp hamount
    have := hpaid row hrow
    omega
  have hlength := List.length_le_sum_of_one_le _ hone
  have hsum := h.segment.pool
  have hzero : LedgerCursor.start.totalPoolSats.toNat = 0 := rfl
  rw [List.length_map] at hlength
  rw [h.pool]
  omega

/-! ## The whole ledger -/

theorem EntryRow.Reads.shown {row : EntryRow} {entry : LedgerEntry} (h : row.Reads entry) :
    ∃ shown, publicEntry row = .ok shown := by
  simp only [publicEntry, bind_eq_ok_iff, asU64_eq_ok_iff, pure_eq_ok_iff]
  exact ⟨_, _, h.entryIndex, _, h.amountSats, _, h.ticketStart, _, h.ticketEnd, rfl⟩

/-- Rows that a ledger reads can be shown. -/
theorem exists_publicEntries {rows : List EntryRow} {ledger : List LedgerEntry}
    (h : List.Forall₂ EntryRow.Reads rows ledger) : ∃ all, rows.mapM publicEntry = .ok all := by
  induction h with
  | nil => exact ⟨[], rfl⟩
  | cons hread _ ih =>
      obtain ⟨shown, hshown⟩ := hread.shown
      obtain ⟨all, hall⟩ := ih
      rw [mapM_eq_ok_iff] at hall
      exact ⟨shown :: all, (mapM_eq_ok_iff _ _).mpr (.cons hshown hall)⟩

/-- The entries of a raffle, numbered from zero on without gaps. -/
structure NumberedLedger (raffleId : RaffleId) (db : Database) (all : List PublicEntry) : Prop where
  shown : (db.view raffleId).entries.mapM publicEntry = .ok all
  indices : (db.view raffleId).entries.map EntryRow.entryIndex =
    (List.range all.length).map Nat.cast
  length_lt : all.length < 2 ^ 63

theorem Store.Sound.exists_numberedLedger {store : Store} (hsound : store.Sound prim)
    (hbound : PoolBound (store.db.view raffleId)) :
    ∃ all, NumberedLedger raffleId store.db all := by
  have hledger := hsound.ledger raffleId
  cases hraffle : (store.db.view raffleId).raffle with
  | none =>
      rw [hraffle] at hledger
      change (store.db.view raffleId).entries = [] at hledger
      exact ⟨[], by rw [hledger]; rfl, by rw [hledger]; rfl, by decide⟩
  | some row =>
      rw [hraffle] at hledger
      obtain ⟨-, -, ledger, cursor, htracks⟩ := hledger
      obtain ⟨all, hall⟩ := exists_publicEntries htracks.reads
      have hlength : all.length = ledger.length :=
        ((mapM_eq_ok_iff _ _).mp hall).length_eq.symm.trans htracks.reads.length_eq
      have hpaid : ∀ row ∈ (store.db.view raffleId).entries, 0 < row.amountSats :=
        fun row hmem => (store.db.entries.checked row (Table.mem_select.mp hmem).1).2.2.2.1
      have hpool := htracks.length_le_pool hpaid
      have hrow := hbound row hraffle
      refine ⟨all, hall, hlength ▸ htracks.indices, ?_⟩
      rw [hlength]
      change (ledger.length : ℤ) ≤ row.totalPoolSats at hpool
      omega

section Numbered

variable {db db' : Database} {all all' : List PublicEntry}

theorem NumberedLedger.publicLedger_eq (h : NumberedLedger raffleId db all) :
    publicLedger raffleId db = .ok all := by
  have hordered := orderByEntryIndex_eq_self (sorted_of_indices h.indices)
  change (orderByEntryIndex (db.view raffleId).entries).mapM publicEntry = _
  rw [hordered]
  exact h.shown

theorem NumberedLedger.publicIndices (h : NumberedLedger raffleId db all) :
    all.map (fun entry => entry.entryIndex.toNat) = List.range all.length := by
  have hshown : (db.view raffleId).entries.map EntryRow.entryIndex =
      all.map fun entry => (entry.entryIndex.toNat : ℤ) := by
    rw [← List.forall₂_eq_eq_eq]
    have hindex : ∀ row entry, publicEntry row = .ok entry →
        row.entryIndex = entry.entryIndex.toNat := fun _ _ => publicEntry_entryIndex
    exact List.rel_map hindex ((mapM_eq_ok_iff _ _).mp h.shown)
  rw [h.indices] at hshown
  refine (List.map_injective_iff.mpr Nat.cast_injective) (?_ : List.map (Nat.cast : ℕ → ℤ) _ = _)
  rw [List.map_map, hshown]
  rfl

/-- New rows are shown after the old ones. -/
theorem NumberedLedger.grow (h : NumberedLedger raffleId db all)
    (h' : NumberedLedger raffleId db' all')
    (hgrow : (db.view raffleId).entries <+: (db'.view raffleId).entries) : all <+: all' := by
  obtain ⟨new, hnew⟩ := hgrow
  have hshown := h'.shown
  rw [← hnew, List.mapM_append, h.shown] at hshown
  simp only [ok_bind, bind_eq_ok_iff, pure_eq_ok_iff] at hshown
  obtain ⟨rest, -, rfl⟩ := hshown
  exact List.prefix_append _ _

/-- The ledger only depends on the rows of the raffle. -/
theorem NumberedLedger.congr (h : NumberedLedger raffleId db all)
    (hrows : (db'.view raffleId).entries = (db.view raffleId).entries) :
    NumberedLedger raffleId db' all :=
  ⟨hrows ▸ h.shown, hrows ▸ h.indices, h.length_lt⟩

end Numbered

end Ledger

/-! ## The reader -/

/-- A reader that follows the cursors, with the pages it has got. -/
structure EntryWalk where
  nextCursor : Option UInt64
  pages : List EntryPage
  failure : Option PersistenceError

namespace EntryWalk

def start : EntryWalk := ⟨some 0, [], none⟩

/-- Ask for the page at the cursor, where there is one. -/
def request (walk : EntryWalk) (raffleId : RaffleId) (limit : PageLimit) (db : Database) :
    EntryWalk :=
  match walk.nextCursor with
  | none => walk
  | some cursor =>
      match publicEntries raffleId cursor limit.value db with
      | .ok page => { walk with nextCursor := page.nextCursor, pages := walk.pages ++ [page] }
      | .error error => { walk with nextCursor := none, failure := some error }

/-- The pages, one after the other. -/
def entries (walk : EntryWalk) : List PublicEntry := walk.pages.flatMap EntryPage.entries

/-- A reader that is done has read all of these entries, and any other one those before its
cursor. -/
def Covers (walk : EntryWalk) (all : List PublicEntry) : Prop :=
  match walk.nextCursor with
  | none => walk.entries = all
  | some cursor => cursor.toNat < all.length ∧ walk.entries = all.take cursor.toNat

/-- The same reader on a list. -/
def toWalk (walk : EntryWalk) : Paging.Walk PublicEntry :=
  ⟨walk.nextCursor.map UInt64.toNat, walk.entries⟩

variable {walk : EntryWalk} {raffleId : RaffleId} {db : Database} {all : List PublicEntry}

theorem request_of_none (h : walk.nextCursor = none) (limit : PageLimit) :
    walk.request raffleId limit db = walk := by
  unfold request
  rw [h]

theorem toWalk_cursor_eq_none : walk.toWalk.cursor = none ↔ walk.nextCursor = none :=
  Option.map_eq_none_iff

/-- On a numbered ledger, a request does what it does on the list of the entries. -/
theorem request_refines (h : NumberedLedger raffleId db all) (hexact : walk.toWalk.Exact all)
    (limit : PageLimit) :
    (walk.request raffleId limit db).toWalk = walk.toWalk.request all limit.value.toNat ∧
      (walk.request raffleId limit db).failure = walk.failure := by
  obtain ⟨nextCursor, pages, failure⟩ := walk
  cases nextCursor with
  | none => exact ⟨rfl, rfl⟩
  | some cursor =>
      obtain ⟨hle, -⟩ := hexact cursor.toNat rfl
      have hlength := h.length_lt
      have hpage := publicEntries_eq h.publicLedger_eq h.indices (hle.trans_lt hlength) limit
      refine ⟨?_, ?_⟩
      · have hnext : (if cursor.toNat + limit.value.toNat < all.length then
            some (cursor + limit.value.toUInt64) else none).map UInt64.toNat =
            if cursor.toNat + limit.value.toNat < all.length then
              some (cursor.toNat + limit.value.toNat) else none := by
          split
          · rw [Option.map_some, UInt64.toNat_add, UInt32.toNat_toUInt64, Nat.mod_eq_of_lt]
            omega
          · rfl
        simp only [request, hpage, toWalk, hnext, Paging.Walk.request, Option.map_some, entries,
          List.flatMap_append, List.flatMap_singleton]
      · simp only [request, hpage]

end EntryWalk

/-! ## Runs -/

/-- The store takes a step, or the reader asks for a page. -/
inductive ReadAction where
  | operation (op : Op)
  | request (limit : PageLimit)

def ReadAction.isRequest : ReadAction → Bool
  | request _ => true
  | operation _ => false

structure Reading where
  store : Store
  walk : EntryWalk

section Run

variable (prim : Primitives) (raffleId : RaffleId)

def Reading.step (reading : Reading) : ReadAction → Reading
  | .operation op => { reading with store := reading.store.step prim op }
  | .request limit =>
      { reading with walk := reading.walk.request raffleId limit reading.store.db }

/-- The reading after a list of actions, from the empty database and cursor zero. -/
def Reading.after (actions : List ReadAction) : Reading :=
  StateMachine.run (Reading.step prim raffleId) ⟨.empty, .start⟩ actions

/-- The rows of the raffle in the store. -/
def Reading.rows (reading : Reading) : List EntryRow :=
  reading.store.db.entries.select (·.raffleId = raffleId)

/-- The invariant of a reading. -/
structure Reading.Sound (reading : Reading) : Prop where
  store : reading.store.Sound prim
  pool : PoolBound (reading.store.db.view raffleId)
  exact : ∀ all, NumberedLedger raffleId reading.store.db all → reading.walk.toWalk.Exact all
  failure : reading.walk.failure = none

end Run

section Steps

variable {prim : Primitives} {raffleId : RaffleId} {reading : Reading}

theorem Reading.Sound.ledger (h : reading.Sound prim raffleId) :
    ∃ all, NumberedLedger raffleId reading.store.db all :=
  h.store.exists_numberedLedger h.pool

/-- Rows are only added after those that are there. -/
theorem Reading.Sound.rows_grow (h : reading.Sound prim raffleId) (action : ReadAction) :
    reading.rows raffleId <+: (reading.step prim raffleId action).rows raffleId := by
  cases action with
  | operation op => exact (reading.store.step_raffleStep h.store op).entries_grow
  | request limit => exact List.prefix_rfl

theorem Reading.Sound.step (h : reading.Sound prim raffleId) (action : ReadAction) :
    (reading.step prim raffleId action).Sound prim raffleId := by
  obtain ⟨all, hall⟩ := h.ledger
  cases action with
  | operation op =>
      refine ⟨h.store.step op, (reading.store.step_raffleStep h.store op).poolBound h.pool, ?_,
        h.failure⟩
      intro all' hall'
      exact (h.exact all hall).grow (hall.grow hall' (h.rows_grow (.operation op)))
  | request limit =>
      refine ⟨h.store, h.pool, ?_, ?_⟩
      · intro all' hall'
        change NumberedLedger raffleId reading.store.db all' at hall'
        change (reading.walk.request ..).toWalk.Exact all'
        rw [(EntryWalk.request_refines hall' (h.exact all' hall') limit).1]
        exact (h.exact all' hall').request _
      · exact (EntryWalk.request_refines hall (h.exact all hall) limit).2.trans h.failure

theorem Reading.Sound.run (h : reading.Sound prim raffleId) (actions : List ReadAction) :
    (StateMachine.run (Reading.step prim raffleId) reading actions).Sound prim raffleId :=
  StateMachine.invariant (fun _ action h => h.step action) h actions

theorem Reading.sound_after (prim : Primitives) (raffleId : RaffleId) (actions : List ReadAction) :
    (Reading.after prim raffleId actions).Sound prim raffleId := by
  refine Reading.Sound.run ?_ actions
  refine ⟨Store.sound_empty, ?_, fun all _ => .start all, rfl⟩
  intro row hrow
  change (Database.empty.view raffleId).raffle = some row at hrow
  rw [view_empty] at hrow
  cases hrow

/-- What the reader has read after a request that it sends. -/
theorem Reading.Sound.covers (h : reading.Sound prim raffleId) {all : List PublicEntry}
    (hall : NumberedLedger raffleId reading.store.db all)
    (hopen : reading.walk.nextCursor ≠ none) (limit : PageLimit) :
    (reading.walk.request raffleId limit reading.store.db).Covers all := by
  obtain ⟨cursor, hcursor⟩ := Option.ne_none_iff_exists'.mp hopen
  have hexact := h.exact all hall
  have hrefines := (EntryWalk.request_refines hall hexact limit).1
  have hposition : reading.walk.toWalk.cursor = some cursor.toNat := by
    rw [EntryWalk.toWalk, hcursor]
    rfl
  have hitems := hexact.request_items hposition limit.value.toNat
  rw [← hrefines] at hitems
  unfold EntryWalk.Covers
  rcases hitems with ⟨hnone, hitems⟩ | ⟨hsome, hlt, hitems⟩
  · rw [EntryWalk.toWalk_cursor_eq_none.mp hnone]
    exact hitems
  · obtain ⟨next, hnext, heq⟩ := Option.map_eq_some_iff.mp hsome
    rw [hnext]
    change next.toNat < all.length ∧ _ = all.take next.toNat
    rw [heq]
    exact ⟨hlt, hitems⟩

/-- A reader that is done stays as it is. -/
theorem Reading.walk_run_of_done (hdone : reading.walk.nextCursor = none)
    (actions : List ReadAction) :
    (StateMachine.run (Reading.step prim raffleId) reading actions).walk = reading.walk := by
  have hstep : ∀ (other : Reading) (action : ReadAction), other.walk = reading.walk →
      (other.step prim raffleId action).walk = reading.walk := by
    intro other action hother
    cases action with
    | operation op => exact hother
    | request limit =>
        have hnone : other.walk.nextCursor = none := hother ▸ hdone
        exact (EntryWalk.request_of_none hnone limit).trans hother
  exact StateMachine.invariant hstep rfl actions

theorem Reading.Sound.rows_run (h : reading.Sound prim raffleId) (actions : List ReadAction) :
    reading.rows raffleId <+:
      (StateMachine.run (Reading.step prim raffleId) reading actions).rows raffleId :=
  StateMachine.run_related (P := Reading.Sound prim raffleId)
    (R := fun a b => a.rows raffleId <+: b.rows raffleId) (fun _ => List.prefix_rfl)
    (fun _ _ _ => List.IsPrefix.trans) (fun _ action h => h.step action)
    (fun _ action h => h.rows_grow action) h actions

/-- While no entry is added, every request brings the end of the walk nearer. -/
theorem Reading.Sound.remaining_run (h : reading.Sound prim raffleId) {all : List PublicEntry}
    (hall : NumberedLedger raffleId reading.store.db all) (actions : List ReadAction)
    (hsame : (StateMachine.run (Reading.step prim raffleId) reading actions).rows raffleId =
      reading.rows raffleId) :
    (StateMachine.run (Reading.step prim raffleId) reading actions).walk.toWalk.remaining all ≤
      reading.walk.toWalk.remaining all - actions.countP ReadAction.isRequest := by
  induction actions generalizing reading with
  | nil => exact le_rfl
  | cons action actions ih =>
      have hnext := h.step action
      have hrows : (reading.step prim raffleId action).rows raffleId = reading.rows raffleId := by
        have hlater := hnext.rows_run actions
        rw [StateMachine.run_cons] at hsame
        rw [hsame] at hlater
        exact (h.rows_grow action).eq_of_length_le hlater.length_le |>.symm
      have hrest := ih hnext (hall.congr hrows) (hsame.trans hrows.symm)
      rw [StateMachine.run_cons]
      cases action with
      | operation op =>
          rw [List.countP_cons_of_neg (by simp [ReadAction.isRequest])]
          exact hrest
      | request limit =>
          have hexact := h.exact all hall
          have hnearer := hexact.remaining_request limit.one_le
          rw [← (EntryWalk.request_refines hall hexact limit).1] at hnearer
          rw [List.countP_cons_of_pos rfl]
          change _ ≤ (reading.walk.request ..).toWalk.remaining all - _ at hrest
          omega

/-- A reader that is done has read the entries that were there at its last request. -/
theorem Reading.exists_last_request (prim : Primitives) (raffleId : RaffleId)
    (actions : List ReadAction)
    (hdone : (Reading.after prim raffleId actions).walk.nextCursor = none) :
    ∃ front limit back, actions = front ++ .request limit :: back ∧
      (Reading.after prim raffleId front).walk.nextCursor ≠ none ∧
      (Reading.after prim raffleId actions).walk =
        (Reading.after prim raffleId (front ++ [.request limit])).walk := by
  induction actions using List.reverseRecOn with
  | nil => cases hdone
  | append_singleton front action ih =>
      by_cases hbefore : (Reading.after prim raffleId front).walk.nextCursor = none
      · obtain ⟨front', limit, back, rfl, hopen, hwalk⟩ := ih hbefore
        refine ⟨front', limit, back ++ [action], by simp, hopen, ?_⟩
        rw [← hwalk, Reading.after, StateMachine.run_append]
        exact Reading.walk_run_of_done hbefore [action]
      · cases action with
        | operation op =>
            rw [Reading.after, StateMachine.run_concat] at hdone
            exact absurd hdone hbefore
        | request limit => exact ⟨front, limit, [], rfl, hbefore, rfl⟩

end Steps

/-- Whatever happens between its requests, a reader that follows the cursors has read the entries
up to its cursor, in order and each once. When it is done it has read all that were there at its
last request, and without new entries it gets done. -/
theorem pages_lose_and_repeat_nothing (prim : Primitives) (raffleId : RaffleId)
    (actions : List ReadAction) :
    (Reading.after prim raffleId actions).walk.failure = none ∧
    (∀ front limit back, actions = front ++ .request limit :: back →
      (Reading.after prim raffleId front).walk.nextCursor ≠ none →
      ∃ all, publicLedger raffleId (Reading.after prim raffleId front).store.db = .ok all ∧
        all.map (fun entry => entry.entryIndex.toNat) = List.range all.length ∧
        (Reading.after prim raffleId (front ++ [.request limit])).walk.Covers all) ∧
    ((Reading.after prim raffleId actions).walk.nextCursor = none →
      ∃ front limit back all, actions = front ++ .request limit :: back ∧
        (Reading.after prim raffleId front).walk.nextCursor ≠ none ∧
        publicLedger raffleId (Reading.after prim raffleId front).store.db = .ok all ∧
        all.map (fun entry => entry.entryIndex.toNat) = List.range all.length ∧
        (Reading.after prim raffleId actions).walk.entries = all) ∧
    (∀ front back, actions = front ++ back →
      (Reading.after prim raffleId actions).rows raffleId =
        (Reading.after prim raffleId front).rows raffleId →
      ((Reading.after prim raffleId front).rows raffleId).length <
        back.countP ReadAction.isRequest →
      (Reading.after prim raffleId actions).walk.nextCursor = none) := by
  have hcovers : ∀ front limit, (Reading.after prim raffleId front).walk.nextCursor ≠ none →
      ∃ all, publicLedger raffleId (Reading.after prim raffleId front).store.db = .ok all ∧
        all.map (fun entry => entry.entryIndex.toNat) = List.range all.length ∧
        (Reading.after prim raffleId (front ++ [.request limit])).walk.Covers all := by
    intro front limit hopen
    have hsound := Reading.sound_after prim raffleId front
    obtain ⟨all, hall⟩ := hsound.ledger
    refine ⟨all, hall.publicLedger_eq, hall.publicIndices, ?_⟩
    rw [Reading.after, StateMachine.run_concat]
    exact hsound.covers hall hopen limit
  refine ⟨(Reading.sound_after prim raffleId actions).failure, ?_, ?_, ?_⟩
  · rintro front limit back -
    exact hcovers front limit
  · intro hdone
    obtain ⟨front, limit, back, hactions, hopen, hwalk⟩ :=
      Reading.exists_last_request prim raffleId actions hdone
    obtain ⟨all, hall, hindices, hread⟩ := hcovers front limit hopen
    refine ⟨front, limit, back, all, hactions, hopen, hall, hindices, ?_⟩
    rw [← hwalk, EntryWalk.Covers, hdone] at hread
    exact hread
  · rintro front back rfl hsame hcount
    have hsound := Reading.sound_after prim raffleId front
    obtain ⟨all, hall⟩ := hsound.ledger
    rw [Reading.after, StateMachine.run_append] at hsame ⊢
    have hremaining := hsound.remaining_run hall back hsame
    have hstart := (Reading.after prim raffleId front).walk.toWalk.remaining_le all
    have hlength : all.length = ((Reading.after prim raffleId front).rows raffleId).length :=
      ((mapM_eq_ok_iff _ _).mp hall.shown).length_eq.symm
    have hexact := (hsound.run back).exact all (hall.congr hsame)
    exact EntryWalk.toWalk_cursor_eq_none.mp (hexact.cursor_eq_none (by omega))

end OpenPool
