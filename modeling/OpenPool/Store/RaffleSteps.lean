import OpenPool.Store.Lifecycle

/-! # Operations on raffles and invoices, seen from one raffle -/

namespace OpenPool

open Fallible

section Steps

variable {prim : Primitives} {scope : Scope} {db db' : Database} {raffleId : RaffleId}

/-! ## Jobs -/

theorem isNew_concerns {id : RaffleId} {kind : JobKind} {row : JobRow} (h : row.IsNew id kind) :
    row.concerns raffleId = true ↔ id = raffleId := by
  simp only [JobRow.concerns, h.payload, h.deduplicationKey, JobPayload.raffle.injEq,
    decide_eq_true_eq]
  refine ⟨fun heq => heq.elim (fun heq => heq) fun heq => ?_, .inl⟩
  exact congrArg RaffleId.mk (Uuid.toString_inj.mp heq)

theorem insertRaffleJob_spec {jobId : Uuid} {kind : JobKind} {id : RaffleId} {now : ℤ}
    (h : insertRaffleJob jobId kind id now db = .ok db') :
    ∃ jobs, db' = { db with jobs } ∧
      JobsGrow id kind (db.view id).jobs (jobs.select (JobRow.concerns id)) ∧
      ∀ other, id ≠ other → jobs.select (JobRow.concerns other) = (db.view other).jobs := by
  simp only [insertRaffleJob, insertJob, bind_eq_ok_iff, sql_eq_ok_iff, pure_eq_ok_iff] at h
  obtain ⟨⟨jobs, inserted⟩, hjobs, rfl⟩ := h
  refine ⟨jobs, rfl, ?_⟩
  rcases Table.rows_of_insertOrIgnore hjobs with ⟨-, rfl, row, hmem, hrow⟩ | ⟨-, hrows, -⟩
  · obtain ⟨hkind, hkey⟩ := of_decide_eq_true hrow
    refine ⟨.inl ⟨rfl, row, Table.mem_select.mpr ⟨hmem, ?_⟩, hkind⟩, fun _ _ => rfl⟩
    exact decide_eq_true (.inr hkey)
  · have hnew : JobRow.IsNew id kind
        { id := jobId, kind, deduplicationKey := id.uuid.toString, payload := .raffle id
          availableAt := now, createdAt := now } := ⟨rfl, rfl, rfl, rfl⟩
    refine ⟨.inr ⟨_, hnew, ?_⟩, fun other hother => ?_⟩
    · rw [Table.select, hrows, List.filter_append, List.filter_singleton,
        (isNew_concerns hnew).mpr rfl]
      rfl
    · have hconcerns := Bool.eq_false_iff.mpr (mt (isNew_concerns hnew).mp hother)
      rw [Table.select, hrows, List.filter_append, List.filter_singleton, hconcerns]
      exact List.append_nil _

theorem insertCloseJobs_spec {jobIds : RaffleId → Uuid} {now : ℤ} {rows : List RaffleRow}
    (h : insertCloseJobs jobIds now db rows = .ok db') (hnodup : (rows.map RaffleRow.id).Nodup) :
    ∃ jobs, db' = { db with jobs } ∧ ∀ id,
      if id ∈ rows.map RaffleRow.id then
        JobsGrow id .raffleClose (db.view id).jobs (jobs.select (JobRow.concerns id))
      else jobs.select (JobRow.concerns id) = (db.view id).jobs := by
  induction rows generalizing db with
  | nil =>
      cases h
      exact ⟨_, rfl, fun _ => rfl⟩
  | cons row rows ih =>
      simp only [insertCloseJobs, bind_eq_ok_iff] at h
      obtain ⟨middle, hmiddle, hrest⟩ := h
      obtain ⟨hrow, hnodup⟩ := List.nodup_cons.mp hnodup
      obtain ⟨jobs, rfl, hgrow, hother⟩ := insertRaffleJob_spec hmiddle
      obtain ⟨jobs', rfl, hspec⟩ := ih hrest hnodup
      refine ⟨jobs', rfl, fun id => ?_⟩
      have hid := hspec id
      by_cases heq : row.id = id
      · subst heq
        rw [if_neg hrow] at hid
        rw [if_pos (by simp), hid]
        exact hgrow
      · have hview : (Database.view { db with jobs } id).jobs = (db.view id).jobs := hother id heq
        simpa [Ne.symm heq, hview] using hid

/-! ## Raffles -/

/-- The row a view shows has the view's raffle id. -/
theorem view_raffle_id {row : RaffleRow} (h : (db.view raffleId).raffle = some row) :
    row.id = raffleId := by
  simpa using (Table.mem_of_find h).2

theorem view_raffle_of_mem {raffle : RaffleRow} (hmem : raffle ∈ db.raffles.rows) :
    (db.view raffle.id).raffle = some raffle :=
  Table.find_eq_some hmem (decide_eq_true rfl) fun _ _ ha hb =>
    (of_decide_eq_true ha).trans (of_decide_eq_true hb).symm

theorem mem_view_invoices {invoice : InvoiceRow} (hmem : invoice ∈ db.invoices.rows) :
    invoice ∈ (db.view invoice.raffleId).invoices :=
  Table.mem_select.mpr ⟨hmem, decide_eq_true rfl⟩

theorem mem_invoices {invoice : InvoiceRow} (hmem : invoice ∈ (db.view raffleId).invoices) :
    invoice ∈ db.invoices.rows :=
  (Table.mem_select.mp hmem).1

/-- An update of raffles changes the row of a view or leaves the view alone. -/
theorem raffles_update_step {filter : RaffleRow → Bool} {set : RaffleRow → RaffleRow}
    {raffles : Table RaffleRow} {returned : List RaffleRow}
    (h : db.raffles.update filter set = .ok (raffles, returned))
    (hid : ∀ row, (set row).id = row.id)
    (hstep : ∀ row, (db.view raffleId).raffle = some row → filter row = true →
      RaffleStep prim scope raffleId (db.view raffleId)
        { db.view raffleId with raffle := some (set row) }) :
    RaffleStep prim scope raffleId (db.view raffleId) ({ db with raffles }.view raffleId) := by
  have hkey : ∀ row, filter row = true →
      decide ((set row).id = raffleId) = decide (row.id = raffleId) := by simp [hid]
  change RaffleStep prim scope raffleId (db.view raffleId)
    { db.view raffleId with raffle := raffles.find _ }
  by_cases hrow : ∃ row, (db.view raffleId).raffle = some row ∧ filter row = true
  · obtain ⟨row, hrow, hfilter⟩ := hrow
    rw [Table.find_updated h hkey hrow hfilter]
    exact hstep row hrow hfilter
  · rw [Table.find_not_updated h hkey fun row hfind => by
      simpa using fun hfilter => hrow ⟨row, hfind, hfilter⟩]
    exact .stay

theorem createDraftRaffle_step {raffle : NewDraftRaffle} {u : Unit}
    (h : createDraftRaffle raffle db = .ok (db', u)) :
    RaffleStep prim scope raffleId (db.view raffleId) (db'.view raffleId) := by
  simp only [createDraftRaffle, bind_eq_ok_iff, sql_eq_ok_iff, pure_eq_ok_iff,
    Prod.mk.injEq] at h
  obtain ⟨price, -, -, -, raffles, hraffles, splits, hsplits, rfl, -⟩ := h
  change RaffleStep prim scope raffleId (db.view raffleId)
    { db.view raffleId with raffle := raffles.find _, split := splits.find _ }
  rw [Table.find_of_insert hraffles, Table.find_of_insert hsplits]
  by_cases hid : raffle.id = raffleId
  · have habsent : (db.view raffleId).raffle = none := by
      refine Table.find_eq_none_iff.mpr fun other hmem => decide_eq_false fun heq => ?_
      exact Table.not_clash_of_insert hraffles other hmem (heq.trans hid.symm)
    have hnone : db.raffles.find (fun row => row.id = raffleId) = none := habsent
    simp only [PayoutSplit.row, hid, decide_true, if_true, hnone, Option.none_or]
    exact .create _ _ habsent rfl ⟨rfl, rfl, rfl, rfl, rfl, rfl⟩
  · simp only [PayoutSplit.row, hid, decide_false, Bool.false_eq_true, if_false, Option.or_none]
    exact .stay

theorem transitionRaffle_step {organizerId : OrganizerId} {id : RaffleId}
    {status : Option RaffleStatus} {u : Unit}
    (hmoved : scope.moved = status.map fun status => (id, status))
    (h : transitionRaffle organizerId id status db = .ok (db', u)) :
    RaffleStep prim scope raffleId (db.view raffleId) (db'.view raffleId) := by
  simp only [transitionRaffle, bind_eq_ok_iff, sql_eq_ok_iff, orElse_eq_ok_iff, pure_eq_ok_iff,
    Prod.mk.injEq] at h
  obtain ⟨status, rfl, ⟨raffles, returned⟩, hraffles, -, -, rfl, -⟩ := h
  refine raffles_update_step hraffles (fun _ => rfl) fun row hrow hfilter => ?_
  simp only [Bool.decide_and, Bool.and_eq_true, decide_eq_true_eq] at hfilter
  obtain rfl : row.id = id := hfilter.1
  rw [view_raffle_id hrow] at hmoved
  exact .move row status hrow hfilter.2.2 hmoved

theorem updateRaffle_step {organizerId : OrganizerId} {raffle : NewDraftRaffle} {u : Unit}
    (h : updateRaffle organizerId raffle db = .ok (db', u)) :
    RaffleStep prim scope raffleId (db.view raffleId) (db'.view raffleId) := by
  simp only [updateRaffle, bind_eq_ok_iff, sql_eq_ok_iff, pure_eq_ok_iff, ensure_eq_ok_iff,
    execute_eq_ok_iff, Prod.mk.injEq] at h
  obtain ⟨price, -, ⟨raffles, returned⟩, hraffles, -, hreturned, splits, ⟨returned', hsplits⟩,
    rfl, -⟩ := h
  change RaffleStep prim scope raffleId (db.view raffleId)
    { db.view raffleId with raffle := raffles.find _, split := splits.find _ }
  by_cases hid : raffle.id = raffleId
  · subst hid
    -- the statement returned a row, so the view shows one it changed
    obtain ⟨row, hmem, hfilter⟩ : ∃ row ∈ db.raffles.rows, decide (row.id = raffle.id ∧
        row.organizerId = organizerId ∧ (row.status = .draft ∨ row.status = .scheduled)) = true := by
      rw [(Table.rows_of_update hraffles).2, List.length_map] at hreturned
      obtain ⟨row, hrow⟩ := List.exists_mem_of_length_pos (hreturned ▸ Nat.zero_lt_one)
      exact ⟨row, List.mem_filter.mp hrow⟩
    obtain ⟨hrowId, -, hstatus⟩ := of_decide_eq_true hfilter
    have hrow : db.raffles.find (fun row => row.id = raffle.id) = some row :=
      Table.find_eq_some hmem (decide_eq_true hrowId) fun a b ha hb =>
        (of_decide_eq_true ha).trans (of_decide_eq_true hb).symm
    rw [Table.find_updated hraffles (fun _ _ => rfl) hrow hfilter,
      Table.find_of_update hsplits fun other hother => by
        simp [PayoutSplit.row, of_decide_eq_true hother]]
    have hset : (db.payoutSplits.find fun row => row.raffleId = raffle.id).map
        (fun row => if decide (row.raffleId = raffle.id) = true then
          raffle.payoutSplit.row raffle.id else row) =
        (db.view raffle.id).split.map fun _ => raffle.payoutSplit.row raffle.id := by
      refine Option.map_congr fun split hsplit => if_pos (Table.mem_of_find hsplit).2
    rw [hset]
    exact .edit row _ _ _ _ _ _ hrow hstatus
  · rw [Table.find_not_updated hraffles (fun _ _ => rfl) fun row hrow => by
        have : row.id = raffleId := view_raffle_id hrow
        simp [this, Ne.symm hid],
      Table.find_not_updated hsplits (fun row hfilter => by
        simp [PayoutSplit.row, of_decide_eq_true hfilter, hid]) fun row hrow => by
        have : row.raffleId = raffleId := of_decide_eq_true (Table.mem_of_find hrow).2
        simp [this, Ne.symm hid]]
    exact .stay

/-- A raffle is among the updated rows exactly when the view shows a row that was updated. -/
theorem mem_returned_iff {filter : RaffleRow → Bool} {set : RaffleRow → RaffleRow}
    {raffles : Table RaffleRow} {returned : List RaffleRow}
    (h : db.raffles.update filter set = .ok (raffles, returned))
    (hid : ∀ row, (set row).id = row.id) :
    raffleId ∈ returned.map RaffleRow.id ↔
      ∃ row, (db.view raffleId).raffle = some row ∧ filter row = true := by
  rw [(Table.rows_of_update h).2, List.map_map, List.mem_map]
  constructor
  · rintro ⟨row, hmem, hrowId⟩
    obtain ⟨hmem, hfilter⟩ := List.mem_filter.mp hmem
    refine ⟨row, Table.find_eq_some hmem ?_ fun a b ha hb => ?_, hfilter⟩
    · exact decide_eq_true ((hid row).symm.trans hrowId)
    · exact (of_decide_eq_true ha).trans (of_decide_eq_true hb).symm
  · rintro ⟨row, hrow, hfilter⟩
    exact ⟨row, List.mem_filter.mpr ⟨(Table.mem_of_find hrow).1, hfilter⟩,
      (hid row).trans (view_raffle_id hrow)⟩

theorem returned_nodup {filter : RaffleRow → Bool} {set : RaffleRow → RaffleRow}
    {raffles : Table RaffleRow} {returned : List RaffleRow}
    (h : db.raffles.update filter set = .ok (raffles, returned))
    (hid : ∀ row, (set row).id = row.id) : (returned.map RaffleRow.id).Nodup := by
  have hcomp : RaffleRow.id ∘ set = RaffleRow.id := funext hid
  rw [(Table.rows_of_update h).2, List.map_map, hcomp]
  exact (List.pairwise_map.mpr db.raffles.distinct).sublist (List.filter_sublist.map _)

theorem scheduleDueCloses_step {jobIds : RaffleId → Uuid} {now : ℤ} {count : ℕ}
    (hclosing : scope.closing = some now) (h : scheduleDueCloses jobIds now db = .ok (db', count)) :
    RaffleStep prim scope raffleId (db.view raffleId) (db'.view raffleId) := by
  simp only [scheduleDueCloses, bind_eq_ok_iff, sql_eq_ok_iff, pure_eq_ok_iff,
    Prod.mk.injEq] at h
  obtain ⟨⟨raffles, returned⟩, hraffles, middle, hjobs, rfl, -⟩ := h
  obtain ⟨jobs, rfl, hspec⟩ := insertCloseJobs_spec hjobs (returned_nodup hraffles fun _ => rfl)
  have hjobs := hspec raffleId
  change RaffleStep prim scope raffleId (db.view raffleId)
    { db.view raffleId with raffle := raffles.find _, jobs := jobs.select _ }
  by_cases hrow : ∃ row, (db.view raffleId).raffle = some row ∧
      decide (row.status = .opened ∧ row.endTime ≤ now) = true
  · rw [if_pos ((mem_returned_iff hraffles fun _ => rfl).mpr hrow)] at hjobs
    obtain ⟨row, hrow, hfilter⟩ := hrow
    rw [Table.find_updated hraffles (fun _ _ => rfl) hrow hfilter]
    exact .close row _ hrow (of_decide_eq_true hfilter).1 hjobs
      ⟨now, hclosing, (of_decide_eq_true hfilter).2⟩
  · rw [if_neg (mt (mem_returned_iff hraffles fun _ => rfl).mp hrow)] at hjobs
    rw [hjobs, Table.find_not_updated hraffles (fun _ _ => rfl) fun row hfind =>
      Bool.eq_false_iff.mpr fun hfilter => hrow ⟨row, hfind, hfilter⟩]
    exact .stay

theorem freezeRaffle_step {id : RaffleId} {jobId : Uuid} {now : ℤ} {root : Hash32}
    (hfrozen : scope.frozen = some id)
    (h : freezeRaffle prim.sha256 id jobId now db = .ok (db', root)) :
    RaffleStep prim scope raffleId (db.view raffleId) (db'.view raffleId) := by
  simp only [freezeRaffle, bind_eq_ok_iff, pure_eq_ok_iff, fetchOne_eq_ok_iff, ensure_eq_ok_iff,
    asU64_eq_ok_iff, execute_eq_ok_iff, applyIf_eq_ok_iff, Prod.mk.injEq] at h
  obtain ⟨row, hrow, -, hclosing, count, hcount, head, hhead, raffles, ⟨returned, hraffles⟩,
    middle, hjob, rfl, -⟩ := h
  obtain ⟨jobs, rfl, hjobs, hother⟩ : ∃ jobs, middle = { db with raffles, jobs } ∧
      (if row.totalTickets = 0 then jobs.select (JobRow.concerns id) = (db.view id).jobs
        else JobsGrow id .raffleDraw (db.view id).jobs (jobs.select (JobRow.concerns id))) ∧
      ∀ other, id ≠ other → jobs.select (JobRow.concerns other) = (db.view other).jobs := by
    rcases hjob with ⟨htickets, hjob⟩ | ⟨htickets, rfl⟩
    · obtain ⟨jobs, rfl, hgrow, hother⟩ := insertRaffleJob_spec hjob
      exact ⟨jobs, rfl, by rwa [if_neg htickets], hother⟩
    · exact ⟨db.jobs, rfl, by rw [if_pos (not_not.mp htickets)]; rfl, fun _ _ => rfl⟩
  change RaffleStep prim scope raffleId (db.view raffleId)
    { db.view raffleId with raffle := raffles.find _, jobs := jobs.select _ }
  by_cases hid : id = raffleId
  · subst hid
    rw [Table.find_updated hraffles (fun _ _ => rfl) hrow
      (decide_eq_true (view_raffle_id hrow))]
    refine .freeze row head count _ hrow hclosing hhead ?_ hjobs hfrozen
    exact_mod_cast (hcount.symm.trans (congrArg Nat.cast List.countP_eq_length_filter))
  · rw [hother raffleId hid, Table.find_not_updated hraffles (fun _ _ => rfl) fun other hfind => by
      have : other.id = raffleId := view_raffle_id hfind
      simp [this, Ne.symm hid]]
    exact .stay

/-! ## Invoices -/

theorem view_raffle_of_has {id : RaffleId} (h : db.raffles.has (·.id = id) = true) :
    ∃ row, (db.view id).raffle = some row :=
  Table.find_of_has h

/-- An insert of an invoice is a step where it is one for the raffle of the invoice. -/
theorem invoices_insert_step {row : InvoiceRow} {invoices : Table InvoiceRow}
    (h : db.invoices.insert row = .ok invoices)
    (hstep : row.raffleId = raffleId → RaffleStep prim scope raffleId (db.view raffleId)
      { db.view raffleId with invoices := (db.view raffleId).invoices ++ [row] }) :
    RaffleStep prim scope raffleId (db.view raffleId) ({ db with invoices }.view raffleId) := by
  change RaffleStep prim scope raffleId (db.view raffleId)
    { db.view raffleId with invoices := invoices.select _ }
  rw [Table.select_of_insert h]
  by_cases hid : row.raffleId = raffleId
  · simp only [hid, decide_true, if_true]
    exact hstep hid
  · simp only [hid, decide_false, Bool.false_eq_true, if_false, List.append_nil]
    exact .stay

theorem createPendingInvoice_step {invoice : NewInvoice} {u : Unit} (hseam : scope.seam = true)
    (h : createPendingInvoice invoice db = .ok (db', u)) :
    RaffleStep prim scope raffleId (db.view raffleId) (db'.view raffleId) := by
  simp only [createPendingInvoice, bind_eq_ok_iff, sql_eq_ok_iff, references_eq_ok_iff,
    pure_eq_ok_iff, Prod.mk.injEq] at h
  obtain ⟨amount, -, tickets, -, -, hhas, invoices, hinvoices, rfl, -⟩ := h
  refine invoices_insert_step hinvoices ?_
  rintro rfl
  obtain ⟨row, hrow⟩ := view_raffle_of_has hhas
  exact .pendingInvoice row _ hrow rfl rfl hseam

theorem checkedMul_eq_some_iff (a b c : UInt64) :
    checkedMul a b = some c ↔ c.toNat = a.toNat * b.toNat := by
  have hc := c.toNat_lt
  unfold checkedMul
  split
  · rename_i h
    have hmul : (a * b).toNat = a.toNat * b.toNat := by
      rw [UInt64.toNat_mul, Nat.mod_eq_of_lt h]
    rw [Option.some.injEq, ← UInt64.toNat_inj, hmul, eq_comm]
  · simp only [reduceCtorEq, false_iff]
    omega

theorem createCollectionInvoice_step {invoice : NewCollectionInvoice}
    {pending : PendingCollectionInvoice}
    (h : createCollectionInvoice invoice db = .ok (db', pending)) :
    RaffleStep prim scope raffleId (db.view raffleId) (db'.view raffleId) := by
  simp only [createCollectionInvoice, bind_eq_ok_iff, sql_eq_ok_iff, orElse_eq_ok_iff,
    ensure_eq_ok_iff, asU64_eq_ok_iff, asI64_eq_ok_iff, checkedMul_eq_some_iff, pure_eq_ok_iff,
    Prod.mk.injEq] at h
  obtain ⟨raffle, hraffle, -, hopen, -, -, -, -, price, hprice, product, hproduct, amount,
    ⟨rfl, hlt⟩, tickets, ⟨rfl, -⟩, invoices, hinvoices, rfl, -⟩ := h
  refine invoices_insert_step hinvoices ?_
  rintro rfl
  refine .collectionInvoice raffle _ hraffle rfl rfl hopen ?_ (Int.ofNat_lt.mpr hlt)
  rw [hprice, hproduct]
  exact Nat.cast_mul _ _

/-- An update of invoices that keeps what was billed. -/
theorem invoices_update_step {filter : InvoiceRow → Bool} {set : InvoiceRow → InvoiceRow}
    {invoices : Table InvoiceRow} {returned : List InvoiceRow}
    (h : db.invoices.update filter set = .ok (invoices, returned))
    (hsame : ∀ row : InvoiceRow, row.SameInvoice (set row))
    (hstatus : ∀ row, filter row = true → (set row).status = row.status ∨
      (row.status = .pending ∧ (set row).status = .collectionFailed)) :
    RaffleStep prim scope raffleId (db.view raffleId) ({ db with invoices }.view raffleId) := by
  change RaffleStep prim scope raffleId (db.view raffleId)
    { db.view raffleId with invoices := invoices.select _ }
  rw [Table.select_of_update h fun row _ => by rw [(hsame row).raffleId]]
  refine .changeInvoices _ (fun row => ?_) fun row => ?_
  · split
    · exact hsame row
    · exact .refl row
  · split
    · rename_i hfilter
      exact hstatus row hfilter
    · exact .inl rfl

theorem storeCollectionInvoice_step {invoiceId : InvoiceId} {quoteId paymentHash bolt11 : String}
    {expiresAt : ℤ} {u : Unit}
    (h : storeCollectionInvoice invoiceId quoteId paymentHash bolt11 expiresAt db = .ok (db', u)) :
    RaffleStep prim scope raffleId (db.view raffleId) (db'.view raffleId) := by
  simp only [storeCollectionInvoice, bind_eq_ok_iff, sql_eq_ok_iff, pure_eq_ok_iff,
    Prod.mk.injEq] at h
  obtain ⟨⟨invoices, returned⟩, hinvoices, -, -, rfl, -⟩ := h
  exact invoices_update_step hinvoices (fun _ => ⟨rfl, rfl, rfl, rfl, rfl, rfl, rfl⟩)
    fun _ _ => .inl rfl

theorem failCollectionInvoice_step {invoiceId : InvoiceId} {u : Unit}
    (h : failCollectionInvoice invoiceId db = .ok (db', u)) :
    RaffleStep prim scope raffleId (db.view raffleId) (db'.view raffleId) := by
  simp only [failCollectionInvoice, bind_eq_ok_iff, execute_eq_ok_iff, pure_eq_ok_iff,
    Prod.mk.injEq] at h
  obtain ⟨invoices, ⟨returned, hinvoices⟩, rfl, -⟩ := h
  exact invoices_update_step hinvoices (fun _ => ⟨rfl, rfl, rfl, rfl, rfl, rfl, rfl⟩)
    fun _ hfilter => .inr ⟨(of_decide_eq_true hfilter).2.1, rfl⟩

theorem markCollectionUncollectible_step {invoiceId : InvoiceId} {u : Unit}
    (h : markCollectionUncollectible invoiceId db = .ok (db', u)) :
    RaffleStep prim scope raffleId (db.view raffleId) (db'.view raffleId) := by
  simp only [markCollectionUncollectible, bind_eq_ok_iff, execute_eq_ok_iff, pure_eq_ok_iff,
    Prod.mk.injEq] at h
  obtain ⟨invoices, ⟨returned, hinvoices⟩, rfl, -⟩ := h
  exact invoices_update_step hinvoices (fun _ => ⟨rfl, rfl, rfl, rfl, rfl, rfl, rfl⟩)
    fun _ hfilter => .inr ⟨(of_decide_eq_true hfilter).2, rfl⟩

/-- The invoice a primary-key query finds is the only one with its id. -/
theorem eq_of_invoice_id {invoice other : InvoiceRow}
    (hinvoice : db.invoices.find (·.id = invoice.id) = some invoice)
    (hmem : other ∈ db.invoices.rows) (hid : other.id = invoice.id) : other = invoice :=
  db.invoices.eq_of_clash hmem (Table.mem_of_find hinvoice).1 (.inl hid)

/-! ## Settlement -/

theorem entryFor_spec {sha256 : List UInt8 → Hash32} {invoice : InvoiceRow} {raffle : RaffleRow}
    {position : ℕ} {entryId : EntryId} {settledAt : ℤ} {entry : LedgerEntry}
    (h : entryFor sha256 invoice raffle position entryId settledAt = .ok entry)
    (hid : invoice.raffleId = raffle.id) :
    entry.Continues sha256 raffle position ∧ entry.data.entryId = entryId ∧
      entry.data.raffleId = invoice.raffleId ∧
      invoice.participantPublicId = entry.data.participantPublicId.val ∧
      invoice.paymentReferenceHash = entry.data.paymentReferenceHash.val ∧
      invoice.amountSats = entry.data.amountSats.asU64.toNat ∧
      (entry.ticketStop : ℤ) = entry.ticketStart + invoice.ticketCount ∧
      entry.data.settledAtUnixMs = unixMs settledAt := by
  simp only [entryFor, bind_eq_ok_iff, asU64_eq_ok_iff, orElse_eq_ok_iff, checkedAdd_eq_some_iff,
    hashFromBytes_eq_ok_iff, mapError_eq_ok_iff, TicketRange.new_eq_ok_iff, pure_eq_ok_iff] at h
  obtain ⟨start, hstart, count, hcount, stop, hstop, head, hhead, index, hindex, participant,
    hparticipant, reference, hreference, amount, hamount, range, ⟨rfl, hlt⟩, rfl⟩ := h
  refine ⟨⟨hid, ?_, hstart, hlt, hhead, rfl⟩, rfl, rfl, hparticipant, hreference, hamount, ?_, rfl⟩
  · exact_mod_cast hindex.symm
  · change ((stop.toNat : ℕ) : ℤ) = (start.toNat : ℕ) + invoice.ticketCount
    omega

theorem entryRowFor_spec {invoiceId : InvoiceId} {settledAt : ℤ} {entry : LedgerEntry}
    {row : EntryRow} (h : entryRowFor invoiceId settledAt entry = .ok row)
    (hepoch : postgresEpoch ≤ settledAt)
    (hsettled : entry.data.settledAtUnixMs = unixMs settledAt)
    (hrange : entry.ticketStart < entry.ticketStop) :
    row.Reads entry := by
  simp only [entryRowFor, bind_eq_ok_iff, asI64_eq_ok_iff, pure_eq_ok_iff] at h
  obtain ⟨index, ⟨rfl, -⟩, amount, ⟨rfl, -⟩, start, ⟨rfl, -⟩, stop, ⟨rfl, -⟩, rfl⟩ := h
  exact ⟨rfl, rfl, rfl, rfl, rfl, rfl, rfl, rfl, hrange,
    by rw [hsettled]; exact unixMs_ofTimestamp_toTimestamp hepoch, rfl, rfl⟩

/-- What a row takes from the settlement and not from the entry. -/
theorem keys_of_entryRowFor {invoiceId : InvoiceId} {settledAt : ℤ} {entry : LedgerEntry}
    {row : EntryRow} (h : entryRowFor invoiceId settledAt entry = .ok row) :
    row.invoiceId = invoiceId ∧ row.settledAt = toTimestamp settledAt := by
  simp only [entryRowFor, bind_eq_ok_iff, pure_eq_ok_iff] at h
  obtain ⟨_, -, _, -, _, -, _, -, rfl⟩ := h
  exact ⟨rfl, rfl⟩

theorem row_of_appendEntry {sha256 : List UInt8 → Hash32} {invoice : InvoiceRow}
    {entryId : EntryId} {settledAt : ℤ} {entry : LedgerEntry}
    (h : appendEntry sha256 invoice entryId settledAt db = .ok (db', entry)) :
    ∃ row ∈ db'.entries.rows, entryRowFor invoice.id settledAt entry = .ok row := by
  simp only [appendEntry, bind_eq_ok_iff, sql_eq_ok_iff, pure_eq_ok_iff, Prod.mk.injEq] at h
  obtain ⟨-, -, raffle, -, -, -, entry, -, row, hrow, entries, hentries, pool, -, newPool, -,
    invoices, -, total, -, tickets, -, raffles, -, rfl, rfl⟩ := h
  refine ⟨row, ?_, hrow⟩
  change row ∈ entries.rows
  rw [Table.rows_of_insert hentries]
  exact List.mem_append_right _ (List.mem_singleton_self row)

theorem appendEntry_step {invoice : InvoiceRow} {entryId : EntryId} {settledAt : ℤ}
    {entry : LedgerEntry}
    (hinvoice : db.invoices.find (·.id = invoice.id) = some invoice)
    (hepoch : postgresEpoch ≤ settledAt)
    (hscope : scope.settlement = some (invoice.id, toTimestamp settledAt))
    (h : appendEntry prim.sha256 invoice entryId settledAt db = .ok (db', entry)) :
    RaffleStep prim scope raffleId (db.view raffleId) (db'.view raffleId) := by
  simp only [appendEntry, bind_eq_ok_iff, ensure_eq_ok_iff, orElse_eq_ok_iff, sql_eq_ok_iff,
    execute_eq_ok_iff, asU64_eq_ok_iff, asI64_eq_ok_iff, checkedAdd_eq_some_iff, pure_eq_ok_iff,
    Prod.mk.injEq] at h
  obtain ⟨-, hpending, raffle, hraffle, -, hopen, entry, hentry, row, hrow, entries, hentries,
    pool, hpool, newPool, hnewPool, invoices, ⟨returned, hinvoices⟩, total, ⟨rfl, htotal⟩,
    tickets, ⟨rfl, -⟩, raffles, ⟨returned', hraffles⟩, rfl, -⟩ := h
  have hraffleId : raffle.id = invoice.raffleId := view_raffle_id hraffle
  obtain ⟨hcontinues, -, hentryRaffle, hparticipant, hreference, hamount, hcount, hsettled⟩ :=
    entryFor_spec hentry hraffleId.symm
  have hreads := entryRowFor_spec hrow hepoch hsettled hcontinues.nonempty
  obtain ⟨hrowInvoice, hrowSettled⟩ := keys_of_entryRowFor hrow
  have hpaid : row.PaidBy invoice := by
    refine ⟨hrowInvoice, hreads.raffleId.trans hentryRaffle,
      hreads.participantPublicId.trans hparticipant.symm,
      hreads.paymentReferenceHash.trans hreference.symm, hreads.amountSats.trans hamount.symm, ?_⟩
    rw [hreads.ticketEnd, hreads.ticketStart]
    exact hcount
  change RaffleStep prim scope raffleId (db.view raffleId)
    { db.view raffleId with
      raffle := raffles.find _, invoices := invoices.select _, entries := entries.select _ }
  rw [Table.select_of_insert hentries]
  by_cases hid : invoice.raffleId = raffleId
  · subst hid
    rw [Table.find_updated hraffles (fun _ _ => rfl) hraffle (decide_eq_true hraffleId),
      Table.select_of_update hinvoices (fun _ _ => rfl), if_pos (decide_eq_true hpaid.raffleId)]
    simp only [decide_eq_true_eq]
    refine .settle raffle invoice row entry _ hraffle hopen ?_ hpending hreads hpaid ?_ ?_ ?_
      (by rw [hscope, hrowSettled])
    · exact Table.mem_select.mpr ⟨(Table.mem_of_find hinvoice).1, decide_eq_true rfl⟩
    · rw [Table.count, List.countP_eq_length_filter] at hcontinues
      exact hcontinues
    · rw [hpool, hnewPool]
      exact Nat.cast_add _ _
    · exact_mod_cast htotal
  · rw [Table.find_not_updated hraffles (fun _ _ => rfl) fun other hother => by
        have : other.id = raffleId := view_raffle_id hother
        simp [this, Ne.symm hid],
      Table.select_not_updated hinvoices (fun _ _ => rfl) fun other hmem hother => by
        refine decide_eq_false fun heq => hid ?_
        rw [← eq_of_invoice_id hinvoice hmem heq]
        exact of_decide_eq_true hother,
      if_neg (by simp [hpaid.raffleId, hid]), List.append_nil]
    exact .stay

/-- A settlement that succeeds answers with the entry that is there, or appends one. -/
theorem settleInvoice_cases {sha256 : List UInt8 → Hash32} {invoiceId : InvoiceId}
    {entryId : EntryId} {settledAt : ℤ} {entry : LedgerEntry}
    (h : settleInvoiceAndAppendEntry sha256 invoiceId entryId settledAt db = .ok (db', entry)) :
    ∃ invoice, db.invoices.find (·.id = invoiceId) = some invoice ∧
      (invoice.status = .settled ∧ db' = db ∧ settledEntry invoiceId db = .ok entry ∨
        invoice.status ≠ .settled ∧
          appendEntry sha256 invoice entryId settledAt db = .ok (db', entry)) := by
  simp only [settleInvoiceAndAppendEntry, bind_eq_ok_iff, orElse_eq_ok_iff] at h
  obtain ⟨invoice, hinvoice, h⟩ := h
  refine ⟨invoice, hinvoice, ?_⟩
  split at h
  next hsettled =>
    cases hentry : settledEntry invoiceId db with
    | error error => simp [hentry, Except.map] at h
    | ok found =>
        obtain ⟨rfl, rfl⟩ : db = db' ∧ found = entry := by simpa [hentry, Except.map] using h
        exact .inl ⟨hsettled, rfl, rfl⟩
  next hsettled => exact .inr ⟨hsettled, h⟩

theorem settleInvoice_step {invoiceId : InvoiceId} {entryId : EntryId} {settledAt : ℤ}
    {entry : LedgerEntry} (hepoch : postgresEpoch ≤ settledAt)
    (hscope : scope.settlement = some (invoiceId, toTimestamp settledAt))
    (h : settleInvoiceAndAppendEntry prim.sha256 invoiceId entryId settledAt db =
      .ok (db', entry)) :
    RaffleStep prim scope raffleId (db.view raffleId) (db'.view raffleId) := by
  obtain ⟨invoice, hinvoice, hcases⟩ := settleInvoice_cases h
  obtain rfl : invoice.id = invoiceId := by simpa using (Table.mem_of_find hinvoice).2
  rcases hcases with ⟨-, rfl, -⟩ | ⟨-, happend⟩
  · exact .stay
  · exact appendEntry_step hinvoice hepoch hscope happend

/-! ## Refunds -/

theorem createRefundEligibility_step {id : RaffleId} {invoiceId : InvoiceId}
    {reason : RefundReason} {refundId result : Uuid} (hseam : scope.seam = true)
    (h : createRefundEligibility id invoiceId reason refundId db = .ok (db', result)) :
    RaffleStep prim scope raffleId (db.view raffleId) (db'.view raffleId) := by
  simp only [createRefundEligibility, bind_eq_ok_iff, sql_eq_ok_iff, references_eq_ok_iff,
    pure_eq_ok_iff, Prod.mk.injEq] at h
  obtain ⟨-, hhas, -, -, ⟨refunds, inserted⟩, hrefunds, -, -, rfl, -⟩ := h
  change RaffleStep prim scope raffleId (db.view raffleId)
    { db.view raffleId with refunds := refunds.select _ }
  rcases Table.select_of_insertOrIgnore hrefunds (·.raffleId = raffleId) with
    hrefunds | ⟨hid, hrefunds⟩
  · rw [hrefunds]
    exact .stay
  · obtain rfl : id = raffleId := of_decide_eq_true hid
    obtain ⟨row, hrow⟩ := view_raffle_of_has hhas
    rw [hrefunds]
    exact .refund _ (by rw [hrow]; exact Option.some_ne_none row) hseam

theorem markLateSettlementForRefund_step {invoiceId : InvoiceId} {refundId result : Uuid}
    (hlate : scope.late = some invoiceId)
    (h : markLateSettlementForRefund invoiceId refundId db = .ok (db', result)) :
    RaffleStep prim scope raffleId (db.view raffleId) (db'.view raffleId) := by
  simp only [markLateSettlementForRefund, bind_eq_ok_iff, sql_eq_ok_iff, orElse_eq_ok_iff,
    applyIf_eq_ok_iff, execute_eq_ok_iff, fetchOne_eq_ok_iff, pure_eq_ok_iff, Prod.mk.injEq] at h
  obtain ⟨invoice, hinvoice, invoices, hinvoices, ⟨refunds, inserted⟩, hrefunds, -, -, rfl, -⟩ := h
  obtain rfl : invoice.id = invoiceId := by simpa using (Table.mem_of_find hinvoice).2
  change RaffleStep prim scope raffleId (db.view raffleId)
    { db.view raffleId with invoices := invoices.select _, refunds := refunds.select _ }
  by_cases hid : invoice.raffleId = raffleId
  · have hmem : invoice ∈ (db.view raffleId).invoices :=
      Table.mem_select.mpr ⟨(Table.mem_of_find hinvoice).1, decide_eq_true hid⟩
    have hselect : invoices.select (·.raffleId = raffleId) =
        (db.view raffleId).invoices.map fun other =>
          if other.id = invoice.id ∧ invoice.status = .pending then
            other.withStatus .ineligible else other := by
      rcases hinvoices with ⟨hpending, returned, hinvoices⟩ | ⟨hpending, rfl⟩
      · rw [Table.select_of_update hinvoices fun _ _ => rfl]
        simp only [hpending, and_true, decide_eq_true_eq]
        rfl
      · simp [hpending, Database.view]
    rw [hselect]
    rcases Table.select_of_insertOrIgnore hrefunds (·.raffleId = raffleId) with
      hrefunds | ⟨-, hrefunds⟩
    · rw [hrefunds, ← List.append_nil (db.refunds.select _)]
      exact .late invoice [] hmem (.inl rfl) hlate
    · rw [hrefunds]
      exact .late invoice _ hmem (.inr ⟨refundId, by rw [hid]⟩) hlate
  · have hselect : invoices.select (·.raffleId = raffleId) = (db.view raffleId).invoices := by
      rcases hinvoices with ⟨-, returned, hinvoices⟩ | ⟨-, rfl⟩
      · refine Table.select_not_updated hinvoices (fun _ _ => rfl) fun other hmem hother => ?_
        refine decide_eq_false fun heq => hid ?_
        rw [← eq_of_invoice_id hinvoice hmem heq]
        exact of_decide_eq_true hother
      · rfl
    rw [hselect]
    rcases Table.select_of_insertOrIgnore hrefunds (·.raffleId = raffleId) with
      hrefunds | ⟨hrefund, -⟩
    · rw [hrefunds]
      exact .stay
    · exact absurd (of_decide_eq_true hrefund) hid

end Steps

end OpenPool
