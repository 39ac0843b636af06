import OpenPool.Library.Firsts
import OpenPool.Store.LedgerCorrectness

/-! # Deliveries of webhooks

The tables after any sequence of deliveries. An event is known by its provider and its id, its
job by one text made of the two. -/

namespace OpenPool

open Fallible Firsts

/-- A call of `record_webhook_and_enqueue`, with the identifiers and the time it gets. -/
structure Delivery where
  event : NewWebhookEvent
  eventRowId : Uuid
  jobId : Uuid
  now : ℤ

namespace Delivery

/-- What the event is known by. -/
def pair (delivery : Delivery) : String × String :=
  (delivery.event.providerName, delivery.event.providerEventId)

/-- What its job is known by. -/
def deduplicationKey (delivery : Delivery) : String :=
  s!"{delivery.event.providerName}:{delivery.event.providerEventId}"

theorem deduplicationKey_eq {a b : Delivery} (h : a.pair = b.pair) :
    a.deduplicationKey = b.deduplicationKey := by
  obtain ⟨hprovider, hevent⟩ := Prod.mk.inj h
  simp only [deduplicationKey, hprovider, hevent]

def payload (delivery : Delivery) : JobPayload :=
  .event delivery.event.providerName delivery.event.providerEventId delivery.event.invoiceId

def eventRow (delivery : Delivery) : WebhookEventRow :=
  ⟨delivery.eventRowId, delivery.event.providerName, delivery.event.providerEventId,
    delivery.event.payloadHash.val⟩

def job (delivery : Delivery) : JobRow where
  id := delivery.jobId
  kind := .paymentReconcile
  deduplicationKey := delivery.deduplicationKey
  payload := delivery.payload
  availableAt := delivery.now
  createdAt := delivery.now

def record (delivery : Delivery) (db : Database) : Except PersistenceError (Database × Bool) :=
  recordWebhookAndEnqueue delivery.event delivery.eventRowId delivery.jobId delivery.now db

end Delivery

/-- The database after these deliveries, from empty tables. -/
def recorded (deliveries : List Delivery) : Database :=
  StateMachine.run (fun db delivery => commit db (delivery.record db)) .empty deliveries

/-- `Uuid::new_v4` gives no identifier twice. -/
structure FreshIds (deliveries : List Delivery) : Prop where
  eventRows : (deliveries.map Delivery.eventRowId).Nodup
  jobs : (deliveries.map Delivery.jobId).Nodup

section Tables

variable {db : Database} {deliveries front : List Delivery} {delivery : Delivery}

theorem FreshIds.left {back : List Delivery} (h : FreshIds (front ++ back)) : FreshIds front where
  eventRows := (List.map_append ▸ h.eventRows).of_append_left
  jobs := (List.map_append ▸ h.jobs).of_append_left

theorem FreshIds.last (h : FreshIds (front ++ [delivery])) :
    (∀ other ∈ front, other.eventRowId ≠ delivery.eventRowId) ∧
      ∀ other ∈ front, other.jobId ≠ delivery.jobId := by
  have hevents := h.eventRows
  have hjobs := h.jobs
  rw [List.map_append, List.nodup_append] at hevents hjobs
  exact ⟨fun other hmem => hevents.2.2 _ (List.mem_map_of_mem hmem) _ (by simp),
    fun other hmem => hjobs.2.2 _ (List.mem_map_of_mem hmem) _ (by simp)⟩

/-- The tables hold the first delivery of each pair, and the first one of each key. -/
structure Records (db : Database) (deliveries : List Delivery) : Prop where
  events : db.webhookEvents.rows = (firsts Delivery.pair deliveries).map Delivery.eventRow
  jobs : db.jobs.rows = (firsts Delivery.deduplicationKey deliveries).map Delivery.job

theorem Records.empty : Records .empty [] := ⟨rfl, rfl⟩

/-- A delivery is answered with whether its pair is new. -/
theorem Records.record (h : Records db front) (hfresh : FreshIds (front ++ [delivery])) :
    ∃ db', delivery.record db = .ok (db', decide (delivery.pair ∉ front.map Delivery.pair)) ∧
      Records db' (front ++ [delivery]) := by
  obtain ⟨heventIds, hjobIds⟩ := hfresh.last
  obtain ⟨events, inserted, hevent, hinserted, hevents⟩ := Table.insertOrIgnore_firsts delivery
    (fun row => row.providerName = delivery.event.providerName ∧
      row.providerEventId = delivery.event.providerEventId) h.events
    (fun _ => decide_eq_decide.mpr Prod.mk_inj.symm) delivery.event.payloadHash.property
    fun other hmem hpair hclash => hclash.elim (heventIds other hmem)
      fun hsame => hpair (Prod.ext hsame.1 hsame.2)
  obtain ⟨jobs, enqueued, hjob, -, hjobs⟩ := Table.insertOrIgnore_firsts delivery
    (JobRow.isFor .paymentReconcile delivery.deduplicationKey) h.jobs
    (fun other => by simp [JobRow.isFor, Delivery.job])
    ⟨le_refl (0 : ℤ), (by decide : (0 : ℤ) < 8)⟩
    fun other hmem hkey hclash => hclash.elim (hjobIds other hmem) fun hsame => hkey hsame.2
  by_cases hnew : delivery.pair ∉ front.map Delivery.pair
  · obtain rfl : inserted = true := hinserted.mpr hnew
    rw [decide_eq_true hnew]
    have hinsert : insertJob delivery.jobId .paymentReconcile delivery.deduplicationKey
        delivery.payload delivery.now { db with webhookEvents := events } =
        .ok { db with webhookEvents := events, jobs } :=
      (bind_eq_ok_iff _ _ _).mpr ⟨_, (sql_eq_ok_iff _ _).mpr hjob, rfl⟩
    exact ⟨_, (bind_eq_ok_iff _ _ _).mpr ⟨_, (sql_eq_ok_iff _ _).mpr hevent,
      (bind_eq_ok_iff _ _ _).mpr ⟨_, (applyIf_eq_ok_iff ..).mpr (.inl ⟨rfl, hinsert⟩), rfl⟩⟩,
      hevents, hjobs⟩
  · -- the pair was delivered before, and with it the key of its job
    have hkey : delivery.deduplicationKey ∈ front.map Delivery.deduplicationKey := by
      obtain ⟨other, hmem, hpair⟩ := List.mem_map.mp (not_not.mp hnew)
      exact List.mem_map.mpr ⟨other, hmem, Delivery.deduplicationKey_eq hpair⟩
    obtain rfl : inserted = false := Bool.not_eq_true _ ▸ mt hinserted.mp hnew
    rw [decide_eq_false hnew]
    refine ⟨_, (bind_eq_ok_iff _ _ _).mpr ⟨_, (sql_eq_ok_iff _ _).mpr hevent,
      (bind_eq_ok_iff _ _ _).mpr ⟨_, (applyIf_eq_ok_iff ..).mpr (.inr ⟨nofun, rfl⟩), rfl⟩⟩,
      hevents, ?_⟩
    rw [firsts_concat, if_pos hkey]
    exact h.jobs

theorem Records.recorded (hfresh : FreshIds deliveries) :
    Records (recorded deliveries) deliveries := by
  induction deliveries using List.reverseRecOn with
  | nil => exact .empty
  | append_singleton front delivery ih =>
      obtain ⟨db', hrecord, hrecords⟩ := (ih hfresh.left).record hfresh
      rw [OpenPool.recorded, StateMachine.run_concat]
      change Records (commit (OpenPool.recorded front) (delivery.record (OpenPool.recorded front))) _
      rw [hrecord]
      exact hrecords

end Tables

/-! ## One reconciliation for each event -/

/-- The job reconciles the event that the pair names. -/
def JobRow.reconciles (pair : String × String) (row : JobRow) : Bool :=
  match row.payload with
  | .event provider eventId _ => row.kind = .paymentReconcile ∧ (provider, eventId) = pair
  | _ => false

/-- Each delivered pair has one event and one job, with the invoice of its first delivery, and a
call is answered with whether its pair is new. -/
structure ReconciledOnce (deliveries : List Delivery) : Prop where
  events : ∀ pair, ((recorded deliveries).webhookEvents.select fun row =>
    (row.providerName, row.providerEventId) = pair).length =
      if pair ∈ deliveries.map Delivery.pair then 1 else 0
  jobs : ∀ pair, ((recorded deliveries).jobs.select (JobRow.reconciles pair)).map JobRow.payload =
    ((deliveries.find? fun delivery => delivery.pair = pair).map Delivery.payload).toList
  onlyJobs : ∀ row ∈ (recorded deliveries).jobs.rows, ∃ pair, row.reconciles pair = true
  answers : ∀ front delivery back, deliveries = front ++ delivery :: back →
    ∃ db, delivery.record (recorded front) =
      .ok (db, decide (delivery.pair ∉ front.map Delivery.pair))

section Once

variable {db : Database} {deliveries : List Delivery}

theorem Delivery.reconciles_job (pair : String × String) (delivery : Delivery) :
    delivery.job.reconciles pair = decide (delivery.pair = pair) :=
  decide_eq_decide.mpr ⟨And.right, fun hpair => ⟨rfl, hpair⟩⟩

theorem find_pair_isSome {pair : String × String} :
    (deliveries.find? fun delivery => delivery.pair = pair).isSome = true ↔
      pair ∈ deliveries.map Delivery.pair := by
  simp

/-- A pair has one event if it was delivered, and none otherwise. -/
theorem Records.event_count (h : Records db deliveries) (pair : String × String) :
    (db.webhookEvents.select fun row =>
      (row.providerName, row.providerEventId) = pair).length =
      if pair ∈ deliveries.map Delivery.pair then 1 else 0 := by
  have hselect : db.webhookEvents.select (fun row =>
      (row.providerName, row.providerEventId) = pair) =
      ((firsts Delivery.pair deliveries).filter fun delivery => delivery.pair = pair).map
        Delivery.eventRow := by
    rw [Table.select, h.events, List.filter_map]
    rfl
  rw [hselect, List.length_map, filter_firsts]
  cases hfind : deliveries.find? fun delivery => delivery.pair = pair with
  | none =>
      have habsent : pair ∉ deliveries.map Delivery.pair := by
        simp [← find_pair_isSome, hfind]
      rw [if_neg habsent]
      rfl
  | some first =>
      have hpresent : pair ∈ deliveries.map Delivery.pair := by
        simp [← find_pair_isSome, hfind]
      rw [if_pos hpresent]
      rfl

theorem Records.job_payloads (h : Records db deliveries) (pair : String × String) :
    (db.jobs.select (JobRow.reconciles pair)).map JobRow.payload =
      ((firsts Delivery.deduplicationKey deliveries).filter fun delivery =>
        delivery.pair = pair).map Delivery.payload := by
  rw [Table.select, h.jobs, List.filter_map, List.map_map]
  refine congrArg _ (List.filter_congr fun delivery _ => ?_)
  exact Delivery.reconciles_job pair delivery

theorem Records.reconciles (h : Records db deliveries) :
    ∀ row ∈ db.jobs.rows, ∃ pair, row.reconciles pair = true := by
  intro row hmem
  rw [h.jobs] at hmem
  obtain ⟨delivery, -, rfl⟩ := List.mem_map.mp hmem
  exact ⟨delivery.pair, (delivery.reconciles_job _).trans (decide_eq_true rfl)⟩

/-- A delivered pair that has a job has it from a first delivery of a key. -/
theorem ReconciledOnce.exists_first (h : ReconciledOnce deliveries) (hfresh : FreshIds deliveries)
    {delivery : Delivery} (hmem : delivery ∈ deliveries) :
    ∃ first ∈ firsts Delivery.deduplicationKey deliveries, first.pair = delivery.pair := by
  have hjobs := h.jobs delivery.pair
  rw [(Records.recorded hfresh).job_payloads] at hjobs
  have hsome := find_pair_isSome.mpr (List.mem_map_of_mem (f := Delivery.pair) hmem)
  obtain ⟨found, hfound⟩ := Option.isSome_iff_exists.mp hsome
  have hpayload : found.payload ∈ ((firsts Delivery.deduplicationKey deliveries).filter
      fun other => other.pair = delivery.pair).map Delivery.payload := by
    rw [hjobs, hfound]
    exact List.mem_singleton_self _
  obtain ⟨first, hfirst, -⟩ := List.mem_map.mp hpayload
  obtain ⟨hfirst, hpair⟩ := List.mem_filter.mp hfirst
  exact ⟨first, hfirst, of_decide_eq_true hpair⟩

end Once

/-- Events whose jobs are known by different texts are reconciled once. -/
theorem reconciledOnce_of_keys {deliveries : List Delivery} (hfresh : FreshIds deliveries)
    (hkeys : ∀ a ∈ deliveries, ∀ b ∈ deliveries,
      a.deduplicationKey = b.deduplicationKey → a.pair = b.pair) :
    ReconciledOnce deliveries := by
  have hrecords := Records.recorded hfresh
  have hfirsts : firsts Delivery.deduplicationKey deliveries = firsts Delivery.pair deliveries :=
    firsts_congr fun a ha b hb => ⟨hkeys a ha b hb, Delivery.deduplicationKey_eq⟩
  refine ⟨hrecords.event_count, fun pair => ?_, hrecords.reconciles, ?_⟩
  · rw [hrecords.job_payloads, hfirsts, filter_firsts]
    cases deliveries.find? fun delivery => delivery.pair = pair <;> rfl
  · rintro front delivery back rfl
    rw [List.append_cons] at hfresh
    obtain ⟨db, hrecord, -⟩ := (Records.recorded hfresh.left.left).record hfresh.left
    exact ⟨db, hrecord⟩

/-- Every event gets its one job exactly if no two events share the text that their jobs are known
by. -/
theorem reconciled_once_iff (deliveries : List Delivery) (hfresh : FreshIds deliveries) :
    ReconciledOnce deliveries ↔ ∀ a ∈ deliveries, ∀ b ∈ deliveries,
      a.deduplicationKey = b.deduplicationKey → a.pair = b.pair := by
  refine ⟨fun h a ha b hb hkey => ?_, reconciledOnce_of_keys hfresh⟩
  obtain ⟨first, hfirst, hpair⟩ := h.exists_first hfresh ha
  obtain ⟨second, hsecond, hpair'⟩ := h.exists_first hfresh hb
  have hsame : first = second := by
    refine eq_of_key_eq hfirst hsecond ?_
    calc first.deduplicationKey = a.deduplicationKey := Delivery.deduplicationKey_eq hpair
      _ = b.deduplicationKey := hkey
      _ = second.deduplicationKey := (Delivery.deduplicationKey_eq hpair').symm
  rw [← hpair, ← hpair', hsame]

namespace SampleDeliveries

def delivery (providerName providerEventId : String) (byte : UInt8) : Delivery where
  event := ⟨providerName, providerEventId, SampleRun.invoiceId, SampleRun.hash byte⟩
  eventRowId := SampleRun.uuid byte
  jobId := SampleRun.uuid byte
  now := 0

def repeated : List Delivery :=
  [delivery "mavapay" "paid" 1, delivery "mavapay" "expired" 2, delivery "mavapay" "paid" 3]

/-- Two events whose jobs are both known by `a:b:c`. -/
def colliding : List Delivery := [delivery "a" "b:c" 1, delivery "a:b" "c" 2]

end SampleDeliveries

theorem repeated_deliveries_reconciled_once : ReconciledOnce SampleDeliveries.repeated :=
  (reconciled_once_iff SampleDeliveries.repeated ⟨by decide, by decide⟩).mpr (by decide)

theorem colliding_event_not_reconciled :
    FreshIds SampleDeliveries.colliding ∧ ¬ ReconciledOnce SampleDeliveries.colliding := by
  refine ⟨⟨by decide, by decide⟩, fun h => ?_⟩
  have hjobs := h.jobs ("a:b", "c")
  revert hjobs
  decide +kernel

/-! ## Providers without a colon -/

/-- A name without a colon ends at the first colon of the text. -/
theorem Delivery.pair_eq_of_no_colon {a b : Delivery} (ha : ':' ∉ a.event.providerName.toList)
    (hb : ':' ∉ b.event.providerName.toList) (hkey : a.deduplicationKey = b.deduplicationKey) :
    a.pair = b.pair := by
  have htext : ∀ delivery : Delivery, delivery.deduplicationKey.toList =
      delivery.event.providerName.toList ++ ':' :: delivery.event.providerEventId.toList := by
    intro delivery
    simp [deduplicationKey, toString]
  have hlist := congrArg String.toList hkey
  rw [htext, htext] at hlist
  have hlength := congrArg (List.idxOf ':') hlist
  rw [List.idxOf_append_of_notMem ha, List.idxOf_append_of_notMem hb, List.idxOf_cons_self,
    List.idxOf_cons_self] at hlength
  obtain ⟨hname, hrest⟩ := List.append_inj hlist (Nat.add_right_cancel hlength)
  exact Prod.ext (String.toList_inj.mp hname) (String.toList_inj.mp (List.cons.inj hrest).2)

/-- With the names the providers have, every event is reconciled once. -/
theorem reconciledOnce_of_no_colon {deliveries : List Delivery} (hfresh : FreshIds deliveries)
    (hnames : ∀ delivery ∈ deliveries, ':' ∉ delivery.event.providerName.toList) :
    ReconciledOnce deliveries :=
  reconciledOnce_of_keys hfresh fun a ha b hb =>
    Delivery.pair_eq_of_no_colon (hnames a ha) (hnames b hb)

end OpenPool
