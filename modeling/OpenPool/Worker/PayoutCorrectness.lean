import Mathlib.Algebra.Order.BigOperators.Group.List
import OpenPool.Store.LastPayout
import OpenPool.Worker.Runs

/-! # Payouts

Every raffle pays out its pool, and no satoshi more. A payout can be stranded: a job finishes when
it finds no payout to claim, which it also does while a payout is leased to a job that has failed. -/

namespace OpenPool

/-! ## Conservation -/

section Sums

variable {α β κ : Type*} {l : List α} {m : List β} {key : α → κ} {key' : β → κ} {amount : α → ℤ}
  {amount' : β → ℤ}

theorem pairs_nodup (hnodup : (l.map key).Nodup) : (l.map fun a => (key a, amount a)).Nodup := by
  refine List.Nodup.of_map Prod.fst ?_
  rw [List.map_map]
  exact hnodup

theorem sum_of_pairs (l : List α) (key : α → κ) (amount : α → ℤ) :
    ((l.map fun a => (key a, amount a)).map Prod.snd).sum = (l.map amount).sum := by
  rw [List.map_map]
  rfl

/-- Distinct keys whose amounts are all owed cost no more than what is owed. -/
theorem sum_le_of_keys (key : α → κ) (key' : β → κ) (hnodup : (l.map key).Nodup)
    (howed : ∀ a ∈ l, ∃ b ∈ m, key' b = key a ∧ amount' b = amount a)
    (hnonneg : ∀ b ∈ m, 0 ≤ amount' b) : (l.map amount).sum ≤ (m.map amount').sum := by
  have hsubset : (l.map fun a => (key a, amount a)) ⊆ m.map fun b => (key' b, amount' b) := by
    intro pair hmem
    obtain ⟨a, ha, rfl⟩ := List.mem_map.mp hmem
    obtain ⟨b, hb, hkey, hamount⟩ := howed a ha
    exact List.mem_map.mpr ⟨b, hb, by rw [hkey, hamount]⟩
  obtain ⟨middle, hperm, hsublist⟩ := List.subperm_of_subset (pairs_nodup hnodup) hsubset
  calc (l.map amount).sum
      = ((l.map fun a => (key a, amount a)).map Prod.snd).sum := (sum_of_pairs l key amount).symm
    _ = (middle.map Prod.snd).sum := (hperm.symm.map Prod.snd).sum_eq
    _ ≤ ((m.map fun b => (key' b, amount' b)).map Prod.snd).sum := by
        refine (hsublist.map Prod.snd).sum_le_sum fun value hmem => ?_
        obtain ⟨_, hpair, rfl⟩ := List.mem_map.mp hmem
        obtain ⟨b, hb, rfl⟩ := List.mem_map.mp hpair
        exact hnonneg b hb
    _ = (m.map amount').sum := sum_of_pairs m key' amount'

end Sums

/-- The satoshis that the provider has paid for a raffle. -/
def Shared.paidSats (shared : Shared) (raffleId : RaffleId) : ℤ :=
  ((shared.paid.filter (·.payload = .raffle raffleId)).map fun payment =>
    (payment.request.amountSats.asU64.toNat : ℤ)).sum

/-- The payouts of a raffle, the requests for them, and what has been paid. -/
structure Shared.Conserves (shared : Shared) (raffleId : RaffleId) : Prop where
  sum : (shared.store.db.view raffleId).payouts ≠ [] →
    ∃ row, shared.store.db.raffles.find (·.id = raffleId) = some row ∧
      ((shared.store.db.view raffleId).payouts.map PayoutRow.amountSats).sum = row.totalPoolSats
  nonempty : ∀ row, shared.store.db.raffles.find (·.id = raffleId) = some row →
    row.status.drawn = true → (shared.store.db.view raffleId).payouts ≠ []
  sent : ∀ payment ∈ shared.sent, payment.payload = .raffle raffleId →
    ∃ payout ∈ (shared.store.db.view raffleId).payouts,
      payout.idempotencyKey = payment.request.idempotencyKey ∧
      payout.amountSats = payment.request.amountSats.asU64.toNat
  sameAmount : ∀ payment ∈ shared.sent, ∀ other ∈ shared.sent,
    payment.request.idempotencyKey = other.request.idempotencyKey →
    payment.request.amountSats = other.request.amountSats
  paidOut : ∀ row, shared.store.db.raffles.find (·.id = raffleId) = some row →
    row.status = .paidOut → ∀ payout ∈ (shared.store.db.view raffleId).payouts,
      payout.status = .settled ∧ payout.idempotencyKey ∈ shared.confirmed
  paid_le : ∀ row, shared.store.db.raffles.find (·.id = raffleId) = some row →
    shared.paidSats raffleId ≤ row.totalPoolSats
  paid_eq : ∀ row, shared.store.db.raffles.find (·.id = raffleId) = some row →
    row.status = .paidOut → shared.paidSats raffleId = row.totalPoolSats

/-- What a later state keeps of the payouts of a raffle. -/
structure Shared.KeepsPayouts (shared shared' : Shared) (raffleId : RaffleId) : Prop where
  terms : (shared.store.db.view raffleId).payouts ≠ [] →
    (shared'.store.db.view raffleId).payouts.map PayoutRow.terms =
      (shared.store.db.view raffleId).payouts.map PayoutRow.terms
  settled : ∀ payout ∈ (shared.store.db.view raffleId).payouts, payout.status = .settled →
    payout ∈ (shared'.store.db.view raffleId).payouts

section Conservation

variable {prim : Primitives} {store : Store} {raffleId : RaffleId} {row : RaffleRow}

/-- The payouts that a draw inserts add up to the pool. -/
theorem sum_payoutRows {payoutIds : RecipientType → Uuid} {now : ℤ} {split : PayoutSplit}
    {pool : Sats} {amounts : PayoutAmounts} (hallocated : Allocated split pool amounts) :
    ((payoutRows raffleId payoutIds now amounts).map PayoutRow.amountSats).sum =
      pool.asU64.toNat := by
  have hfilter : ∀ payouts : List (RecipientType × UInt64),
      ((payouts.filter fun payout => 0 < payout.2.toNat).map fun payout =>
        (payout.2.toNat : ℤ)).sum = (payouts.map fun payout => (payout.2.toNat : ℤ)).sum := by
    intro payouts
    induction payouts with
    | nil => rfl
    | cons payout payouts ih =>
        rw [List.filter_cons, List.map_cons, List.sum_cons, ← ih]
        split
        · rw [List.map_cons, List.sum_cons]
        · rename_i hzero
          have hnone : payout.2.toNat = 0 := by simpa using hzero
          rw [hnone, Nat.cast_zero, zero_add]
  have htotal := hallocated.total
  rw [payoutRows, List.map_map]
  refine (hfilter (payoutList amounts)).trans ?_
  simp only [payoutList, List.map_cons, List.map_nil, List.sum_cons, List.sum_nil]
  omega

/-- The payouts of a drawn raffle add up to its pool. -/
theorem Store.Sound.sum_payouts (hsound : store.Sound prim)
    (hrow : store.db.raffles.find (·.id = raffleId) = some row) (hdrawn : row.status.drawn = true) :
    ((store.db.view raffleId).payouts.map PayoutRow.amountSats).sum = row.totalPoolSats ∧
      (store.db.view raffleId).payouts ≠ [] := by
  obtain ⟨context, hreads, -, -, payoutIds, now, hpayouts⟩ := (hsound.drawState hrow).executed hdrawn
  have hallocated := hreads.allocated.2
  have hpool := hreads.totalPoolSats
  have hamounts := congrArg (List.map PayoutTerms.amountSats) hpayouts
  rw [List.map_map, List.map_map] at hamounts
  refine ⟨?_, fun hnil => ?_⟩
  · calc ((store.db.view raffleId).payouts.map PayoutRow.amountSats).sum
        = ((payoutRows raffleId payoutIds now context.amounts).map PayoutRow.amountSats).sum :=
          congrArg List.sum hamounts
      _ = context.totalPoolSats.toNat := sum_payoutRows hallocated
      _ = row.totalPoolSats := hpool.symm
  · rw [hnil] at hpayouts
    have hempty : payoutRows raffleId payoutIds now context.amounts = [] :=
      List.map_eq_nil_iff.mp hpayouts.symm
    refine payoutRows_ne_nil hallocated ?_ hempty
    obtain ⟨hfrozen, -⟩ := hsound.tracks hrow
    have hpositive := hsound.pool_pos hrow (hfrozen.frozen (.inr hdrawn)).2
    change 0 < context.totalPoolSats.toNat
    omega

/-- Before the draw there are no payouts. -/
theorem Store.Sound.drawn_of_payouts (hsound : store.Sound prim)
    (hne : (store.db.view raffleId).payouts ≠ []) :
    ∃ row, store.db.raffles.find (·.id = raffleId) = some row ∧ row.status.drawn = true :=
  (hsound.draw raffleId).drawn_of_payouts hne

variable {shared shared' : Shared}

/-- Each request carries the key and the amount of a payout. -/
theorem Shared.Valid.owed (hvalid : shared.Valid prim) {payment : Payment}
    (hmem : payment ∈ shared.sent) (hpayload : payment.payload = .raffle raffleId) :
    ∃ payout ∈ (shared.store.db.view raffleId).payouts,
      payout.idempotencyKey = payment.request.idempotencyKey ∧
      payout.amountSats = payment.request.amountSats.asU64.toNat := by
  obtain ⟨payout, hpayout, hfor⟩ := hvalid.sent payment hmem
  have hraffle : payout.raffleId = raffleId :=
    JobPayload.raffle.inj (hfor.payload.symm.trans hpayload)
  exact ⟨payout, hraffle ▸ mem_view_payouts hpayout, hfor.idempotencyKey.symm,
    hfor.amountSats.symm⟩

/-- A key is always sent with the same amount. -/
theorem Shared.Valid.sameAmount (hvalid : shared.Valid prim) {payment other : Payment}
    (hmem : payment ∈ shared.sent) (hother : other ∈ shared.sent)
    (hkey : payment.request.idempotencyKey = other.request.idempotencyKey) :
    payment.request.amountSats = other.request.amountSats := by
  obtain ⟨payout, hpayout, hfor⟩ := hvalid.sent payment hmem
  obtain ⟨payout', hpayout', hfor'⟩ := hvalid.sent other hother
  obtain rfl : payout = payout' := shared.store.db.payouts.eq_of_clash hpayout hpayout'
    (.inr (hfor.idempotencyKey.symm.trans (hkey.trans hfor'.idempotencyKey)))
  have hamount := hfor.amountSats.trans hfor'.amountSats.symm
  have hsats : payment.request.amountSats.asU64 = other.request.amountSats.asU64 :=
    UInt64.toNat_inj.mp (by exact_mod_cast hamount)
  exact congrArg Sats.mk hsats

/-- What has been paid for the raffle is owed, once for each key. -/
theorem Shared.Valid.paidSats_le (hvalid : shared.Valid prim) (raffleId : RaffleId) :
    shared.paidSats raffleId ≤
      ((shared.store.db.view raffleId).payouts.map PayoutRow.amountSats).sum := by
  refine sum_le_of_keys (fun payment : Payment => payment.request.idempotencyKey)
    PayoutRow.idempotencyKey ?_ (fun payment hmem => ?_) fun payout hmem => ?_
  · exact hvalid.paidOnce.sublist (List.filter_sublist.map _)
  · obtain ⟨hpaid, hpayload⟩ := List.mem_filter.mp hmem
    exact hvalid.owed (hvalid.paid hpaid) (of_decide_eq_true hpayload)
  · exact (shared.store.db.payouts.checked payout (mem_payouts hmem)).le

/-- Where each payout is confirmed, all that is owed has been paid. -/
theorem Shared.Valid.le_paidSats (hvalid : shared.Valid prim)
    (hconfirmed : ∀ payout ∈ (shared.store.db.view raffleId).payouts,
      payout.idempotencyKey ∈ shared.confirmed) :
    ((shared.store.db.view raffleId).payouts.map PayoutRow.amountSats).sum ≤
      shared.paidSats raffleId := by
  refine sum_le_of_keys PayoutRow.idempotencyKey
    (fun payment : Payment => payment.request.idempotencyKey) ?_ (fun payout hmem => ?_)
    fun payment _ => Int.natCast_nonneg _
  · have hdistinct := shared.store.db.payouts.distinct.sublist
      (List.filter_sublist (p := fun payout : PayoutRow => payout.raffleId = raffleId))
    exact List.pairwise_map.mpr (hdistinct.imp fun hclash hkey => hclash (.inr hkey))
  · obtain ⟨payment, hpaid, hkey⟩ := hvalid.confirmed _ (hconfirmed payout hmem)
    obtain ⟨other, hother, hfor⟩ := hvalid.sent payment (hvalid.paid hpaid)
    obtain rfl : other = payout := shared.store.db.payouts.eq_of_clash hother (mem_payouts hmem)
      (.inr (hfor.idempotencyKey.symm.trans hkey))
    refine ⟨payment, List.mem_filter.mpr ⟨hpaid, decide_eq_true ?_⟩, hkey, hfor.amountSats⟩
    rw [hfor.payload]
    exact congrArg JobPayload.raffle (of_decide_eq_true (Table.mem_select.mp hmem).2)

theorem Shared.Valid.conserves (hvalid : shared.Valid prim) (raffleId : RaffleId) :
    shared.Conserves raffleId := by
  have hsound := hvalid.lawful.sound
  have hpaidOut : ∀ row, shared.store.db.raffles.find (·.id = raffleId) = some row →
      row.status = .paidOut → ∀ payout ∈ (shared.store.db.view raffleId).payouts,
        payout.status = .settled ∧ payout.idempotencyKey ∈ shared.confirmed := by
    intro row hrow hstatus payout hmem
    have hsettled := ((hsound.drawState hrow).paid hstatus).1 payout hmem
    exact ⟨hsettled, hvalid.settled payout (mem_payouts hmem) hsettled⟩
  refine ⟨fun hne => ?_, fun row hrow hdrawn => (hsound.sum_payouts hrow hdrawn).2,
    fun payment => hvalid.owed, fun payment hmem other => hvalid.sameAmount hmem, hpaidOut,
    fun row hrow => ?_, fun row hrow hstatus => ?_⟩
  · obtain ⟨row, hrow, hdrawn⟩ := hsound.drawn_of_payouts hne
    exact ⟨row, hrow, (hsound.sum_payouts hrow hdrawn).1⟩
  · have hle := hvalid.paidSats_le raffleId
    by_cases hne : (shared.store.db.view raffleId).payouts = []
    · rw [hne] at hle
      have hnonneg : 0 ≤ row.totalPoolSats :=
        (shared.store.db.raffles.checked row (Table.mem_of_find hrow).1).2.2.2.1
      exact hle.trans hnonneg
    · obtain ⟨other, hother, hdrawn⟩ := hsound.drawn_of_payouts hne
      obtain rfl : row = other := Option.some.inj (hrow.symm.trans hother)
      rw [(hsound.sum_payouts hrow hdrawn).1] at hle
      exact hle
  · have hdrawn : row.status.drawn = true := by rw [hstatus]; rfl
    rw [← (hsound.sum_payouts hrow hdrawn).1]
    exact le_antisymm (hvalid.paidSats_le raffleId)
      (hvalid.le_paidSats fun payout hmem => (hpaidOut row hrow hstatus payout hmem).2)

theorem Shared.Extends.keepsPayouts (h : shared.Extends shared') (hvalid : shared.Valid prim)
    (raffleId : RaffleId) : shared.KeepsPayouts shared' raffleId where
  terms hne := by
    obtain ⟨row, hrow, hdrawn⟩ := hvalid.lawful.sound.drawn_of_payouts hne
    exact (h.view raffleId).terms ⟨row, hrow, hdrawn⟩
  settled := (h.view raffleId).settled

end Conservation

/-- Payouts are conserved after every run, and a longer run keeps them. -/
theorem payouts_conserved (services : Services) (actions more : List Action)
    (raffleId : RaffleId) :
    (World.after services actions).shared.Conserves raffleId ∧
      (World.after services actions).shared.KeepsPayouts
        (World.after services (actions ++ more)).shared raffleId :=
  ⟨(World.valid_after services actions).shared.conserves raffleId,
    (World.extends_after services actions more).keepsPayouts
      (World.valid_after services actions).shared raffleId⟩

/-! ## Executed jobs

A payout job is completed when a claim finds nothing. -/

/-- A claim finds nothing while a payout of the raffle is being processed, or is locked by another
statement in flight. -/
def World.missesPayout (world : World) (action : Action) : Bool :=
  match world.request action with
  | some (choice, .query (.claimPayout raffleId)) =>
      choice.fault.isNone && world.shared.store.Withholds raffleId choice &&
        (payoutCandidates raffleId choice.now (world.shared.store.locked ++ choice.locked)
          world.shared.store.db).isEmpty
  | _ => false

/-- Every payout of a raffle whose payout job is completed is settled. -/
def Shared.PayoutsSettled (shared : Shared) : Prop :=
  ∀ job ∈ shared.store.db.jobs.rows, job.kind = .payoutExecute → job.status = .succeeded →
    ∀ raffleId, job.payload = .raffle raffleId →
      ∀ payout ∈ shared.store.db.payouts.rows, payout.raffleId = raffleId →
        payout.status = .settled

section Executed

variable {services : Services} {world : World} {action : Action}

theorem World.missed_kept (hmisses : world.missesPayout action = false) :
    (world.step services action).shared.missed = world.shared.missed := by
  refine World.missed_step fun choice raffleId hrequest hfault hempty hwithholds => ?_
  rw [missesPayout, hrequest] at hmisses
  simp [hfault, hempty, hwithholds] at hmisses

/-- Without a miss, a completed job has settled every payout. -/
theorem Shared.Valid.payoutsSettled {prim : Primitives} {shared : Shared}
    (hvalid : shared.Valid prim) (hmissed : shared.missed = []) : shared.PayoutsSettled := by
  intro job hmem hkind hstatus raffleId hpayload payout hpayout hraffle
  have hcompleted := hvalid.completed job hmem hstatus
  rw [hkind, hpayload] at hcompleted
  rcases hcompleted with hsettled | hmiss
  · exact hsettled payout (hraffle ▸ mem_view_payouts hpayout)
  · rw [hmissed] at hmiss
    cases hmiss

/-- The two rows that contradict it. -/
theorem not_payoutsSettled {shared : Shared}
    (h : ∃ job ∈ shared.store.db.jobs.rows, ∃ payout ∈ shared.store.db.payouts.rows,
      job.kind = .payoutExecute ∧ job.status = .succeeded ∧
      job.payload = .raffle payout.raffleId ∧ payout.status ≠ .settled) :
    ¬ shared.PayoutsSettled := by
  obtain ⟨job, hjob, payout, hpayout, hkind, hstatus, hpayload, hunsettled⟩ := h
  exact fun hsettled => hunsettled (hsettled job hjob hkind hstatus _ hpayload payout hpayout rfl)

end Executed

/-- In every run in which no claim misses a payout, a completed payout job has settled every
payout of its raffle. -/
theorem completed_job_settles_payouts (services : Services) (actions : List Action)
    (hmisses : StateMachine.Meets (World.step services)
      (fun world action => world.missesPayout action = false) .start actions) :
    (World.after services actions).shared.PayoutsSettled := by
  have hstep : ∀ (world : World) (action : Action), world.missesPayout action = false →
      world.shared.missed = [] → (world.step services action).shared.missed = [] :=
    fun _ _ hmiss hnone => (World.missed_kept hmiss).trans hnone
  have hmissed : (World.after services actions).shared.missed = [] :=
    StateMachine.Meets.invariant (P := fun world : World => world.shared.missed = []) hstep hmisses
      rfl
  exact (World.valid_after services actions).shared.payoutsSettled hmissed

namespace WorldSample

open SampleRun

/-- The three payouts, one in each round. -/
def paidOut : List Action := drawn ++ .claim "worker" (choiceAt 171 (uuid 26)) ::
  round 7 (choiceAt 172 (uuid 26)) ++ round 7 (choiceAt 173 (uuid 26)) ++
  round 8 (choiceAt 174 (uuid 26)) ++ round 1 (choiceAt 175 (uuid 26))

/-- The first payout stays claimed when the resolver fails; the retry finds it leased. -/
def stranded : List Action := drawn ++ runJob 3 (resolverDown 171 (uuid 26)) ++
  .claim "worker" (choiceAt 187 (uuid 27)) :: round 7 (choiceAt 187 (uuid 27)) ++
  round 7 (choiceAt 188 (uuid 27)) ++ round 1 (choiceAt 189 (uuid 27))

/-- A statement that is rolled back later has locked the payouts, and the job skips them. -/
def skipped : List Action := drawn ++ runJob 1
  { choiceAt 171 (uuid 26) with locked := [uuid 21, uuid 22, uuid 23] }

end WorldSample

theorem completed_job_settles_payouts_sample :
    (World.after WorldSample.services WorldSample.paidOut).shared.PayoutsSettled :=
  completed_job_settles_payouts WorldSample.services WorldSample.paidOut (by decide +kernel)

/-- The job of the stranded payout is completed. -/
theorem completed_job_strands_payout :
    ¬ (World.after WorldSample.services WorldSample.stranded).shared.PayoutsSettled :=
  not_payoutsSettled (by decide +kernel)

example : ¬ (World.after WorldSample.services WorldSample.skipped).shared.PayoutsSettled :=
  not_payoutsSettled (by decide +kernel)

end OpenPool
