import OpenPool.Worker.Answers

/-! # Every job is safe

Whatever the other workers, the API and the services outside do between its requests, a job
makes only requests that keep the invariant, and what it reports at its end is true. -/

namespace OpenPool

open Program

/-- What a worker may do on a job, and what it may rely on. -/
def Services.rules (services : Services) (workerId : String) (payload : JobPayload) :
    Rules Request Request.Answer Shared Memory where
  valid shared := shared.Valid services.prim
  rely := Shared.Extends
  allowed request memory shared := request.Allowed workerId payload memory shared
  commits request answer before after :=
    ∃ choice, before.perform services workerId payload choice request = (answer, after)
  record request answer memory := request.remember answer memory
  refl := .refl
  trans := .trans
  kept := by
    rintro request memory answer before after hvalid hallowed ⟨choice, hperform⟩
    have hkept := hvalid.perform hallowed choice
    rw [hperform] at hkept
    exact hkept

/-- A paid invoice has become an entry or a refund. -/
def Shared.Compensated (shared : Shared) (invoiceId : InvoiceId) : Prop :=
  shared.HasEntry invoiceId ∨ shared.HasLateRefund invoiceId

/-- How a round of a job may end. -/
def Ends (kind : JobKind) (payload : JobPayload) : Except String Round → Memory → Shared → Prop
  | .ok .finished, memory, shared => shared.Completed kind payload ∧
      (kind = .paymentReconcile → memory.settled = true →
        ∀ invoiceId, payload.invoiceId = some invoiceId → shared.Compensated invoiceId)
  | .ok .again, _, _ => kind = .payoutExecute
  | .error _, _, _ => True

/-- The job that a worker has claimed is in the queue. -/
def Shared.Knows (shared : Shared) (job : ClaimedJob) : Prop :=
  ∃ row ∈ shared.store.db.jobs.rows, row.id = job.id ∧ row.kind = job.kind ∧
    row.payload = job.payload

theorem Shared.Extends.knows {shared shared' : Shared} (h : shared.Extends shared')
    {job : ClaimedJob} (hknown : shared.Knows job) : shared'.Knows job := by
  obtain ⟨row, hmem, hid, hkind, hpayload⟩ := hknown
  obtain ⟨row', hmem', hsame⟩ := h.jobs row hmem
  exact ⟨row', hmem', hsame.id.trans hid, hsame.kind.trans hkind, hsame.payload.trans hpayload⟩

theorem Shared.Extends.compensated {shared shared' : Shared} (h : shared.Extends shared')
    {invoiceId : InvoiceId} (hcompensated : shared.Compensated invoiceId) :
    shared'.Compensated invoiceId :=
  hcompensated.imp h.hasEntry h.hasLateRefund

section Rules

variable {services : Services} {workerId : String} {payload : JobPayload} {memory : Memory}
  {shared : Shared} {α : Type} {post : Except String α → Memory → Shared → Prop}
  {fact : Shared → Prop}

/-- A fact that later states keep is stable. -/
theorem stable_of_extends (h : ∀ {before after : Shared}, before.Extends after → fact before →
    fact after) : (services.rules workerId payload).Stable fact :=
  fun _ hextends hfact => h hextends hfact

theorem safe_failed (hfail : ∀ text memory shared, post (.error text) memory shared)
    (error : String) : Safe (services.rules workerId payload) post (.done (.error error)) memory
      shared :=
  fun _ _ _ => hfail error _ _

/-- One request, whose answer the rest of the job handles. -/
theorem safe_call {request : Request} {next : request.Answer → Task α}
    (hstable : ∀ {before after : Shared}, before.Extends after → fact before → fact after)
    (hfact : fact shared)
    (hallowed : ∀ {before : Shared}, before.Valid services.prim → fact before →
      request.Allowed workerId payload memory before)
    (hnext : ∀ {choice : Choice} {before after : Shared} {answer : request.Answer},
      before.Valid services.prim → fact before →
      before.perform services workerId payload choice request = (answer, after) →
      after.Valid services.prim → fact after → Safe (services.rules workerId payload) post
        (next answer) (request.remember answer memory) after) :
    Safe (services.rules workerId payload) post (.call request next) memory shared := by
  refine safe_request (stable_of_extends hstable) hfact fun before hvalid hbefore =>
    ⟨hallowed hvalid hbefore, fun answer after hcommits hvalid' hafter => ?_⟩
  obtain ⟨choice, hperform⟩ := hcommits
  exact hnext hvalid hbefore hperform hvalid' hafter

/-- A query, where an error ends the job. -/
theorem safe_query (hfail : ∀ text memory shared, post (.error text) memory shared)
    {statement : Statement} {next : statement.Value → Task α}
    (hstable : ∀ {before after : Shared}, before.Extends after → fact before → fact after)
    (hfact : fact shared)
    (hallowed : ∀ {before : Shared}, before.Valid services.prim → fact before →
      Request.Allowed workerId payload memory before (.query statement))
    (hnext : ∀ {choice : Choice} {before after : Shared} {value : statement.Value},
      before.Valid services.prim → fact before →
      before.perform services workerId payload choice (.query statement) = (.ok value, after) →
      after.Valid services.prim → fact after →
      Safe (services.rules workerId payload) post (next value)
        (Request.remember (.query statement) (.ok value) memory) after) :
    Safe (services.rules workerId payload) post (query services statement >>= next) memory
      shared := by
  refine safe_call hstable hfact hallowed
    fun {choice before after answer} hvalid hbefore hperform hvalid' hafter => ?_
  cases answer with
  | ok value => exact hnext hvalid hbefore hperform hvalid' hafter
  | error error => exact safe_failed hfail _

/-- A call of a service outside, where an error ends the job. -/
theorem safe_ask (hfail : ∀ text memory shared, post (.error text) memory shared)
    {question : Question} {next : question.Value → Task α}
    (hstable : ∀ {before after : Shared}, before.Extends after → fact before → fact after)
    (hfact : fact shared)
    (hallowed : ∀ {before : Shared}, before.Valid services.prim → fact before →
      Request.Allowed workerId payload memory before (.ask question))
    (hnext : ∀ {after : Shared} {value : question.Value}, after.Valid services.prim → fact after →
      Safe (services.rules workerId payload) post (next value)
        (Request.remember (.ask question) (.ok value) memory) after) :
    Safe (services.rules workerId payload) post (ask question >>= next) memory shared := by
  refine safe_call hstable hfact hallowed
    fun {choice before after answer} _ _ _ hvalid' hafter => ?_
  cases answer with
  | ok value => exact hnext hvalid' hafter
  | error error => exact safe_failed hfail _

end Rules

/-! ## Requests that need no condition -/

/-- The request keeps the invariant in every state. -/
def Request.Harmless : Request → Prop
  | query (.createDrawAndPayouts ..) | query (.beginSettle ..) | query (.freezeRaffle _)
  | query (.markLateSettlementForRefund _) | ask (.payInvoice _) => False
  | _ => True

section Harmless

variable {services : Services} {workerId : String} {payload : JobPayload} {memory : Memory}
  {shared : Shared} {α : Type}

theorem Request.Harmless.allowed {request : Request} (h : request.Harmless) :
    request.Allowed workerId payload memory shared := by
  cases request with
  | query statement =>
      cases statement with
      | createDrawAndPayouts | beginSettle | freezeRaffle | markLateSettlementForRefund =>
          exact h.elim
      | countUnsettled payoutId | markPaidOut payoutId | enqueueProof payoutId
      | commitSettle payoutId =>
          intro choice op hop
          obtain ⟨_, -, rfl⟩ := Option.map_eq_some_iff.mp hop
          trivial
      | frozenDrawContext | canonicalBlockMatches | payoutRecipientCiphertext | pendingInvoices
      | collectionPaymentReference => exact fun _ _ => nofun
      | _ =>
          intro choice op hop
          obtain rfl := Option.some.inj hop
          trivial
  | ask question =>
      cases question with
      | payInvoice => exact h.elim
      | _ => trivial

variable {post : Except String α → Memory → Shared → Prop}

theorem keeps_true : ∀ {before after : Shared}, before.Extends after → True → True := fun _ => id

/-- A program of harmless requests keeps every fact that later states keep. -/
theorem safe_of_harmless {fact : Shared → Prop} {program : Task α}
    (h : program.Requests Request.Harmless)
    (hstable : ∀ {before after : Shared}, before.Extends after → fact before → fact after)
    (hfact : fact shared)
    (hpost : ∀ {result memory} {shared : Shared}, shared.Valid services.prim → fact shared →
      post result memory shared) :
    Safe (services.rules workerId payload) post program memory shared :=
  safe_of_requests h Request.Harmless.allowed (stable_of_extends hstable) hfact hpost

/-- After harmless requests the facts still hold. -/
theorem safe_after_harmless {β : Type} {fact : Shared → Prop} {program : Task β}
    {next : β → Task α} (hfail : ∀ text memory shared, post (.error text) memory shared)
    (h : program.Requests Request.Harmless)
    (hstable : ∀ {before after : Shared}, before.Extends after → fact before → fact after)
    (hfact : fact shared)
    (hnext : ∀ {value memory} {after : Shared}, after.Valid services.prim → fact after →
      Safe (services.rules workerId payload) post (next value) memory after) :
    Safe (services.rules workerId payload) post (program >>= next) memory shared := by
  refine safe_bind (safe_of_harmless h hstable hfact fun {result memory shared} hvalid hfact => ?_)
  cases result with
  | ok value => exact hnext hvalid hfact
  | error error => exact safe_failed hfail error

/-- What is safe in every state is safe after harmless requests. -/
theorem safe_next {β : Type} {program : Task β} {next : β → Task α}
    (hfail : ∀ text memory shared, post (.error text) memory shared)
    (h : program.Requests Request.Harmless)
    (hnext : ∀ value memory (after : Shared),
      Safe (services.rules workerId payload) post (next value) memory after) :
    Safe (services.rules workerId payload) post (program >>= next) memory shared :=
  safe_after_harmless hfail h keeps_true trivial
    fun _ _ => hnext _ _ _

end Harmless

/-! ## Drawing and proving -/

/-- An end of which nothing is said. -/
def AnyEnd {α : Type} (_ : Except String α) (_ : Memory) (_ : Shared) : Prop := True

section Jobs

variable {services : Services} {workerId : String} {payload : JobPayload} {memory : Memory}
  {shared : Shared} {job : ClaimedJob}

theorem closeBlock_requests (endTime : ℤ) (tip : UInt64) (height : ℕ) :
    (closeBlock endTime tip height).Requests Request.Harmless := by
  have hafter : ∀ height, (blockAfter tip height).Requests Request.Harmless := by
    intro height
    unfold blockAfter
    split
    · trivial
    · exact requests_ask trivial
  induction height with
  | zero =>
      refine (requests_ask (by trivial)).bind fun block => ?_
      split
      · trivial
      · exact hafter _
  | succ height ih =>
      refine (requests_ask (by trivial)).bind fun block => ?_
      split
      · exact ih
      · exact hafter _

/-- After the check the database has confirmed the block. -/
theorem safe_ensureCanonical {α : Type} {post : Except String α → Memory → Shared → Prop}
    (hfail : ∀ text memory shared, post (.error text) memory shared) {block : Block}
    {next : Unit → Task α}
    (hnext : ∀ after : Shared, Safe (services.rules workerId payload) post (next ())
      { memory with canonical := (block.height, block.hash) :: memory.canonical } after) :
    Safe (services.rules workerId payload) post (ensureCanonical services block >>= next) memory
      shared := by
  unfold ensureCanonical
  rw [bind_assoc]
  refine safe_query hfail keeps_true trivial
    (fun _ _ => Request.Harmless.allowed (by trivial))
    fun {choice before after canonical} _ _ _ _ _ => ?_
  cases canonical with
  | true => exact hnext _
  | false => exact safe_failed hfail _

/-- A draw is made only on blocks that the database has confirmed. -/
theorem raffleDraw_safe : Safe (services.rules workerId payload) AnyEnd
    (raffleDraw services job) memory shared := by
  have hfail : ∀ text memory shared, AnyEnd (.error text : Except String Unit) memory shared :=
    fun _ _ _ => trivial
  unfold raffleDraw
  dsimp only
  split
  · exact safe_failed hfail _
  refine safe_next hfail requests_okOrElse fun raffleId memory shared => ?_
  refine safe_next hfail (requests_query (by trivial)) fun context memory shared => ?_
  refine safe_next hfail (requests_ask (by trivial)) fun tip memory shared => ?_
  refine safe_next hfail (closeBlock_requests _ _ _) fun close memory shared => ?_
  split
  · exact safe_failed hfail _
  split
  · exact safe_failed hfail _
  refine safe_next hfail (requests_ask (by trivial)) fun randomness memory shared => ?_
  refine safe_next hfail (requests_query (by trivial)) fun _ memory shared => ?_
  refine safe_next hfail (requests_query (by trivial)) fun _ memory shared => ?_
  refine safe_ensureCanonical hfail fun shared => safe_ensureCanonical hfail fun shared => ?_
  refine safe_query hfail keeps_true trivial (fun _ _ => ?_)
    fun _ _ _ _ _ _ _ _ => trivial
  exact ⟨List.mem_cons_of_mem _ (List.mem_cons_self ..), List.mem_cons_self ..⟩

theorem proofGenerate_safe : Safe (services.rules workerId payload) AnyEnd
    (proofGenerate services job) memory shared := by
  have hfail : ∀ text memory shared, AnyEnd (.error text : Except String Unit) memory shared :=
    fun _ _ _ => trivial
  unfold proofGenerate
  refine safe_next hfail requests_okOrElse fun raffleId memory shared => ?_
  refine safe_next hfail (requests_query (by trivial)) fun proof memory shared => ?_
  split
  · exact safe_failed hfail _
  refine safe_next hfail trivial fun canonicalJson memory shared => ?_
  refine safe_next hfail (requests_ask (by trivial)) fun publication memory shared => ?_
  exact safe_of_harmless (requests_query (by trivial)) keeps_true trivial
    fun _ _ => trivial

/-! ## Paying out -/

theorem payoutAddress_requests (payout : ClaimedPayout) :
    (payoutAddress services payout).Requests Request.Harmless := by
  unfold payoutAddress
  split
  · exact requests_okOrElse
  · exact (requests_query (by trivial)).bind fun _ => requests_okOrElse.bind fun _ => trivial

/-- A confirmed payout may be settled. -/
theorem settlePayout_safe {α : Type} {post : Except String α → Memory → Shared → Prop}
    (hfail : ∀ text memory shared, post (.error text) memory shared) {payoutId : Uuid}
    {providerReference : String} {next : Unit → Task α} (hconfirmed : shared.Confirmed payoutId)
    (hnext : ∀ memory (after : Shared),
      Safe (services.rules workerId payload) post (next ()) memory after) :
    Safe (services.rules workerId payload) post
      (settlePayout services payoutId providerReference >>= next) memory shared := by
  unfold settlePayout
  rw [bind_assoc]
  refine safe_query hfail (fun hextends => hextends.confirmed_payout) hconfirmed
    (fun _ hconfirmed choice op hop => ?_) fun _ _ _ _ _ => ?_
  · obtain rfl := Option.some.inj hop
    exact hconfirmed
  · refine safe_next hfail ?_ fun _ => hnext
    refine (requests_query (by trivial)).bind fun remaining => ?_
    dsimp only
    split
    · exact (requests_query (by trivial)).bind fun _ => (requests_query (by trivial)).bind fun _ =>
        requests_query (by trivial)
    · exact requests_query (by trivial)

theorem ends_error (kind : JobKind) (text : String) (memory : Memory) (shared : Shared) :
    Ends kind payload (.error text) memory shared := trivial

variable {raffleId : RaffleId} {payout : ClaimedPayout}

/-- A failure that is written down, whether or not that succeeds. -/
theorem safe_noted {α : Type} {post : Except String α → Memory → Shared → Prop}
    (hfail : ∀ text memory shared, post (.error text) memory shared) (payoutId : Uuid)
    (reason : String) : Safe (services.rules workerId payload) post
      (do let _ ← tryQuery (.failPayout payoutId reason); fail reason) memory shared :=
  safe_next hfail (requests_request (by trivial)) fun _ _ _ => safe_failed hfail reason

/-- A claimed payout owes the payment that its request asks for. -/
theorem Shared.Claimed.allowed (hclaimed : shared.Claimed raffleId payout) (bolt11 : String) :
    Request.Allowed workerId (.raffle raffleId) memory shared
      (.ask (.payInvoice (payout.request bolt11))) := by
  obtain ⟨row, hmem, hfor⟩ := hclaimed
  exact ⟨row, hmem, congrArg JobPayload.raffle hfor.raffleId.symm, hfor.id.symm,
    hfor.idempotencyKey.symm, hfor.amountSats.symm⟩

theorem payResolved_safe (hclaimed : shared.Claimed raffleId payout) {bolt11 : String} :
    Safe (services.rules workerId (.raffle raffleId)) (Ends .payoutExecute (.raffle raffleId))
      (payResolved services payout bolt11) memory shared := by
  refine safe_call (fun hextends => hextends.claimed) hclaimed
    (fun _ hclaimed => hclaimed.allowed bolt11)
    fun {choice before after answer} _ hclaimed hperform _ _ => ?_
  cases answer with
  | ok attempt =>
      refine settlePayout_safe (ends_error _) (Shared.confirmed_of_pay hclaimed hperform)
        fun memory after => ?_
      exact fun _ _ _ => rfl
  | error error => exact safe_noted (ends_error _) payout.id error

theorem payClaimed_safe (hclaimed : shared.Claimed raffleId payout) :
    Safe (services.rules workerId (.raffle raffleId)) (Ends .payoutExecute (.raffle raffleId))
      (payClaimed services payout) memory shared := by
  refine safe_after_harmless (ends_error _) (payoutAddress_requests payout)
    (fun hextends => hextends.claimed) hclaimed fun {address memory shared} _ hclaimed => ?_
  refine safe_after_harmless (ends_error _) (requests_ask (by trivial))
    (fun hextends => hextends.claimed) hclaimed fun {invoice memory shared} _ hclaimed => ?_
  split
  · exact safe_noted (ends_error _) payout.id _
  · exact payResolved_safe hclaimed

/-- A round of payouts finishes only where no payout is left, or one is missed. -/
theorem payoutExecute_safe (hpayload : job.payload = .raffle raffleId)
    (hdrawn : (shared.store.db.view raffleId).IsDrawn) :
    Safe (services.rules workerId (.raffle raffleId)) (Ends .payoutExecute (.raffle raffleId))
      (payoutExecute services job) memory shared := by
  unfold payoutExecute
  rw [hpayload]
  change Safe _ _ (ite _ _ _) _ _
  split
  · exact safe_failed (ends_error _) _
  refine safe_query (ends_error _) (fun hextends => (hextends.view raffleId).drawn) hdrawn
    (fun _ _ => Request.Harmless.allowed (by trivial))
    fun {choice before after claimed} hvalid _ hperform _ hdrawn => ?_
  cases claimed with
  | some payout => exact payClaimed_safe (Shared.claimed_of_claim hperform)
  | none =>
      have hexecuted := hvalid.executed_of_claim hperform
      exact fun later _ hextends => ⟨Shared.Extends.executed hextends hdrawn hexecuted, nofun⟩

/-! ## Closing -/

/-- A closed raffle is frozen only when its invoices are decided. -/
theorem raffleClose_safe (hpayload : job.payload = .raffle raffleId)
    (hclosed : (shared.store.db.view raffleId).IsClosed) :
    Safe (services.rules workerId payload) AnyEnd (raffleClose services job) memory shared := by
  have hfail : ∀ text memory shared, AnyEnd (.error text : Except String Unit) memory shared :=
    fun _ _ _ => trivial
  unfold raffleClose
  rw [hpayload]
  refine safe_query hfail (fun hextends => (hextends.view raffleId).closed) hclosed
    (fun _ _ => Request.Harmless.allowed (by trivial))
    fun {choice before after pending} _ hclosed hperform _ _ => ?_
  split
  · exact safe_failed hfail _
  rename_i hzero
  refine safe_query hfail (fun hextends => hextends.freezable)
    (Shared.freezable_of_pending hclosed hzero hperform) (fun _ hfreezable choice op hop => ?_)
    fun _ _ _ _ _ _ _ _ => trivial
  obtain rfl := Option.some.inj hop
  exact hfreezable.2

/-! ## Reconciling a payment -/

variable {invoiceId : InvoiceId}

/-- What a reconciliation has done when it succeeds. -/
def Reconciled (invoiceId : InvoiceId) (result : Except String Unit) (memory : Memory)
    (shared : Shared) : Prop :=
  result = .ok () → shared.Decided invoiceId ∧
    (memory.settled = true → shared.Compensated invoiceId)

theorem reconciled_error (text : String) (memory : Memory) (shared : Shared) :
    Reconciled invoiceId (.error text) memory shared := nofun

/-- A reconciliation that ends with an entry or a refund has decided the invoice. -/
theorem safe_compensated {u : Unit} (hcompensated : shared.Compensated invoiceId) :
    Safe (services.rules workerId payload) (Reconciled invoiceId) (.done (.ok u)) memory shared := by
  intro later hvalid hextends _
  have hlater := Shared.Extends.compensated hextends hcompensated
  exact ⟨hlater.elim hvalid.decided_of_entry hvalid.decided_of_refund, fun _ => hlater⟩

theorem safe_decided {u : Unit} (hdecided : shared.Decided invoiceId)
    (hunread : memory.settled = false) :
    Safe (services.rules workerId payload) (Reconciled invoiceId) (.done (.ok u)) memory shared :=
  fun _ _ hextends _ => ⟨Shared.Extends.decided hextends hdecided, fun hsettled => by
    cases hunread.symm.trans hsettled⟩

theorem settleOrRefund_safe : Safe (services.rules workerId payload) (Reconciled invoiceId)
    (settleOrRefund services invoiceId) memory shared := by
  refine safe_call keeps_true trivial
    (fun _ _ => Request.Harmless.allowed (by trivial))
    fun {choice before after answer} hvalid _ hperform _ _ => ?_
  cases answer with
  | ok entry => exact safe_compensated (.inl (Shared.hasEntry_of_settle hperform))
  | error error =>
      by_cases hopen : error = .raffleNotOpen
      · subst hopen
        have hallowed : Request.Allowed workerId payload memory before
            (.query (.settleInvoice invoiceId)) := Request.Harmless.allowed (by trivial)
        have hkept := (hvalid.perform hallowed choice).2
        rw [hperform] at hkept
        refine safe_query reconciled_error (fun hextends => hextends.tooLate)
          (hkept.tooLate (hvalid.tooLate_of_settle hperform))
          (fun hvalid hlate choice op hop => ?_)
          fun _ _ hmark _ _ => safe_compensated (.inr (Shared.hasLateRefund_of_mark hmark))
        obtain rfl := Option.some.inj hop
        exact hvalid.unsettled_of_tooLate hlate
      · cases error <;> first
          | exact absurd rfl hopen
          | exact safe_failed reconciled_error _

/-- A reconciliation decides the invoice, and compensates a payment that it has read as settled. -/
theorem paymentReconcile_safe (hpayload : job.payload.invoiceId = some invoiceId)
    (hunread : memory.settled = false) :
    Safe (services.rules workerId payload) (Reconciled invoiceId)
      (paymentReconcile services job) memory shared := by
  unfold paymentReconcile
  rw [hpayload]
  refine safe_query reconciled_error keeps_true trivial
    (fun _ _ => Request.Harmless.allowed (by trivial))
    fun {choice before after reference} _ _ hperform _ _ => ?_
  cases reference with
  | none => exact safe_decided (Shared.decided_of_reference hperform) hunread
  | some reference =>
      refine safe_ask reconciled_error (fun hextends => hextends.hasInvoice)
        (Shared.hasInvoice_of_reference hperform)
        (fun _ _ => Request.Harmless.allowed (by trivial))
        fun {after state} _ hinvoice => ?_
      have hmark : ∀ {memory : Memory}, memory.settled = false →
          Safe (services.rules workerId payload) (Reconciled invoiceId)
            (query services (.markCollectionUncollectible invoiceId)) memory after := by
        intro memory hunread
        rw [← bind_pure (query services (.markCollectionUncollectible invoiceId))]
        exact safe_query reconciled_error (fun hextends => hextends.hasInvoice) hinvoice
          (fun _ _ => Request.Harmless.allowed (by trivial))
          fun _ hinvoice hperform _ _ =>
            safe_decided (Shared.decided_of_uncollectible hinvoice hperform) hunread
      cases state with
      | settled => exact settleOrRefund_safe
      | pending => exact safe_failed reconciled_error _
      | failed => exact hmark hunread
      | expired => exact hmark hunread

/-! ## Every kind of job -/

/-- A job of a kind of which nothing more is said. -/
theorem safe_then_finished {kind : JobKind} {task : Task Unit}
    (hcompleted : ∀ shared : Shared, shared.Completed kind payload)
    (hkind : kind ≠ .paymentReconcile)
    (h : Safe (services.rules workerId payload) AnyEnd task memory shared) :
    Safe (services.rules workerId payload) (Ends kind payload)
      (do task; return .finished) memory shared := by
  refine safe_bind (h.mono fun {result memory shared} _ _ => ?_)
  cases result with
  | ok value => exact fun later _ _ => ⟨hcompleted later, fun heq => absurd heq hkind⟩
  | error error => exact safe_failed (ends_error _) error

/-- A job that is in the queue is safe. -/
theorem reconcilePayment_safe (hvalid : shared.Valid services.prim) (hknown : shared.Knows job)
    (hunread : job.kind = .paymentReconcile → memory.settled = false) :
    Safe (services.rules workerId job.payload) (Ends job.kind job.payload)
      (reconcilePayment services job) memory shared := by
  obtain ⟨row, hmem, -, hrowKind, hrowPayload⟩ := hknown
  unfold reconcilePayment
  cases hkind : job.kind with
  | raffleDraw => exact safe_then_finished (fun _ => trivial) nofun raffleDraw_safe
  | proofGenerate => exact safe_then_finished (fun _ => trivial) nofun proofGenerate_safe
  | payoutExecute =>
      cases hpayload : job.payload with
      | raffle raffleId =>
          exact payoutExecute_safe hpayload (hvalid.lawful.sound.drawn hmem
            (hrowKind.trans hkind) (hrowPayload.trans hpayload))
      | event _ _ _ | other _ =>
          unfold payoutExecute
          rw [hpayload]
          exact safe_failed (ends_error _) _
  | raffleClose =>
      refine safe_then_finished (fun _ => trivial) nofun ?_
      cases hpayload : job.payload with
      | raffle raffleId =>
          refine raffleClose_safe hpayload (hvalid.lawful.closing raffleId row ?_
            (hrowKind.trans hkind))
          exact Table.mem_select.mpr ⟨hmem, concerns_of_payload (hrowPayload.trans hpayload)⟩
      | event _ _ _ | other _ =>
          unfold raffleClose
          rw [hpayload]
          exact safe_failed (fun _ _ _ => trivial) _
  | other text hother => exact fun _ _ _ => ⟨trivial, nofun⟩
  | paymentReconcile =>
      cases hpayload : job.payload with
      | raffle _ | other _ =>
          unfold paymentReconcile
          rw [hpayload]
          exact safe_failed (ends_error _) _
      | event provider eventId invoiceId =>
          have hinvoice : job.payload.invoiceId = some invoiceId := by rw [hpayload]; rfl
          refine safe_bind ((paymentReconcile_safe hinvoice (hunread hkind)).mono
            fun {result memory shared} _ hreconciled => ?_)
          cases result with
          | ok value =>
              obtain ⟨hdecided, hcompensated⟩ := hreconciled rfl
              refine fun later _ hextends => ⟨Shared.Extends.decided hextends hdecided, ?_⟩
              rintro - hsettled _ ⟨⟩
              exact Shared.Extends.compensated hextends (hcompensated hsettled)
          | error error => exact safe_failed (ends_error _) error

end Jobs

end OpenPool
