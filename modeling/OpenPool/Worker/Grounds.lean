import OpenPool.Library.Traces
import OpenPool.Worker.Runs

/-! # On what grounds a job acts

Before a job settles an invoice, draws a raffle or pays someone it has been told why. What it has
been told is in its trace. -/

namespace OpenPool

open Program

/-- What a round of a job has asked and been told, last first. -/
abbrev JobTrace := List (Exchange Request Request.Answer)

/-- A request that needs no grounds. -/
def Request.Free : Request → Prop
  | query (.settleInvoice _) | query (.createDrawAndPayouts ..) | ask (.payInvoice _) => False
  | _ => True

/-- How the address of a payout was found. -/
inductive AddressFound (services : Services) (payout : ClaimedPayout) : String → JobTrace → Prop
  | platform (address : String) (trace : JobTrace) (hrecipient : payout.recipientType = .platform)
      (haddress : services.platformAddress = some address) :
      AddressFound services payout address trace
  | stored (address : String) (ciphertext : List UInt8) (trace : JobTrace)
      (hrecipient : payout.recipientType ≠ .platform)
      (hopen : services.decrypt ciphertext = .ok address) :
      AddressFound services payout address
        (⟨.query (.payoutRecipientCiphertext payout), .ok (some ciphertext)⟩ :: trace)

/-- What someone has asked and been told. -/
abbrev Knowledge := (request : Request) → request.Answer → Prop

/-- All blocks above the height end late. -/
def AllLate (told : Knowledge) (endTime : ℤ) (tip : UInt64) (height : ℕ) : Prop :=
  ∀ above, height < above → above ≤ tip.toNat → ∃ block,
    told (.ask (.blockAt (.ofNat above))) (.ok block) ∧ endTime ≤ block.time

/-- The source has shown the block that follows the last one before the end of the raffle, and that
all blocks above are later. -/
def CloseFound (told : Knowledge) (endTime : ℤ) (tip : UInt64) (close : Block) : Prop :=
  ∃ (height : ℕ) (last : Block), told (.ask (.blockAt (.ofNat height))) (.ok last) ∧
    last.time < endTime ∧ told (.ask (.blockAt (.ofNat height + 1))) (.ok close) ∧
    AllLate told endTime tip height

/-- The source has shown the blocks of a draw, which lie deep enough and were then canonical. -/
structure BlocksShown (told : Knowledge) (context : FrozenDrawContext) (close randomness : Block) :
    Prop where
  cutoff : ∃ tip, told (.ask .tipHeight) (.ok tip) ∧ CloseFound told context.endTime tip close ∧
    ¬ tip < close.height + .ofNat context.randomnessDelayBlocks.toNat + 1
  delay : 0 ≤ context.randomnessDelayBlocks
  shown : told (.ask (.blockAt (close.height + .ofNat context.randomnessDelayBlocks.toNat)))
    (.ok randomness)
  canonical : ∀ block ∈ [close, randomness],
    told (.query (.canonicalBlockMatches block.height block.hash)) (.ok true)

section Knowledge

variable {told told' : Knowledge} (h : ∀ request answer, told request answer → told' request answer)

include h

theorem CloseFound.mono {endTime : ℤ} {tip : UInt64} {close : Block}
    (hfound : CloseFound told endTime tip close) : CloseFound told' endTime tip close := by
  obtain ⟨height, last, hlast, htime, hclose, habove⟩ := hfound
  refine ⟨height, last, h _ _ hlast, htime, h _ _ hclose, fun above hgt hle => ?_⟩
  obtain ⟨block, hblock, hlate⟩ := habove above hgt hle
  exact ⟨block, h _ _ hblock, hlate⟩

theorem BlocksShown.mono {context : FrozenDrawContext} {close randomness : Block}
    (hshown : BlocksShown told context close randomness) :
    BlocksShown told' context close randomness where
  cutoff := by
    obtain ⟨tip, htip, hclose, hdeep⟩ := hshown.cutoff
    exact ⟨tip, h _ _ htip, hclose.mono h, hdeep⟩
  delay := hshown.delay
  shown := h _ _ hshown.shown
  canonical block hmem := h _ _ (hshown.canonical block hmem)

end Knowledge

/-- The trace as knowledge. -/
def Knows (trace : JobTrace) : Knowledge := fun request answer => ⟨request, answer⟩ ∈ trace

/-- The request follows from what the job has been told. -/
inductive Grounds (services : Services) (job : ClaimedJob) : Request → JobTrace → Prop
  | free (request : Request) (trace : JobTrace) (h : request.Free) :
      Grounds services job request trace
  | settle (invoiceId : InvoiceId) (reference : String)
      (hpayload : job.payload.invoiceId = some invoiceId) :
      Grounds services job (.query (.settleInvoice invoiceId))
        [⟨.ask (.getPayment reference), .ok .settled⟩,
          ⟨.query (.collectionPaymentReference invoiceId), .ok (some reference)⟩]
  | draw (raffleId : RaffleId) (context : FrozenDrawContext) (close randomness : Block)
      (new : JobTrace) (hpayload : job.payload.raffleId = some raffleId)
      (hblocks : BlocksShown (Knows new) context close randomness) :
      Grounds services job (.query (.createDrawAndPayouts raffleId close randomness))
        (new ++ [⟨.query (.frozenDrawContext raffleId), .ok context⟩])
  | pay (payout : ClaimedPayout) (raffleId : RaffleId) (bolt11 address : String) (front : JobTrace)
      (hpayload : job.payload.raffleId = some raffleId)
      (hclaimed : ⟨.query (.claimPayout raffleId), .ok (some payout)⟩ ∈ front)
      (haddress : AddressFound services payout address front) :
      Grounds services job (.ask (.payInvoice (payout.request bolt11)))
        (⟨.ask (.resolveExactAmount address payout.amountSats), .ok ⟨bolt11, payout.amountSats⟩⟩ ::
          front)

section Jobs

variable {services : Services} {job : ClaimedJob} {trace : JobTrace} {α : Type}

/-- Whatever it is told, the program acts on grounds. -/
def Grounded (services : Services) (job : ClaimedJob) (program : Task α) (trace : JobTrace) : Prop :=
  Traced (Grounds services job) (fun _ _ => True) program trace

theorem grounded_done {result : Except String α} : Grounded services job (.done result) trace :=
  traced_done.mpr trivial

theorem grounded_free {program : Task α} (h : program.Requests Request.Free) :
    Grounded services job program trace :=
  traced_of_requests h (.free _ _) fun _ _ => trivial

theorem grounded_query {statement : Statement} {f : statement.Value → Task α}
    (hgrounds : Grounds services job (.query statement) trace)
    (hnext : ∀ value, Grounded services job (f value) (⟨.query statement, .ok value⟩ :: trace)) :
    Grounded services job (query services statement >>= f) trace := by
  refine traced_call.mpr ⟨hgrounds, fun answer => ?_⟩
  cases answer with
  | ok value => exact hnext value
  | error error => exact grounded_done

theorem grounded_ask {question : Question} {f : question.Value → Task α}
    (hgrounds : Grounds services job (.ask question) trace)
    (hnext : ∀ value, Grounded services job (f value) (⟨.ask question, .ok value⟩ :: trace)) :
    Grounded services job (ask question >>= f) trace := by
  refine traced_call.mpr ⟨hgrounds, fun answer => ?_⟩
  cases answer with
  | ok value => exact hnext value
  | error error => exact grounded_done

/-! ## Jobs without grounds -/

theorem proofGenerate_free : (proofGenerate services job).Requests Request.Free := by
  unfold proofGenerate
  refine requests_okOrElse.bind fun raffleId => ?_
  refine (requests_query (by trivial)).bind fun proof => ?_
  dsimp only
  split
  · trivial
  refine Requests.bind (by trivial) fun canonicalJson => ?_
  exact (requests_ask (by trivial)).bind fun publication => requests_query (by trivial)

theorem raffleClose_free : (raffleClose services job).Requests Request.Free := by
  unfold raffleClose
  refine requests_okOrElse.bind fun raffleId => ?_
  refine (requests_query (by trivial)).bind fun pending => ?_
  dsimp only
  split
  · trivial
  exact (requests_query (by trivial)).bind fun _ => trivial

/-! ## Drawing -/

section Drawing

variable {base new : JobTrace} {endTime : ℤ} {tip : UInt64} {f : Block → Task α}

theorem AllLate.cons {height : ℕ} (h : AllLate (Knows new) endTime tip height)
    (exchange : Exchange Request Request.Answer) :
    AllLate (Knows (exchange :: new)) endTime tip height := by
  intro above hgt hle
  obtain ⟨block, htold, hlate⟩ := h above hgt hle
  exact ⟨block, List.mem_cons_of_mem _ htold, hlate⟩

theorem grounded_blockAfter {height : ℕ} {last : Block}
    (htold : Knows new (.ask (.blockAt (.ofNat height))) (.ok last)) (hlast : ¬ endTime ≤ last.time)
    (habove : AllLate (Knows new) endTime tip height)
    (hnext : ∀ close new', new <:+ new' → CloseFound (Knows new') endTime tip close →
      Grounded services job (f close) (new' ++ base)) :
    Grounded services job (blockAfter tip (.ofNat height) >>= f) (new ++ base) := by
  unfold blockAfter
  rw [Program.ite_bind]
  split
  · exact grounded_done
  · refine grounded_ask (.free _ _ trivial) fun close => ?_
    refine hnext close (_ :: new) (List.suffix_cons _ _) ⟨height, last,
      List.mem_cons_of_mem _ htold, not_le.mp hlast, List.mem_cons_self .., habove.cons _⟩

/-- The search goes down from the tip, until it meets a block before the end. -/
theorem grounded_closeBlock (new base : JobTrace) {height : ℕ}
    (habove : AllLate (Knows new) endTime tip height)
    (hnext : ∀ close new', new <:+ new' → CloseFound (Knows new') endTime tip close →
      Grounded services job (f close) (new' ++ base)) :
    Grounded services job (closeBlock endTime tip height >>= f) (new ++ base) := by
  induction height generalizing new with
  | zero =>
      unfold closeBlock
      rw [bind_assoc]
      refine grounded_ask (.free _ _ trivial) fun block => ?_
      rw [Program.ite_bind]
      split
      · exact grounded_done
      · refine grounded_blockAfter (List.mem_cons_self ..) ‹_› (habove.cons _)
          fun close new' hlater => hnext close new' ((List.suffix_cons _ _).trans hlater)
  | succ height ih =>
      unfold closeBlock
      rw [bind_assoc]
      refine grounded_ask (.free _ _ trivial) fun block => ?_
      rw [Program.ite_bind]
      split
      · rename_i hlate
        refine ih (_ :: new) ?_ fun close new' hlater =>
          hnext close new' ((List.suffix_cons _ _).trans hlater)
        intro above hgt hle
        rcases Nat.lt_or_eq_of_le (Nat.succ_le_of_lt hgt) with hgt | rfl
        · exact (habove.cons _) above hgt hle
        · exact ⟨block, List.mem_cons_self .., hlate⟩
      · exact grounded_blockAfter (List.mem_cons_self ..) ‹_› (habove.cons _)
          fun close new' hlater => hnext close new' ((List.suffix_cons _ _).trans hlater)

theorem grounded_ensureCanonical (new : JobTrace) {block : Block} {g : Unit → Task α}
    (hnext : ∀ new', new <:+ new' →
      Knows new' (.query (.canonicalBlockMatches block.height block.hash)) (.ok true) →
      Grounded services job (g ()) (new' ++ base)) :
    Grounded services job (ensureCanonical services block >>= g) (new ++ base) := by
  unfold ensureCanonical
  rw [bind_assoc]
  refine grounded_query (.free _ _ trivial) fun canonical => ?_
  cases canonical with
  | true => exact hnext (_ :: new) (List.suffix_cons _ _) (List.mem_cons_self ..)
  | false => exact grounded_done

end Drawing

theorem raffleDraw_grounded {f : Unit → Task α}
    (hnext : ∀ trace, Grounded services job (f ()) trace) :
    Grounded services job (raffleDraw services job >>= f) [] := by
  unfold raffleDraw
  dsimp only
  rw [Program.ite_bind]
  split
  · exact grounded_done
  simp only [bind_assoc]
  refine traced_okOrElse trivial fun raffleId hpayload => ?_
  refine grounded_query (.free _ _ trivial) fun context => ?_
  refine grounded_ask (.free _ _ trivial) fun tip => ?_
  refine grounded_closeBlock [_] [_] ?_ fun close new hnew hclose => ?_
  · exact fun above hgt hle => absurd hle (Nat.not_le.mpr hgt)
  have htip : Knows new (.ask .tipHeight) (.ok tip) := hnew.subset (List.mem_singleton_self _)
  rw [Program.ite_bind]
  split
  · exact grounded_done
  rename_i hdelay
  rw [Program.ite_bind]
  split
  · exact grounded_done
  rename_i hdeep
  simp only [bind_assoc]
  refine grounded_ask (.free _ _ trivial) fun randomness => ?_
  refine grounded_query (.free _ _ trivial) fun _ => grounded_query (.free _ _ trivial) fun _ => ?_
  refine grounded_ensureCanonical (_ :: _ :: _ :: new) fun checked hchecked hcloseCanonical => ?_
  refine grounded_ensureCanonical checked fun front hfront hrandomnessCanonical => ?_
  have hall := (List.suffix_cons _ _).trans ((List.suffix_cons _ _).trans
    ((List.suffix_cons _ _).trans (hchecked.trans hfront)))
  refine grounded_query (.draw raffleId context close randomness front hpayload ?_) fun _ => hnext _
  have hnew : ∀ request answer, Knows new request answer → Knows front request answer :=
    fun _ _ htold => hall.subset htold
  exact {
    cutoff := ⟨tip, hnew _ _ htip, hclose.mono hnew, hdeep⟩
    delay := not_lt.mp hdelay
    shown := (hchecked.trans hfront).subset
      (List.mem_cons_of_mem _ (List.mem_cons_of_mem _ (List.mem_cons_self ..)))
    canonical := by
      simp only [List.forall_mem_cons, List.not_mem_nil, false_imp_iff, implies_true, and_true]
      exact ⟨hfront.subset hcloseCanonical, hrandomnessCanonical⟩ }

/-! ## Paying out -/

theorem settlePayout_free (payoutId : Uuid) (providerReference : String) :
    (settlePayout services payoutId providerReference).Requests Request.Free := by
  unfold settlePayout
  refine (requests_query (by trivial)).bind fun _ => ?_
  refine (requests_query (by trivial)).bind fun remaining => ?_
  dsimp only
  split
  · exact (requests_query (by trivial)).bind fun _ => (requests_query (by trivial)).bind fun _ =>
      requests_query (by trivial)
  · exact requests_query (by trivial)

/-- The address comes from the configuration, or from what the database holds. -/
theorem grounded_payoutAddress {payout : ClaimedPayout} {f : String → Task α}
    (hnext : ∀ address trace', trace <:+ trace' → AddressFound services payout address trace' →
      Grounded services job (f address) trace') :
    Grounded services job (payoutAddress services payout >>= f) trace := by
  unfold payoutAddress
  rw [Program.ite_bind]
  split
  · rename_i hrecipient
    exact traced_okOrElse trivial fun address haddress =>
      hnext address _ List.suffix_rfl (.platform address _ hrecipient haddress)
  · rename_i hrecipient
    simp only [bind_assoc]
    refine grounded_query (.free _ _ trivial) fun found => ?_
    refine traced_okOrElse trivial fun ciphertext hfound => ?_
    subst hfound
    refine traced_result (fun _ _ => trivial) fun address hopen => ?_
    refine hnext address _ (List.suffix_cons _ _) (.stored address ciphertext _ hrecipient ?_)
    simpa using hopen

theorem payClaimed_grounded {payout : ClaimedPayout} {raffleId : RaffleId}
    (hpayload : job.payload.raffleId = some raffleId)
    (hclaimed : ⟨.query (.claimPayout raffleId), .ok (some payout)⟩ ∈ trace) :
    Grounded services job (payClaimed services payout) trace := by
  unfold payClaimed
  refine grounded_payoutAddress fun address trace' hlater haddress => ?_
  refine grounded_ask (.free _ _ trivial) fun invoice => ?_
  split
  · exact grounded_free ((requests_request (by trivial)).bind fun _ => trivial)
  · rename_i hamount
    obtain ⟨bolt11, amountSats⟩ := invoice
    obtain rfl : amountSats = payout.amountSats := not_not.mp hamount
    unfold payResolved
    refine traced_request (.pay payout raffleId bolt11 address trace' hpayload
      (hlater.subset hclaimed) haddress) fun answer => ?_
    cases answer with
    | ok attempt => exact grounded_free ((settlePayout_free _ _).bind fun _ => trivial)
    | error error => exact grounded_free ((requests_request (by trivial)).bind fun _ => trivial)

theorem payoutExecute_grounded : Grounded services job (payoutExecute services job) [] := by
  unfold payoutExecute
  refine traced_okOrElse trivial fun raffleId hpayload => ?_
  dsimp only
  split
  · exact grounded_done
  refine grounded_query (.free _ _ trivial) fun claimed => ?_
  cases claimed with
  | none => exact grounded_done
  | some payout => exact payClaimed_grounded hpayload (List.mem_cons_self ..)

/-! ## Reconciling a payment -/

theorem paymentReconcile_grounded {f : Unit → Task α}
    (hnext : ∀ trace, Grounded services job (f ()) trace) :
    Grounded services job (paymentReconcile services job >>= f) [] := by
  unfold paymentReconcile
  simp only [bind_assoc]
  refine traced_okOrElse trivial fun invoiceId hpayload => ?_
  refine grounded_query (.free _ _ trivial) fun found => ?_
  cases found with
  | none => exact hnext _
  | some reference =>
      dsimp only
      rw [bind_assoc]
      refine grounded_ask (.free _ _ trivial) fun state => ?_
      cases state with
      | pending => exact grounded_done
      | failed | expired => exact grounded_query (.free _ _ trivial) fun _ => hnext _
      | settled =>
          unfold settleOrRefund
          dsimp only
          rw [bind_assoc]
          refine traced_request (.settle invoiceId reference hpayload) fun answer => ?_
          cases answer with
          | ok entry => exact hnext _
          | error error =>
              cases error with
              | raffleNotOpen =>
                  dsimp only
                  rw [bind_assoc]
                  exact grounded_query (.free _ _ trivial) fun _ => hnext _
              | _ => exact grounded_done

/-- Every job acts on grounds. -/
theorem reconcilePayment_grounded (services : Services) (job : ClaimedJob) :
    Grounded services job (reconcilePayment services job) [] := by
  unfold reconcilePayment
  cases job.kind with
  | raffleDraw => exact raffleDraw_grounded fun _ => grounded_done
  | proofGenerate => exact grounded_free (proofGenerate_free.bind fun _ => trivial)
  | payoutExecute => exact payoutExecute_grounded
  | raffleClose => exact grounded_free (raffleClose_free.bind fun _ => trivial)
  | paymentReconcile => exact paymentReconcile_grounded fun _ => grounded_done
  | other => exact grounded_done

end Jobs

/-! ## Entries -/

section Entries

variable {prim : Primitives} {scope : Scope} {raffleId : RaffleId} {view view' : RaffleView}
  {store : Store} {entry : EntryRow}

/-- An entry is made by the settlement of its invoice. -/
theorem RaffleStep.new_entry (hstep : RaffleStep prim scope raffleId view view')
    (hmem : entry ∈ view'.entries) : entry ∈ view.entries ∨
      ∃ settledAt, scope.settlement = some (entry.invoiceId, settledAt) := by
  cases hstep with
  | settle row invoice entryRow ledgerEntry pool hrow hopen hinvoice hpending hreads hpaid _ _ _ hat =>
      rcases List.mem_append.mp hmem with hmem | hmem
      · exact .inl hmem
      · obtain rfl := List.mem_singleton.mp hmem
        exact .inr ⟨entry.settledAt, by rw [hat, hpaid.invoiceId]⟩
  | _ => exact .inl hmem

/-- Only `settle_invoice_and_append_entry` settles. -/
theorem Op.of_settlement {op : Op} {invoiceId : InvoiceId} {settledAt : ℤ}
    (h : (op.scope store).settlement = some (invoiceId, settledAt)) :
    ∃ entryId instant, op = .settleInvoice invoiceId entryId instant := by
  cases op with
  | settleInvoice id entryId instant =>
      obtain ⟨rfl, -⟩ := Prod.mk.inj (Option.some.inj h)
      exact ⟨entryId, instant, rfl⟩
  | _ => cases h

theorem Store.Sound.new_entry (hsound : store.Sound prim) {op : Op}
    (hmem : entry ∈ (store.step prim op).db.entries.rows) : entry ∈ store.db.entries.rows ∨
      ∃ entryId instant, op = .settleInvoice entry.invoiceId entryId instant := by
  have hview : entry ∈ ((store.step prim op).db.view entry.raffleId).entries :=
    Table.mem_select.mpr ⟨hmem, decide_eq_true rfl⟩
  rcases (store.step_raffleStep hsound op).new_entry hview with hold | ⟨settledAt, hat⟩
  · exact .inl (Table.mem_select.mp hold).1
  · exact .inr (Op.of_settlement hat)

end Entries

/-! ## Workers -/

section Workers

variable {services : Services} {world : World} {action : Action} {workerId : String}
  {job : ClaimedJob} {task : Task Round} {memory : Memory}

/-- A worker is at work on a round that it was at before, or has just started, or it has just been
told an answer. -/
theorem World.busy_step (h : (world.step services action).worker workerId = .busy job task memory) :
    world.worker workerId = .busy job task memory ∨ task = reconcilePayment services job ∨
      ∃ choice request next before, action = .work workerId choice ∧
        world.worker workerId = .busy job (.call request next) before ∧
        request.waits world.shared.store = false ∧
        task = next (world.shared.perform services workerId job.payload choice request).1 := by
  have hother : ∀ {shared : Shared} {other : String} {worker : Worker},
      ((world.withShared shared).withWorker other worker).worker workerId = .busy job task memory →
      world.worker workerId = .busy job task memory ∨
        (workerId = other ∧ worker = .busy job task memory) := by
    intro shared other worker hbusy
    rw [World.worker_withWorker] at hbusy
    by_cases hsame : workerId = other
    · rw [if_pos hsame] at hbusy
      exact .inr ⟨hsame, hbusy⟩
    · rw [if_neg hsame] at hbusy
      exact .inl hbusy
  cases action with
  | api op =>
      simp only [World.step] at h
      split at h <;> exact .inl h
  | schedule other jobIds now =>
      simp only [World.step] at h
      split at h <;> exact .inl h
  | claim other choice =>
      simp only [World.step, World.claim] at h
      split at h
      · rcases hother h with hkept | ⟨-, hnew⟩
        · exact .inl hkept
        · cases hnew
          exact .inr (.inl rfl)
      · exact .inl h
      · exact .inl h
  | work other choice =>
      simp only [World.step, World.work] at h
      split at h
      · rename_i job' request next before hworker
        split at h
        · exact .inl h
        · rename_i hwaits
          rcases hother h with hkept | ⟨rfl, hnew⟩
          · exact .inl hkept
          · cases hnew
            exact .inr (.inr ⟨choice, request, next, before, rfl, hworker,
              Bool.eq_false_iff.mpr hwaits, rfl⟩)
      · exact .inl h
  | finish other choice =>
      simp only [World.step, World.finish] at h
      split at h
      · rw [World.worker_withWorker] at h
        split at h
        · cases h
          exact .inr (.inl rfl)
        · exact .inl h
      · rcases hother h with hkept | ⟨-, hnew⟩
        · exact .inl hkept
        · cases hnew
      · rcases hother h with hkept | ⟨-, hnew⟩
        · exact .inl hkept
        · cases hnew
      · exact .inl h
  | crash other =>
      change (world.withWorker other .stopped).worker workerId = _ at h
      rw [World.worker_withWorker] at h
      split at h
      · cases h
      · exact .inl h
  | rollback payoutId => exact .inl h
  | deliver other =>
      simp only [World.step, World.deliver] at h
      split at h <;> exact .inl h
  | pay index =>
      simp only [World.step] at h
      split at h <;> exact .inl h

/-- Only a worker at work on its statement settles an invoice. -/
theorem World.settle_of_op {invoiceId : InvoiceId} {entryId : EntryId} {settledAt : Instant}
    (h : world.op action = some (.settleInvoice invoiceId entryId settledAt)) :
    ∃ workerId choice job next memory, action = .work workerId choice ∧
      world.worker workerId = .busy job (.call (.query (.settleInvoice invoiceId)) next) memory := by
  cases action with
  | api op =>
      obtain ⟨hapi, heq⟩ := Option.ite_none_right_eq_some.mp h
      obtain rfl := Option.some.inj heq
      cases hapi
  | schedule workerId jobIds now =>
      simp only [World.op] at h
      split at h <;> cases h
  | claim workerId choice =>
      simp only [World.op] at h
      split at h
      · obtain ⟨-, ⟨⟩⟩ := Option.ite_none_right_eq_some.mp h
      · cases h
  | work workerId choice =>
      simp only [World.op] at h
      split at h
      · rename_i job statement next memory hworker
        have hop := (Option.ite_none_right_eq_some.mp h).2
        cases statement with
        | settleInvoice other =>
            obtain ⟨rfl, -⟩ := Op.settleInvoice.inj (Option.some.inj hop)
            exact ⟨workerId, choice, job, next, memory, rfl, hworker⟩
        | countUnsettled | markPaidOut | enqueueProof | commitSettle =>
            obtain ⟨_, -, ⟨⟩⟩ := Option.map_eq_some_iff.mp hop
        | _ => cases hop
      · cases h
  | finish workerId choice =>
      simp only [World.op] at h
      split at h
      · obtain ⟨-, ⟨⟩⟩ := Option.ite_none_right_eq_some.mp h
      · obtain ⟨-, ⟨⟩⟩ := Option.ite_none_right_eq_some.mp h
      · cases h
  | rollback payoutId => cases h
  | crash | deliver | pay => cases h

/-- Between two states only a worker at work on the settlement of its invoice makes an entry. -/
theorem World.entry_step (hvalid : world.Valid services) {entry : EntryRow}
    (h : entry ∈ (world.step services action).shared.store.db.entries.rows) :
    entry ∈ world.shared.store.db.entries.rows ∨ ∃ workerId job next memory,
      world.worker workerId =
        .busy job (.call (.query (.settleInvoice entry.invoiceId)) next) memory := by
  rw [World.store_step] at h
  cases hop : world.op action with
  | none =>
      rw [hop] at h
      exact .inl h
  | some op =>
      rw [hop] at h
      rcases hvalid.shared.lawful.sound.new_entry h with hold | ⟨entryId, instant, rfl⟩
      · exact .inl hold
      · obtain ⟨workerId, choice, job, next, memory, -, hworker⟩ := World.settle_of_op hop
        exact .inr ⟨workerId, job, next, memory, hworker⟩

theorem Shared.sent_pay (payment : Payment) (shared : Shared) :
    (shared.pay payment).sent = shared.sent := by
  unfold Shared.pay
  split <;> rfl

theorem Shared.mem_sent_record {shared : Shared} {payload : JobPayload} {choice : Choice}
    {request : Request} {answer : request.Answer} {payment : Payment}
    (h : payment ∈ (shared.record payload choice request answer).sent) :
    payment ∈ shared.sent ∨ ∃ sent, request = .ask (.payInvoice sent) ∧ payment = ⟨payload, sent⟩ := by
  have hsend : ∀ {sent : PayoutRequest}, payment ∈ (shared.send ⟨payload, sent⟩).sent →
      payment ∈ shared.sent ∨ payment = ⟨payload, sent⟩ := by
    intro sent hmem
    rcases List.mem_append.mp hmem with hmem | hmem
    · exact .inl hmem
    · exact .inr (List.mem_singleton.mp hmem)
  unfold Shared.record at h
  split at h
  · unfold Shared.miss at h
    split at h <;> exact .inl h
  · unfold Shared.unreference at h
    split at h <;> exact .inl h
  · change payment ∈ (Shared.pay _ _).sent at h
    rw [Shared.sent_pay] at h
    exact (hsend h).imp_right fun hnew => ⟨_, rfl, hnew⟩
  · exact (hsend h).imp_right fun hnew => ⟨_, rfl, hnew⟩
  · exact .inl h

theorem Shared.sent_transact {shared : Shared} (choice : Choice) (op : Op) :
    (shared.transact services choice op).sent = shared.sent := by
  unfold Shared.transact
  split
  · split <;> rfl
  · rfl

theorem Shared.mem_sent_perform {shared : Shared} {payload : JobPayload} {choice : Choice}
    {request : Request} {payment : Payment}
    (h : payment ∈ (shared.perform services workerId payload choice request).2.sent) :
    payment ∈ shared.sent ∨ ∃ sent, request = .ask (.payInvoice sent) ∧ payment = ⟨payload, sent⟩ := by
  cases request with
  | query statement =>
      simp only [Shared.perform] at h
      split at h
      · split at h <;> exact .inl h
      · have hmem : payment ∈ (Shared.record payload choice (shared.run services
            (statement.op shared.store workerId choice)) (.query statement) _).sent := h
        have hrecorded := Shared.mem_sent_record hmem
        exact hrecorded
  | ask question => exact Shared.mem_sent_record h

/-- Only a worker that has come to a payment sends it. -/
theorem World.sent_step {payment : Payment}
    (h : payment ∈ (world.step services action).shared.sent) :
    payment ∈ world.shared.sent ∨ ∃ workerId job next memory,
      world.worker workerId =
        .busy job (.call (.ask (.payInvoice payment.request)) next) memory := by
  cases action with
  | api op =>
      simp only [World.step] at h
      split at h <;> exact .inl h
  | schedule other jobIds now =>
      simp only [World.step] at h
      split at h <;> exact .inl h
  | claim other choice =>
      have hsame : (world.shared.transact services choice _).sent = world.shared.sent :=
        world.shared.sent_transact choice (.claimJob other jobLeaseSeconds choice.now
          choice.locked choice.pick)
      simp only [World.step, World.claim] at h
      split at h
      · exact .inl (hsame ▸ h)
      · exact .inl (hsame ▸ h)
      · exact .inl h
  | work other choice =>
      simp only [World.step, World.work] at h
      split at h
      · rename_i job request next before hworker
        split at h
        · exact .inl h
        · rcases Shared.mem_sent_perform h with hold | ⟨sent, rfl, rfl⟩
          · exact .inl hold
          · exact .inr ⟨other, job, next, before, hworker⟩
      · exact .inl h
  | finish other choice =>
      simp only [World.step, World.finish] at h
      split at h
      · exact .inl h
      · exact .inl (Shared.sent_transact choice _ ▸ h)
      · exact .inl (Shared.sent_transact choice _ ▸ h)
      · exact .inl h
  | crash other => exact .inl h
  | rollback payoutId => exact .inl h
  | deliver other =>
      simp only [World.step, World.deliver] at h
      split at h
      · rename_i job request next memory hworker
        rcases List.mem_append.mp h with hold | hnew
        · exact .inl hold
        · obtain rfl := List.mem_singleton.mp hnew
          exact .inr ⟨other, job, next, memory, hworker⟩
      · exact .inl h
  | pay index =>
      simp only [World.step] at h
      split at h
      · exact .inl (Shared.sent_pay _ _ ▸ h)
      · exact .inl h

end Workers

end OpenPool
