import OpenPool.Api.Payments
import OpenPool.Store.PublicResults

/-! # The pages that clients are told

A handler is served in turns with all the others. Each of its queries is answered for the tables of
one moment of the run, and a result that was handed out stays true. -/

namespace OpenPool.Api

open Fallible Program

/-- In this step the handler makes its request, and gets the answer. -/
def System.Serves (deployment : Deployment) (index : ℕ) (call : Call)
    (exchange : Exchange Request Request.Answer) (system : System) (action : Action) : Prop :=
  ∃ choice trace next, action = .serve index choice ∧
    system.handlers[index]? = some ⟨call, trace, .call exchange.request next⟩ ∧
    (system.perform deployment choice exchange.request).1 = exchange.answer

/-- The handler has gone through the exchanges in the run, one after the other. -/
abbrev ServedInTurn (deployment : Deployment) (index : ℕ) (call : Call) (trace : Trace)
    (actions : List Action) : Prop :=
  StateMachine.Followed (System.step deployment) (System.Serves deployment index call) .start trace
    actions

section Served

variable {deployment : Deployment} {system : System} {action : Action} {index : ℕ} {call : Call}
  {actions : List Action}

/-- A step serves one handler, and begins another one or none. -/
theorem System.handler_step {handler : Handler}
    (h : (system.step deployment action).handlers[index]? = some handler) :
    system.handlers[index]? = some handler ∨
      handler = ⟨handler.call, [], router deployment.api handler.call⟩ ∨
      ∃ trace request answer next, system.handlers[index]? =
          some ⟨handler.call, trace, .call request next⟩ ∧
        handler = ⟨handler.call, ⟨request, answer⟩ :: trace, next answer⟩ ∧
        system.Serves deployment index handler.call ⟨request, answer⟩ action := by
  cases action with
  | receive call =>
      change (system.handlers ++ [_])[index]? = _ at h
      rw [List.getElem?_append] at h
      split at h
      · exact .inl h
      · obtain rfl := List.mem_singleton.mp (List.mem_of_getElem? h)
        exact .inr (.inl rfl)
  | work action =>
      cases action with
      | _ => exact .inl h
  | serve other choice =>
      change (system.serve deployment other choice).handlers[index]? = _ at h
      unfold System.serve at h
      split at h
      · rename_i call trace request next hserved
        change (system.handlers.set other _)[index]? = _ at h
        by_cases hsame : other = index
        · subst hsame
          obtain ⟨hlt, -⟩ := List.getElem?_eq_some_iff.mp hserved
          rw [List.getElem?_set_self hlt] at h
          obtain rfl := Option.some.inj h
          exact .inr (.inr ⟨trace, request, _, next, hserved, rfl, choice, trace, next, rfl, hserved,
            rfl⟩)
        · rw [List.getElem?_set_ne hsame] at h
          exact .inl h
      · exact .inl h

/-- Each handler has gone through its trace in the run. -/
theorem System.served_after (deployment : Deployment) (actions : List Action) {handler : Handler}
    (h : (System.after deployment actions).handlers[index]? = some handler) :
    ServedInTurn deployment index handler.call handler.trace actions := by
  induction actions using List.reverseRecOn generalizing handler with
  | nil => cases h
  | append_singleton actions action ih =>
      rw [System.after_concat] at h
      rcases System.handler_step h with hold | hnew | ⟨trace, request, answer, next, hasks, hnew,
        hserves⟩
      · exact (ih hold).append [action]
      · rw [hnew]
        exact .nil _
      · rw [hnew]
        exact .cons [] (ih hasks) hserves

/-- The last value that a handler was told is that of its statement for the tables of a moment, and
what follows in the run runs operations on them. -/
theorem ServedInTurn.last {statement : Statement} {value : statement.Value} {trace : Trace}
    (h : ServedInTurn deployment index call (⟨.query statement, .ok value⟩ :: trace) actions) :
    ∃ front choice, ServedInTurn deployment index call trace front ∧
      statement.answer (System.after deployment front).store.db (System.after deployment front).logins
        choice = .ok value ∧
      ∃ operations, (System.after deployment actions).store =
        StateMachine.run (Store.step deployment.services.prim) (System.after deployment front).store
          operations := by
  cases h with
  | @cons _ _ front action back h hevent =>
      obtain ⟨choice, _, next, -, -, hanswer⟩ := hevent
      exact ⟨front, choice, h, (System.perform_ok hanswer).1,
        System.store_run deployment front (action :: back)⟩

/-- A handler that has answered was told all that its program needs for the answer, in turn. -/
theorem System.answered (deployment : Deployment) (actions : List Action) {handler : Handler}
    (hmem : handler ∈ (System.after deployment actions).handlers) (hcall : handler.call = call)
    {answer : Except ApiError Response} (hdone : handler.task = .done answer)
    {post : Except ApiError Response → Trace → Prop}
    (htold : Traced (fun _ _ => True) post (router deployment.api call) []) :
    post answer handler.trace ∧
      ∃ index, ServedInTurn deployment index call handler.trace actions := by
  obtain ⟨index, hget⟩ := List.mem_iff_getElem?.mp hmem
  have hpath := System.onPath_after deployment actions handler hmem
  have hserved := System.served_after deployment actions hget
  rw [hcall] at hpath hserved
  rw [hdone] at hpath
  exact ⟨traced_done.mp (hpath.traced htold), index, hserved⟩

end Served

/-! ## Results -/

/-- What the handler of a result was told before it answered. -/
theorem getResult_told (api : ApiState) (id : Uuid) :
    Traced (fun _ _ => True) (fun answer trace => ∀ result, answer = .ok (.result result) →
      result.raffleId = id ∧ trace = [
        ⟨.query (.proofAvailable ⟨id⟩), .ok result.proofAvailable⟩,
        ⟨.query (.payoutStatuses ⟨id⟩), .ok result.payoutStatuses⟩,
        ⟨.query (.drawnTicket ⟨id⟩), .ok result.winningTicket⟩,
        ⟨.query (.raffleStatus ⟨id⟩), .ok result.status⟩]) (getResult api id) [] := by
  refine traced_query trivial (fun error result h => by cases h) fun status => ?_
  refine traced_query trivial (fun error result h => by cases h) fun winningTicket => ?_
  refine traced_query trivial (fun error result h => by cases h) fun statuses => ?_
  refine traced_query trivial (fun error result h => by cases h) fun available => ?_
  refine traced_done.mpr fun result h => ?_
  cases h
  exact ⟨rfl, rfl⟩

/-- In every run a result that a handler has answered is consistent, and what it says of the ticket
and the proof is still true: it was put together from four moments of the run. -/
theorem results_stay_true (deployment : Deployment) (actions : List Action) (handler : Handler)
    (hmem : handler ∈ (System.after deployment actions).handlers) (id : Uuid)
    (hcall : handler.call = .getResult id) (result : PublicResult)
    (hdone : handler.task = .done (.ok (.result result))) :
    result.raffleId = id ∧
    (result.status.drawn = true → result.winningTicket ≠ none) ∧
    (∀ ticket, result.winningTicket = some ticket →
      drawnTicket ⟨id⟩ (System.after deployment actions).db = .ok (some ticket)) ∧
    (result.status = .paidOut → result.payoutStatuses ≠ [] ∧
      ∀ status ∈ result.payoutStatuses, status = .settled) ∧
    (result.proofAvailable = true →
      raffleStatus ⟨id⟩ (System.after deployment actions).db = .ok .paidOut) := by
  obtain ⟨htold, index, hserved⟩ :=
    System.answered deployment actions hmem hcall hdone (getResult_told deployment.api id)
  obtain ⟨hid, htrace⟩ := htold result rfl
  rw [htrace] at hserved
  obtain ⟨fourth, _, hserved, havailable, later, hlater⟩ := hserved.last
  obtain ⟨third, _, hserved, hstatuses, toFourth, hfourth⟩ := hserved.last
  obtain ⟨second, _, hserved, hticket, toThird, hthird⟩ := hserved.last
  obtain ⟨first, _, -, hstatus, toSecond, hsecond⟩ := hserved.last
  have hpage : publicResult ⟨id⟩ (System.after deployment first).store.db
      (System.after deployment second).store.db (System.after deployment third).store.db
      (System.after deployment fourth).store.db = .ok result := by
    change raffleStatus _ _ = _ at hstatus
    change drawnTicket _ _ = _ at hticket
    have hstatuses := Except.ok.inj hstatuses
    have havailable := Except.ok.inj havailable
    change payoutStatuses _ _ = _ at hstatuses
    change proofAvailable _ _ = _ at havailable
    rw [publicResult, hstatus, hticket, hstatuses, havailable]
    subst hid
    rfl
  obtain ⟨hdrawn, hwinner, hpaid, hproof⟩ :=
    (System.valid_after deployment first).shared.lawful.sound.page_consistent hsecond hthird hfourth
      hpage
  refine ⟨hid, hdrawn, fun ticket hsome => ?_, hpaid, fun hannounced => ?_⟩
  · change drawnTicket _ (System.after deployment actions).store.db = _
    rw [hlater, hfourth, hthird, ← StateMachine.run_append, ← StateMachine.run_append]
    exact hwinner ticket hsome _
  · change raffleStatus _ (System.after deployment actions).store.db = _
    rw [hlater]
    exact hproof hannounced later

namespace ApiSample

open SampleRun (uuid)

/-- A client asks for the result of the drawn raffle. -/
def asked : List Action := paid ++
  request 10 (.getResult raffleId) (List.replicate 4 (choiceAt 172 (uuid 40)))

/-- The ticket of the result that the handler has answered. -/
def toldTicket (handler : Handler) : Option UInt64 :=
  match handler.call, handler.task with
  | .getResult id, .done (.ok (.result result)) =>
      if id = raffleId then result.winningTicket else none
  | _, _ => none

end ApiSample

theorem sample_result_stays_true :
    ∃ handler ∈ (System.after ApiSample.deployment ApiSample.asked).handlers,
      ∃ result ticket, handler.call = .getResult ApiSample.raffleId ∧
        handler.task = .done (.ok (.result result)) ∧ result.winningTicket = some ticket ∧
        drawnTicket ⟨ApiSample.raffleId⟩
          (System.after ApiSample.deployment ApiSample.asked).db = .ok (some ticket) := by
  have hsome : ∃ handler ∈ (System.after ApiSample.deployment ApiSample.asked).handlers,
      ApiSample.toldTicket handler ≠ none := by decide +kernel
  obtain ⟨handler, hmem, htold⟩ := hsome
  obtain ⟨ticket, htold⟩ := Option.ne_none_iff_exists'.mp htold
  unfold ApiSample.toldTicket at htold
  split at htold
  · rename_i id result hcall hdone
    split at htold
    · rename_i hid
      subst hid
      exact ⟨handler, hmem, result, ticket, hcall, hdone, htold,
        (results_stay_true ApiSample.deployment ApiSample.asked handler hmem _ hcall result
          hdone).2.2.1 ticket htold⟩
    · cases htold
  · cases htold

/-! ## Proofs -/

/-- What the handler of a proof was told before it answered. -/
theorem getProof_told (api : ApiState) (id : Uuid) :
    Traced (fun _ _ => True) (fun answer trace => ∀ document, answer = .ok (.proof document) →
      trace = [⟨.query (.publicProof ⟨id⟩), .ok document⟩]) (getProof api id) [] := by
  refine traced_query trivial (fun error document h => by cases h) fun told => ?_
  refine traced_done.mpr fun document h => ?_
  cases h
  rfl

/-- In every run a proof that a handler has answered verifies, tells the draw of the raffle, and is
still its proof. -/
theorem proofs_stay_true (deployment : Deployment) (actions : List Action) (handler : Handler)
    (hmem : handler ∈ (System.after deployment actions).handlers) (id : Uuid)
    (hcall : handler.call = .getProof id) (document : ProofDocument)
    (hdone : handler.task = .done (.ok (.proof document))) :
    (verify deployment.services.prim document).isVerified = true ∧
    document.payload.raffleId = ⟨id⟩ ∧
    drawnTicket ⟨id⟩ (System.after deployment actions).db =
      .ok (some document.payload.draw.winningTicket) ∧
    publicProof ⟨id⟩ (System.after deployment actions).db = .ok document := by
  obtain ⟨htold, index, hserved⟩ :=
    System.answered deployment actions hmem hcall hdone (getProof_told deployment.api id)
  rw [htold document rfl] at hserved
  obtain ⟨front, _, -, hanswer, operations, hstore⟩ := hserved.last
  change publicProof _ _ = _ at hanswer
  simp only [publicProof, bind_eq_ok_iff, pure_eq_ok_iff] at hanswer
  obtain ⟨proof, hfind, rfl⟩ := hanswer
  obtain ⟨hproof, hid, hversion⟩ := findProof_eq_ok_iff.mp hfind
  -- the row may have been published since, with the same document
  obtain ⟨proof', hproof', hlater⟩ := Store.proof_later_run deployment.services.prim
    (System.after deployment front).store operations hproof
  rw [← hstore] at hproof'
  have hfind' : findProof ⟨id⟩ (System.after deployment actions).store.db = .ok proof' :=
    findProof_eq_ok_iff.mpr ⟨hproof', hlater.raffleId.trans hid,
      hlater.protocolVersion.trans hversion⟩
  have hsound := (System.valid_after deployment actions).shared.lawful.sound
  obtain ⟨hverified, hraffle, hticket⟩ := Store.Sound.proof_of_raffle hsound hfind'
  rw [hlater.proofJson] at hverified hraffle hticket
  refine ⟨hverified, hraffle, hticket, ?_⟩
  change publicProof _ (System.after deployment actions).store.db = _
  rw [publicProof, hfind', Fallible.ok_bind, hlater.proofJson]
  rfl

namespace ApiSample

open SampleRun (uuid)

/-- The other payouts are paid, and the raffle is proved. -/
def proved : List Action := paid ++
  (WorldSample.round 7 (WorldSample.choiceAt 172 (uuid 41)) ++
    WorldSample.round 7 (WorldSample.choiceAt 173 (uuid 42)) ++
    WorldSample.round 8 (WorldSample.choiceAt 174 (uuid 43)) ++
    WorldSample.round 2 (WorldSample.choiceAt 175 (uuid 44))).map .work ++
  worked 176 2 (uuid 45) ++ request 10 (.getProof raffleId) [choiceAt 177 (uuid 46)]

/-- The proof of the raffle that the handler has answered. -/
def toldProof (handler : Handler) : Option ProofDocument :=
  match handler.call, handler.task with
  | .getProof id, .done (.ok (.proof document)) => if id = raffleId then some document else none
  | _, _ => none

end ApiSample

theorem sample_proof_stays_true :
    ∃ handler ∈ (System.after ApiSample.deployment ApiSample.proved).handlers,
      ∃ document, handler.call = .getProof ApiSample.raffleId ∧
        handler.task = .done (.ok (.proof document)) ∧
        (verify ApiSample.deployment.services.prim document).isVerified = true := by
  have hsome : ∃ handler ∈ (System.after ApiSample.deployment ApiSample.proved).handlers,
      (ApiSample.toldProof handler).isSome = true := by decide +kernel
  obtain ⟨handler, hmem, htold⟩ := hsome
  obtain ⟨document, htold⟩ := Option.isSome_iff_exists.mp htold
  unfold ApiSample.toldProof at htold
  split at htold
  · rename_i id other hcall hdone
    split at htold
    · rename_i hid
      subst hid
      exact ⟨handler, hmem, other, hcall, hdone, (proofs_stay_true ApiSample.deployment
        ApiSample.proved handler hmem _ hcall other hdone).1⟩
    · cases htold
  · cases htold

end OpenPool.Api
