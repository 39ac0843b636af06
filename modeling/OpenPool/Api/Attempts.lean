import OpenPool.Api.Identity

/-! # A login attempt is used once

Between the handlers of all callbacks an attempt that was begun is consumed at most once, so a
callback that is replayed makes no session. -/

namespace OpenPool.Api

open Fallible Program

/-! ## Counts -/

/-- An attempt with this state was to be stored. -/
def begins (state : String) : Exchange Request Request.Answer → Bool
  | ⟨.query (.createOidcLoginAttempt attempt), _⟩ => attempt.state = state
  | _ => false

/-- An attempt with this state was handed out. -/
def consumes (state : String) : Exchange Request Request.Answer → Bool
  | ⟨.query (.consumeOidcLoginAttempt other), .ok (some _)⟩ => other = state
  | _ => false

/-- How many exchanges of the handlers are of the kind. -/
def System.exchanges (kind : Exchange Request Request.Answer → Bool) (system : System) : ℕ :=
  (system.handlers.map fun handler => handler.trace.countP kind).sum

/-- How many attempts with this state are stored. -/
def storedAttempts (state : String) (logins : Logins) : ℕ :=
  logins.attempts.rows.countP fun row => row.state = state

/-- In one place of a list the value grows. -/
theorem sum_map_set {α : Type*} {f : α → ℕ} {values : List α} {index : ℕ} {old new : α} {more : ℕ}
    (hold : values[index]? = some old) (hnew : f new = f old + more) :
    ((values.set index new).map f).sum = (values.map f).sum + more := by
  induction values generalizing index with
  | nil => cases hold
  | cons value values ih =>
      cases index with
      | zero =>
          obtain rfl := Option.some.inj hold
          simp only [List.set_cons_zero, List.map_cons, List.sum_cons, hnew]
          omega
      | succ index =>
          simp only [List.set_cons_succ, List.map_cons, List.sum_cons, ih hold]
          omega

theorem countP_le_sum {α : Type*} {p : α → Bool} {f : α → ℕ} {values : List α}
    (h : ∀ value ∈ values, p value = true → 0 < f value) :
    values.countP p ≤ (values.map f).sum := by
  induction values with
  | nil => exact le_rfl
  | cons value values ih =>
      have hrest := ih fun other hmem => h other (List.mem_cons_of_mem _ hmem)
      rw [List.countP_cons, List.map_cons, List.sum_cons]
      split
      · have hvalue := h value (List.mem_cons_self ..) ‹_›
        omega
      · omega

section Counts

variable {deployment : Deployment} {system : System} {logins : Logins} {state : String}

theorem storedAttempts_login (choice : Choice) (statement : Statement)
    (answer : (Request.query statement).Answer) :
    storedAttempts state (statement.login choice logins) ≤
      storedAttempts state logins + (begins state ⟨.query statement, answer⟩).toNat := by
  have hstep := statement.loginStep choice logins
  generalize statement.login choice logins = after at hstep ⊢
  cases hstep with
  | stay => exact Nat.le_add_right _ _
  | attempt attempt attempts hrows =>
      unfold storedAttempts
      rw [hrows, List.countP_append, List.countP_singleton]
      exact Nat.add_le_add_left (by cases hsame : decide (attempt.state = state) <;>
        simp [begins, NewOidcLoginAttempt.row] at hsame ⊢ <;> simp [hsame]) _
  | consume other attempts now hrows =>
      refine Nat.le_add_right_of_le ?_
      unfold storedAttempts
      rw [hrows]
      exact List.filter_sublist.countP_le
  | session | logout => exact Nat.le_add_right _ _

/-- Who gets an attempt takes it away. -/
theorem storedAttempts_consumed {now : ℤ} {attempt : OidcLoginAttempt} {after : Logins}
    (h : consumeOidcLoginAttempt state now logins = .ok (after, some attempt)) :
    storedAttempts state after + 1 ≤ storedAttempts state logins := by
  simp only [consumeOidcLoginAttempt, Except.ok.injEq, Prod.mk.injEq] at h
  obtain ⟨rfl, hreturned⟩ := h
  obtain ⟨row, hrow, -⟩ := Option.map_eq_some_iff.mp hreturned
  obtain ⟨hmem, hmatch⟩ := Table.mem_select.mp (List.mem_of_mem_head? hrow)
  obtain ⟨hstate, -⟩ := of_decide_eq_true hmatch
  unfold storedAttempts
  rw [List.countP_eq_countP_filter_add logins.attempts.rows _
    (fun row => decide (row.state = state ∧ now < row.expiresAt)), Nat.add_comm]
  refine Nat.add_le_add_right (Nat.succ_le_of_lt (List.countP_pos_iff.mpr ⟨row, ?_, ?_⟩)) _
  · exact List.mem_filter.mpr ⟨hmem, hmatch⟩
  · exact decide_eq_true hstate

/-- A request that hands out an attempt removes it, and one that stores an attempt begins it. -/
theorem System.perform_attempts (deployment : Deployment) (system : System) (state : String)
    (choice : Choice) (request : Request) :
    storedAttempts state (system.perform deployment choice request).2.logins +
        (consumes state ⟨request, (system.perform deployment choice request).1⟩).toNat ≤
      storedAttempts state system.logins +
        (begins state ⟨request, (system.perform deployment choice request).1⟩).toNat := by
  by_cases hconsumed : consumes state ⟨request, (system.perform deployment choice request).1⟩ = true
  · rw [hconsumed]
    refine Nat.le_add_right_of_le ?_
    cases request with
    | query statement =>
        cases statement with
        | consumeOidcLoginAttempt other =>
            simp only [System.perform] at hconsumed ⊢
            cases hfault : choice.fault with
            | some fault =>
                rw [hfault] at hconsumed
                cases hconsumed
            | none =>
                rw [hfault] at hconsumed
                change consumes state ⟨.query (.consumeOidcLoginAttempt other),
                  (consumeOidcLoginAttempt other choice.now system.logins).map Prod.snd⟩ = true
                  at hconsumed
                change storedAttempts state (commit system.logins
                  (consumeOidcLoginAttempt other choice.now system.logins)) + 1 ≤ _
                cases hresult : consumeOidcLoginAttempt other choice.now system.logins with
                | error error =>
                    rw [hresult] at hconsumed
                    cases hconsumed
                | ok result =>
                    obtain ⟨after, found⟩ := result
                    rw [hresult] at hconsumed
                    cases found with
                    | none => cases hconsumed
                    | some attempt =>
                        obtain rfl : other = state := of_decide_eq_true hconsumed
                        exact storedAttempts_consumed hresult
        | _ => cases hconsumed
    | ask question => cases hconsumed
    | draw source => cases hconsumed
  · rw [Bool.eq_false_iff.mpr hconsumed]
    rcases system.perform_cases deployment choice request with hsame | ⟨statement, rfl, -, hrun⟩
    · rw [hsame]
      exact Nat.le_add_right _ _
    · rw [hrun]
      exact storedAttempts_login choice statement _

end Counts

/-! ## Runs -/

section Runs

variable {deployment : Deployment} {system system' : System} {state : String}

/-- What is stored or was handed out was begun. -/
def System.AttemptsBegun (state : String) (system : System) : Prop :=
  storedAttempts state system.logins + system.exchanges (consumes state) ≤
    system.exchanges (begins state)

theorem System.Steps.attemptsBegun (h : System.Steps deployment system system')
    (hbegun : system.AttemptsBegun state) : system'.AttemptsBegun state := by
  cases h with
  | stay => exact hbegun
  | receive call =>
      simpa [System.AttemptsBegun, System.exchanges] using hbegun
  | work => exact hbegun
  | @serve index call trace request next choice hserved =>
      have hcount : ∀ kind, System.exchanges kind
          { (system.perform deployment choice request).2 with
            handlers := system.handlers.set index
              ⟨call, ⟨request, (system.perform deployment choice request).1⟩ :: trace,
                next (system.perform deployment choice request).1⟩ } =
          system.exchanges kind +
            (kind ⟨request, (system.perform deployment choice request).1⟩).toNat := fun kind => by
        refine sum_map_set hserved ?_
        rw [List.countP_cons]
        cases kind ⟨request, (system.perform deployment choice request).1⟩ <;> rfl
      have hperform := system.perform_attempts deployment state choice request
      unfold System.AttemptsBegun at hbegun ⊢
      rw [hcount, hcount]
      dsimp only
      omega

theorem System.attemptsBegun_after (deployment : Deployment) (actions : List Action)
    (state : String) : (System.after deployment actions).AttemptsBegun state :=
  StateMachine.invariant (fun (system : System) action =>
    (system.step_spec deployment action).attemptsBegun) (Nat.le_refl 0) actions

/-- The handler of a callback with this state has asked for a session. -/
def Handler.madeSession (state : String) (handler : Handler) : Bool :=
  (match handler.call with
    | .oidcCallback _ other => decide (other = state)
    | _ => false) &&
  handler.trace.any fun exchange =>
    match exchange.request with
    | .query (.createOidcSession _) => true
    | _ => false

/-- A session is made of an attempt that was handed out. -/
theorem System.OnPath.consumed (hpath : system.OnPath deployment) {handler : Handler}
    (hmem : handler ∈ system.handlers) (hsession : handler.madeSession state = true) :
    0 < handler.trace.countP (consumes state) := by
  obtain ⟨call, trace, task⟩ := handler
  obtain ⟨hcall, hany⟩ := Bool.and_eq_true_iff.mp hsession
  obtain ⟨exchange, hexchange, hquery⟩ := List.any_eq_true.mp hany
  obtain ⟨later, earlier, rfl⟩ := List.append_of_mem hexchange
  obtain ⟨request, answer⟩ := exchange
  have hheard : system.Heard call (⟨request, answer⟩ :: earlier) :=
    ⟨_, hmem, rfl, List.suffix_append _ _⟩
  obtain ⟨middle, hmiddle⟩ := hheard.path hpath
  have hallowed := hmiddle.was_allowed (router_lawful deployment.api call)
  cases hallowed with
  | session code other attempt identity sessionId csrfToken now =>
      obtain rfl : other = state := of_decide_eq_true hcall
      exact List.countP_pos_iff.mpr ⟨⟨.query (.consumeOidcLoginAttempt other), .ok (some attempt)⟩,
        by simp, decide_eq_true rfl⟩
  | @read _ statement _ hreads =>
      cases statement with
      | createOidcSession => cases hreads
      | _ => cases hquery
  | _ => cases hquery

end Runs

/-- In every run no more callbacks with a state have made a session than login attempts with this
state were begun, and those that are still stored have made none. -/
theorem attempts_used_once (deployment : Deployment) (actions : List Action) (state : String) :
    storedAttempts state (System.after deployment actions).logins +
        (System.after deployment actions).handlers.countP (Handler.madeSession state) ≤
      (System.after deployment actions).exchanges (begins state) := by
  refine le_trans (Nat.add_le_add_left (countP_le_sum fun handler hmem => ?_) _)
    (System.attemptsBegun_after deployment actions state)
  exact (System.onPath_after deployment actions).consumed hmem

end OpenPool.Api
