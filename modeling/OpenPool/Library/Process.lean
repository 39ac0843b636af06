import Mathlib.Data.List.Basic

/-! # Programs over a shared state

A program is a tree of requests. Between two of its requests other programs change the shared
state, so what is proved about a program has to survive every change they may make. -/

universe u v

/-- A program that ends with a result, after a request for each answer it needs. -/
inductive Program (Request : Type u) (Answer : Request → Type u) (ε α : Type u) where
  | done (result : Except ε α)
  | call (request : Request) (next : Answer request → Program Request Answer ε α)

namespace Program

section Monad

variable {Request : Type u} {Answer : Request → Type u} {ε ε' α β : Type u}

/-- The program goes on with the value, and stops at an error. -/
def bind : Program Request Answer ε α → (α → Program Request Answer ε β) →
    Program Request Answer ε β
  | done (.ok value), f => f value
  | done (.error error), _ => done (.error error)
  | call request next, f => call request fun answer => (next answer).bind f

instance : Monad (Program Request Answer ε) where
  pure value := done (.ok value)
  bind := bind

/-- Make one request. -/
def request (request : Request) : Program Request Answer ε (Answer request) :=
  call request fun answer => done (.ok answer)

def fail (error : ε) : Program Request Answer ε α := done (.error error)

/-- Stop at an error, told in the words of the program. -/
def orFail (describe : ε' → ε) (result : Except ε' α) : Program Request Answer ε α :=
  done (result.mapError describe)

/-- Stop where there is no value. -/
def okOrElse (value : Option α) (error : ε) : Program Request Answer ε α :=
  match value with
  | some value => done (.ok value)
  | none => done (.error error)

@[simp] theorem pure_eq (value : α) : (pure value : Program Request Answer ε α) = done (.ok value) :=
  rfl

@[simp] theorem ok_bind (value : α) (f : α → Program Request Answer ε β) :
    (done (.ok value) >>= f) = f value := rfl

@[simp] theorem error_bind (error : ε) (f : α → Program Request Answer ε β) :
    ((done (.error error) : Program Request Answer ε α) >>= f) = done (.error error) := rfl

@[simp] theorem orFail_ok (describe : ε' → ε) (value : α) :
    (orFail describe (.ok value) : Program Request Answer ε α) = done (.ok value) := rfl

@[simp] theorem fail_bind (error : ε) (f : α → Program Request Answer ε β) :
    ((fail error : Program Request Answer ε α) >>= f) = fail error := rfl

theorem ite_bind {p : Prop} [Decidable p] (program program' : Program Request Answer ε α)
    (f : α → Program Request Answer ε β) :
    (if p then program else program') >>= f = if p then program >>= f else program' >>= f :=
  apply_ite (· >>= f) p program program'

@[simp] theorem call_bind (request : Request) (next : Answer request → Program Request Answer ε α)
    (f : α → Program Request Answer ε β) :
    (call request next >>= f) = call request fun answer => next answer >>= f := rfl

theorem bind_assoc_program {γ : Type u} (program : Program Request Answer ε α)
    (f : α → Program Request Answer ε β) (g : β → Program Request Answer ε γ) :
    program >>= f >>= g = program >>= fun value => f value >>= g := by
  induction program with
  | done result => cases result <;> rfl
  | call request next ih => exact congrArg (call request) (funext ih)

instance : LawfulMonad (Program Request Answer ε) :=
  .mk' _ (fun program => by
      induction program with
      | done result => cases result <;> rfl
      | call request next ih => exact congrArg (call request) (funext ih))
    (fun _ _ => rfl) bind_assoc_program

/-- Run with fixed answers. -/
def eval (answer : (request : Request) → Answer request) : Program Request Answer ε α → Except ε α
  | done result => result
  | call request next => (next (answer request)).eval answer

section Eval

variable {answer : (request : Request) → Answer request}

@[simp] theorem eval_done (result : Except ε α) :
    (done result : Program Request Answer ε α).eval answer = result := rfl

@[simp] theorem eval_call (request : Request)
    (next : Answer request → Program Request Answer ε α) :
    (call request next).eval answer = (next (answer request)).eval answer := rfl

@[simp] theorem eval_bind (program : Program Request Answer ε α)
    (f : α → Program Request Answer ε β) :
    (program >>= f).eval answer = program.eval answer >>= fun value => (f value).eval answer := by
  induction program with
  | done result => cases result <;> rfl
  | call request next ih => exact ih (answer request)

end Eval

/-- Every request the program can make satisfies the condition. -/
def Requests (condition : Request → Prop) : Program Request Answer ε α → Prop
  | done _ => True
  | call request next => condition request ∧ ∀ answer, (next answer).Requests condition

variable {condition : Request → Prop}

theorem Requests.bind {program : Program Request Answer ε α} {f : α → Program Request Answer ε β}
    (h : program.Requests condition) (hf : ∀ value, (f value).Requests condition) :
    (program >>= f).Requests condition := by
  induction program with
  | done result =>
      cases result with
      | ok value => exact hf value
      | error error => trivial
  | call request next ih => exact ⟨h.1, fun answer => ih answer (h.2 answer)⟩

theorem requests_request {request : Request} (h : condition request) :
    (Program.request request : Program Request Answer ε (Answer request)).Requests condition :=
  ⟨h, fun _ => trivial⟩

section Run

variable {σ : Type v} (perform : (request : Request) → σ → Answer request × σ)

/-- Run on a state that nothing else changes. -/
def run : Program Request Answer ε α → σ → Except ε α × σ
  | done result, state => (result, state)
  | call request next, state =>
      (next (perform request state).1).run (perform request state).2

/-- The state in which a run stops that makes at most a number of requests. -/
def stopAfter : ℕ → Program Request Answer ε α → σ → σ
  | 0, _, state => state
  | _ + 1, done _, state => state
  | requests + 1, call request next, state =>
      stopAfter requests (next (perform request state).1) (perform request state).2

variable {perform}

/-- What every request keeps, a stopped run keeps. -/
theorem Requests.stopAfter {P : σ → Prop} (hperform : ∀ request state, condition request →
      P state → P (perform request state).2) {program : Program Request Answer ε α}
    (h : program.Requests condition) {state : σ} (hstate : P state) (requests : ℕ) :
    P (program.stopAfter perform requests state) := by
  induction requests generalizing program state with
  | zero => exact hstate
  | succ requests ih =>
      cases program with
      | done result => exact hstate
      | call request next => exact ih (h.2 _) (hperform request state h.1 hstate)

end Run

end Monad

/-! ## Rely and guarantee -/

variable {Request : Type u} {Answer : Request → Type u} {ε α β : Type u}
  {Shared History : Type v}

/-- What a request may do to the shared state, and what every program may rely on. -/
structure Rules (Request : Type u) (Answer : Request → Type u) (Shared History : Type v) where
  valid : Shared → Prop
  rely : Shared → Shared → Prop
  /-- The program may make the request. -/
  allowed : Request → History → Shared → Prop
  commits : (request : Request) → Answer request → Shared → Shared → Prop
  /-- What the program's own history adds for an answer. -/
  record : (request : Request) → Answer request → History → History
  refl : ∀ shared, rely shared shared
  trans : ∀ {a b c}, rely a b → rely b c → rely a c
  kept : ∀ {request history answer before after}, valid before → allowed request history before →
    commits request answer before after → valid after ∧ rely before after

variable {rules : Rules Request Answer Shared History}

/-- A fact that no permitted change can falsify. -/
def Rules.Stable (rules : Rules Request Answer Shared History) (fact : Shared → Prop) : Prop :=
  ∀ {before after}, rules.valid after → rules.rely before after → fact before → fact after

/-- Whatever other programs do in between, each request is allowed when the program makes it,
and its result satisfies the postcondition. -/
def Safe (rules : Rules Request Answer Shared History)
    (post : Except ε α → History → Shared → Prop) :
    Program Request Answer ε α → History → Shared → Prop
  | done result, history, shared => ∀ later, rules.valid later → rules.rely shared later →
      post result history later
  | call request next, history, shared => ∀ later, rules.valid later →
      rules.rely shared later → rules.allowed request history later ∧
        ∀ answer after, rules.commits request answer later after →
          Safe rules post (next answer) (rules.record request answer history) after

variable {post : Except ε α → History → Shared → Prop} {program : Program Request Answer ε α}
  {history : History} {shared : Shared}

/-- Other programs cannot make a program unsafe. -/
theorem Safe.later {after : Shared} (h : Safe rules post program history shared)
    (hrely : rules.rely shared after) : Safe rules post program history after := by
  cases program with
  | done result => exact fun later hvalid hlater => h later hvalid (rules.trans hrely hlater)
  | call request next => exact fun later hvalid hlater => h later hvalid (rules.trans hrely hlater)

theorem safe_of_later (h : ∀ later, rules.valid later → rules.rely shared later →
    Safe rules post program history later) : Safe rules post program history shared := by
  cases program with
  | done result =>
      exact fun later hvalid hrely => h later hvalid hrely later hvalid (rules.refl later)
  | call request next =>
      exact fun later hvalid hrely => h later hvalid hrely later hvalid (rules.refl later)

/-- A program that has ended satisfies its postcondition. -/
theorem Safe.result {result : Except ε α} (h : Safe rules post (done result) history shared)
    (hvalid : rules.valid shared) : post result history shared :=
  h shared hvalid (rules.refl shared)

/-- The next request is allowed, and the rest of the program is safe. -/
theorem Safe.next {request : Request} {next : Answer request → Program Request Answer ε α}
    (h : Safe rules post (call request next) history shared) (hvalid : rules.valid shared) :
    rules.allowed request history shared ∧ ∀ answer after, rules.commits request answer shared after →
      Safe rules post (next answer) (rules.record request answer history) after :=
  h shared hvalid (rules.refl shared)

/-- The rule of consequence. -/
theorem Safe.mono {post' : Except ε α → History → Shared → Prop}
    (h : Safe rules post program history shared)
    (himp : ∀ {result history shared}, rules.valid shared → post result history shared →
      post' result history shared) : Safe rules post' program history shared := by
  induction program generalizing history shared with
  | done result => exact fun later hvalid hrely => himp hvalid (h later hvalid hrely)
  | call request next ih =>
      intro later hvalid hrely
      obtain ⟨hallowed, hnext⟩ := h later hvalid hrely
      exact ⟨hallowed, fun answer after hcommits => ih answer (hnext answer after hcommits)⟩

/-- The rule of sequence. -/
theorem safe_bind {program : Program Request Answer ε α} {f : α → Program Request Answer ε β}
    {post : Except ε β → History → Shared → Prop}
    (h : Safe rules (fun result history shared => match result with
      | .ok value => Safe rules post (f value) history shared
      | .error error => Safe rules post (done (.error error)) history shared)
      program history shared) :
    Safe rules post (program >>= f) history shared := by
  induction program generalizing history shared with
  | done result =>
      refine safe_of_later fun later hvalid hrely => ?_
      cases result with
      | ok value => exact h later hvalid hrely
      | error error => exact h later hvalid hrely
  | call request next ih =>
      intro later hvalid hrely
      obtain ⟨hallowed, hnext⟩ := h later hvalid hrely
      exact ⟨hallowed, fun answer after hcommits => ih answer (hnext answer after hcommits)⟩

/-- The rule of requests: a stable fact holds when the request is made, and after it. -/
theorem safe_request {request : Request} {next : Answer request → Program Request Answer ε α}
    {fact : Shared → Prop} (hstable : rules.Stable fact) (hfact : fact shared)
    (h : ∀ before, rules.valid before → fact before → rules.allowed request history before ∧
      ∀ answer after, rules.commits request answer before after → rules.valid after →
        fact after → Safe rules post (next answer) (rules.record request answer history) after) :
    Safe rules post (call request next) history shared := by
  intro before hvalid hrely
  have hbefore := hstable hvalid hrely hfact
  obtain ⟨hallowed, hnext⟩ := h before hvalid hbefore
  refine ⟨hallowed, fun answer after hcommits => ?_⟩
  obtain ⟨hvalid', hrely'⟩ := rules.kept hvalid hallowed hcommits
  exact hnext answer after hcommits hvalid' (hstable hvalid' hrely' hbefore)

/-- A program whose requests are always allowed keeps every stable fact. -/
theorem safe_of_requests {condition : Request → Prop} {fact : Shared → Prop}
    (h : program.Requests condition)
    (hallowed : ∀ {request history shared}, condition request →
      rules.allowed request history shared)
    (hstable : rules.Stable fact) (hfact : fact shared)
    (hpost : ∀ {result history shared}, rules.valid shared → fact shared →
      post result history shared) :
    Safe rules post program history shared := by
  induction program generalizing history shared with
  | done result => exact fun _ hvalid hrely => hpost hvalid (hstable hvalid hrely hfact)
  | call request next ih =>
      intro before hvalid hrely
      have hrequest : rules.allowed request history before := hallowed h.1
      refine ⟨hrequest, fun answer after hcommits => ?_⟩
      obtain ⟨hvalid', hrely'⟩ := rules.kept hvalid hrequest hcommits
      exact ih answer (h.2 answer) (hstable hvalid' hrely' (hstable hvalid hrely hfact))

end Program
