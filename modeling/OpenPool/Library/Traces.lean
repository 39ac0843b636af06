import OpenPool.Library.Process

/-! # Traces of a program

The requests a program has made with their answers, last first, and what it does after them.
What is proved of a program for every answer holds of every trace. -/

universe u

namespace Program

variable {Request : Type u} {Answer : Request → Type u} {ε α : Type u}

/-- A request, and the answer that the program got. -/
structure Exchange (Request : Type u) (Answer : Request → Type u) where
  request : Request
  answer : Answer request

/-- After these exchanges the program goes on as `rest`. -/
inductive Path (program : Program Request Answer ε α) :
    List (Exchange Request Answer) → Program Request Answer ε α → Prop
  | start : Path program [] program
  | step {trace : List (Exchange Request Answer)} {request : Request}
      {next : Answer request → Program Request Answer ε α}
      (h : Path program trace (call request next)) (answer : Answer request) :
      Path program (⟨request, answer⟩ :: trace) (next answer)

/-- A program may make a request where its own trace allows it; nothing is said of the state. -/
def traceRules (allowed : Request → List (Exchange Request Answer) → Prop) :
    Rules Request Answer PUnit (List (Exchange Request Answer)) where
  valid _ := True
  rely _ _ := True
  allowed request trace _ := allowed request trace
  commits _ _ _ _ := True
  record request answer trace := ⟨request, answer⟩ :: trace
  refl _ := trivial
  trans _ _ := trivial
  kept _ _ _ := ⟨trivial, trivial⟩

/-- Whatever the answers are, each request is allowed by the trace before it, and the result
satisfies the postcondition. -/
def Traced (allowed : Request → List (Exchange Request Answer) → Prop)
    (post : Except ε α → List (Exchange Request Answer) → Prop)
    (program : Program Request Answer ε α) (trace : List (Exchange Request Answer)) : Prop :=
  Safe (traceRules allowed) (fun result trace _ => post result trace) program trace ⟨⟩

section Rules

variable {allowed : Request → List (Exchange Request Answer) → Prop}
  {post : Except ε α → List (Exchange Request Answer) → Prop}
  {program : Program Request Answer ε α} {trace : List (Exchange Request Answer)}

theorem traced_done {result : Except ε α} :
    Traced allowed post (done result) trace ↔ post result trace :=
  ⟨fun h => h ⟨⟩ trivial trivial, fun h _ _ _ => h⟩

theorem traced_call {request : Request} {next : Answer request → Program Request Answer ε α} :
    Traced allowed post (call request next) trace ↔ allowed request trace ∧
      ∀ answer, Traced allowed post (next answer) (⟨request, answer⟩ :: trace) :=
  ⟨fun h => ⟨(h ⟨⟩ trivial trivial).1, fun answer => (h ⟨⟩ trivial trivial).2 answer ⟨⟩ trivial⟩,
    fun h _ _ _ => ⟨h.1, fun answer _ _ => h.2 answer⟩⟩

/-- A request whose answer the rest of the program handles. -/
theorem traced_request {request : Request} {f : Answer request → Program Request Answer ε α}
    (hallowed : allowed request trace)
    (hnext : ∀ answer, Traced allowed post (f answer) (⟨request, answer⟩ :: trace)) :
    Traced allowed post (Program.request request >>= f) trace :=
  traced_call.mpr ⟨hallowed, hnext⟩

/-- A result that the program has without a request. -/
theorem traced_result {β : Type u} {result : Except ε β} {f : β → Program Request Answer ε α}
    (hfail : ∀ error, result = .error error → post (.error error) trace)
    (hnext : ∀ value, result = .ok value → Traced allowed post (f value) trace) :
    Traced allowed post (done result >>= f) trace := by
  cases hresult : result with
  | ok value => exact hnext value hresult
  | error error => exact traced_done.mpr (hfail error hresult)

theorem traced_okOrElse {β : Type u} {value : Option β} {error : ε}
    {f : β → Program Request Answer ε α} (hfail : post (.error error) trace)
    (hnext : ∀ a, value = some a → Traced allowed post (f a) trace) :
    Traced allowed post (Program.okOrElse value error >>= f) trace := by
  cases hvalue : value with
  | some a => exact hnext a hvalue
  | none => exact traced_done.mpr hfail

/-- A program whose requests are always allowed, and of whose end nothing is said. -/
theorem traced_of_requests {condition : Request → Prop}
    {program : Program Request Answer ε α} (h : program.Requests condition)
    (hallowed : ∀ {request trace}, condition request → allowed request trace)
    (hpost : ∀ result trace, post result trace) : Traced allowed post program trace := by
  induction program generalizing trace with
  | done result => exact traced_done.mpr (hpost result trace)
  | call request next ih => exact traced_call.mpr ⟨hallowed h.1, fun answer => ih answer (h.2 answer)⟩

/-- What holds of a program for every answer holds on every path. -/
theorem Path.traced {rest : Program Request Answer ε α} (h : Path program trace rest)
    (hprogram : Traced allowed post program []) : Traced allowed post rest trace := by
  induction h with
  | start => exact hprogram
  | step _ answer ih => exact (traced_call.mp ih).2 answer

/-- A path goes through each of its earlier traces. -/
theorem Path.earlier {before : List (Exchange Request Answer)}
    {rest : Program Request Answer ε α} (h : Path program trace rest) (hbefore : before <:+ trace) :
    ∃ middle, Path program before middle := by
  induction h with
  | start => exact ⟨program, List.suffix_nil.mp hbefore ▸ .start⟩
  | step hpath answer ih =>
      rcases List.suffix_cons_iff.mp hbefore with rfl | hbefore
      · exact ⟨_, hpath.step answer⟩
      · exact ih hbefore

/-- Each request on a path was allowed by the exchanges before it. -/
theorem Path.was_allowed {rest : Program Request Answer ε α}
    {exchange : Exchange Request Answer} (h : Path program (exchange :: trace) rest)
    (hprogram : Traced allowed post program []) : allowed exchange.request trace := by
  cases h with
  | step hpath answer => exact (traced_call.mp (hpath.traced hprogram)).1

end Rules

end Program
