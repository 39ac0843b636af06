import Mathlib.Data.List.Basic
import Mathlib.Data.List.Induction

/-! # Runs of a deterministic state machine

An action that is not enabled leaves the state as it is, so every list of actions is a run. -/

namespace StateMachine

variable {State Action State' Action' : Type*}

/-- The state after a list of actions. -/
def run (step : State → Action → State) (start : State) (actions : List Action) : State :=
  actions.foldl step start

/-- Every action of the run satisfies the condition in the state it is taken in. -/
def Meets (step : State → Action → State) (condition : State → Action → Prop) :
    State → List Action → Prop
  | _, [] => True
  | state, action :: actions =>
      condition state action ∧ Meets step condition (step state action) actions

instance Meets.decidable (step : State → Action → State) (condition : State → Action → Prop)
    [∀ state action, Decidable (condition state action)] :
    ∀ state actions, Decidable (Meets step condition state actions)
  | _, [] => instDecidableTrue
  | state, action :: actions =>
      have := Meets.decidable step condition (step state action) actions
      inferInstanceAs (Decidable (_ ∧ _))

variable {step : State → Action → State} {step' : State' → Action' → State'}
  {condition : State → Action → Prop}

@[simp] theorem run_nil (start : State) : run step start [] = start := rfl

@[simp] theorem run_cons (start : State) (action : Action) (actions : List Action) :
    run step start (action :: actions) = run step (step start action) actions := rfl

theorem run_append (start : State) (front back : List Action) :
    run step start (front ++ back) = run step (run step start front) back := by
  simp [run]

@[simp] theorem run_concat (start : State) (actions : List Action) (action : Action) :
    run step start (actions ++ [action]) = step (run step start actions) action := by
  simp [run]

/-- Somewhere in the run an action is taken in a state where the condition holds. -/
def Occurs (step : State → Action → State) (condition : State → Action → Prop) (start : State)
    (actions : List Action) : Prop :=
  ∃ front action back, actions = front ++ action :: back ∧ condition (run step start front) action

theorem Occurs.append {start : State} {front : List Action}
    (h : Occurs step condition start front) (back : List Action) :
    Occurs step condition start (front ++ back) := by
  obtain ⟨before, action, after, rfl, haction⟩ := h
  exact ⟨before, action, after ++ back, by simp, haction⟩

theorem Occurs.later {start : State} {front back : List Action}
    (h : Occurs step condition (run step start front) back) :
    Occurs step condition start (front ++ back) := by
  obtain ⟨before, action, after, rfl, haction⟩ := h
  rw [← run_append] at haction
  exact ⟨front ++ before, action, after, by simp, haction⟩

theorem occurs_last {start : State} {actions : List Action} {action : Action}
    (h : condition (run step start actions) action) :
    Occurs step condition start (actions ++ [action]) :=
  ⟨actions, action, [], rfl, h⟩

/-- The events took place in the run one after the other, the first of the list last. -/
inductive Followed {Event : Type*} (step : State → Action → State)
    (takes : Event → State → Action → Prop) (start : State) : List Event → List Action → Prop
  | nil (actions : List Action) : Followed step takes start [] actions
  | cons {event : Event} {events : List Event} {front : List Action} {action : Action}
      (back : List Action) (h : Followed step takes start events front)
      (hevent : takes event (run step start front) action) :
      Followed step takes start (event :: events) (front ++ action :: back)

section Followed

variable {Event : Type*} {takes : Event → State → Action → Prop} {start : State}
  {events new : List Event} {actions : List Action}

theorem Followed.append (h : Followed step takes start events actions) (back : List Action) :
    Followed step takes start events (actions ++ back) := by
  cases h with
  | nil => exact .nil _
  | cons later h hevent =>
      rw [List.append_assoc, List.cons_append]
      exact .cons (later ++ back) h hevent

/-- What follows on the old events takes place after them. -/
theorem Followed.split (h : Followed step takes start (new ++ events) actions) :
    ∃ front back, actions = front ++ back ∧ Followed step takes start events front ∧
      ∀ event ∈ new, Occurs step (takes event) (run step start front) back := by
  induction new generalizing actions with
  | nil => exact ⟨actions, [], by simp, h, fun _ hmem => absurd hmem List.not_mem_nil⟩
  | cons event new ih =>
      cases h with
      | @cons _ _ before action later h hevent =>
          obtain ⟨front, back, rfl, hold, hnew⟩ := ih h
          refine ⟨front, back ++ action :: later, by simp, hold, List.forall_mem_cons.mpr ⟨?_, ?_⟩⟩
          · rw [run_append] at hevent
            exact ⟨back, action, later, rfl, hevent⟩
          · exact fun other hmem => (hnew other hmem).append _

theorem Followed.occurs (h : Followed step takes start events actions) {event : Event}
    (hmem : event ∈ events) : Occurs step (takes event) start actions := by
  induction h with
  | nil => cases hmem
  | @cons other events front action back h hevent ih =>
      rcases List.mem_cons.mp hmem with rfl | hmem
      · exact ⟨front, action, back, rfl, hevent⟩
      · exact (ih hmem).append _

end Followed

/-- An invariant that looks back at the run. -/
theorem history {start : State} {P : State → List Action → Prop} (hstart : P start [])
    (hstep : ∀ actions action, P (run step start actions) actions →
      P (step (run step start actions) action) (actions ++ [action]))
    (actions : List Action) : P (run step start actions) actions := by
  induction actions using List.reverseRecOn with
  | nil => exact hstart
  | append_singleton actions action ih =>
      rw [run_concat]
      exact hstep actions action ih

theorem meets_append (start : State) (front back : List Action) :
    Meets step condition start (front ++ back) ↔
      Meets step condition start front ∧ Meets step condition (run step start front) back := by
  induction front generalizing start with
  | nil => simp [Meets]
  | cons action front ih => simp [Meets, ih, and_assoc]

/-- What every step that meets the condition preserves holds after every run that meets it. -/
theorem Meets.invariant {P : State → Prop}
    (hstep : ∀ state action, condition state action → P state → P (step state action))
    {start : State} {actions : List Action} (h : Meets step condition start actions)
    (hstart : P start) : P (run step start actions) := by
  induction actions generalizing start with
  | nil => exact hstart
  | cons action actions ih => exact ih h.2 (hstep start action h.1 hstart)

/-- A condition that implies another one wherever an invariant of such runs holds. -/
theorem Meets.of_invariant {P : State → Prop} {implied : State → Action → Prop}
    (hstep : ∀ state action, condition state action → P state → P (step state action))
    (himp : ∀ state action, condition state action → P state → implied state action)
    {start : State} {actions : List Action} (h : Meets step condition start actions)
    (hstart : P start) : Meets step implied start actions := by
  induction actions generalizing start with
  | nil => trivial
  | cons action actions ih =>
      exact ⟨himp start action h.1 hstart, ih h.2 (hstep start action h.1 hstart)⟩

/-- What every step preserves holds after every run. -/
theorem invariant {P : State → Prop} (hstep : ∀ state action, P state → P (step state action))
    {start : State} (hstart : P start) (actions : List Action) : P (run step start actions) := by
  induction actions generalizing start with
  | nil => exact hstart
  | cons action actions ih => exact ih (hstep start action hstart)

/-- Where a step keeps a property exactly when it meets a condition, the property holds all along
a run exactly when every step meets the condition. -/
theorem prefixes_iff_meets {P Q : State → Prop} {A : Action → Prop}
    (hstep : ∀ state action, A action → P state → P (step state action))
    (hiff : ∀ state action, A action → P state → Q state →
      (Q (step state action) ↔ condition state action))
    {start : State} (hP : P start) (hQ : Q start) {actions : List Action}
    (hA : ∀ action ∈ actions, A action) :
    (∀ front, front <+: actions → Q (run step start front)) ↔
      Meets step condition start actions := by
  induction actions generalizing start with
  | nil =>
      refine ⟨fun _ => trivial, fun _ front hfront => ?_⟩
      rw [List.prefix_nil.mp hfront]
      exact hQ
  | cons action actions ih =>
      have haction := hA action (List.mem_cons_self ..)
      have hnext := hstep start action haction hP
      have hrest := fun hQ' => @ih (step start action) hnext hQ' fun other hmem =>
        hA other (List.mem_cons_of_mem _ hmem)
      have hkeep := hiff start action haction hP hQ
      constructor
      · intro hall
        have hQ' : Q (step start action) := hall [action] (by simp)
        exact ⟨hkeep.mp hQ', (hrest hQ').mp fun front hfront =>
          hall (action :: front) (List.cons_prefix_cons.mpr ⟨rfl, hfront⟩)⟩
      · rintro ⟨hcondition, hmeets⟩ front hfront
        cases front with
        | nil => exact hQ
        | cons other front =>
            obtain ⟨rfl, htail⟩ := List.cons_prefix_cons.mp hfront
            exact (hrest (hkeep.mpr hcondition)).mpr hmeets front htail

/-- A preorder that every step from a good state extends relates the two ends of a run. -/
theorem run_related {P : State → Prop} {R : State → State → Prop}
    (hrefl : ∀ state, R state state) (htrans : ∀ a b c, R a b → R b c → R a c)
    (hgood : ∀ state action, P state → P (step state action))
    (hstep : ∀ state action, P state → R state (step state action))
    {start : State} (hstart : P start) (actions : List Action) :
    R start (run step start actions) := by
  induction actions generalizing start with
  | nil => exact hrefl start
  | cons action actions ih =>
      exact htrans _ _ _ (hstep start action hstart) (ih (hgood start action hstart))

/-- Where a property holds, each step keeps it and adds to a log only entries of one kind. Then so
does a run. -/
theorem run_logs {Entry : Type*} (P : State → Prop) (log : State → List Entry) {Q : Entry → Prop}
    (hstep : ∀ state action, P state → P (step state action) ∧
      ∃ entries, log (step state action) = entries ++ log state ∧ ∀ entry ∈ entries, Q entry)
    {start : State} (hstart : P start) (actions : List Action) :
    P (run step start actions) ∧
      ∃ entries, log (run step start actions) = entries ++ log start ∧
        ∀ entry ∈ entries, Q entry := by
  induction actions generalizing start with
  | nil => exact ⟨hstart, [], rfl, by simp⟩
  | cons action actions ih =>
      obtain ⟨hnext, first, hfirst, hfirstQ⟩ := hstep start action hstart
      obtain ⟨hend, rest, hrest, hrestQ⟩ := ih hnext
      refine ⟨hend, rest ++ first, ?_, ?_⟩
      · rw [run_cons, hrest, hfirst, List.append_assoc]
      · intro entry hmem
        exact (List.mem_append.mp hmem).elim (hrestQ entry) (hfirstQ entry)

/-- Where a second machine answers each step by a run that keeps the two related, it follows every
run; its own steps meet what the steps of the first make them meet. -/
theorem Meets.simulation {R : State → State' → Prop} {condition' : State' → Action' → Prop}
    (hstep : ∀ state state' action, condition state action → R state state' →
      ∃ actions', Meets step' condition' state' actions' ∧
        R (step state action) (run step' state' actions'))
    {start : State} {start' : State'} {actions : List Action}
    (h : Meets step condition start actions) (hstart : R start start') :
    ∃ actions', Meets step' condition' start' actions' ∧
      R (run step start actions) (run step' start' actions') := by
  induction actions generalizing start start' with
  | nil => exact ⟨[], trivial, hstart⟩
  | cons action actions ih =>
      obtain ⟨front, hfront, hnext⟩ := hstep start start' action h.1 hstart
      obtain ⟨back, hback, hend⟩ := ih h.2 hnext
      refine ⟨front ++ back, (meets_append _ _ _).mpr ⟨hfront, hback⟩, ?_⟩
      rw [run_append]
      exact hend

theorem meets_of_forall (h : ∀ state action, condition state action) (start : State)
    (actions : List Action) : Meets step condition start actions := by
  induction actions generalizing start with
  | nil => trivial
  | cons action actions ih => exact ⟨h start action, ih (step start action)⟩

theorem simulation {R : State → State' → Prop}
    (hstep : ∀ state state' action, R state state' →
      ∃ actions', R (step state action) (run step' state' actions'))
    {start : State} {start' : State'} (hstart : R start start') (actions : List Action) :
    ∃ actions', R (run step start actions) (run step' start' actions') := by
  have hfollow : ∀ state state' action, True → R state state' →
      ∃ actions', Meets step' (fun _ _ => True) state' actions' ∧
        R (step state action) (run step' state' actions') := by
    intro state state' action _ h
    obtain ⟨actions', hnext⟩ := hstep state state' action h
    exact ⟨actions', meets_of_forall (fun _ _ => trivial) state' actions', hnext⟩
  obtain ⟨actions', -, hend⟩ :=
    Meets.simulation hfollow (meets_of_forall (fun _ _ => trivial) start actions) hstart
  exact ⟨actions', hend⟩

end StateMachine
