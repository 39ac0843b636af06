import Mathlib.Data.List.Basic

/-! # Inversion rules for computations in `Except` -/

namespace Fallible

universe u

variable {ε ε' : Type*} {α β : Type u}

/-- Go on if the condition holds, fail with `error` otherwise. -/
def ensure (condition : Prop) [Decidable condition] (error : ε) : Except ε Unit :=
  if condition then .ok () else .error error

/-- The value of an option, or the error where there is none. -/
def orElse (value : Option α) (error : ε) : Except ε α :=
  match value with
  | some a => .ok a
  | none => .error error

/-- Apply a fallible update where the condition holds. -/
def applyIf (condition : Prop) [Decidable condition] (update : α → Except ε α) (a : α) :
    Except ε α :=
  if condition then update a else .ok a

@[simp] theorem ensure_eq_ok_iff (condition : Prop) [Decidable condition] (error : ε) (u : Unit) :
    ensure condition error = .ok u ↔ condition := by
  unfold ensure
  split <;> simp_all

@[simp] theorem ensure_of (condition : Prop) [Decidable condition] (error : ε)
    (h : condition) : ensure condition error = .ok () := by
  simp [ensure, h]

theorem ensure_of_not (condition : Prop) [Decidable condition] (error : ε)
    (h : ¬ condition) : ensure condition error = .error error := by
  simp [ensure, h]

@[simp] theorem orElse_eq_ok_iff (value : Option α) (error : ε) (a : α) :
    orElse value error = .ok a ↔ value = some a := by
  cases value <;> simp [orElse]

@[simp] theorem orElse_some (a : α) (error : ε) : orElse (some a) error = .ok a := rfl

@[simp] theorem orElse_none (error : ε) : orElse (none : Option α) error = .error error := rfl

@[simp] theorem applyIf_eq_ok_iff (condition : Prop) [Decidable condition]
    (update : α → Except ε α) (a b : α) :
    applyIf condition update a = .ok b ↔
      (condition ∧ update a = .ok b) ∨ (¬ condition ∧ a = b) := by
  unfold applyIf
  split <;> simp_all

@[simp] theorem bind_eq_ok_iff (x : Except ε α) (f : α → Except ε β) (b : β) :
    (x >>= f) = .ok b ↔ ∃ a, x = .ok a ∧ f a = .ok b := by
  constructor
  · intro h
    cases x with
    | error e => cases h
    | ok a => exact ⟨a, rfl, h⟩
  · rintro ⟨a, rfl, h⟩
    exact h

@[simp] theorem ok_bind (a : α) (f : α → Except ε β) : (Except.ok a >>= f) = f a := rfl

@[simp] theorem error_bind (e : ε) (f : α → Except ε β) :
    ((Except.error e : Except ε α) >>= f) = .error e := rfl

@[simp] theorem pure_eq_ok_iff (a b : α) : (pure a : Except ε α) = .ok b ↔ a = b := by
  change Except.ok a = Except.ok b ↔ a = b
  simp

@[simp] theorem throw_ne_ok (e : ε) (a : α) : (throw e : Except ε α) ≠ .ok a := nofun

@[simp] theorem mapError_eq_ok_iff (g : ε → ε') (x : Except ε α) (a : α) :
    x.mapError g = .ok a ↔ x = .ok a := by
  cases x <;> simp [Except.mapError]

/-- A loop that stops at the first error has the results of all its rounds, or that error. -/
theorem mapM_eq_ok_iff {f : α → Except ε β} (as : List α) (bs : List β) :
    as.mapM f = .ok bs ↔ List.Forall₂ (fun a b => f a = .ok b) as bs := by
  induction as generalizing bs with
  | nil =>
      rw [List.mapM_nil, pure_eq_ok_iff]
      constructor
      · rintro rfl
        exact .nil
      · rintro ⟨⟩
        rfl
  | cons a as ih =>
      simp only [List.mapM_cons, bind_eq_ok_iff, pure_eq_ok_iff, ih]
      constructor
      · rintro ⟨b, hb, rest, hrest, rfl⟩
        exact .cons hb hrest
      · rintro ⟨⟩
        rename_i b rest hb hrest
        exact ⟨b, hb, rest, hrest, rfl⟩

/-- A loop whose rounds all succeed has a result. -/
theorem exists_mapM {f : α → Except ε β} {as : List α} (h : ∀ a ∈ as, ∃ b, f a = .ok b) :
    ∃ bs, as.mapM f = .ok bs := by
  induction as with
  | nil => exact ⟨[], rfl⟩
  | cons a as ih =>
      obtain ⟨b, hb⟩ := h a (List.mem_cons_self ..)
      obtain ⟨bs, hbs⟩ := ih fun other hmem => h other (List.mem_cons_of_mem _ hmem)
      exact ⟨b :: bs, (mapM_eq_ok_iff _ _).mpr (.cons hb ((mapM_eq_ok_iff _ _).mp hbs))⟩

/-- Every result of a loop is the result of one round. -/
theorem exists_of_mem_mapM {f : α → Except ε β} {as : List α} {bs : List β}
    (h : as.mapM f = .ok bs) {b : β} (hb : b ∈ bs) : ∃ a ∈ as, f a = .ok b := by
  rw [mapM_eq_ok_iff] at h
  induction h with
  | nil => cases hb
  | cons hfirst _ ih =>
      rcases List.mem_cons.mp hb with rfl | hb
      · exact ⟨_, List.mem_cons_self .., hfirst⟩
      · obtain ⟨a, ha, hround⟩ := ih hb
        exact ⟨a, List.mem_cons_of_mem _ ha, hround⟩

/-- Every round of a loop gives one of its results. -/
theorem exists_mem_of_mapM {f : α → Except ε β} {as : List α} {bs : List β}
    (h : as.mapM f = .ok bs) {a : α} (ha : a ∈ as) : ∃ b ∈ bs, f a = .ok b := by
  rw [mapM_eq_ok_iff] at h
  induction h with
  | nil => cases ha
  | cons hfirst _ ih =>
      rcases List.mem_cons.mp ha with rfl | ha
      · exact ⟨_, List.mem_cons_self .., hfirst⟩
      · obtain ⟨b, hb, hround⟩ := ih ha
        exact ⟨b, List.mem_cons_of_mem _ hb, hround⟩

theorem exists_of_isOk {x : Except ε α} (h : x.isOk = true) : ∃ a, x = .ok a := by
  cases x with
  | error e => cases h
  | ok a => exact ⟨a, rfl⟩

/-- The computation does not fail with this error. -/
def Avoids (e : ε) (x : Except ε α) : Prop := x ≠ .error e

theorem Avoids.bind {e : ε} {x : Except ε α} {f : α → Except ε β} (hx : Avoids e x)
    (hf : ∀ a, x = .ok a → Avoids e (f a)) : Avoids e (x >>= f) := by
  cases x with
  | error e' => exact fun h => hx (by cases h; rfl)
  | ok a => exact hf a rfl

theorem avoids_ok {e : ε} (a : α) : Avoids e (.ok a) := nofun

theorem avoids_orElse {e e' : ε} {value : Option α} (h : e' ≠ e) :
    Avoids e (orElse value e') := by
  cases value with
  | none => exact fun heq => h (Except.error.inj heq)
  | some a => exact nofun

theorem avoids_ensure {e e' : ε} {condition : Prop} [Decidable condition] (h : e' ≠ e) :
    Avoids e (ensure condition e') := by
  unfold ensure
  split
  · exact nofun
  · exact fun heq => h (Except.error.inj heq)

theorem avoids_mapError {e : ε} {g : ε' → ε} {x : Except ε' α} (h : ∀ e', g e' ≠ e) :
    Avoids e (x.mapError g) := by
  cases x with
  | error e' => exact fun heq => h e' (Except.error.inj heq)
  | ok a => exact nofun

/-- The state a computation commits: the new one on success, the old one on failure. -/
def commit (old : α) (result : Except ε (α × β)) : α :=
  match result with
  | .ok (new, _) => new
  | .error _ => old

@[simp] theorem commit_ok (old new : α) (value : β) :
    commit old (.ok (new, value) : Except ε (α × β)) = new := rfl

@[simp] theorem commit_error (old : α) (e : ε) :
    commit old (.error e : Except ε (α × β)) = old := rfl

/-- A commit leaves the state as it was, or the computation succeeded with the new one. -/
theorem commit_cases (old : α) (result : Except ε (α × β)) :
    commit old result = old ∨ ∃ value, result = .ok (commit old result, value) := by
  rcases result with e | ⟨new, value⟩
  · exact .inl rfl
  · exact .inr ⟨value, rfl⟩

/-! ## Frames -/

variable {σ : Type u} {γ : Type*} {part : σ → γ} {old : σ}

/-- A computation that succeeds leaves this part of the state as it is. -/
def Keeps (part : σ → γ) (old : σ) (result : Except ε (σ × α)) : Prop :=
  ∀ new value, result = .ok (new, value) → part new = part old

theorem Keeps.commit {result : Except ε (σ × α)}
    (h : Keeps part old result) : part (commit old result) = part old := by
  rcases commit_cases old result with hsame | ⟨value, hok⟩
  · rw [hsame]
  · exact h _ value hok

theorem keeps_bind_iff {x : Except ε β} {f : β → Except ε (σ × α)} :
    Keeps part old (x >>= f) ↔ ∀ b, x = .ok b → Keeps part old (f b) := by
  constructor
  · rintro h b rfl new value hok
    exact h new value hok
  · intro h new value hok
    obtain ⟨b, hb, hf⟩ := (bind_eq_ok_iff _ _ _).mp hok
    exact h b hb new value hf

theorem keeps_pure_iff {new : σ} {value : α} :
    Keeps part old (pure (new, value) : Except ε (σ × α)) ↔ part new = part old := by
  constructor
  · exact fun h => h new value rfl
  · rintro h _ _ hok
    cases hok
    exact h

end Fallible
