import Mathlib.Algebra.Group.Nat.Defs
import Mathlib.Data.Nat.Notation
import Mathlib.Data.List.Basic

/-! # Arithmetic that traps

Unsigned arithmetic with every check of a debug build: `none` is a trap, for an overflow, an
underflow, a division by zero, a lossy cast or a failed assertion. -/

namespace Checked

def add (width a b : ℕ) : Option ℕ := if a + b < 2 ^ width then some (a + b) else none

def mul (width a b : ℕ) : Option ℕ := if a * b < 2 ^ width then some (a * b) else none

def sub (a b : ℕ) : Option ℕ := if b ≤ a then some (a - b) else none

def div (a b : ℕ) : Option ℕ := if b = 0 then none else some (a / b)

def rem (a b : ℕ) : Option ℕ := if b = 0 then none else some (a % b)

/-- A cast to a narrower type traps where it would drop bits. -/
def cast (width a : ℕ) : Option ℕ := if a < 2 ^ width then some a else none

def assert (condition : Prop) [Decidable condition] : Option Unit :=
  if condition then some () else none

section Rules

variable {width a b : ℕ}

theorem add_of_lt (h : a + b < 2 ^ width) : add width a b = some (a + b) := if_pos h

theorem mul_of_lt (h : a * b < 2 ^ width) : mul width a b = some (a * b) := if_pos h

theorem sub_of_le (h : b ≤ a) : sub a b = some (a - b) := if_pos h

theorem div_of_pos (h : 0 < b) : div a b = some (a / b) := if_neg (Nat.ne_of_gt h)

theorem rem_of_pos (h : 0 < b) : rem a b = some (a % b) := if_neg (Nat.ne_of_gt h)

theorem cast_of_lt (h : a < 2 ^ width) : cast width a = some a := if_pos h

theorem assert_of {condition : Prop} [Decidable condition] (h : condition) :
    assert condition = some () := if_pos h

/-- A loop whose body never traps on the states it reaches does not trap. -/
theorem foldlM_eq_some {σ α : Type*} {body : σ → α → Option σ} {next : σ → α → σ}
    (invariant : σ → Prop) (hbody : ∀ s x, invariant s → body s x = some (next s x))
    (hnext : ∀ s x, invariant s → invariant (next s x)) (xs : List α) (s : σ)
    (hs : invariant s) : xs.foldlM body s = some (xs.foldl next s) := by
  induction xs generalizing s with
  | nil => rfl
  | cons x xs ih =>
      rw [List.foldlM_cons, hbody s x hs]
      exact ih (next s x) (hnext s x hs)

end Rules

end Checked
