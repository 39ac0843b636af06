import Mathlib.Data.List.Forall2
import Mathlib.Data.List.Chain
import Mathlib.Data.List.Induction
import Mathlib.Algebra.BigOperators.Group.List.Basic
import Mathlib.Algebra.Ring.Nat

/-! # Half-open ranges that tile an interval in order -/

namespace Tiling

variable {α : Type*} (lo hi : α → ℕ)

/-- `Tiles start parts stop`: the parts `[lo, hi)` are nonempty, the first starts at `start`,
each later one where the part before it ends, and the last ends at `stop`. -/
def Tiles : ℕ → List α → ℕ → Prop
  | start, [], stop => start = stop
  | start, part :: parts, stop => lo part = start ∧ lo part < hi part ∧ Tiles (hi part) parts stop

/-- The part `[lo, hi)` owns the point `x`. -/
def Owns (x : ℕ) (part : α) : Prop := lo part ≤ x ∧ x < hi part

@[simp] theorem tiles_nil (start stop : ℕ) : Tiles lo hi start [] stop ↔ start = stop := Iff.rfl

@[simp] theorem tiles_cons (start stop : ℕ) (part : α) (parts : List α) :
    Tiles lo hi start (part :: parts) stop ↔
      lo part = start ∧ lo part < hi part ∧ Tiles lo hi (hi part) parts stop := Iff.rfl

theorem tiles_append (start stop : ℕ) (front back : List α) :
    Tiles lo hi start (front ++ back) stop ↔
      ∃ middle, Tiles lo hi start front middle ∧ Tiles lo hi middle back stop := by
  induction front generalizing start with
  | nil => simp
  | cons part front ih => simp [ih, and_assoc]

theorem tiles_concat (start stop : ℕ) (parts : List α) (part : α) :
    Tiles lo hi start (parts ++ [part]) stop ↔
      Tiles lo hi start parts (lo part) ∧ lo part < hi part ∧ hi part = stop := by
  rw [tiles_append]
  constructor
  · rintro ⟨middle, hparts, rfl, hlt, hstop⟩
    exact ⟨hparts, hlt, hstop⟩
  · rintro ⟨hparts, hlt, hstop⟩
    exact ⟨_, hparts, rfl, hlt, hstop⟩

variable {lo hi}

/-- A tiling has at most one part for each point of the interval. -/
theorem Tiles.length_le {start stop : ℕ} {parts : List α} (h : Tiles lo hi start parts stop) :
    start + parts.length ≤ stop := by
  induction parts generalizing start with
  | nil => exact Nat.le_of_eq h
  | cons part parts ih =>
      obtain ⟨hstart, hlt, hrest⟩ := h
      have := ih hrest
      simp only [List.length_cons]
      omega

theorem Tiles.stop_pos {stop : ℕ} {parts : List α} (h : Tiles lo hi 0 parts stop)
    (hne : parts ≠ []) : 0 < stop := by
  have := h.length_le
  have := List.length_pos_iff.mpr hne
  omega

theorem Tiles.bounds {start stop : ℕ} {parts : List α} (h : Tiles lo hi start parts stop) :
    ∀ part ∈ parts, start ≤ lo part ∧ lo part < hi part ∧ hi part ≤ stop := by
  induction parts generalizing start with
  | nil => simp
  | cons part parts ih =>
      obtain ⟨hstart, hlt, hrest⟩ := h
      have hle := hrest.length_le
      intro other hmem
      rcases List.mem_cons.mp hmem with rfl | hmem
      · omega
      · have := ih hrest other hmem
        omega

/-- The sizes of the parts add up to the size of the interval. -/
theorem Tiles.sum_sizes {start stop : ℕ} {parts : List α} (h : Tiles lo hi start parts stop) :
    start + (parts.map fun part => hi part - lo part).sum = stop := by
  induction parts generalizing start with
  | nil => simpa using h
  | cons part parts ih =>
      obtain ⟨hstart, hlt, hrest⟩ := h
      have := ih hrest
      simp only [List.map_cons, List.sum_cons]
      omega

/-- Parts of a tiling lie one after the other. -/
theorem Tiles.pairwise {start stop : ℕ} {parts : List α} (h : Tiles lo hi start parts stop) :
    parts.Pairwise (fun a b => hi a ≤ lo b) := by
  induction parts generalizing start with
  | nil => simp
  | cons part parts ih =>
      obtain ⟨-, -, hrest⟩ := h
      exact List.pairwise_cons.mpr ⟨fun other hmem => (hrest.bounds other hmem).1, ih hrest⟩

theorem Tiles.stop_eq_getLast {start stop : ℕ} {parts : List α}
    (h : Tiles lo hi start parts stop) (hne : parts ≠ []) : stop = hi (parts.getLast hne) := by
  induction parts using List.reverseRecOn with
  | nil => exact absurd rfl hne
  | append_singleton front last =>
      rw [List.getLast_append_singleton]
      exact ((tiles_concat lo hi start stop front last).mp h).2.2.symm

/-- Parts tile some interval from `start` exactly when none is empty, the first starts at
`start`, and neighbours meet. -/
theorem exists_tiles_iff (start : ℕ) (parts : List α) :
    (∃ stop, Tiles lo hi start parts stop) ↔
      (∀ part ∈ parts, lo part < hi part) ∧ (∀ part ∈ parts.head?, lo part = start) ∧
        parts.IsChain (fun a b => lo b = hi a) := by
  induction parts generalizing start with
  | nil => simp
  | cons part parts ih =>
      simp only [tiles_cons, exists_and_left, ih, List.isChain_cons, List.forall_mem_cons,
        List.head?_cons, Option.mem_some_iff, forall_eq']
      tauto

/-- Every point of the interval has an owner. -/
theorem Tiles.exists_owner {start stop : ℕ} {parts : List α} (h : Tiles lo hi start parts stop)
    {x : ℕ} (hstart : start ≤ x) (hstop : x < stop) : ∃ part ∈ parts, Owns lo hi x part := by
  induction parts generalizing start with
  | nil =>
      have : start = stop := h
      omega
  | cons part parts ih =>
      obtain ⟨hlo, hlt, hrest⟩ := h
      by_cases hx : x < hi part
      · exact ⟨part, by simp, by omega, hx⟩
      · obtain ⟨other, hmem, howns⟩ := ih hrest (by omega)
        exact ⟨other, by simp [hmem], howns⟩

/-- No point has two owners, even at different positions of the list. -/
theorem Tiles.owner_index_unique {start stop : ℕ} {parts : List α}
    (h : Tiles lo hi start parts stop) {x i j : ℕ} {a b : α}
    (ha : parts[i]? = some a) (hb : parts[j]? = some b)
    (howna : Owns lo hi x a) (hownb : Owns lo hi x b) : i = j := by
  obtain ⟨hi', rfl⟩ := List.getElem?_eq_some_iff.mp ha
  obtain ⟨hj', rfl⟩ := List.getElem?_eq_some_iff.mp hb
  have hpairwise := List.pairwise_iff_getElem.mp h.pairwise
  obtain ⟨hloa, hhia⟩ := howna
  obtain ⟨hlob, hhib⟩ := hownb
  rcases Nat.lt_trichotomy i j with hlt | heq | hgt
  · have := hpairwise i j hi' hj' hlt
    omega
  · exact heq
  · have := hpairwise j i hj' hi' hgt
    omega

theorem Tiles.owner_unique {start stop : ℕ} {parts : List α} (h : Tiles lo hi start parts stop)
    {x : ℕ} {a b : α} (ha : a ∈ parts) (hb : b ∈ parts)
    (howna : Owns lo hi x a) (hownb : Owns lo hi x b) : a = b := by
  obtain ⟨i, hi'⟩ := List.mem_iff_getElem?.mp ha
  obtain ⟨j, hj'⟩ := List.mem_iff_getElem?.mp hb
  have hij := h.owner_index_unique hi' hj' howna hownb
  subst hij
  exact Option.some.inj (hi'.symm.trans hj')

end Tiling
