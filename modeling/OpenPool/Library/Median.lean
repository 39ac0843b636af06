import Mathlib.Data.List.Sort

/-! # Lists that rise over a median

A value may lie below the values before it, as long as it lies above the median of the last few.
Enough values in a row above a bound then keep all later values above it. -/

variable {α : Type*}

/-- The values at most `width` places before a place. -/
def List.window (l : List α) (width place : ℕ) : List α := (l.take place).drop (place - width)

theorem List.length_window {l : List α} {place : ℕ} (width : ℕ) (h : place ≤ l.length) :
    (l.window width place).length = min place width := by
  rw [List.window, List.length_drop, List.length_take]
  omega

variable [LinearOrder α]

/-- The middle of the sorted list, the upper one of two. -/
def median (l : List α) : Option α := (l.insertionSort (· ≤ ·))[l.length / 2]?

section Median

variable {l : List α} {bound middle : α}

/-- In a sorted list the values below a bound come first. -/
theorem List.SortedLE.lt_countP {p : ℕ} (hsorted : l.SortedLE) (h : l[p]? = some middle)
    (hbelow : middle < bound) : p < l.countP (· < bound) := by
  have hp : p < l.length := (List.getElem?_eq_some_iff.mp h).1
  have hfront : ∀ value ∈ l.take (p + 1), value < bound := by
    intro value hmem
    obtain ⟨q, hq, rfl⟩ := List.mem_take_iff_getElem.mp hmem
    have hle : l[q] ≤ l[p] := hsorted.getElem_le_getElem_of_le (by omega)
    rw [List.getElem?_eq_getElem hp, Option.some_inj] at h
    exact lt_of_le_of_lt hle (h ▸ hbelow)
  calc p < (l.take (p + 1)).length := by rw [List.length_take]; omega
    _ = (l.take (p + 1)).countP (· < bound) :=
        (List.countP_eq_length.mpr fun value hmem => decide_eq_true (hfront value hmem)).symm
    _ ≤ l.countP (· < bound) := (List.take_sublist _ _).countP_le

/-- The median reaches a bound that at most half of the values miss. -/
theorem le_median (h : median l = some middle) (hcount : l.countP (· < bound) ≤ l.length / 2) :
    bound ≤ middle := by
  by_contra hbelow
  have hlt := List.sortedLE_insertionSort.lt_countP h (not_le.mp hbelow)
  rw [(List.perm_insertionSort (· ≤ ·) l).countP_eq] at hlt
  omega

theorem median_isSome (h : l ≠ []) : ∃ middle, median l = some middle := by
  have hlength : l.length / 2 < (l.insertionSort (· ≤ ·)).length := by
    rw [List.length_insertionSort]
    have := List.length_pos_iff.mpr h
    omega
  exact ⟨_, List.getElem?_eq_getElem hlength⟩

end Median

/-! ## Rising over the median -/

/-- Each value lies above the median of the values before it, of which at most `width` count. -/
def List.RisesOverMedian (l : List α) (width : ℕ) : Prop :=
  ∀ place < l.length, ∀ value ∈ l[place]?, ∀ middle ∈ median (l.window width place), middle < value

instance (l : List α) (width : ℕ) : Decidable (l.RisesOverMedian width) :=
  inferInstanceAs (Decidable (∀ place < l.length, ∀ value ∈ l[place]?,
    ∀ middle ∈ median (l.window width place), middle < value))

section Rises

variable {l : List α} {bound value : α} {width run start place : ℕ}

/-- Where the last values before a place reach a bound, few values of the window miss it. -/
theorem List.countP_window_le (width : ℕ) (hplace : place ≤ l.length) (hrun : run ≤ min place width)
    (hlast : ∀ p value, place - run ≤ p → p < place → l[p]? = some value → bound ≤ value) :
    (l.window width place).countP (· < bound) ≤ min place width - run := by
  have hlength := List.length_window width hplace
  set window := l.window width place with hwindow
  have hback : (window.drop (min place width - run)).countP (· < bound) = 0 := by
    refine List.countP_eq_zero.mpr fun value hmem => ?_
    obtain ⟨p, hvalue⟩ := List.mem_iff_getElem?.mp hmem
    have hp := (List.getElem?_eq_some_iff.mp hvalue).1
    rw [List.length_drop, hlength] at hp
    rw [hwindow, List.window, List.drop_drop, List.getElem?_drop,
      List.getElem?_take_of_lt (by omega)] at hvalue
    have := hlast _ value (by omega) (by omega) hvalue
    simpa using this
  calc window.countP (· < bound)
      = (window.take (min place width - run)).countP (· < bound) +
          (window.drop (min place width - run)).countP (· < bound) := by
        rw [← List.countP_append, List.take_append_drop]
    _ ≤ (window.take (min place width - run)).length := by
        rw [hback, Nat.add_zero]
        exact List.countP_le_length
    _ ≤ min place width - run := by
        rw [List.length_take]
        omega

/-- A run of values above a bound that is half as long as the window keeps all later values
above it. -/
theorem List.RisesOverMedian.stays (h : l.RisesOverMedian width) (hrun : run ≤ width)
    (hwidth : width ≤ 2 * run) (hpos : 0 < run)
    (hstart : ∀ p value, start ≤ p → p < start + run → l[p]? = some value → bound ≤ value)
    (hplace : start ≤ place) (hvalue : l[place]? = some value) : bound ≤ value := by
  induction place using Nat.strong_induction_on generalizing value with
  | _ place ih =>
      by_cases hearly : place < start + run
      · exact hstart place value hplace hearly hvalue
      have hlt : place < l.length := (List.getElem?_eq_some_iff.mp hvalue).1
      have hcount := List.countP_window_le width hlt.le
        (le_min (by omega) hrun) fun p earlier hlow hp => ih p hp (by omega)
      have hlength := List.length_window width hlt.le
      obtain ⟨middle, hmiddle⟩ := median_isSome (l := l.window width place) fun hnil => by
        rw [hnil, List.length_nil] at hlength
        omega
      have hbound : bound ≤ middle := le_median hmiddle (by omega)
      exact hbound.trans (h place hlt value hvalue middle hmiddle).le

end Rises
