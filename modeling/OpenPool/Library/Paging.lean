import Mathlib.Data.List.Basic
import Mathlib.Data.List.Infix

/-! # Paging through a growing list

A reader asks for one page after the other and goes on at the cursor of the last one. Between two
requests the list may grow at its end. -/

namespace Paging

variable {α : Type*}

/-- Where a reader continues, if it does, and what it has read. -/
structure Walk (α : Type*) where
  cursor : Option ℕ
  items : List α

namespace Walk

/-- A reader that has read nothing. -/
def start : Walk α := ⟨some 0, []⟩

/-- The next page of at most `limit` items, with the cursor after it if there are more items. -/
def request (walk : Walk α) (xs : List α) (limit : ℕ) : Walk α :=
  match walk.cursor with
  | none => walk
  | some cursor =>
      ⟨if cursor + limit < xs.length then some (cursor + limit) else none,
        walk.items ++ (xs.drop cursor).take limit⟩

/-- An unfinished reader has read the items before its cursor. -/
def Exact (walk : Walk α) (xs : List α) : Prop :=
  ∀ cursor, walk.cursor = some cursor → cursor ≤ xs.length ∧ walk.items = xs.take cursor

/-- How many requests an unfinished reader still needs, at most. -/
def remaining (walk : Walk α) (xs : List α) : ℕ :=
  match walk.cursor with
  | none => 0
  | some cursor => xs.length + 1 - cursor

variable {walk : Walk α} {xs ys : List α} {cursor limit : ℕ}

theorem request_of_none (h : walk.cursor = none) : walk.request xs limit = walk := by
  unfold request
  rw [h]

theorem request_of_some (h : walk.cursor = some cursor) : walk.request xs limit =
    ⟨if cursor + limit < xs.length then some (cursor + limit) else none,
      walk.items ++ (xs.drop cursor).take limit⟩ := by
  unfold request
  rw [h]

theorem Exact.start (xs : List α) : (start : Walk α).Exact xs := by
  intro cursor hcursor
  cases hcursor
  exact ⟨Nat.zero_le _, rfl⟩

/-- What was read stays the front of a list that grows. -/
theorem Exact.grow (h : walk.Exact xs) (hgrow : xs <+: ys) : walk.Exact ys := by
  intro cursor hcursor
  obtain ⟨hle, hitems⟩ := h cursor hcursor
  refine ⟨hle.trans hgrow.length_le, ?_⟩
  obtain ⟨new, rfl⟩ := hgrow
  rw [hitems, List.take_append_of_le_length hle]

/-- A request leaves the reader finished with the whole list, or before an item of it. -/
theorem Exact.request_items (h : walk.Exact xs) (hcursor : walk.cursor = some cursor)
    (limit : ℕ) :
    ((walk.request xs limit).cursor = none ∧ (walk.request xs limit).items = xs) ∨
      (walk.request xs limit).cursor = some (cursor + limit) ∧ cursor + limit < xs.length ∧
        (walk.request xs limit).items = xs.take (cursor + limit) := by
  obtain ⟨-, hitems⟩ := h cursor hcursor
  have hread : walk.items ++ (xs.drop cursor).take limit = xs.take (cursor + limit) := by
    rw [hitems, List.take_add]
  rw [request_of_some hcursor, hread]
  by_cases hmore : cursor + limit < xs.length
  · exact .inr ⟨if_pos hmore, hmore, rfl⟩
  · exact .inl ⟨if_neg hmore, List.take_of_length_le (Nat.not_lt.mp hmore)⟩

theorem Exact.request (h : walk.Exact xs) (limit : ℕ) : (walk.request xs limit).Exact xs := by
  cases hcursor : walk.cursor with
  | none =>
      rw [request_of_none hcursor]
      exact h
  | some cursor =>
      intro next hnext
      rcases h.request_items hcursor limit with ⟨hnone, -⟩ | ⟨hsome, hlt, hitems⟩
      · cases hnone.symm.trans hnext
      · obtain rfl := Option.some.inj (hsome.symm.trans hnext)
        exact ⟨hlt.le, hitems⟩

theorem remaining_le (walk : Walk α) (xs : List α) : walk.remaining xs ≤ xs.length + 1 := by
  unfold remaining
  split
  · exact Nat.zero_le _
  · exact Nat.sub_le _ _

/-- A request for at least one item brings the end nearer. -/
theorem Exact.remaining_request (h : walk.Exact xs) (hlimit : 1 ≤ limit) :
    (walk.request xs limit).remaining xs ≤ walk.remaining xs - 1 := by
  cases hcursor : walk.cursor with
  | none =>
      rw [request_of_none hcursor]
      simp [remaining, hcursor]
  | some cursor =>
      rcases h.request_items hcursor limit with ⟨hnone, -⟩ | ⟨hsome, -, -⟩
      · simp [remaining, hnone]
      · simp only [remaining, hsome, hcursor]
        omega

/-- An unfinished reader has at least one request to make. -/
theorem Exact.cursor_eq_none (h : walk.Exact xs) (hremaining : walk.remaining xs = 0) :
    walk.cursor = none := by
  cases hcursor : walk.cursor with
  | none => rfl
  | some cursor =>
      obtain ⟨hle, -⟩ := h cursor hcursor
      simp only [remaining, hcursor] at hremaining
      omega

end Walk

end Paging
