import Mathlib.Data.List.Induction

/-! # The first item of each key

What is left of a list when only the first item with each key counts. -/

namespace Firsts

variable {α β γ : Type*} [DecidableEq β] [DecidableEq γ] {key : α → β} {other : α → γ}

/-- The items whose key no earlier item has. -/
def firsts (key : α → β) (items : List α) : List α :=
  items.foldl (fun kept item => if key item ∈ kept.map key then kept else kept ++ [item]) []

theorem firsts_subset (key : α → β) (items : List α) : firsts key items ⊆ items := by
  induction items using List.reverseRecOn with
  | nil => exact List.Subset.refl _
  | append_singleton items item ih =>
      intro kept hmem
      rw [firsts, List.foldl_append, List.foldl_cons, List.foldl_nil, ← firsts] at hmem
      split at hmem
      · exact List.mem_append_left _ (ih hmem)
      · exact (List.mem_append.mp hmem).elim (fun h => List.mem_append_left _ (ih h))
          (List.mem_append_right _)

/-- Every key stays. -/
theorem mem_map_firsts {b : β} (items : List α) :
    b ∈ (firsts key items).map key ↔ b ∈ items.map key := by
  refine ⟨fun h => List.map_subset key (firsts_subset key items) h, fun h => ?_⟩
  induction items using List.reverseRecOn with
  | nil => exact h
  | append_singleton items item ih =>
      rw [firsts, List.foldl_append, List.foldl_cons, List.foldl_nil, ← firsts]
      rw [List.map_append, List.mem_append, List.map_singleton, List.mem_singleton] at h
      split
      · rename_i hseen
        rcases h with h | rfl
        · exact ih h
        · exact hseen
      · rw [List.map_append, List.mem_append, List.map_singleton, List.mem_singleton]
        exact h.imp_left ih

/-- A new item counts if its key is new. -/
theorem firsts_concat (items : List α) (item : α) : firsts key (items ++ [item]) =
    if key item ∈ items.map key then firsts key items else firsts key items ++ [item] := by
  rw [firsts, List.foldl_append, List.foldl_cons, List.foldl_nil, ← firsts]
  simp only [mem_map_firsts]

/-- The one item with a key is the first with it. -/
theorem filter_firsts (key : α → β) (b : β) (items : List α) :
    (firsts key items).filter (fun item => key item = b) =
      (items.find? fun item => key item = b).toList := by
  induction items using List.reverseRecOn with
  | nil => rfl
  | append_singleton items item ih =>
      rw [firsts_concat, List.find?_append]
      cases hfind : items.find? fun item => key item = b with
      | none =>
          rw [hfind] at ih
          have hnew : b ∉ items.map key := by
            intro hmem
            obtain ⟨kept, hkept, rfl⟩ := List.mem_map.mp hmem
            simpa using List.find?_eq_none.mp hfind kept hkept
          by_cases hb : key item = b
          · rw [if_neg (hb ▸ hnew), List.filter_append, ih]
            simp [hb]
          · split <;> simp [List.filter_append, ih, hb]
      | some first =>
          rw [hfind] at ih
          have hseen : b ∈ items.map key := by
            have hkey := List.find?_some hfind
            exact List.mem_map.mpr ⟨first, List.mem_of_find?_eq_some hfind, of_decide_eq_true hkey⟩
          by_cases hb : key item = b
          · rw [if_pos (hb ▸ hseen), ih]
            rfl
          · split <;> simp [List.filter_append, ih, hb]

/-- Two items that count and share their key are one item. -/
theorem eq_of_key_eq {items : List α} {a b : α} (ha : a ∈ firsts key items)
    (hb : b ∈ firsts key items) (h : key a = key b) : a = b := by
  have hfilter := filter_firsts key (key b) items
  have ha' : a ∈ (firsts key items).filter fun item => key item = key b :=
    List.mem_filter.mpr ⟨ha, decide_eq_true h⟩
  have hb' : b ∈ (firsts key items).filter fun item => key item = key b :=
    List.mem_filter.mpr ⟨hb, decide_eq_true rfl⟩
  rw [hfilter, Option.mem_toList] at ha' hb'
  exact Option.mem_unique ha' hb'

/-- Keys that tell the same items apart leave the same items. -/
theorem firsts_congr {items : List α}
    (h : ∀ a ∈ items, ∀ b ∈ items, key a = key b ↔ other a = other b) :
    firsts key items = firsts other items := by
  induction items using List.reverseRecOn with
  | nil => rfl
  | append_singleton items item ih =>
      have hlast : item ∈ items ++ [item] := by simp
      have hseen : key item ∈ items.map key ↔ other item ∈ items.map other := by
        simp only [List.mem_map]
        exact exists_congr fun a => and_congr_right fun ha =>
          h a (List.mem_append_left _ ha) item hlast
      rw [firsts_concat, firsts_concat, ih fun a ha b hb =>
        h a (List.mem_append_left _ ha) b (List.mem_append_left _ hb)]
      simp only [hseen]

end Firsts
