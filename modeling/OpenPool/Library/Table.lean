import Mathlib.Data.List.Basic
import Mathlib.Data.List.Pairwise
import OpenPool.Library.Fallible
import OpenPool.Library.Firsts

/-! # Relational tables with constraints

A table is a list of rows that satisfies its declared constraints. A statement that would
break one of them fails, so every table a program can build satisfies them. -/

/-- The constraints of a table: `Check` for each row, and `Clash` for two rows that a
primary key or a unique index keeps apart. -/
class Schema (Row : Type*) where
  Check : Row → Prop
  Clash : Row → Row → Prop
  clash_symm : ∀ a b, Clash a b → Clash b a
  decidableCheck : DecidablePred Check
  decidableClash : DecidableRel Clash

attribute [reducible, instance] Schema.decidableCheck Schema.decidableClash

structure Table (Row : Type*) [Schema Row] where
  rows : List Row
  checked : ∀ row ∈ rows, Schema.Check row
  distinct : rows.Pairwise fun a b => ¬ Schema.Clash a b

namespace Table

/-- The kind of constraint a statement violates. -/
inductive Violation where
  | check
  | unique
  | foreignKey
  deriving DecidableEq, Repr

/-- The rows are the same, but for one with this key. -/
structure Replaces {Row Key : Type*} (key : Row → Key) (rows rows' : List Row) (old new : Row) :
    Prop where
  key_eq : key new = key old
  old_mem : old ∈ rows
  mem_iff : ∀ row, row ∈ rows' ↔ row = new ∨ (row ∈ rows ∧ key row ≠ key old)

theorem Replaces.new_mem {Row Key : Type*} {key : Row → Key} {rows rows' : List Row}
    {old new : Row} (h : Replaces key rows rows' old new) : new ∈ rows' :=
  (h.mem_iff new).mpr (.inl rfl)

theorem Replaces.forall_mem {Row Key : Type*} {key : Row → Key} {rows rows' : List Row}
    {old new : Row} {P : Row → Prop} (h : Replaces key rows rows' old new)
    (hrows : ∀ row ∈ rows, P row) (hnew : P new) : ∀ row ∈ rows', P row := by
  intro row hmem
  rcases (h.mem_iff row).mp hmem with rfl | ⟨hmem, -⟩
  · exact hnew
  · exact hrows row hmem

/-- Every key stays. -/
theorem Replaces.key_mem {Row Key : Type*} {key : Row → Key} {rows rows' : List Row}
    {old new row : Row} (h : Replaces key rows rows' old new) (hmem : row ∈ rows) :
    ∃ row' ∈ rows', key row' = key row := by
  by_cases hkey : key row = key old
  · exact ⟨new, h.new_mem, h.key_eq.trans hkey.symm⟩
  · exact ⟨row, (h.mem_iff row).mpr (.inr ⟨hmem, hkey⟩), rfl⟩

variable {Row : Type*} [Schema Row]

def empty : Table Row := ⟨[], by simp, .nil⟩

/-- The table with these rows, if they satisfy the constraints. -/
def ofRows (rows : List Row) : Except Violation (Table Row) :=
  if hcheck : ∀ row ∈ rows, Schema.Check row then
    if hdistinct : rows.Pairwise fun a b => ¬ Schema.Clash a b then
      .ok ⟨rows, hcheck, hdistinct⟩
    else .error .unique
  else .error .check

/-- `INSERT INTO table VALUES row`. -/
def insert (table : Table Row) (row : Row) : Except Violation (Table Row) :=
  ofRows (table.rows ++ [row])

/-- `INSERT INTO table VALUES row ON CONFLICT (target) DO NOTHING`, with whether the row
was inserted. `conflicts` says that an existing row has the new row's target columns. -/
def insertOrIgnore (table : Table Row) (conflicts : Row → Bool) (row : Row) :
    Except Violation (Table Row × Bool) :=
  if table.rows.any conflicts then .ok (table, false)
  else do
    let table ← table.insert row
    return (table, true)

/-- `UPDATE table SET set WHERE filter RETURNING *`. -/
def update (table : Table Row) (filter : Row → Bool) (set : Row → Row) :
    Except Violation (Table Row × List Row) := do
  let updated ← ofRows (table.rows.map fun row => if filter row then set row else row)
  return (updated, (table.rows.filter filter).map set)

/-- `SELECT * FROM table WHERE filter`. -/
def select (table : Table Row) (filter : Row → Bool) : List Row :=
  table.rows.filter filter

/-- `DELETE FROM table WHERE filter RETURNING *`. -/
def delete (table : Table Row) (filter : Row → Bool) : Table Row × List Row :=
  (⟨table.rows.filter fun row => !filter row,
    fun row hmem => table.checked row (List.mem_of_mem_filter hmem),
    table.distinct.sublist List.filter_sublist⟩, table.select filter)

/-- The row of a `SELECT` whose filter names a primary key. -/
def find (table : Table Row) (filter : Row → Bool) : Option Row :=
  table.rows.find? filter

/-- `SELECT COUNT(*) FROM table WHERE filter`. -/
def count (table : Table Row) (filter : Row → Bool) : ℕ :=
  table.rows.countP filter

/-- `SELECT EXISTS(SELECT 1 FROM table WHERE filter)`. -/
def has (table : Table Row) (filter : Row → Bool) : Bool :=
  table.rows.any filter

@[simp] theorem rows_empty : (empty : Table Row).rows = [] := rfl

theorem rows_of_ofRows {rows : List Row} {table : Table Row} (h : ofRows rows = .ok table) :
    table.rows = rows := by
  unfold ofRows at h
  split at h
  · split at h
    · cases h
      rfl
    · cases h
  · cases h

theorem ofRows_eq_ok {rows : List Row} (hcheck : ∀ row ∈ rows, Schema.Check row)
    (hdistinct : rows.Pairwise fun a b => ¬ Schema.Clash a b) :
    ofRows rows = .ok ⟨rows, hcheck, hdistinct⟩ := by
  unfold ofRows
  rw [dite_cond_eq_true (eq_true hcheck), dite_cond_eq_true (eq_true hdistinct)]

theorem rows_of_insert {table table' : Table Row} {row : Row} (h : table.insert row = .ok table') :
    table'.rows = table.rows ++ [row] :=
  rows_of_ofRows h

theorem mem_of_insert {table table' : Table Row} {row : Row} (h : table.insert row = .ok table')
    (other : Row) : other ∈ table'.rows ↔ other ∈ table.rows ∨ other = row := by
  rw [rows_of_insert h]
  simp

theorem checked_of_insert {table table' : Table Row} {row : Row}
    (h : table.insert row = .ok table') : Schema.Check row :=
  table'.checked row (by simp [rows_of_insert h])

theorem not_clash_of_insert {table table' : Table Row} {row : Row}
    (h : table.insert row = .ok table') : ∀ other ∈ table.rows, ¬ Schema.Clash other row := by
  have hdistinct := table'.distinct
  rw [rows_of_insert h, List.pairwise_append] at hdistinct
  exact fun other hmem => hdistinct.2.2 other hmem row (List.mem_singleton_self row)

/-- An insert succeeds when the row passes its checks and clashes with no row. -/
theorem insert_eq_ok {table : Table Row} {row : Row} (hcheck : Schema.Check row)
    (hclash : ∀ other ∈ table.rows, ¬ Schema.Clash other row) :
    ∃ table', table.insert row = .ok table' := by
  suffices hrows : (∀ other ∈ table.rows ++ [row], Schema.Check other) ∧
      (table.rows ++ [row]).Pairwise fun a b => ¬ Schema.Clash a b from
    ⟨_, ofRows_eq_ok hrows.1 hrows.2⟩
  constructor
  · intro other hmem
    rcases List.mem_append.mp hmem with hmem | hmem
    · exact table.checked other hmem
    · rw [List.mem_singleton.mp hmem]
      exact hcheck
  · refine List.pairwise_append.mpr ⟨table.distinct, by simp, ?_⟩
    intro other hmem new hnew
    rw [List.mem_singleton.mp hnew]
    exact hclash other hmem

theorem rows_of_insertOrIgnore {table table' : Table Row} {conflicts : Row → Bool} {row : Row}
    {inserted : Bool} (h : table.insertOrIgnore conflicts row = .ok (table', inserted)) :
    (inserted = false ∧ table' = table ∧ ∃ other ∈ table.rows, conflicts other = true) ∨
      (inserted = true ∧ table'.rows = table.rows ++ [row] ∧
        ∀ other ∈ table.rows, conflicts other = false) := by
  unfold insertOrIgnore at h
  split at h
  · rename_i hany
    cases h
    exact .inl ⟨rfl, rfl, by simpa using hany⟩
  · rename_i hany
    simp only [Fallible.bind_eq_ok_iff, Fallible.pure_eq_ok_iff, Prod.mk.injEq] at h
    obtain ⟨inserted', hinsert, rfl, rfl⟩ := h
    exact .inr ⟨rfl, rows_of_insert hinsert, by simpa using hany⟩

theorem insertOrIgnore_of_conflict {table : Table Row} {conflicts : Row → Bool} (row : Row)
    (h : ∃ other ∈ table.rows, conflicts other = true) :
    table.insertOrIgnore conflicts row = .ok (table, false) :=
  if_pos (List.any_eq_true.mpr h)

/-- A row that conflicts with no row is inserted when it passes its checks and clashes with none. -/
theorem insertOrIgnore_of_new {table : Table Row} {conflicts : Row → Bool} {row : Row}
    (hnew : ∀ other ∈ table.rows, conflicts other = false) (hcheck : Schema.Check row)
    (hclash : ∀ other ∈ table.rows, ¬ Schema.Clash other row) :
    ∃ table', table.insertOrIgnore conflicts row = .ok (table', true) ∧
      table'.rows = table.rows ++ [row] := by
  obtain ⟨table', hinsert⟩ := insert_eq_ok hcheck hclash
  have hany : ¬ table.rows.any conflicts = true := by simpa using hnew
  refine ⟨table', ?_, rows_of_insert hinsert⟩
  rw [insertOrIgnore, if_neg hany, hinsert]
  rfl

/-- A table that holds a row for the first item of each key, and is offered one for another item. -/
theorem insertOrIgnore_firsts {α β : Type*} [DecidableEq β] {key : α → β} {rowOf : α → Row}
    {table : Table Row} {items : List α} (item : α) (conflicts : Row → Bool)
    (hrows : table.rows = (Firsts.firsts key items).map rowOf)
    (hconflicts : ∀ other, conflicts (rowOf other) = decide (key other = key item))
    (hcheck : Schema.Check (rowOf item))
    (hclash : ∀ other ∈ items, key other ≠ key item → ¬ Schema.Clash (rowOf other) (rowOf item)) :
    ∃ table' inserted, table.insertOrIgnore conflicts (rowOf item) = .ok (table', inserted) ∧
      (inserted = true ↔ key item ∉ items.map key) ∧
      table'.rows = (Firsts.firsts key (items ++ [item])).map rowOf := by
  by_cases hseen : key item ∈ items.map key
  · obtain ⟨first, hfirst, hkey⟩ := List.mem_map.mp ((Firsts.mem_map_firsts items).mpr hseen)
    have hconflict : ∃ row ∈ table.rows, conflicts row = true :=
      ⟨rowOf first, hrows ▸ List.mem_map_of_mem hfirst, (hconflicts first).trans (decide_eq_true hkey)⟩
    refine ⟨table, false, insertOrIgnore_of_conflict _ hconflict, ?_, ?_⟩
    · exact ⟨nofun, fun hnew => absurd hseen hnew⟩
    · rw [Firsts.firsts_concat, if_pos hseen, hrows]
  · have hother : ∀ row ∈ table.rows, ∃ other ∈ items, key other ≠ key item ∧ rowOf other = row := by
      intro row hmem
      rw [hrows] at hmem
      obtain ⟨other, hother, rfl⟩ := List.mem_map.mp hmem
      have hmem := Firsts.firsts_subset key items hother
      exact ⟨other, hmem, fun hkey => hseen (hkey ▸ List.mem_map_of_mem hmem), rfl⟩
    have hnew : ∀ row ∈ table.rows, conflicts row = false := by
      intro row hmem
      obtain ⟨other, -, hkey, rfl⟩ := hother row hmem
      rw [hconflicts, decide_eq_false hkey]
    have hfree : ∀ row ∈ table.rows, ¬ Schema.Clash row (rowOf item) := by
      intro row hrow
      obtain ⟨other, hmem, hkey, rfl⟩ := hother row hrow
      exact hclash other hmem hkey
    obtain ⟨table', hinsert, hrows'⟩ := insertOrIgnore_of_new hnew hcheck hfree
    refine ⟨table', true, hinsert, ⟨fun _ => hseen, fun _ => rfl⟩, ?_⟩
    rw [hrows', hrows, Firsts.firsts_concat, if_neg hseen, List.map_append, List.map_singleton]

theorem rows_of_update {table table' : Table Row} {filter : Row → Bool} {set : Row → Row}
    {returned : List Row} (h : table.update filter set = .ok (table', returned)) :
    table'.rows = table.rows.map (fun row => if filter row then set row else row) ∧
      returned = (table.rows.filter filter).map set := by
  simp only [update, Fallible.bind_eq_ok_iff, Fallible.pure_eq_ok_iff, Prod.mk.injEq] at h
  obtain ⟨updated, hrows, rfl, rfl⟩ := h
  exact ⟨rows_of_ofRows hrows, rfl⟩

/-- An update succeeds when it keeps the checks and makes no rows clash. -/
theorem update_eq_ok (table : Table Row) (filter : Row → Bool) (set : Row → Row)
    (hcheck : ∀ row ∈ table.rows, Schema.Check (if filter row then set row else row))
    (hclash : ∀ a ∈ table.rows, ∀ b ∈ table.rows,
      Schema.Clash (if filter a then set a else a) (if filter b then set b else b) →
        Schema.Clash a b) :
    ∃ table' returned, table.update filter set = .ok (table', returned) := by
  have hchecked : ∀ row ∈ table.rows.map fun row => if filter row then set row else row,
      Schema.Check row := by
    intro row hmem
    obtain ⟨old, hold, rfl⟩ := List.mem_map.mp hmem
    exact hcheck old hold
  have hdistinct : (table.rows.map fun row => if filter row then set row else row).Pairwise
      fun a b => ¬ Schema.Clash a b :=
    List.pairwise_map.mpr (table.distinct.imp_of_mem fun ha hb hne hnew =>
      hne (hclash _ ha _ hb hnew))
  refine ⟨⟨_, hchecked, hdistinct⟩, (table.rows.filter filter).map set, ?_⟩
  unfold update
  rw [ofRows_eq_ok hchecked hdistinct]
  rfl

/-! ## Queries after a statement -/

theorem select_of_insert {table table' : Table Row} {row : Row} (h : table.insert row = .ok table')
    (filter : Row → Bool) :
    table'.select filter = table.select filter ++ if filter row then [row] else [] := by
  rw [select, select, rows_of_insert h, List.filter_append]
  cases hfilter : filter row <;> simp [hfilter]

theorem find_of_insert {table table' : Table Row} {row : Row} (h : table.insert row = .ok table')
    (filter : Row → Bool) :
    table'.find filter = (table.find filter).or (if filter row then some row else none) := by
  rw [find, find, rows_of_insert h, List.find?_append]
  cases hfilter : filter row <;> simp [hfilter]

theorem select_of_insertOrIgnore {table table' : Table Row} {conflicts : Row → Bool} {row : Row}
    {inserted : Bool} (h : table.insertOrIgnore conflicts row = .ok (table', inserted))
    (filter : Row → Bool) :
    table'.select filter = table.select filter ∨
      (filter row = true ∧ table'.select filter = table.select filter ++ [row]) := by
  rcases rows_of_insertOrIgnore h with ⟨-, rfl, -⟩ | ⟨-, hrows, -⟩
  · exact .inl rfl
  · rw [select, select, hrows, List.filter_append]
    cases hfilter : filter row <;> simp [hfilter]

section Update

variable {table table' : Table Row} {filter key : Row → Bool} {set : Row → Row}
  {returned : List Row}

omit [Schema Row] in
theorem comp_update (hkey : ∀ row, filter row = true → key (set row) = key row) :
    (key ∘ fun row => if filter row then set row else row) = key := by
  funext row
  simp only [Function.comp_apply]
  split
  · rename_i hfilter
    exact hkey row hfilter
  · rfl

/-- An update that keeps the selected columns acts inside each selection. -/
theorem select_of_update (h : table.update filter set = .ok (table', returned))
    (hkey : ∀ row, filter row = true → key (set row) = key row) :
    table'.select key =
      (table.select key).map fun row => if filter row then set row else row := by
  rw [select, select, (rows_of_update h).1, List.filter_map, comp_update hkey]

theorem find_of_update (h : table.update filter set = .ok (table', returned))
    (hkey : ∀ row, filter row = true → key (set row) = key row) :
    table'.find key = (table.find key).map fun row => if filter row then set row else row := by
  rw [find, find, (rows_of_update h).1, List.find?_map, comp_update hkey]

theorem find_updated (h : table.update filter set = .ok (table', returned))
    (hkey : ∀ row, filter row = true → key (set row) = key row) {row : Row}
    (hrow : table.find key = some row) (hfilter : filter row = true) :
    table'.find key = some (set row) := by
  rw [find_of_update h hkey, hrow, Option.map_some, if_pos hfilter]

theorem find_not_updated (h : table.update filter set = .ok (table', returned))
    (hkey : ∀ row, filter row = true → key (set row) = key row)
    (hfilter : ∀ row, table.find key = some row → filter row = false) :
    table'.find key = table.find key := by
  rw [find_of_update h hkey]
  cases hrow : table.find key with
  | none => rfl
  | some row => rw [Option.map_some, hfilter row hrow, if_neg Bool.false_ne_true]

theorem select_not_updated (h : table.update filter set = .ok (table', returned))
    (hkey : ∀ row, filter row = true → key (set row) = key row)
    (hfilter : ∀ row ∈ table.rows, key row = true → filter row = false) :
    table'.select key = table.select key := by
  calc table'.select key
      = (table.select key).map fun row => if filter row then set row else row :=
        select_of_update h hkey
    _ = (table.select key).map id := List.map_congr_left fun row hmem => by
        rw [hfilter row (List.mem_of_mem_filter hmem) (List.of_mem_filter hmem)]
        rfl
    _ = table.select key := List.map_id _

end Update

theorem mem_of_find {table : Table Row} {filter : Row → Bool} {row : Row}
    (h : table.find filter = some row) : row ∈ table.rows ∧ filter row = true :=
  ⟨List.mem_of_find?_eq_some h, List.find?_some h⟩

theorem find_eq_none_iff {table : Table Row} {filter : Row → Bool} :
    table.find filter = none ↔ ∀ row ∈ table.rows, filter row = false := by
  simp [find]

theorem find_of_has {table : Table Row} {filter : Row → Bool} (h : table.has filter = true) :
    ∃ row, table.find filter = some row := by
  rw [has, List.any_eq_true] at h
  exact Option.isSome_iff_exists.mp (List.find?_isSome.mpr h)

@[simp] theorem mem_select {table : Table Row} {filter : Row → Bool} {row : Row} :
    row ∈ table.select filter ↔ row ∈ table.rows ∧ filter row = true :=
  List.mem_filter

/-- Two rows of a table that share a key are one row. -/
theorem eq_of_clash (table : Table Row) {a b : Row} (ha : a ∈ table.rows) (hb : b ∈ table.rows)
    (hclash : Schema.Clash a b) : a = b := by
  by_contra hne
  have : Std.Symm fun a b : Row => ¬ Schema.Clash a b :=
    ⟨fun a b h h' => h (Schema.clash_symm b a h')⟩
  exact table.distinct.forall ha hb hne hclash

/-- A filter that picks out rows sharing a key finds the row that satisfies it. -/
theorem find_eq_some {table : Table Row} {filter : Row → Bool} {row : Row}
    (hmem : row ∈ table.rows) (hfilter : filter row = true)
    (hkey : ∀ a b, filter a = true → filter b = true → Schema.Clash a b) :
    table.find filter = some row := by
  cases h : table.find filter with
  | none =>
      have := find_eq_none_iff.mp h row hmem
      simp [hfilter] at this
  | some other =>
      obtain ⟨hmem', hfilter'⟩ := mem_of_find h
      rw [table.eq_of_clash hmem' hmem (hkey _ _ hfilter' hfilter)]

/-- A filter that picks out rows sharing a key selects at most the row it finds. -/
theorem select_eq_toList_find {table : Table Row} {filter : Row → Bool}
    (hkey : ∀ a b, filter a = true → filter b = true → Schema.Clash a b) :
    table.select filter = (table.find filter).toList := by
  have hdistinct := table.distinct.sublist (List.filter_sublist (p := filter))
  rw [find, ← List.head?_filter, select]
  cases hrows : table.rows.filter filter with
  | nil => rfl
  | cons row rows =>
      cases rows with
      | nil => rfl
      | cons other rows =>
          rw [hrows] at hdistinct
          have hall : ∀ a ∈ row :: other :: rows, filter a = true := fun a hmem =>
            List.of_mem_filter (hrows ▸ hmem)
          exact absurd (hkey row other (hall row (by simp)) (hall other (by simp)))
            (List.rel_of_pairwise_cons hdistinct (by simp))

/-! ## Replacing one row -/

/-- An update whose filter is true of one row only replaces that row. -/
theorem replaces_of_update {Key : Type*} (key : Row → Key) {table table' : Table Row}
    {filter : Row → Bool} {set : Row → Row} {returned : List Row} {row : Row}
    (h : table.update filter set = .ok (table', returned))
    (hkey : ∀ a b, key a = key b → Schema.Clash a b)
    (hfilters : ∀ a b, filter a = true → filter b = true → key a = key b)
    (hset : key (set row) = key row) (hmem : row ∈ table.rows) (hfilter : filter row = true) :
    Replaces key table.rows table'.rows row (set row) ∧ returned = [set row] := by
  obtain ⟨hrows, hreturned⟩ := rows_of_update h
  have hunique : ∀ other ∈ table.rows, key other = key row → other = row :=
    fun other hother heq => table.eq_of_clash hother hmem (hkey _ _ heq)
  have hclash : ∀ a b, filter a = true → filter b = true → Schema.Clash a b :=
    fun a b ha hb => hkey _ _ (hfilters a b ha hb)
  refine ⟨⟨hset, hmem, fun other => ?_⟩, ?_⟩
  · rw [hrows, List.mem_map]
    constructor
    · rintro ⟨a, ha, rfl⟩
      by_cases hfa : filter a = true
      · rw [if_pos hfa, hunique a ha (hfilters a row hfa hfilter)]
        exact .inl rfl
      · rw [if_neg hfa]
        exact .inr ⟨ha, fun heq => hfa (hunique a ha heq ▸ hfilter)⟩
    · rintro (rfl | ⟨hother, hne⟩)
      · exact ⟨row, hmem, if_pos hfilter⟩
      · exact ⟨other, hother, if_neg fun hfo => hne (hfilters other row hfo hfilter)⟩
  · have hselect : table.select filter = [row] := by
      rw [select_eq_toList_find hclash, find_eq_some hmem hfilter hclash]
      rfl
    rw [hreturned, ← select, hselect]
    rfl

/-- An update that keeps the checks and the keys apart, and whose filter is true of one row only,
succeeds and replaces that row. -/
theorem update_one {Key : Type*} (key : Row → Key) (table : Table Row) (filter : Row → Bool)
    (set : Row → Row) (hkey : ∀ a b, key a = key b → Schema.Clash a b)
    (hcheck : ∀ row, Schema.Check row → Schema.Check (set row))
    (hclash : ∀ a b, Schema.Clash (set a) b → Schema.Clash a b)
    (hset : ∀ row, key (set row) = key row)
    (hfilters : ∀ a b, filter a = true → filter b = true → key a = key b) {row : Row}
    (hmem : row ∈ table.rows) (hfilter : filter row = true) :
    ∃ table', table.update filter set = .ok (table', [set row]) ∧
      Replaces key table.rows table'.rows row (set row) := by
  have hleft : ∀ a b, Schema.Clash (if filter a then set a else a) b → Schema.Clash a b := by
    intro a b h
    by_cases hfilter : filter a = true
    · rw [if_pos hfilter] at h
      exact hclash a b h
    · rw [if_neg hfilter] at h
      exact h
  obtain ⟨table', returned, hupdate⟩ := table.update_eq_ok filter set
    (fun row hmem => by
      split
      · exact hcheck row (table.checked row hmem)
      · exact table.checked row hmem)
    (fun a _ b _ h => Schema.clash_symm b a (hleft b a (Schema.clash_symm _ _ (hleft a _ h))))
  obtain ⟨hreplaces, rfl⟩ := replaces_of_update key hupdate hkey hfilters (hset row) hmem hfilter
  exact ⟨table', hupdate, hreplaces⟩

/-- An update whose filter is true of no row changes nothing. -/
theorem update_of_none {table : Table Row} {filter : Row → Bool} {set : Row → Row}
    (h : ∀ row ∈ table.rows, filter row = false) : table.update filter set = .ok (table, []) := by
  have hrows : table.rows.map (fun row => if filter row then set row else row) = table.rows := by
    calc table.rows.map (fun row => if filter row then set row else row)
        = table.rows.map id := List.map_congr_left fun row hmem => by simp [h row hmem]
      _ = table.rows := List.map_id _
  have hnone : table.rows.filter filter = [] :=
    List.filter_eq_nil_iff.mpr fun row hmem => by simp [h row hmem]
  unfold update
  rw [hrows, hnone, ofRows_eq_ok table.checked table.distinct]
  rfl

theorem count_eq_length (table : Table Row) (filter : Row → Bool) :
    table.count filter = (table.select filter).length :=
  List.countP_eq_length_filter

/-- A filter that picks out rows sharing a key counts at most one. -/
theorem count_le_one (table : Table Row) {filter : Row → Bool}
    (hkey : ∀ a b, filter a = true → filter b = true → Schema.Clash a b) :
    table.count filter ≤ 1 := by
  rw [count_eq_length, select_eq_toList_find hkey]
  exact Option.length_toList_le

theorem count_eq_zero_iff {table : Table Row} {filter : Row → Bool} :
    table.count filter = 0 ↔ ∀ row ∈ table.rows, filter row ≠ true :=
  List.countP_eq_zero

end Table
