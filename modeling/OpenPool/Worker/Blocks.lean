import OpenPool.Library.StateMachine
import OpenPool.Worker.Services

/-! # Observed blocks

Blocks are recorded one at a time, at the heights that draws need. -/

namespace OpenPool

open Fallible

/-- The database holds the block as canonical. -/
def Database.canonical (db : Database) (height : UInt64) (blockHash : Hash32) : Bool :=
  db.blocks.has fun row =>
    row.height = height.toNat ∧ row.blockHash = blockHash.val ∧ row.isCanonical

section Recording

variable {db db' : Database} {height other : UInt64} {blockHash otherHash previousHash : Hash32}
  {blockTime : ℤ}

theorem canonical_iff : db.canonical height blockHash = true ↔ ∃ row ∈ db.blocks.rows,
    row.height = height.toNat ∧ row.blockHash = blockHash.val ∧ row.isCanonical = true := by
  simp [Database.canonical, Table.has]

theorem canonicalBlockMatches_eq_ok_iff :
    canonicalBlockMatches height blockHash db = .ok true ↔
      height.toNat < 2 ^ 63 ∧ db.canonical height blockHash = true := by
  simp only [canonicalBlockMatches, bind_eq_ok_iff, asI64_eq_ok_iff, pure_eq_ok_iff]
  constructor
  · rintro ⟨_, ⟨rfl, hbound⟩, hhas⟩
    exact ⟨hbound, hhas⟩
  · rintro ⟨hbound, hhas⟩
    exact ⟨_, ⟨rfl, hbound⟩, hhas⟩

/-- The row that the first statement of a recording reads. -/
theorem existing_iff :
    (db.blocks.find fun row => row.height = height.toNat ∧ row.isCanonical).map
        BlockRow.blockHash = some blockHash.val ↔ db.canonical height blockHash = true := by
  rw [canonical_iff, Option.map_eq_some_iff]
  constructor
  · rintro ⟨row, hrow, hhash⟩
    obtain ⟨hmem, hfilter⟩ := Table.mem_of_find hrow
    obtain ⟨hheight, hcanonical⟩ := of_decide_eq_true hfilter
    exact ⟨row, hmem, hheight, hhash, hcanonical⟩
  · rintro ⟨row, hmem, hheight, hhash, hcanonical⟩
    refine ⟨row, Table.find_eq_some hmem (decide_eq_true ⟨hheight, hcanonical⟩) ?_, hhash⟩
    intro a b ha hb
    obtain ⟨ha, ha'⟩ := of_decide_eq_true ha
    obtain ⟨hb, hb'⟩ := of_decide_eq_true hb
    exact .inr ⟨ha.trans hb.symm, ha', hb'⟩

/-! ## One recording -/

def BlockRow.demoted (height : ℤ) (row : BlockRow) : BlockRow :=
  if row.isCanonical ∧ height ≤ row.height then { row with isCanonical := false } else row

def BlockRow.updated (row new : BlockRow) : BlockRow :=
  if row.blockHash = new.blockHash then
    { row with previousHash := new.previousHash, blockTime := new.blockTime, isCanonical := true }
  else row

/-- The row of a recorded block. -/
def blockRow (height : UInt64) (blockHash previousHash : Hash32) (blockTime : ℤ) : BlockRow :=
  ⟨height.toNat, blockHash.val, previousHash.val, toTimestamp blockTime, true⟩

/-- The rows after the first statement: a height that changes displaces what is above it. -/
def displaced (db : Database) (height : UInt64) (blockHash : Hash32) : List BlockRow :=
  if db.canonical height blockHash then db.blocks.rows
  else db.blocks.rows.map (BlockRow.demoted height.toNat)

/-- The rows after a recording. -/
theorem rows_of_recordCanonicalBlock {u : Unit}
    (h : recordCanonicalBlock height blockHash previousHash blockTime db = .ok (db', u)) :
    db'.blocks.rows = (displaced db height blockHash).map (fun row =>
        row.updated (blockRow height blockHash previousHash blockTime)) ∧
        (∃ row ∈ displaced db height blockHash, row.blockHash = blockHash.val) ∨
      db'.blocks.rows = displaced db height blockHash ++
        [blockRow height blockHash previousHash blockTime] := by
  simp only [recordCanonicalBlock, bind_eq_ok_iff, asI64_eq_ok_iff, applyIf_eq_ok_iff, ne_eq,
    pure_eq_ok_iff, Prod.mk.injEq] at h
  obtain ⟨_, ⟨rfl, -⟩, middle, hmiddle, blocks, hblocks, rfl, -⟩ := h
  have hrows : middle.rows = displaced db height blockHash := by
    unfold displaced
    rw [existing_iff, execute_eq_ok_iff] at hmiddle
    rcases hmiddle with ⟨hnew, returned, hupdate⟩ | ⟨hsame, rfl⟩
    · rw [if_neg hnew, (Table.rows_of_update hupdate).1]
      refine List.map_congr_left fun row _ => ?_
      simp only [BlockRow.demoted, decide_eq_true_eq]
    · rw [if_pos (not_not.mp hsame)]
  rw [← hrows]
  unfold upsertBlock at hblocks
  split at hblocks
  · rename_i hhas
    obtain ⟨returned, hupdate⟩ := (execute_eq_ok_iff _ _ _ _).mp hblocks
    refine .inl ⟨?_, ?_⟩
    · change blocks.rows = _
      rw [(Table.rows_of_update hupdate).1]
      refine List.map_congr_left fun row _ => ?_
      by_cases hhash : row.blockHash = blockHash.val <;>
        simp [BlockRow.updated, blockRow, hhash]
    · obtain ⟨row, hmem, hhash⟩ := List.any_eq_true.mp hhas
      exact ⟨row, hmem, of_decide_eq_true hhash⟩
  · exact .inr (Table.rows_of_insert ((sql_eq_ok_iff _ _).mp hblocks))

theorem BlockRow.updated_cases (row new : BlockRow) : (row.updated new).height = row.height ∧
    (row.updated new).blockHash = row.blockHash ∧
    (row.isCanonical = true → (row.updated new).isCanonical = true) := by
  unfold updated
  split
  · exact ⟨rfl, rfl, fun _ => rfl⟩
  · exact ⟨rfl, rfl, id⟩

/-- A canonical block stays canonical when no lower height changes. -/
theorem canonical_kept {u : Unit}
    (h : recordCanonicalBlock height blockHash previousHash blockTime db = .ok (db', u))
    (hcanonical : db.canonical other otherHash = true)
    (hkept : height ≤ other → db.canonical height blockHash = true) :
    db'.canonical other otherHash = true := by
  obtain ⟨row, hmem, hheight, hhash, hrow⟩ := canonical_iff.mp hcanonical
  have hdisplaced : row ∈ displaced db height blockHash := by
    unfold displaced
    split
    · exact hmem
    · rename_i hnew
      refine List.mem_map.mpr ⟨row, hmem, if_neg fun hlow => hnew (hkept ?_)⟩
      rw [hheight] at hlow
      exact UInt64.le_iff_toNat_le.mpr (by exact_mod_cast hlow.2)
  refine canonical_iff.mpr ?_
  rcases rows_of_recordCanonicalBlock h with ⟨hrows, -⟩ | hrows
  · obtain ⟨hheight', hhash', hcanonical'⟩ :=
      row.updated_cases (blockRow height blockHash previousHash blockTime)
    exact ⟨_, hrows ▸ List.mem_map_of_mem hdisplaced, hheight'.trans hheight, hhash'.trans hhash,
      hcanonical' hrow⟩
  · exact ⟨row, hrows ▸ List.mem_append_left _ hdisplaced, hheight, hhash, hrow⟩

/-! ## Blocks that their hashes identify -/

/-- A height that the database can store. -/
def Block.storable (block : Block) : Bool := block.height.toNat < 2 ^ 63

/-- Every row is one of the blocks. -/
def Database.Observed (db : Database) (blocks : List Block) : Prop :=
  ∀ row ∈ db.blocks.rows, ∃ block ∈ blocks, block.storable = true ∧
    row.height = block.height.toNat ∧ row.blockHash = block.hash.val ∧
    row.previousHash = block.previousHash.val

/-- One call of `record_canonical_block`. -/
def Database.record (db : Database) (block : Block) : Database :=
  commit db (recordCanonicalBlock block.height block.hash block.previousHash block.time db)

/-- A block hash determines the block. -/
def HashesIdentify (blocks : List Block) : Prop :=
  ∀ a ∈ blocks, ∀ b ∈ blocks, a.hash = b.hash → a = b

/-- The block of each height, from height 0 on. -/
structure BlockSequence where
  blocks : List Block
  heights : blocks.map (fun block => block.height.toNat) = List.range blocks.length

/-- The blocks of one chain. -/
structure Chain extends BlockSequence where
  linked : blocks.IsChain fun parent child => child.previousHash = parent.hash
  distinct : (blocks.map Block.hash).Nodup

theorem Chain.identify (chain : Chain) : HashesIdentify chain.blocks :=
  fun _ ha _ hb hhash => List.inj_on_of_nodup_map chain.distinct ha hb hhash

theorem BlockSequence.height_eq (sequence : BlockSequence) {place : ℕ} {block : Block}
    (h : sequence.blocks[place]? = some block) : block.height.toNat = place := by
  have hheight := congrArg (·[place]?) sequence.heights
  simp only [List.getElem?_map, h, Option.map_some] at hheight
  rw [List.getElem?_range (List.getElem?_eq_some_iff.mp h).1, Option.some_inj] at hheight
  exact hheight

variable {blocks : List Block} {block : Block}

/-- A displaced row is a row of the table, canonical only if it was and lies below. -/
theorem mem_displaced {row : BlockRow} (hmem : row ∈ displaced db height blockHash) :
    ∃ old ∈ db.blocks.rows, row.height = old.height ∧ row.blockHash = old.blockHash ∧
      row.previousHash = old.previousHash ∧ (row.isCanonical = true → old.isCanonical = true ∧
        (db.canonical height blockHash = true ∨ old.height < height.toNat)) := by
  unfold displaced at hmem
  split at hmem
  · rename_i hsame
    exact ⟨row, hmem, rfl, rfl, rfl, fun hcanonical => ⟨hcanonical, .inl hsame⟩⟩
  · obtain ⟨old, hold, rfl⟩ := List.mem_map.mp hmem
    refine ⟨old, hold, ?_⟩
    unfold BlockRow.demoted
    split
    · exact ⟨rfl, rfl, rfl, nofun⟩
    · rename_i hkept
      exact ⟨rfl, rfl, rfl, fun hcanonical =>
        ⟨hcanonical, .inr (not_le.mp fun hle => hkept ⟨hcanonical, hle⟩)⟩⟩

/-- The row of a block stands at the block's height. -/
theorem Database.Observed.height_eq (hobserved : db.Observed blocks)
    (hidentify : HashesIdentify blocks) (hblock : block ∈ blocks) {row : BlockRow}
    (hmem : row ∈ db.blocks.rows) (hhash : row.blockHash = block.hash.val) :
    row.height = block.height.toNat ∧ row.previousHash = block.previousHash.val := by
  obtain ⟨other, hother, -, hheight, hrow, hprevious⟩ := hobserved row hmem
  obtain rfl : other = block :=
    hidentify other hother block hblock (Subtype.ext (hrow.symm.trans hhash))
  exact ⟨hheight, hprevious⟩

theorem record_of_unstorable (h : block.storable = false) : db.record block = db := by
  have hfails : asI64 block.height = .error .integerOverflow := by
    unfold asI64
    rw [if_neg (of_decide_eq_false h)]
  simp only [Database.record, recordCanonicalBlock, hfails]
  rfl

/-- After the first statement the new block clashes with no canonical row. -/
theorem displaced_height {row : BlockRow} (hmem : row ∈ displaced db height blockHash)
    (hrow : row.isCanonical = true) (hheight : row.height = height.toNat) :
    row.blockHash = blockHash.val := by
  obtain ⟨old, hold, hsameHeight, hsameHash, -, hkept⟩ := mem_displaced hmem
  obtain ⟨hcanonical, hsame | hlow⟩ := hkept hrow
  · obtain ⟨other, hother, hotherHeight, hotherHash, hotherCanonical⟩ := canonical_iff.mp hsame
    have hclash : old = other := db.blocks.eq_of_clash hold hother
      (.inr ⟨hsameHeight.symm.trans (hheight.trans hotherHeight.symm), hcanonical,
        hotherCanonical⟩)
    rw [hsameHash, hclash, hotherHash]
  · omega

theorem demote_ok (height : ℤ) (table : Table BlockRow) :
    ∃ table', execute (fun row : BlockRow => row.isCanonical ∧ height ≤ row.height)
      (fun row => { row with isCanonical := false }) table = .ok table' := by
  have hclash : ∀ a b : BlockRow, Schema.Clash
      (if decide (a.isCanonical ∧ height ≤ a.height) then { a with isCanonical := false } else a)
      (if decide (b.isCanonical ∧ height ≤ b.height) then { b with isCanonical := false } else b) →
      Schema.Clash a b := by
    intro a b hclash
    split at hclash <;> split at hclash
    · exact hclash.imp id fun h => nomatch h.2.1
    · exact hclash.imp id fun h => nomatch h.2.1
    · exact hclash.imp id fun h => nomatch h.2.2
    · exact hclash
  obtain ⟨table', returned, hupdate⟩ := table.update_eq_ok
    (fun row : BlockRow => row.isCanonical ∧ height ≤ row.height)
    (fun row => { row with isCanonical := false })
    (fun row hmem => by
      split
      · exact table.checked row hmem
      · exact table.checked row hmem)
    (fun a _ b _ => hclash a b)
  exact ⟨table', (execute_eq_ok_iff _ _ _ _).mpr ⟨returned, hupdate⟩⟩

/-- A row is stored when its hash stands at its height, and no other canonical row does. -/
theorem upsertBlock_ok {new : BlockRow} {table : Table BlockRow} (hcheck : Schema.Check new)
    (hheight : ∀ row ∈ table.rows, row.blockHash = new.blockHash → row.height = new.height)
    (hfree : ∀ row ∈ table.rows, row.isCanonical = true → row.height = new.height →
      row.blockHash = new.blockHash) :
    ∃ table', upsertBlock new table = .ok table' := by
  unfold upsertBlock
  split
  · obtain ⟨table', returned, hupdate⟩ := table.update_eq_ok
      (fun row : BlockRow => row.blockHash = new.blockHash)
      (fun row => { row with
        previousHash := new.previousHash, blockTime := new.blockTime, isCanonical := true })
      (fun row hmem => by
        split
        · exact ⟨(table.checked row hmem).1, hcheck.2⟩
        · exact table.checked row hmem)
      (fun a ha b hb hclash => by
        by_cases hsameA : a.blockHash = new.blockHash <;>
          by_cases hsameB : b.blockHash = new.blockHash <;>
          simp only [hsameA, hsameB, decide_true, decide_false, if_true, Bool.false_eq_true,
            if_false] at hclash
        · exact .inl (hsameA.trans hsameB.symm)
        · refine hclash.imp (fun h => absurd h.symm hsameB) fun h => ?_
          exact absurd (hfree b hb h.2.2 (h.1.symm.trans (hheight a ha hsameA))) hsameB
        · refine hclash.imp (fun h => absurd h hsameA) fun h => ?_
          exact absurd (hfree a ha h.2.1 (h.1.trans (hheight b hb hsameB))) hsameA
        · exact hclash)
    exact ⟨table', (execute_eq_ok_iff _ _ _ _).mpr ⟨returned, hupdate⟩⟩
  · rename_i hnew
    have hclash : ∀ row ∈ table.rows, ¬ Schema.Clash row new := by
      intro row hmem hclash
      have hother : row.blockHash ≠ new.blockHash := fun hsame =>
        hnew (List.any_eq_true.mpr ⟨row, hmem, decide_eq_true hsame⟩)
      exact hclash.elim hother fun h => hother (hfree row hmem h.2.1 h.1)
    obtain ⟨table', hinsert⟩ := Table.insert_eq_ok hcheck hclash
    exact ⟨table', (sql_eq_ok_iff _ _).mpr hinsert⟩

/-- A recording of a block that its hash identifies succeeds. -/
theorem recordCanonicalBlock_ok (hobserved : db.Observed blocks)
    (hidentify : HashesIdentify blocks) (hblock : block ∈ blocks) (hstorable : block.storable = true) :
    ∃ db', recordCanonicalBlock block.height block.hash block.previousHash block.time db =
      .ok (db', ()) := by
  have hheight : asI64 block.height = .ok (block.height.toNat : ℤ) :=
    (asI64_eq_ok_iff _ _).mpr ⟨rfl, of_decide_eq_true hstorable⟩
  obtain ⟨table, hdemoted⟩ := demote_ok (block.height.toNat : ℤ) db.blocks
  have hupsert : ∀ middle : Table BlockRow, middle.rows = displaced db block.height block.hash →
      ∃ final, upsertBlock (blockRow block.height block.hash block.previousHash block.time) middle =
        .ok final := by
    intro middle hrows
    refine upsertBlock_ok ⟨block.hash.property, block.previousHash.property⟩ ?_ ?_
    · intro row hmem hhash
      obtain ⟨old, hold, hsameHeight, hsameHash, -⟩ := mem_displaced (hrows ▸ hmem)
      rw [hsameHeight]
      exact (hobserved.height_eq hidentify hblock hold (hsameHash.symm.trans hhash)).1
    · intro row hmem
      exact displaced_height (hrows ▸ hmem)
  unfold recordCanonicalBlock
  rw [hheight]
  by_cases hsame : db.canonical block.height block.hash = true
  · obtain ⟨final, hfinal⟩ := hupsert db.blocks (by rw [displaced, if_pos hsame])
    refine ⟨{ db with blocks := final }, ?_⟩
    simp only [bind_eq_ok_iff, applyIf_eq_ok_iff, Except.ok.injEq, pure_eq_ok_iff]
    exact ⟨_, rfl, _, .inr ⟨not_not.mpr (existing_iff.mpr hsame), rfl⟩, final, hfinal, rfl⟩
  · have hrows : table.rows = displaced db block.height block.hash := by
      obtain ⟨returned, hupdate⟩ := (execute_eq_ok_iff _ _ _ _).mp hdemoted
      rw [displaced, if_neg hsame, (Table.rows_of_update hupdate).1]
      refine List.map_congr_left fun row _ => ?_
      simp only [BlockRow.demoted, decide_eq_true_eq]
    obtain ⟨final, hfinal⟩ := hupsert table hrows
    refine ⟨{ db with blocks := final }, ?_⟩
    simp only [bind_eq_ok_iff, applyIf_eq_ok_iff, Except.ok.injEq, pure_eq_ok_iff]
    exact ⟨_, rfl, table, .inl ⟨mt existing_iff.mp hsame, hdemoted⟩, final, hfinal, rfl⟩

/-- A canonical row after the first statement was canonical, and is not displaced. -/
theorem canonical_of_displaced {row : BlockRow} (hmem : row ∈ displaced db height blockHash)
    (hheight : row.height = other.toNat) (hhash : row.blockHash = otherHash.val)
    (hrow : row.isCanonical = true) : db.canonical other otherHash = true ∧
      (db.canonical height blockHash = true ∨ other < height) := by
  obtain ⟨old, hold, hsameHeight, hsameHash, -, hkept⟩ := mem_displaced hmem
  obtain ⟨hcanonical, hlow⟩ := hkept hrow
  refine ⟨canonical_iff.mpr ⟨old, hold, hsameHeight.symm.trans hheight,
    hsameHash.symm.trans hhash, hcanonical⟩, hlow.imp id fun hlow => ?_⟩
  rw [← hsameHeight, hheight] at hlow
  exact UInt64.lt_iff_toNat_lt.mpr (by exact_mod_cast hlow)

theorem eq_of_height (h : (other.toNat : ℤ) = height.toNat) : other = height :=
  UInt64.toNat_inj.mp (by exact_mod_cast h)

/-- The recorded block is canonical, and what else is canonical was so before. -/
theorem canonical_from {u : Unit}
    (h : recordCanonicalBlock height blockHash previousHash blockTime db = .ok (db', u))
    (hheight : ∀ row ∈ db.blocks.rows, row.blockHash = blockHash.val → row.height = height.toNat)
    (hafter : db'.canonical other otherHash = true) :
    (other = height ∧ otherHash = blockHash) ∨ (db.canonical other otherHash = true ∧
      (db.canonical height blockHash = true ∨ other < height)) := by
  obtain ⟨row', hmem', hrowHeight, hrowHash, hrow'⟩ := canonical_iff.mp hafter
  rcases rows_of_recordCanonicalBlock h with ⟨hrows, -⟩ | hrows
  · rw [hrows] at hmem'
    obtain ⟨row, hmem, rfl⟩ := List.mem_map.mp hmem'
    obtain ⟨hupdatedHeight, hupdatedHash, -⟩ :=
      row.updated_cases (blockRow height blockHash previousHash blockTime)
    by_cases hnew : row.blockHash = blockHash.val
    · obtain ⟨old, hold, hsameHeight, hsameHash, -⟩ := mem_displaced hmem
      refine .inl ⟨eq_of_height ?_, Subtype.ext (hrowHash.symm.trans (hupdatedHash.trans hnew))⟩
      rw [← hrowHeight, hupdatedHeight, hsameHeight,
        hheight old hold (hsameHash.symm.trans hnew)]
    · have hsame : row.updated (blockRow height blockHash previousHash blockTime) = row :=
        if_neg hnew
      rw [hsame] at hrowHeight hrowHash hrow'
      exact .inr (canonical_of_displaced hmem hrowHeight hrowHash hrow')
  · rw [hrows] at hmem'
    rcases List.mem_append.mp hmem' with hmem | hmem
    · exact .inr (canonical_of_displaced hmem hrowHeight hrowHash hrow')
    · obtain rfl := List.mem_singleton.mp hmem
      exact .inl ⟨eq_of_height hrowHeight.symm, Subtype.ext hrowHash.symm⟩

theorem canonical_recorded {u : Unit}
    (h : recordCanonicalBlock height blockHash previousHash blockTime db = .ok (db', u))
    (hheight : ∀ row ∈ db.blocks.rows, row.blockHash = blockHash.val → row.height = height.toNat) :
    db'.canonical height blockHash = true := by
  refine canonical_iff.mpr ?_
  rcases rows_of_recordCanonicalBlock h with ⟨hrows, row, hmem, hhash⟩ | hrows
  · obtain ⟨old, hold, hsameHeight, hsameHash, -⟩ := mem_displaced hmem
    have hupdated : row.updated (blockRow height blockHash previousHash blockTime) =
        { row with
          previousHash := previousHash.val, blockTime := toTimestamp blockTime
          isCanonical := true } := if_pos hhash
    refine ⟨_, hrows ▸ List.mem_map_of_mem hmem, ?_⟩
    rw [hupdated]
    exact ⟨hsameHeight.trans (hheight old hold (hsameHash.symm.trans hhash)), hhash, rfl⟩
  · exact ⟨_, hrows ▸ List.mem_append_right _ (List.mem_singleton_self _), rfl, rfl, rfl⟩

/-- The canonical blocks after a recording: a block that was not canonical displaces what does not
lie below it. -/
theorem canonical_record_iff (hobserved : db.Observed blocks) (hidentify : HashesIdentify blocks)
    (hblock : block ∈ blocks) (hstorable : block.storable = true) :
    (db.record block).canonical other otherHash = true ↔
      (other = block.height ∧ otherHash = block.hash) ∨ (db.canonical other otherHash = true ∧
        (db.canonical block.height block.hash = true ∨ other < block.height)) := by
  obtain ⟨db', hok⟩ := recordCanonicalBlock_ok hobserved hidentify hblock hstorable
  have hheight : ∀ row ∈ db.blocks.rows, row.blockHash = block.hash.val →
      row.height = block.height.toNat :=
    fun row hmem hhash => (hobserved.height_eq hidentify hblock hmem hhash).1
  rw [Database.record, hok, Fallible.commit_ok]
  constructor
  · exact canonical_from hok hheight
  · rintro (⟨rfl, rfl⟩ | ⟨hcanonical, hkept⟩)
    · exact canonical_recorded hok hheight
    · exact canonical_kept hok hcanonical fun hle =>
        hkept.resolve_right (UInt64.not_lt.mpr hle)

/-- A recording adds its block to the observed ones. -/
theorem Database.Observed.record (hobserved : db.Observed blocks)
    (hidentify : HashesIdentify blocks) (hblock : block ∈ blocks) :
    (db.record block).Observed blocks := by
  cases hstorable : block.storable with
  | false => rwa [record_of_unstorable hstorable]
  | true =>
      obtain ⟨db', hok⟩ := recordCanonicalBlock_ok hobserved hidentify hblock hstorable
      rw [Database.record, hok, Fallible.commit_ok]
      have hold : ∀ row ∈ displaced db block.height block.hash, ∃ block ∈ blocks,
          block.storable = true ∧ row.height = block.height.toNat ∧
            row.blockHash = block.hash.val ∧ row.previousHash = block.previousHash.val := by
        intro row hmem
        obtain ⟨old, hold, hheight, hhash, hprevious, -⟩ := mem_displaced hmem
        rw [hheight, hhash, hprevious]
        exact hobserved old hold
      intro row' hmem'
      rcases rows_of_recordCanonicalBlock hok with ⟨hrows, -⟩ | hrows
      · rw [hrows] at hmem'
        obtain ⟨row, hmem, rfl⟩ := List.mem_map.mp hmem'
        unfold BlockRow.updated
        split
        · rename_i hnew
          obtain ⟨other, hother, -, hheight, hhash, -⟩ := hold row hmem
          obtain rfl : other = block :=
            hidentify other hother block hblock (Subtype.ext (hhash.symm.trans hnew))
          exact ⟨other, hother, hstorable, hheight, hhash, rfl⟩
        · exact hold row hmem
      · rw [hrows] at hmem'
        rcases List.mem_append.mp hmem' with hmem | hmem
        · exact hold row' hmem
        · rw [List.mem_singleton.mp hmem]
          exact ⟨block, hblock, hstorable, rfl, rfl, rfl⟩

/-- The table after a list of calls. -/
def observe (calls : List Block) : Database := StateMachine.run Database.record .empty calls

theorem observed_observe {calls : List Block} (hidentify : HashesIdentify blocks)
    (hcalls : calls ⊆ blocks) : (observe calls).Observed blocks := by
  have hrun : ∀ {db : Database} {calls : List Block}, calls ⊆ blocks → db.Observed blocks →
      (StateMachine.run Database.record db calls).Observed blocks := by
    intro db calls hcalls hobserved
    induction calls generalizing db with
    | nil => exact hobserved
    | cons block calls ih =>
        obtain ⟨hblock, hrest⟩ := List.cons_subset.mp hcalls
        exact ih hrest (hobserved.record hidentify hblock)
  exact hrun hcalls fun _ hmem => absurd hmem List.not_mem_nil

end Recording

end OpenPool
