import OpenPool.Worker.Blocks

/-! # The canonical blocks

A recording compares a block with the one that is canonical at its height. It takes a height at
which nothing is recorded for one that has changed, and it does not look at the block's parent. -/

namespace OpenPool

/-! ## Blocks of one chain -/

/-- Exactly the recorded blocks are canonical, and none has been displaced. -/
structure Database.Shows (db : Database) (recorded : List Block) : Prop where
  canonical : ∀ height blockHash, db.canonical height blockHash = true ↔
    ∃ block ∈ recorded, block.storable = true ∧ block.height = height ∧ block.hash = blockHash
  kept : ∀ row ∈ db.blocks.rows, row.isCanonical = true

/-- Every block is recorded again, or lies above all blocks before it. -/
def RecordsUpwards (calls : List Block) : Prop :=
  ∀ front block back, calls = front ++ block :: back → block.storable = true →
    block ∈ front ∨ ∀ other ∈ front, other.storable = true → other.height < block.height

section OneChain

variable {db : Database} {blocks recorded calls : List Block} {block : Block}

theorem recordsUpwards_concat : RecordsUpwards (calls ++ [block]) ↔
    RecordsUpwards calls ∧ (block.storable = true → block ∈ calls ∨
      ∀ other ∈ calls, other.storable = true → other.height < block.height) := by
  constructor
  · intro h
    refine ⟨fun front other back hsplit => ?_, h calls block [] rfl⟩
    exact h front other (back ++ [block]) (by rw [hsplit]; simp)
  · rintro ⟨hcalls, hblock⟩ front other back hsplit
    rcases List.eq_nil_or_concat back with rfl | ⟨back, last, rfl⟩
    · obtain ⟨rfl, hlast⟩ := List.append_inj' hsplit rfl
      obtain rfl := List.singleton_inj.mp hlast
      exact hblock
    · have hconcat : calls ++ [block] = (front ++ other :: back) ++ [last] := by
        rw [hsplit]
        simp
      exact hcalls front other back (List.append_inj' hconcat rfl).1

/-- A block that is canonical cannot have been displaced. -/
theorem Database.Observed.shows (hobserved : db.Observed recorded)
    (hcanonical : ∀ height blockHash, db.canonical height blockHash = true ↔
      ∃ block ∈ recorded, block.storable = true ∧ block.height = height ∧
        block.hash = blockHash) : db.Shows recorded := by
  refine ⟨hcanonical, fun row hmem => ?_⟩
  obtain ⟨block, hblock, hstorable, -, hhash, -⟩ := hobserved row hmem
  obtain ⟨other, hother, -, hotherHash, hrow⟩ :=
    canonical_iff.mp ((hcanonical _ _).mpr ⟨block, hblock, hstorable, rfl, rfl⟩)
  rwa [db.blocks.eq_of_clash hmem hother (.inl (hhash.trans hotherHash.symm))]

/-- The canonical blocks of a database that shows the recorded ones. -/
theorem Database.Shows.mem_iff (h : db.Shows recorded) (hidentify : HashesIdentify blocks)
    (hrecorded : recorded ⊆ blocks) (hblock : block ∈ blocks) (hstorable : block.storable = true) :
    db.canonical block.height block.hash = true ↔ block ∈ recorded := by
  rw [h.canonical]
  constructor
  · rintro ⟨other, hother, -, -, hhash⟩
    rwa [← hidentify other (hrecorded hother) block hblock hhash]
  · exact fun hmem => ⟨block, hmem, hstorable, rfl, rfl⟩

/-- One more recording shows all blocks exactly when it displaces none. -/
theorem Database.Shows.record_iff (h : db.Shows recorded) (hidentify : HashesIdentify blocks)
    (hrecorded : recorded ⊆ blocks) (hobserved : db.Observed recorded) (hblock : block ∈ blocks) :
    (db.record block).Shows (recorded ++ [block]) ↔
      (block.storable = true → block ∈ recorded ∨
        ∀ other ∈ recorded, other.storable = true → other.height < block.height) := by
  have hsubset : recorded ++ [block] ⊆ blocks :=
    List.append_subset.mpr ⟨hrecorded, by simpa using hblock⟩
  have hidentified : HashesIdentify (recorded ++ [block]) := fun a ha b hb =>
    hidentify a (hsubset ha) b (hsubset hb)
  have hlast : block ∈ recorded ++ [block] := List.mem_append_right _ (List.mem_singleton_self _)
  have hold : db.Observed (recorded ++ [block]) := fun row hmem => by
    obtain ⟨other, hother, hshown⟩ := hobserved row hmem
    exact ⟨other, List.mem_append_left _ hother, hshown⟩
  constructor
  · intro hafter hstorable
    by_contra hdisplaced
    obtain ⟨hnew, hlow⟩ := not_or.mp hdisplaced
    refine hlow fun other hother hotherStorable => ?_
    have hkept := (hafter.canonical other.height other.hash).mpr
      ⟨other, List.mem_append_left _ hother, hotherStorable, rfl, rfl⟩
    rcases (canonical_record_iff hold hidentified hlast hstorable).mp hkept with
      ⟨-, hhash⟩ | ⟨-, hsame | hbelow⟩
    · exact absurd (hidentify other (hrecorded hother) block hblock hhash ▸ hother) hnew
    · exact absurd ((h.mem_iff hidentify hrecorded hblock hstorable).mp hsame) hnew
    · exact hbelow
  · intro hupwards
    refine (hold.record hidentified hlast).shows fun height blockHash => ?_
    cases hstorable : block.storable with
    | false =>
        rw [record_of_unstorable hstorable, h.canonical]
        constructor
        · rintro ⟨other, hother, hshown⟩
          exact ⟨other, List.mem_append_left _ hother, hshown⟩
        · rintro ⟨other, hother, hotherStorable, hshown⟩
          rcases List.mem_append.mp hother with hother | hother
          · exact ⟨other, hother, hotherStorable, hshown⟩
          · rw [List.mem_singleton.mp hother, hstorable] at hotherStorable
            cases hotherStorable
    | true =>
        rw [canonical_record_iff hold hidentified hlast hstorable]
        constructor
        · rintro (⟨rfl, rfl⟩ | ⟨hcanonical, -⟩)
          · exact ⟨block, hlast, hstorable, rfl, rfl⟩
          · obtain ⟨other, hother, hshown⟩ := (h.canonical _ _).mp hcanonical
            exact ⟨other, List.mem_append_left _ hother, hshown⟩
        · rintro ⟨other, hother, hotherStorable, rfl, rfl⟩
          rcases List.mem_append.mp hother with hother | hother
          · refine .inr ⟨(h.canonical _ _).mpr ⟨other, hother, hotherStorable, rfl, rfl⟩, ?_⟩
            exact (hupwards hstorable).imp
              (fun hmem => (h.mem_iff hidentify hrecorded hblock hstorable).mpr hmem)
              fun hlow => hlow other hother hotherStorable
          · rw [List.mem_singleton.mp hother]
            exact .inl ⟨rfl, rfl⟩

theorem observe_concat : observe (calls ++ [block]) = (observe calls).record block :=
  StateMachine.run_concat _ _ _

/-- All along the calls every recorded block is canonical exactly when they go upwards. -/
theorem shows_iff_upwards (hidentify : HashesIdentify blocks) (hcalls : calls ⊆ blocks) :
    (∀ front, front <+: calls → (observe front).Shows front) ↔ RecordsUpwards calls := by
  induction calls using List.reverseRecOn with
  | nil =>
      refine ⟨fun _ front block back hsplit => by simp at hsplit, fun _ front hfront => ?_⟩
      rw [List.prefix_nil.mp hfront]
      exact ⟨fun _ _ => by simp [observe, Database.canonical, Table.has, Database.empty], fun _ hmem =>
        absurd hmem List.not_mem_nil⟩
  | append_singleton calls block ih =>
      obtain ⟨hfront, hblock⟩ := List.append_subset.mp hcalls
      have hmem : block ∈ blocks := hblock (List.mem_singleton_self _)
      have hidentified : HashesIdentify calls := fun a ha b hb =>
        hidentify a (hfront ha) b (hfront hb)
      have hobserved := observed_observe hidentified (List.Subset.refl calls)
      rw [recordsUpwards_concat, ← ih hfront]
      constructor
      · intro hall
        have hshows := hall calls (List.prefix_append _ _)
        have hlast := hall (calls ++ [block]) (List.prefix_refl _)
        rw [observe_concat] at hlast
        exact ⟨fun front hstart => hall front (hstart.trans (List.prefix_append _ _)),
          (hshows.record_iff hidentify hfront hobserved hmem).mp hlast⟩
      · rintro ⟨hall, hupwards⟩ front hstart
        rcases List.prefix_concat_iff.mp hstart with rfl | hstart
        · rw [observe_concat]
          exact ((hall calls (List.prefix_refl _)).record_iff hidentify hfront hobserved hmem).mpr
            hupwards
        · exact hall front hstart

end OneChain

/-- Blocks of one chain stay canonical exactly when each is recorded above those before it. -/
theorem one_chain_shown_iff (chain : Chain) {calls : List Block} (hcalls : calls ⊆ chain.blocks) :
    (∀ front, front <+: calls → (observe front).Shows front) ↔ RecordsUpwards calls :=
  shows_iff_upwards chain.identify hcalls

namespace BlockSample

def hash (byte : UInt8) : Hash32 := .replicate 32 byte

/-- The block at a height of a chain with the given first byte. -/
def block (fork : UInt8) (height : ℕ) : Block where
  height := .ofNat height
  hash := hash (fork + .ofNat height + 1)
  previousHash := hash (fork + .ofNat height)
  time := 600 * height

def chain : Chain where
  blocks := [block 0 0, block 0 1, block 0 2]
  heights := by decide
  linked := by decide
  distinct := by decide

/-- The second height first. -/
def backwards : List Block := [block 0 2, block 0 1]

end BlockSample

theorem one_chain_shown_iff_sample :
    (∀ front, front <+: BlockSample.backwards → (observe front).Shows front) ↔
      RecordsUpwards BlockSample.backwards :=
  one_chain_shown_iff BlockSample.chain (by decide)

/-- The block at the higher height is displaced by its own predecessor. -/
theorem one_chain_displaced : BlockSample.backwards ⊆ BlockSample.chain.blocks ∧
    ¬ (observe BlockSample.backwards).Shows BlockSample.backwards := by
  refine ⟨by decide, fun hshows => ?_⟩
  have hdisplaced : ∃ row ∈ (observe BlockSample.backwards).blocks.rows,
      row.isCanonical = false := by
    decide +kernel
  obtain ⟨row, hmem, hrow⟩ := hdisplaced
  cases hrow.symm.trans (hshows.kept row hmem)

/-! ## The canonical rows -/

/-- At most one canonical row at each height, and each is the parent of the next. -/
structure Database.OneChain (db : Database) : Prop where
  unique : ∀ a ∈ db.blocks.rows, ∀ b ∈ db.blocks.rows, a.isCanonical = true →
    b.isCanonical = true → a.height = b.height → a = b
  linked : ∀ a ∈ db.blocks.rows, ∀ b ∈ db.blocks.rows, a.isCanonical = true →
    b.isCanonical = true → b.height = a.height + 1 → b.previousHash = a.blockHash

/-- The canonical row below the block, if there is one, is its parent. -/
def Database.Fits (db : Database) (block : Block) : Prop :=
  block.storable = true → ∀ row ∈ db.blocks.rows, row.isCanonical = true →
    row.height + 1 = block.height.toNat → row.blockHash = block.previousHash.val

instance (db : Database) (block : Block) : Decidable (db.Fits block) :=
  inferInstanceAs (Decidable (_ → _))

/-- The canonical blocks among those that can be observed are linked. -/
def Database.Linked (db : Database) (blocks : List Block) : Prop :=
  ∀ a ∈ blocks, ∀ b ∈ blocks, db.canonical a.height a.hash = true →
    db.canonical b.height b.hash = true → b.height.toNat = a.height.toNat + 1 →
    b.previousHash = a.hash

section Rows

variable {db : Database} {blocks : List Block} {block : Block}

/-- A canonical row is a canonical block. -/
theorem Database.Observed.canonical_of_row (hobserved : db.Observed blocks) {row : BlockRow}
    (hmem : row ∈ db.blocks.rows) (hrow : row.isCanonical = true) :
    ∃ block ∈ blocks, db.canonical block.height block.hash = true ∧
      row.height = block.height.toNat ∧ row.blockHash = block.hash.val ∧
      row.previousHash = block.previousHash.val := by
  obtain ⟨block, hblock, -, hheight, hhash, hprevious⟩ := hobserved row hmem
  exact ⟨block, hblock, canonical_iff.mpr ⟨row, hmem, hheight, hhash, hrow⟩, hheight, hhash,
    hprevious⟩

theorem Database.Observed.oneChain_iff (hobserved : db.Observed blocks)
    (hidentify : HashesIdentify blocks) : db.OneChain ↔ db.Linked blocks := by
  constructor
  · intro hchain a ha b hb hcanonicalA hcanonicalB hnext
    obtain ⟨row, hrow, hheight, hhash, hcanonical⟩ := canonical_iff.mp hcanonicalA
    obtain ⟨row', hrow', hheight', hhash', hcanonical'⟩ := canonical_iff.mp hcanonicalB
    have hlink := hchain.linked row hrow row' hrow' hcanonical hcanonical' (by omega)
    rw [(hobserved.height_eq hidentify hb hrow' hhash').2, hhash] at hlink
    exact Subtype.ext hlink
  · intro hlinked
    refine ⟨fun a ha b hb hrowA hrowB hheight => ?_, fun a ha b hb hrowA hrowB hnext => ?_⟩
    · exact db.blocks.eq_of_clash ha hb (.inr ⟨hheight, hrowA, hrowB⟩)
    · obtain ⟨parent, hparent, hcanonical, hheight, hhash, -⟩ :=
        hobserved.canonical_of_row ha hrowA
      obtain ⟨child, hchild, hcanonical', hheight', -, hprevious⟩ :=
        hobserved.canonical_of_row hb hrowB
      rw [hprevious, hhash,
        hlinked parent hparent child hchild hcanonical hcanonical' (by omega)]

/-- A block fits where the observed canonical block below it is its parent. -/
theorem Database.Observed.fits_iff (hobserved : db.Observed blocks)
    (hstorable : block.storable = true) : db.Fits block ↔
      ∀ parent ∈ blocks, db.canonical parent.height parent.hash = true →
        parent.height.toNat + 1 = block.height.toNat → parent.hash = block.previousHash := by
  constructor
  · intro hfits parent hparent hcanonical hnext
    obtain ⟨row, hrow, hheight, hhash, hrowCanonical⟩ := canonical_iff.mp hcanonical
    have hlink := hfits hstorable row hrow hrowCanonical (by omega)
    exact Subtype.ext (hhash.symm.trans hlink)
  · intro hparents _ row hrow hcanonical hnext
    obtain ⟨parent, hparent, hcanonical', hheight, hhash, -⟩ :=
      hobserved.canonical_of_row hrow hcanonical
    rw [hhash, hparents parent hparent hcanonical' (by omega)]

/-- A recording keeps the links exactly when its block fits. -/
theorem Database.Linked.record_iff (h : db.Linked blocks) (hobserved : db.Observed blocks)
    (hidentify : HashesIdentify blocks) (hblock : block ∈ blocks) :
    (db.record block).Linked blocks ↔ db.Fits block := by
  cases hstorable : block.storable with
  | false =>
      rw [record_of_unstorable hstorable]
      exact ⟨fun _ hover => absurd hover (by simp [hstorable]), fun _ => h⟩
  | true =>
      have hafter : ∀ {height blockHash}, (db.record block).canonical height blockHash = true ↔ _ :=
        canonical_record_iff hobserved hidentify hblock hstorable
      rw [hobserved.fits_iff hstorable]
      constructor
      · intro hlinked parent hparent hcanonical hnext
        refine (hlinked parent hparent block hblock (hafter.mpr (.inr ⟨hcanonical, .inr ?_⟩))
          (hafter.mpr (.inl ⟨rfl, rfl⟩)) hnext.symm).symm
        exact UInt64.lt_iff_toNat_lt.mpr (by omega)
      · intro hparents a ha b hb hcanonicalA hcanonicalB hnext
        rcases hafter.mp hcanonicalB with ⟨-, hhash⟩ | ⟨holdB, hkept⟩
        · obtain rfl : b = block := hidentify b hb block hblock hhash
          rcases hafter.mp hcanonicalA with ⟨hheight, -⟩ | ⟨holdA, -⟩
          · rw [hheight] at hnext
            omega
          · exact (hparents a ha holdA hnext.symm).symm
        · rcases hafter.mp hcanonicalA with ⟨-, hhash⟩ | ⟨holdA, -⟩
          · obtain rfl : a = block := hidentify a ha block hblock hhash
            -- what is canonical above the block was there with it
            rcases hkept with holdA | hlow
            · exact h a ha b hb holdA holdB hnext
            · have hbelow := UInt64.lt_iff_toNat_lt.mp hlow
              omega
          · exact h a ha b hb holdA holdB hnext

end Rows

/-- All along the calls the canonical rows form one chain exactly when each block is the child of
the canonical block below it. -/
theorem canonical_rows_linked_iff {calls : List Block} (hidentify : HashesIdentify calls) :
    (∀ front, front <+: calls → (observe front).OneChain) ↔
      StateMachine.Meets Database.record Database.Fits .empty calls := by
  have hempty : Database.empty.Observed calls := fun _ hmem => absurd hmem List.not_mem_nil
  refine StateMachine.prefixes_iff_meets (P := fun db => db.Observed calls)
    (A := fun block => block ∈ calls) (fun db block hblock hobserved =>
      hobserved.record hidentify hblock) (fun db block hblock hobserved hchain => ?_) hempty
    ((hempty.oneChain_iff hidentify).mpr fun _ _ _ _ hcanonical => by
      simp [Database.canonical, Table.has, Database.empty] at hcanonical) fun _ hmem => hmem
  rw [(hobserved.record hidentify hblock).oneChain_iff hidentify]
  exact ((hobserved.oneChain_iff hidentify).mp hchain).record_iff hobserved hidentify hblock

namespace BlockSample

/-- A block, and the child of another block at its height. -/
def crossed : List Block := [block 0 1, block 10 2]

end BlockSample

theorem canonical_rows_linked_iff_sample :
    (∀ front, front <+: BlockSample.crossed → (observe front).OneChain) ↔
      StateMachine.Meets Database.record Database.Fits .empty BlockSample.crossed :=
  canonical_rows_linked_iff (by unfold HashesIdentify; decide)

/-- Two canonical rows that are not parent and child. -/
theorem canonical_rows_not_linked : HashesIdentify BlockSample.crossed ∧
    ¬ (observe BlockSample.crossed).OneChain := by
  refine ⟨by unfold HashesIdentify; decide, fun hchain => ?_⟩
  have hcrossed : ∃ a ∈ (observe BlockSample.crossed).blocks.rows,
      ∃ b ∈ (observe BlockSample.crossed).blocks.rows, a.isCanonical = true ∧
        b.isCanonical = true ∧ b.height = a.height + 1 ∧ b.previousHash ≠ a.blockHash := by
    decide +kernel
  obtain ⟨a, ha, b, hb, hrowA, hrowB, hnext, hother⟩ := hcrossed
  exact hother (hchain.linked a ha b hb hrowA hrowB hnext)

end OpenPool
