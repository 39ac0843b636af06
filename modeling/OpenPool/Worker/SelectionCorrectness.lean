import OpenPool.Library.Median
import OpenPool.Worker.Blocks
import OpenPool.Worker.Reconcile

/-! # The blocks of a draw

A draw job searches down from the tip. Where the tip is, decides how far the search goes; it does
not decide where it ends, once enough blocks after the cutoff have been mined. -/

namespace OpenPool

open Fallible

/-! ## The selection -/

/-- The part of a draw job that chooses the close and the randomness block. -/
def selectBlocks (context : FrozenDrawContext) : Task (Block × Block) := do
  let tip ← ask .tipHeight
  let close ← closeBlock context.endTime tip tip.toNat
  if context.randomnessDelayBlocks < 0 then Program.fail "invalid randomness delay"
  let randomnessHeight := close.height + .ofNat context.randomnessDelayBlocks.toNat
  if tip < randomnessHeight + 1 then Program.fail "randomness block lacks one confirmation"
  let randomness ← ask (.blockAt randomnessHeight)
  return (close, randomness)

/-- What a draw job does with the chosen blocks. -/
def drawFrom (services : Services) (raffleId : RaffleId) (close randomness : Block) :
    Task Unit := do
  query services (.recordCanonicalBlock close)
  query services (.recordCanonicalBlock randomness)
  ensureCanonical services close
  ensureCanonical services randomness
  let _ ← query services (.createDrawAndPayouts raffleId close randomness)

theorem raffleDraw_eq (services : Services) (job : ClaimedJob) : raffleDraw services job = (do
    if services.hasBitcoin = false then Program.fail "Bitcoin source is not configured"
    let raffleId ← Program.okOrElse job.payload.raffleId "raffle.draw missing raffle_id"
    let context ← query services (.frozenDrawContext raffleId)
    let blocks ← selectBlocks context
    drawFrom services raffleId blocks.1 blocks.2) := by
  unfold raffleDraw selectBlocks drawFrom
  simp only [bind_assoc, pure_bind, Program.ite_bind, Program.fail_bind]

/-! ## A source that answers from a fixed sequence -/

namespace BlockSequence

def blockAt (sequence : BlockSequence) (height : UInt64) : Except String Block :=
  match sequence.blocks[height.toNat]? with
  | some block => .ok block
  | none => .error "block is absent"

/-- Only the Bitcoin source answers. -/
def source (sequence : BlockSequence) (tip : UInt64) : (request : Request) → request.Answer
  | .ask .tipHeight => .ok tip
  | .ask (.blockAt height) => sequence.blockAt height
  | .ask _ => .error "not the Bitcoin source"
  | .query _ => .error .invalidStatus

/-- The close and the randomness block that a job chooses at a tip. -/
def select (sequence : BlockSequence) (context : FrozenDrawContext) (tip : UInt64) :
    Except String (Block × Block) := (selectBlocks context).eval (sequence.source tip)

/-- The close block follows the last block up to the tip that lies before the cutoff. -/
structure ClosesAt (sequence : BlockSequence) (endTime : ℤ) (tip place : ℕ) (close : Block) :
    Prop where
  before : ∃ block, sequence.blocks[place]? = some block ∧ block.time < endTime
  close : sequence.blocks[place + 1]? = some close
  after : ∀ later, place < later → later ≤ tip →
    ∃ block, sequence.blocks[later]? = some block ∧ endTime ≤ block.time

end BlockSequence

section Selection

variable {sequence : BlockSequence} {context : FrozenDrawContext} {endTime : ℤ}
  {tip height : UInt64} {start : ℕ} {close randomness block : Block}

theorem BlockSequence.blockAt_eq_ok_iff :
    sequence.blockAt height = .ok block ↔ sequence.blocks[height.toNat]? = some block := by
  unfold BlockSequence.blockAt
  split <;> simp_all

theorem eval_ask (question : Question) (answer : (request : Request) → request.Answer) :
    (ask question).eval answer = answer (.ask question) := by
  unfold ask tryAsk Program.request Program.orFail
  cases h : answer (.ask question) <;> simp [h, Except.mapError]

theorem blockAfter_eval (hheight : height ≤ tip)
    (h : (blockAfter tip height).eval (sequence.source tip) = .ok close) :
    height.toNat < tip.toNat ∧ sequence.blocks[height.toNat + 1]? = some close := by
  unfold blockAfter at h
  split at h
  · cases h
  · rename_i hne
    have hlt : height.toNat < tip.toNat :=
      lt_of_le_of_ne (UInt64.le_iff_toNat_le.mp hheight) (mt UInt64.toNat_inj.mp hne)
    refine ⟨hlt, ?_⟩
    have hnext : (height + 1).toNat = height.toNat + 1 := by
      have := tip.toNat_lt
      rw [UInt64.toNat_add]
      simp only [UInt64.reduceToNat]
      omega
    rw [eval_ask] at h
    rw [← hnext]
    exact BlockSequence.blockAt_eq_ok_iff.mp h

/-- One round of the search. -/
theorem search_eval {next : Task Block} (hheight : height ≤ tip)
    (h : (do
      let block ← ask (.blockAt height)
      if endTime ≤ block.time then next else blockAfter tip height).eval (sequence.source tip) =
        .ok close) :
    ∃ block, sequence.blocks[height.toNat]? = some block ∧
      (endTime ≤ block.time ∧ next.eval (sequence.source tip) = .ok close ∨
        block.time < endTime ∧ height.toNat < tip.toNat ∧
          sequence.blocks[height.toNat + 1]? = some close) := by
  rw [Program.eval_bind, eval_ask] at h
  obtain ⟨block, hblock, h⟩ := (bind_eq_ok_iff _ _ _).mp h
  refine ⟨block, BlockSequence.blockAt_eq_ok_iff.mp hblock, ?_⟩
  split at h
  · rename_i hafter
    exact .inl ⟨hafter, h⟩
  · rename_i hbefore
    exact .inr ⟨not_le.mp hbefore, blockAfter_eval hheight h⟩

/-- The search ends at the last block before the cutoff. -/
theorem closeBlock_eval (hstart : start ≤ tip.toNat)
    (h : (closeBlock endTime tip start).eval (sequence.source tip) = .ok close) :
    ∃ place < tip.toNat, sequence.ClosesAt endTime start place close := by
  induction start with
  | zero =>
      have hheight : (0 : UInt64) ≤ tip := UInt64.le_iff_toNat_le.mpr hstart
      obtain ⟨block, hblock, ⟨-, hfail⟩ | ⟨hbefore, hlt, hclose⟩⟩ := search_eval hheight h
      · cases hfail
      · exact ⟨0, hlt, ⟨block, hblock, hbefore⟩, hclose, fun later hlater hle => by omega⟩
  | succ start ih =>
      have hplace : (UInt64.ofNat (start + 1)).toNat = start + 1 :=
        UInt64.toNat_ofNat_of_lt' (lt_of_le_of_lt hstart tip.toNat_lt)
      have hheight : UInt64.ofNat (start + 1) ≤ tip := by
        rwa [UInt64.le_iff_toNat_le, hplace]
      obtain ⟨block, hblock, ⟨hafter, h⟩ | ⟨hbefore, hlt, hclose⟩⟩ := search_eval hheight h
      · obtain ⟨place, hlt, hcloses⟩ := ih (by omega) h
        refine ⟨place, hlt, hcloses.before, hcloses.close, fun later hlater hle => ?_⟩
        rcases Nat.lt_or_eq_of_le hle with hle | rfl
        · exact hcloses.after later hlater (by omega)
        · exact ⟨block, hplace ▸ hblock, hafter⟩
      · rw [hplace] at hblock hlt hclose
        exact ⟨start + 1, hlt, ⟨block, hblock, hbefore⟩, hclose, fun later hlater hle => by omega⟩

/-- What a selection has found. -/
theorem BlockSequence.select_eq_ok
    (h : sequence.select context tip = .ok (close, randomness)) :
    (∃ place < tip.toNat, close.height.toNat = place + 1 ∧
      sequence.ClosesAt context.endTime tip.toNat place close) ∧
      close.height + .ofNat context.randomnessDelayBlocks.toNat + 1 ≤ tip ∧
      sequence.blockAt (close.height + .ofNat context.randomnessDelayBlocks.toNat) =
        .ok randomness := by
  simp only [BlockSequence.select, selectBlocks, Program.eval_bind, bind_eq_ok_iff] at h
  obtain ⟨_, htip, found, hclose, h⟩ := h
  rw [eval_ask] at htip
  obtain rfl := Except.ok.inj htip
  split at h
  · cases h
  split at h
  · cases h
  rename_i hconfirmed
  simp only [Program.eval_bind, bind_eq_ok_iff] at h
  obtain ⟨_, hrandomness, h⟩ := h
  rw [eval_ask] at hrandomness
  obtain ⟨rfl, rfl⟩ := Prod.mk.inj (Except.ok.inj h)
  obtain ⟨place, hlt, hcloses⟩ := closeBlock_eval le_rfl hclose
  exact ⟨⟨place, hlt, sequence.height_eq hcloses.close, hcloses⟩, UInt64.not_lt.mp hconfirmed,
    hrandomness⟩

end Selection

/-! ## Under the median time rule -/

/-- The time of each block is above the median time of the (up to) 11 blocks before it. -/
def BlockSequence.MedianTimeRule (sequence : BlockSequence) : Prop :=
  (sequence.blocks.map Block.time).RisesOverMedian 11

section MedianTimeRule

variable {sequence : BlockSequence} {endTime : ℤ} {tip tip' place place' : ℕ}
  {close close' : Block}

/-- Six blocks after the cutoff keep all later blocks after it. -/
theorem BlockSequence.ClosesAt.place_le (h : sequence.ClosesAt endTime tip place close)
    (hrule : sequence.MedianTimeRule) (hconfirmed : place + 6 ≤ tip)
    (h' : sequence.ClosesAt endTime tip' place' close') : place' ≤ place := by
  by_contra hlater
  obtain ⟨block, hblock, hbefore⟩ := h'.before
  have hrun : ∀ p time, place + 1 ≤ p → p < place + 1 + 6 →
      (sequence.blocks.map Block.time)[p]? = some time → endTime ≤ time := by
    intro p time hlow hhigh htime
    obtain ⟨found, hfound, hafter⟩ := h.after p (by omega) (by omega)
    rw [List.getElem?_map, hfound] at htime
    exact Option.some_inj.mp htime ▸ hafter
  have htime : (sequence.blocks.map Block.time)[place']? = some block.time := by
    rw [List.getElem?_map, hblock, Option.map_some]
  have hstays := List.RisesOverMedian.stays hrule (by decide) (by decide) (by decide) hrun
    (by omega) htime
  omega

theorem BlockSequence.ClosesAt.unique (h : sequence.ClosesAt endTime tip place close)
    (h' : sequence.ClosesAt endTime tip' place' close') (hrule : sequence.MedianTimeRule)
    (hconfirmed : place + 6 ≤ tip) (hconfirmed' : place' + 6 ≤ tip') : close = close' := by
  have hplace : place = place' :=
    le_antisymm (h'.place_le hrule hconfirmed' h) (h.place_le hrule hconfirmed h')
  exact Option.some_inj.mp (h.close.symm.trans (hplace ▸ h'.close))

/-- The confirmation of a randomness block six blocks later confirms the close block. -/
theorem confirmed_of_storable {tip : UInt64} (hstorable : close.storable = true)
    (h : close.height + .ofNat (6 : ℤ).toNat + 1 ≤ tip) : close.height.toNat + 7 ≤ tip.toNat := by
  have hheight : close.height.toNat < 2 ^ 63 := of_decide_eq_true hstorable
  have hdelay : (UInt64.ofNat (6 : ℤ).toNat).toNat = 6 := rfl
  have hone : (1 : UInt64).toNat = 1 := rfl
  rw [UInt64.le_iff_toNat_le, UInt64.toNat_add, UInt64.toNat_add, hdelay, hone] at h
  omega

end MedianTimeRule

/-- On blocks that keep the median time rule all jobs with a delay of six blocks choose the same
blocks, and on any blocks the close block follows the last block before the cutoff. -/
theorem draw_blocks_fixed :
    (∀ (sequence : BlockSequence) (endTime : ℤ) (tip tip' : UInt64)
      (close randomness close' randomness' : Block), sequence.MedianTimeRule →
      sequence.select ⟨endTime, 6⟩ tip = .ok (close, randomness) → close.storable = true →
      sequence.select ⟨endTime, 6⟩ tip' = .ok (close', randomness') → close'.storable = true →
        close = close' ∧ randomness = randomness') ∧
    ∀ (sequence : BlockSequence) (context : FrozenDrawContext) (tip : UInt64)
      (close randomness : Block), sequence.select context tip = .ok (close, randomness) →
        ∃ place, close.height.toNat = place + 1 ∧
          sequence.ClosesAt context.endTime tip.toNat place close := by
  constructor
  · intro sequence endTime tip tip' close randomness close' randomness' hrule h hstorable h'
      hstorable'
    obtain ⟨⟨place, -, hheight, hcloses⟩, htip, hrandomness⟩ := BlockSequence.select_eq_ok h
    obtain ⟨⟨place', -, hheight', hcloses'⟩, htip', hrandomness'⟩ := BlockSequence.select_eq_ok h'
    have hconfirmed := confirmed_of_storable hstorable htip
    have hconfirmed' := confirmed_of_storable hstorable' htip'
    obtain rfl := hcloses.unique hcloses' hrule (by omega) (by omega)
    exact ⟨rfl, Except.ok.inj (hrandomness.symm.trans hrandomness')⟩
  · intro sequence context tip close randomness h
    obtain ⟨⟨place, -, hheight, hcloses⟩, -, -⟩ := BlockSequence.select_eq_ok h
    exact ⟨place, hheight, hcloses⟩

namespace SelectionSample

def block (height : ℕ) (time : ℤ) : Block where
  height := .ofNat height
  hash := ⟨List.replicate 32 (.ofNat (height + 1)), rfl⟩
  previousHash := ⟨List.replicate 32 (.ofNat height), rfl⟩
  time

/-- The block at height 4 is older than the one before it. -/
def times : List ℤ := [10, 20, 90, 110, 95, 120, 130, 125, 140, 150, 160, 170, 180, 190]

def sequence : BlockSequence where
  blocks := times.zipIdx.map fun (time, height) => block height time
  heights := by decide

end SelectionSample

open SelectionSample in
/-- The close block comes after the block at height 4, though the one before that is late. -/
theorem draw_blocks_fixed_sample :
    (sequence.select ⟨100, 6⟩ 12 = .ok (block 5 120, block 11 170) ∧
      sequence.select ⟨100, 6⟩ 13 = .ok (block 5 120, block 11 170)) ∧
    (block 5 120 = block 5 120 ∧ block 11 170 = block 11 170) ∧
    ∃ place, (block 5 120).height.toNat = place + 1 ∧
      sequence.ClosesAt 100 12 place (block 5 120) := by
  have hrule : sequence.MedianTimeRule := by
    unfold BlockSequence.MedianTimeRule
    decide +kernel
  have htip : sequence.select ⟨100, 6⟩ 12 = .ok (block 5 120, block 11 170) := by rfl
  have htip' : sequence.select ⟨100, 6⟩ 13 = .ok (block 5 120, block 11 170) := by rfl
  exact ⟨⟨htip, htip'⟩,
    draw_blocks_fixed.1 sequence 100 12 13 _ _ _ _ hrule htip (by decide) htip' (by decide),
    draw_blocks_fixed.2 sequence ⟨100, 6⟩ 12 _ _ htip⟩

end OpenPool
