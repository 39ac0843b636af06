import OpenPool.Store.CloseCorrectness
import OpenPool.Store.StatusCorrectness
import OpenPool.Worker.DrawCorrectness
import OpenPool.Worker.Grounds

/-! # The blocks of a draw

A raffle is drawn once, by a worker, and its row keeps the two blocks that the worker came with. -/

namespace OpenPool

open Fallible

/-- The row records the two blocks of its draw. -/
structure RaffleRow.DrawnWith (row : RaffleRow) (close randomness : Block) : Prop where
  closeHeight : row.closeBlockHeight = some (close.height.toNat : ℤ)
  closeHash : row.closeBlockHash = some close.hash.val
  randomnessHeight : row.randomnessBlockHeight = some (randomness.height.toNat : ℤ)
  randomnessHash : row.randomnessBlockHash = some randomness.hash.val

section Draws

variable {prim : Primitives} {scope : Scope} {raffleId : RaffleId} {view view' : RaffleView}
  {db db' : Database} {row' : RaffleRow} {close randomness : Block}

theorem DrawContext.Stored.blocks {context : DrawContext} {row : RaffleRow}
    (h : context.Stored row) (hwith : row.DrawnWith close randomness) :
    context.closeHeight = close.height ∧ context.randomnessHeight = randomness.height ∧
      context.randomnessHash = randomness.hash := by
  refine ⟨?_, ?_, ?_⟩
  · have hheight := Option.some.inj (h.closeHeight.symm.trans hwith.closeHeight)
    exact UInt64.toNat_inj.mp (Int.ofNat_inj.mp hheight)
  · have hheight := Option.some.inj (h.randomnessHeight.symm.trans hwith.randomnessHeight)
    exact UInt64.toNat_inj.mp (Int.ofNat_inj.mp hheight)
  · exact Subtype.ext (Option.some.inj (h.randomnessHash.symm.trans hwith.randomnessHash))

end Draws

end OpenPool
