import OpenPool.Library.Checked
import OpenPool.Protocol.Domain

/-! # Payout allocation

`allocate` once more with the checks of a debug build, in which every operation on machine
integers traps instead of wrapping. -/

namespace OpenPool

/-- Two `u32` additions. -/
def PayoutSplit.isValidChecked (split : PayoutSplit) : Option Bool := do
  let front ← Checked.add 32 split.winner.asU16.toNat split.organizer.asU16.toNat
  let total ← Checked.add 32 front split.platform.asU16.toNat
  return total == basisPointsTotal.toNat

/-- A `u128` product and quotient, and the cast to `u64`. -/
def shareChecked (pool : UInt64) (points : BasisPoints) : Option UInt64 := do
  let product ← Checked.mul 128 pool.toNat points.asU16.toNat
  let quotient ← Checked.div product basisPointsTotal.toNat
  let share ← Checked.cast 64 quotient
  return UInt64.ofNat share

def PayoutSplit.allocateChecked (split : PayoutSplit) (pool : Sats) : Option PayoutAmounts := do
  let valid ← split.isValidChecked
  Checked.assert (valid = true)
  let winner ← shareChecked pool.asU64 split.winner
  let organizer ← shareChecked pool.asU64 split.organizer
  let rest ← Checked.sub pool.asU64.toNat winner.toNat
  let platform ← Checked.sub rest organizer.toNat
  return ⟨⟨winner⟩, ⟨organizer⟩, ⟨UInt64.ofNat platform⟩⟩

theorem PayoutSplit.isValidChecked_eq (split : PayoutSplit) :
    split.isValidChecked = some split.isValid := by
  have hw := split.winner.asU16.toNat_lt
  have ho := split.organizer.asU16.toNat_lt
  have hp := split.platform.asU16.toNat_lt
  have hvalid : split.isValid = (split.bps == basisPointsTotal.toNat) := by
    rw [Bool.eq_iff_iff, isValid_iff, beq_iff_eq]
    rfl
  rw [isValidChecked, Checked.add_of_lt (by omega), hvalid]
  simp only [Option.bind_eq_bind, Option.bind_some]
  rw [Checked.add_of_lt (by omega)]
  rfl

/-- Neither the product nor the cast loses a bit while the points stay within 10,000. -/
theorem shareChecked_eq (pool : UInt64) {points : BasisPoints} (h : points.asU16.toNat ≤ 10000) :
    shareChecked pool points = some (share pool points) := by
  have hpool := pool.toNat_lt
  have hproduct : pool.toNat * points.asU16.toNat < 2 ^ 128 :=
    calc pool.toNat * points.asU16.toNat ≤ pool.toNat * 10000 := Nat.mul_le_mul_left _ h
      _ < 2 ^ 128 := by omega
  have hle : pool.toNat * points.asU16.toNat / basisPointsTotal.toNat ≤ pool.toNat :=
    floorShare_le h
  rw [shareChecked, Checked.mul_of_lt hproduct]
  simp only [Option.bind_eq_bind, Option.bind_some]
  rw [Checked.div_of_pos (by decide), Option.bind_some, Checked.cast_of_lt (by omega)]
  rfl

theorem PayoutSplit.allocateChecked_eq {split : PayoutSplit} (h : split.isValid = true)
    (pool : Sats) : split.allocateChecked pool = some (split.allocate pool) := by
  have hbps := split.isValid_iff.mp h
  have hspec := split.allocate_spec hbps pool
  unfold bps at hbps
  have hwinner : (share pool.asU64 split.winner).toNat = _ := hspec.winner
  have horganizer : (share pool.asU64 split.organizer).toNat = _ := hspec.organizer
  have hsum : (share pool.asU64 split.winner).toNat + (share pool.asU64 split.organizer).toNat ≤
      pool.asU64.toNat := by
    rw [hwinner, horganizer]
    exact floorShare_add_le (by omega)
  have hplatform : UInt64.ofNat (pool.asU64.toNat - (share pool.asU64 split.winner).toNat -
      (share pool.asU64 split.organizer).toNat) = (split.allocate pool).platform.asU64 := by
    have htotal := hspec.total
    have hlt := pool.asU64.toNat_lt
    apply UInt64.toNat_inj.mp
    rw [UInt64.toNat_ofNat', hwinner, horganizer, ← hspec.winner, ← hspec.organizer]
    omega
  rw [allocateChecked, isValidChecked_eq, h, shareChecked_eq _ (by omega),
    shareChecked_eq _ (by omega)]
  simp only [Option.bind_eq_bind, Option.bind_some, Checked.assert_of]
  rw [Checked.sub_of_le (by omega), Option.bind_some, Checked.sub_of_le (by omega),
    Option.bind_some, hplatform]
  rfl

/-- The three fractional parts dropped by the floors come to less than three satoshis. -/
theorem floorShare_le_rest (pool : ℕ) {w o p : ℕ} (h : w + o + p = 10000) :
    floorShare pool p ≤ pool - floorShare pool w - floorShare pool o ∧
      pool - floorShare pool w - floorShare pool o ≤ floorShare pool p + 2 := by
  have hsum : pool * w + pool * o + pool * p = 10000 * pool := by
    rw [← Nat.mul_add, ← Nat.mul_add, h, Nat.mul_comm]
  unfold floorShare
  omega

/-- A valid split shares out the whole pool: the parts of winner and organizer are exact floors,
nothing traps, and the platform keeps its own floor and at most two satoshis of rounding. -/
theorem allocate_conserves (split : PayoutSplit) (pool : Sats) (h : split.isValid = true) :
    split.allocateChecked pool = some (split.allocate pool) ∧
      (split.allocate pool).winner.asU64.toNat =
        pool.asU64.toNat * split.winner.asU16.toNat / 10000 ∧
      (split.allocate pool).organizer.asU64.toNat =
        pool.asU64.toNat * split.organizer.asU16.toNat / 10000 ∧
      (split.allocate pool).checkedTotal = some pool ∧
      pool.asU64.toNat * split.platform.asU16.toNat / 10000 ≤
        (split.allocate pool).platform.asU64.toNat ∧
      (split.allocate pool).platform.asU64.toNat ≤
        pool.asU64.toNat * split.platform.asU16.toNat / 10000 + 2 := by
  have hbps := split.isValid_iff.mp h
  have hspec := split.allocate_spec hbps pool
  have hrest := floorShare_le_rest pool.asU64.toNat hbps
  have hplatform : (split.allocate pool).platform.asU64.toNat =
      pool.asU64.toNat - floorShare pool.asU64.toNat split.winner.asU16.toNat -
        floorShare pool.asU64.toNat split.organizer.asU16.toNat := by
    have htotal := hspec.total
    rw [← hspec.winner, ← hspec.organizer]
    omega
  refine ⟨split.allocateChecked_eq h pool, hspec.winner, hspec.organizer, ?_, ?_, ?_⟩
  · exact (PayoutAmounts.checkedTotal_eq_some_iff _ pool).mpr hspec.total
  · rw [hplatform]
    exact hrest.1
  · rw [hplatform]
    exact hrest.2

/-- The split of the platform's tests, with a remainder of one satoshi. -/
theorem allocate_conserves_remainder :
    (PayoutSplit.allocate ⟨⟨9500⟩, ⟨400⟩, ⟨100⟩⟩ ⟨101⟩).checkedTotal = some ⟨101⟩ :=
  (allocate_conserves ⟨⟨9500⟩, ⟨400⟩, ⟨100⟩⟩ ⟨101⟩ (by decide)).2.2.2.1

end OpenPool
