import OpenPool.Library.Bytes
import OpenPool.Library.Fallible

/-! # Domain values -/

namespace OpenPool

open Fallible

abbrev Hash32 := Bytes.Sized 32
abbrev Uuid := Bytes.Sized 16

instance Uuid.lawfulBEq : LawfulBEq Uuid := inferInstance

/-- The groups of the hyphenated form. -/
def Uuid.groups (uuid : Uuid) : List (List UInt8) :=
  [uuid.val.take 4, (uuid.val.drop 4).take 2, (uuid.val.drop 6).take 2, (uuid.val.drop 8).take 2,
    uuid.val.drop 10]

/-- The hyphenated lowercase form that `Display` writes. -/
def Uuid.toString (uuid : Uuid) : String :=
  String.ofList (['-'].intercalate ((Uuid.groups uuid).map Bytes.toHex))

structure RaffleId where
  uuid : Uuid
  deriving DecidableEq

structure EntryId where
  uuid : Uuid
  deriving DecidableEq

structure OrganizerId where
  uuid : Uuid
  deriving DecidableEq

structure InvoiceId where
  uuid : Uuid
  deriving DecidableEq

structure Sats where
  asU64 : UInt64
  deriving DecidableEq

structure BasisPoints where
  asU16 : UInt16
  deriving DecidableEq

def basisPointsTotal : UInt16 := 10000

inductive DomainError where
  | basisPointsOutOfRange (value : UInt16)
  | invalidPayoutSplit (total : UInt32)
  | invalidTicketRange (start stop : UInt64)
  deriving DecidableEq

def DomainError.toString : DomainError → String
  | basisPointsOutOfRange value => s!"basis points value {value} exceeds 10,000"
  | invalidPayoutSplit total => s!"payout split must total 10,000 basis points, got {total}"
  | invalidTicketRange start stop => s!"ticket range [{start}, {stop}) must have start < end"

/-! ## Identifiers -/

theorem Uuid.flatten_groups (uuid : Uuid) : (Uuid.groups uuid).flatten = uuid.val := by
  have hsplit : ∀ (n m : ℕ) (bytes : List UInt8),
      (bytes.drop n).take m ++ bytes.drop (n + m) = bytes.drop n := by
    intro n m bytes
    rw [← List.drop_drop, List.take_append_drop]
  simp only [groups, List.flatten_cons, List.flatten_nil, List.append_nil]
  rw [hsplit 8 2, hsplit 6 2, hsplit 4 2, List.take_append_drop]

/-- Dropping the hyphens leaves the digits of all bytes. -/
theorem Uuid.filter_toString (uuid : Uuid) :
    uuid.toString.toList.filter (· ≠ '-') = Bytes.toHex uuid.val := by
  have hdigits : ∀ bytes : List UInt8,
      (Bytes.toHex bytes).filter (· ≠ '-') = Bytes.toHex bytes := by
    intro bytes
    refine List.filter_eq_self.mpr fun c hc => ?_
    have hne : c ≠ '-' := fun heq => Bytes.not_mem_toHex (by decide) bytes (heq ▸ hc)
    simpa using hne
  rw [← Uuid.flatten_groups uuid]
  simp only [toString, groups, String.toList_ofList, List.intercalate, List.map_cons, List.map_nil,
    List.intersperse, List.flatten_cons, List.flatten_nil, List.append_nil, List.filter_append,
    hdigits, Bytes.toHex_append]
  rfl

theorem Uuid.colon_not_mem_toString (uuid : Uuid) : ':' ∉ uuid.toString.toList := by
  intro h
  have hmem : ':' ∈ uuid.toString.toList.filter (· ≠ '-') := List.mem_filter.mpr ⟨h, by decide⟩
  rw [Uuid.filter_toString] at hmem
  exact Bytes.not_mem_toHex (by decide) _ hmem

theorem Uuid.toString_inj {a b : Uuid} : a.toString = b.toString ↔ a = b := by
  refine ⟨fun h => ?_, fun h => h ▸ rfl⟩
  refine Subtype.ext (Bytes.toHex_inj.mp ?_)
  rw [← Uuid.filter_toString, h, Uuid.filter_toString]

/-! ## Checked arithmetic -/

/-- `u64::checked_add`. -/
def checkedAdd (a b : UInt64) : Option UInt64 :=
  if a.toNat + b.toNat < 2 ^ 64 then some (a + b) else none

/-- `u64::try_from` on a value of type `usize`. -/
def u64TryFrom (value : ℕ) : Option UInt64 :=
  if value < 2 ^ 64 then some (UInt64.ofNat value) else none

/-- A `u64` as eight big-endian bytes. -/
def toBeBytes (value : UInt64) : List UInt8 := Bytes.ofNat 8 value.toNat

theorem checkedAdd_eq_some_iff (a b c : UInt64) :
    checkedAdd a b = some c ↔ c.toNat = a.toNat + b.toNat := by
  have hc := c.toNat_lt
  unfold checkedAdd
  split
  · rename_i h
    have hsum : (a + b).toNat = a.toNat + b.toNat := by
      rw [UInt64.toNat_add, Nat.mod_eq_of_lt h]
    rw [Option.some.injEq, ← UInt64.toNat_inj, hsum, eq_comm]
  · simp only [reduceCtorEq, false_iff]
    omega

theorem u64TryFrom_eq_some_iff (value : ℕ) (c : UInt64) :
    u64TryFrom value = some c ↔ c.toNat = value := by
  have hc := c.toNat_lt
  unfold u64TryFrom
  split
  · rename_i h
    rw [Option.some.injEq, ← UInt64.toNat_inj, UInt64.toNat_ofNat_of_lt' h, eq_comm]
  · simp only [reduceCtorEq, false_iff]
    omega

@[simp] theorem length_toBeBytes (value : UInt64) : (toBeBytes value).length = 8 := by
  simp [toBeBytes]

theorem toBeBytes_inj (a b : UInt64) : toBeBytes a = toBeBytes b ↔ a = b := by
  unfold toBeBytes
  rw [Bytes.ofNat_inj a.toNat_lt b.toNat_lt, UInt64.toNat_inj]

/-- An `i64` as eight big-endian bytes of its two's complement. -/
def i64ToBeBytes (value : Int64) : List UInt8 := toBeBytes value.toUInt64

@[simp] theorem length_i64ToBeBytes (value : Int64) : (i64ToBeBytes value).length = 8 :=
  length_toBeBytes value.toUInt64

theorem i64ToBeBytes_inj (a b : Int64) : i64ToBeBytes a = i64ToBeBytes b ↔ a = b := by
  unfold i64ToBeBytes
  rw [toBeBytes_inj]
  cases a
  cases b
  simp

/-! ## Basis points and payouts -/

def BasisPoints.new (value : UInt16) : Except DomainError BasisPoints :=
  if value > basisPointsTotal then .error (.basisPointsOutOfRange value) else .ok ⟨value⟩

structure PayoutSplit where
  winner : BasisPoints
  organizer : BasisPoints
  platform : BasisPoints
  deriving DecidableEq

/-- The three parts added as `u32`, which holds the sum of any three `u16`. -/
def PayoutSplit.total (split : PayoutSplit) : UInt32 :=
  split.winner.asU16.toUInt32 + split.organizer.asU16.toUInt32 + split.platform.asU16.toUInt32

def PayoutSplit.new (winner organizer platform : BasisPoints) : Except DomainError PayoutSplit :=
  let split : PayoutSplit := ⟨winner, organizer, platform⟩
  if split.total ≠ basisPointsTotal.toUInt32 then .error (.invalidPayoutSplit split.total)
  else .ok split

def PayoutSplit.isValid (split : PayoutSplit) : Bool :=
  split.total == basisPointsTotal.toUInt32

structure PayoutAmounts where
  winner : Sats
  organizer : Sats
  platform : Sats
  deriving DecidableEq

/-- One share of the pool: a `u128` product and quotient, cast to `u64`. -/
def share (pool : UInt64) (points : BasisPoints) : UInt64 :=
  UInt64.ofNat (pool.toNat * points.asU16.toNat / basisPointsTotal.toNat)

/-- The two unchecked subtractions are the wrapping ones of a release build. -/
def PayoutSplit.allocate (split : PayoutSplit) (pool : Sats) : PayoutAmounts :=
  let winner := share pool.asU64 split.winner
  let organizer := share pool.asU64 split.organizer
  ⟨⟨winner⟩, ⟨organizer⟩, ⟨pool.asU64 - winner - organizer⟩⟩

def PayoutAmounts.checkedTotal (amounts : PayoutAmounts) : Option Sats :=
  ((checkedAdd amounts.winner.asU64 amounts.organizer.asU64).bind fun total =>
    checkedAdd total amounts.platform.asU64).map Sats.mk

/-- The three parts as natural numbers. -/
def PayoutSplit.bps (split : PayoutSplit) : ℕ :=
  split.winner.asU16.toNat + split.organizer.asU16.toNat + split.platform.asU16.toNat

theorem PayoutSplit.toNat_total (split : PayoutSplit) : split.total.toNat = split.bps := by
  have hw := split.winner.asU16.toNat_lt
  have ho := split.organizer.asU16.toNat_lt
  have hp := split.platform.asU16.toNat_lt
  simp only [total, bps, UInt32.toNat_add, UInt16.toNat_toUInt32]
  omega

theorem PayoutSplit.isValid_iff (split : PayoutSplit) : split.isValid = true ↔ split.bps = 10000 := by
  rw [isValid, beq_iff_eq, ← UInt32.toNat_inj, toNat_total]
  rfl

theorem PayoutSplit.new_eq_ok_iff (winner organizer platform : BasisPoints) (split : PayoutSplit) :
    PayoutSplit.new winner organizer platform = .ok split ↔
      split = ⟨winner, organizer, platform⟩ ∧ split.bps = 10000 := by
  rw [← split.isValid_iff, isValid, beq_iff_eq]
  simp only [PayoutSplit.new]
  split
  · rename_i h
    simp only [reduceCtorEq, false_iff, not_and]
    rintro rfl
    exact h
  · rename_i h
    simp only [Except.ok.injEq]
    constructor
    · rintro rfl
      exact ⟨rfl, not_not.mp h⟩
    · rintro ⟨rfl, -⟩
      rfl

/-- The exact floor of a share, which never exceeds the pool. -/
def floorShare (pool bps : ℕ) : ℕ := pool * bps / 10000

theorem floorShare_le {pool bps : ℕ} (h : bps ≤ 10000) : floorShare pool bps ≤ pool := by
  unfold floorShare
  calc pool * bps / 10000 ≤ pool * 10000 / 10000 :=
        Nat.div_le_div_right (Nat.mul_le_mul_left pool h)
    _ = pool := by simp

theorem toNat_share {pool : UInt64} {points : BasisPoints} (h : points.asU16.toNat ≤ 10000) :
    (share pool points).toNat = floorShare pool.toNat points.asU16.toNat := by
  have hle : floorShare pool.toNat points.asU16.toNat ≤ pool.toNat := floorShare_le h
  have hlt := pool.toNat_lt
  have htotal : basisPointsTotal.toNat = 10000 := rfl
  rw [share, htotal, UInt64.toNat_ofNat', Nat.mod_eq_of_lt]
  · rfl
  · exact lt_of_le_of_lt hle hlt

theorem floorShare_add_le {pool a b : ℕ} (h : a + b ≤ 10000) :
    floorShare pool a + floorShare pool b ≤ pool := by
  calc floorShare pool a + floorShare pool b ≤ (pool * a + pool * b) / 10000 :=
        Nat.div_add_div_le_add_div
    _ = floorShare pool (a + b) := by rw [floorShare, Nat.mul_add]
    _ ≤ pool := floorShare_le h

/-- The amounts a valid split allocates, in exact arithmetic. -/
structure Allocated (split : PayoutSplit) (pool : Sats) (amounts : PayoutAmounts) : Prop where
  winner : amounts.winner.asU64.toNat = floorShare pool.asU64.toNat split.winner.asU16.toNat
  organizer :
    amounts.organizer.asU64.toNat = floorShare pool.asU64.toNat split.organizer.asU16.toNat
  total : amounts.winner.asU64.toNat + amounts.organizer.asU64.toNat +
    amounts.platform.asU64.toNat = pool.asU64.toNat

theorem PayoutSplit.allocate_spec {split : PayoutSplit} (h : split.bps = 10000) (pool : Sats) :
    Allocated split pool (split.allocate pool) := by
  unfold bps at h
  have hwinner : (share pool.asU64 split.winner).toNat = _ := toNat_share (by omega)
  have horganizer : (share pool.asU64 split.organizer).toNat = _ := toNat_share (by omega)
  have hsum : floorShare pool.asU64.toNat split.winner.asU16.toNat +
      floorShare pool.asU64.toNat split.organizer.asU16.toNat ≤ pool.asU64.toNat :=
    floorShare_add_le (by omega)
  refine ⟨hwinner, horganizer, ?_⟩
  simp only [allocate]
  rw [UInt64.toNat_sub_of_le, UInt64.toNat_sub_of_le, hwinner, horganizer]
  · omega
  · rw [UInt64.le_iff_toNat_le]
    omega
  · rw [UInt64.le_iff_toNat_le, UInt64.toNat_sub_of_le]
    · omega
    · rw [UInt64.le_iff_toNat_le]
      omega

theorem Allocated.unique {split : PayoutSplit} {pool : Sats} {a b : PayoutAmounts}
    (ha : Allocated split pool a) (hb : Allocated split pool b) : a = b := by
  obtain ⟨⟨aw⟩, ⟨ao⟩, ⟨ap⟩⟩ := a
  obtain ⟨⟨bw⟩, ⟨bo⟩, ⟨bp⟩⟩ := b
  have hw : aw = bw := UInt64.toNat_inj.mp (ha.winner.trans hb.winner.symm)
  have ho : ao = bo := UInt64.toNat_inj.mp (ha.organizer.trans hb.organizer.symm)
  have hp : ap = bp := by
    have ha := ha.total
    have hb := hb.total
    subst hw ho
    exact UInt64.toNat_inj.mp (by simp only at ha hb; omega)
  rw [hw, ho, hp]

theorem PayoutAmounts.checkedTotal_eq_some_iff (amounts : PayoutAmounts) (pool : Sats) :
    amounts.checkedTotal = some pool ↔ amounts.winner.asU64.toNat +
      amounts.organizer.asU64.toNat + amounts.platform.asU64.toNat = pool.asU64.toNat := by
  simp only [checkedTotal, Option.map_eq_some_iff, Option.bind_eq_some_iff,
    checkedAdd_eq_some_iff]
  constructor
  · rintro ⟨total, ⟨front, hfront, htotal⟩, rfl⟩
    change _ = total.toNat
    omega
  · intro h
    have hlt := pool.asU64.toNat_lt
    have hfront : (amounts.winner.asU64 + amounts.organizer.asU64).toNat =
        amounts.winner.asU64.toNat + amounts.organizer.asU64.toNat := by
      rw [UInt64.toNat_add]
      omega
    exact ⟨pool.asU64, ⟨_, hfront, by omega⟩, rfl⟩

/-! ## Ticket ranges -/

/-- Half-open; deserialisation also builds ranges that `TicketRange.new` rejects. -/
structure TicketRange where
  start : UInt64
  stop : UInt64
  deriving DecidableEq

def TicketRange.new (start stop : UInt64) : Except DomainError TicketRange :=
  if start ≥ stop then .error (.invalidTicketRange start stop) else .ok ⟨start, stop⟩

/-- `end.saturating_sub(start)`. -/
def TicketRange.count (range : TicketRange) : UInt64 :=
  if range.start ≤ range.stop then range.stop - range.start else 0

def TicketRange.isValid (range : TicketRange) : Bool := range.start < range.stop

def TicketRange.contains (range : TicketRange) (ticket : UInt64) : Bool :=
  range.start ≤ ticket && ticket < range.stop

theorem TicketRange.new_eq_ok_iff (start stop : UInt64) (range : TicketRange) :
    TicketRange.new start stop = .ok range ↔ range = ⟨start, stop⟩ ∧ start.toNat < stop.toNat := by
  unfold TicketRange.new
  split
  · rename_i h
    rw [ge_iff_le, UInt64.le_iff_toNat_le] at h
    simp only [reduceCtorEq, false_iff, not_and]
    omega
  · rename_i h
    rw [ge_iff_le, UInt64.le_iff_toNat_le] at h
    simp only [Except.ok.injEq]
    exact ⟨fun heq => ⟨heq.symm, by omega⟩, fun ⟨heq, _⟩ => heq.symm⟩

theorem TicketRange.toNat_count {range : TicketRange} (h : range.start.toNat < range.stop.toNat) :
    range.count.toNat = range.stop.toNat - range.start.toNat := by
  have hle : range.start ≤ range.stop := UInt64.le_iff_toNat_le.mpr h.le
  rw [count, if_pos hle, UInt64.toNat_sub_of_le _ _ hle]

theorem TicketRange.isValid_iff (range : TicketRange) :
    range.isValid = true ↔ range.start.toNat < range.stop.toNat := by
  simp [isValid, UInt64.lt_iff_toNat_lt]

theorem TicketRange.contains_iff (range : TicketRange) (ticket : UInt64) :
    range.contains ticket = true ↔
      range.start.toNat ≤ ticket.toNat ∧ ticket.toNat < range.stop.toNat := by
  simp [contains, UInt64.lt_iff_toNat_lt, UInt64.le_iff_toNat_le]

end OpenPool
