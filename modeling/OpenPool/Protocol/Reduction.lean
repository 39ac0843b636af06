import OpenPool.Protocol.Draw

/-! # The modular reduction of the draw is exact

`winning_ticket` reduces the seed byte by byte in a `u128`. No product or sum overflows it, because
the remainder stays below a modulus that came from a `u64`. -/

namespace OpenPool

/-- `u128::from` on a `u64`. -/
def u128From (value : UInt64) : BitVec 128 := value.toBitVec.setWidth 128

/-- The body of the loop of `winning_ticket`, with the arithmetic of `u128`. -/
def reduceByte (modulus remainder : BitVec 128) (byte : UInt8) : BitVec 128 :=
  (remainder * 256 + byte.toBitVec.setWidth 128) % modulus

/-- The remainder after these bytes. -/
def reduce (modulus : BitVec 128) (bytes : List UInt8) : BitVec 128 :=
  bytes.foldl (reduceByte modulus) 0

/-- `winning_ticket` with machine words: the cast to `u64` keeps the low bits. -/
def winningTicketU128 (seed : Hash32) (totalTickets : UInt64) : Except ProtocolError UInt64 :=
  if totalTickets = 0 then .error .zeroTickets
  else .ok ⟨(reduce (u128From totalTickets) seed.val).setWidth 64⟩

section Reduction

variable {totalTickets : UInt64} {modulus remainder : BitVec 128}

theorem toNat_u128From (value : UInt64) : (u128From value).toNat = value.toNat := by
  have hlt := value.toNat_lt
  rw [u128From, BitVec.toNat_setWidth, UInt64.toNat_toBitVec, Nat.mod_eq_of_lt (by omega)]

theorem round_lt (hmodulus : modulus.toNat < 2 ^ 64) (hremainder : remainder.toNat < modulus.toNat)
    (byte : UInt8) : remainder.toNat * 256 + byte.toNat < 2 ^ 128 := by
  have hbyte : byte.toNat < 2 ^ 8 := byte.toNat_lt
  omega

/-- One round neither overflows nor leaves the range of the modulus. -/
theorem toNat_reduceByte (hmodulus : modulus.toNat < 2 ^ 64)
    (hremainder : remainder.toNat < modulus.toNat) (byte : UInt8) :
    (reduceByte modulus remainder byte).toNat =
      (remainder.toNat * 256 + byte.toNat) % modulus.toNat := by
  have hsum := round_lt hmodulus hremainder byte
  have hproduct : remainder.toNat * 256 < 2 ^ 128 :=
    (Nat.le_add_right _ byte.toNat).trans_lt hsum
  have hbyte : (byte.toBitVec.setWidth 128).toNat = byte.toNat := by
    have hlt : byte.toNat < 2 ^ 8 := byte.toNat_lt
    rw [BitVec.toNat_setWidth, UInt8.toNat_toBitVec, Nat.mod_eq_of_lt (by omega)]
  have hbase : (256 : BitVec 128).toNat = 256 := rfl
  rw [reduceByte, BitVec.toNat_umod, BitVec.toNat_add, BitVec.toNat_mul, hbyte, hbase,
    Nat.mod_eq_of_lt hproduct, Nat.mod_eq_of_lt hsum]

theorem reduce_concat (modulus : BitVec 128) (bytes : List UInt8) (byte : UInt8) :
    reduce modulus (bytes ++ [byte]) = reduceByte modulus (reduce modulus bytes) byte := by
  rw [reduce, List.foldl_append]
  rfl

/-- The remainder after some bytes is that of the integer they read as. -/
theorem toNat_reduce (hpos : 0 < modulus.toNat) (hmodulus : modulus.toNat < 2 ^ 64)
    (bytes : List UInt8) : (reduce modulus bytes).toNat = Bytes.toNat bytes % modulus.toNat := by
  induction bytes using List.reverseRecOn with
  | nil => simp [reduce]
  | append_singleton bytes byte ih =>
      have hlt : (reduce modulus bytes).toNat < modulus.toNat := by
        rw [ih]
        exact Nat.mod_lt _ hpos
      rw [reduce_concat, toNat_reduceByte hmodulus hlt, ih, Bytes.toNat_concat]
      exact ((Nat.mod_modEq _ _).mul_right 256).add_right _

theorem toNat_reduce_u128From (hpos : 0 < totalTickets.toNat) (bytes : List UInt8) :
    (reduce (u128From totalTickets) bytes).toNat = Bytes.toNat bytes % totalTickets.toNat := by
  have hmodulus := toNat_u128From totalTickets
  rw [← hmodulus] at hpos ⊢
  apply toNat_reduce hpos
  rw [hmodulus]
  exact totalTickets.toNat_lt

theorem winningTicketU128_eq (seed : Hash32) (totalTickets : UInt64) :
    winningTicketU128 seed totalTickets = winningTicket seed totalTickets := by
  unfold winningTicketU128 winningTicket
  by_cases hzero : totalTickets = 0
  · rw [if_pos hzero, if_pos hzero]
  · have hpos : 0 < totalTickets.toNat := by
      rw [Nat.pos_iff_ne_zero, ne_eq, ← UInt64.toNat_zero, UInt64.toNat_inj]
      exact hzero
    rw [if_neg hzero, if_neg hzero, Except.ok.injEq, ← UInt64.toNat_inj, Bytes.foldl_mod,
      ← toNat_reduce_u128From hpos]
    rfl

end Reduction

/-- The ticket is the seed, read as an integer with its first byte most significant, modulo the
number of tickets; no round overflows, and the cast at the end loses nothing. -/
theorem winning_ticket_exact (seed : Hash32) (totalTickets : UInt64)
    (hpos : 1 ≤ totalTickets.toNat) :
    (∃ ticket, winningTicket seed totalTickets = .ok ticket ∧
      winningTicketU128 seed totalTickets = .ok ticket ∧
      ticket.toNat = (∑ i : Fin 32, (seed.val.get (i.cast seed.property.symm)).toNat *
        256 ^ (31 - i.val)) % totalTickets.toNat ∧
      ticket.toNat = (reduce (u128From totalTickets) seed.val).toNat) ∧
    ∀ front byte back, seed.val = front ++ byte :: back →
      (reduce (u128From totalTickets) front).toNat < totalTickets.toNat ∧
      (reduce (u128From totalTickets) front).toNat * 256 + byte.toNat < 2 ^ 128 ∧
      (reduce (u128From totalTickets) (front ++ [byte])).toNat =
        ((reduce (u128From totalTickets) front).toNat * 256 + byte.toNat) %
          totalTickets.toNat := by
  have hmodulus := toNat_u128From totalTickets
  have hlt := totalTickets.toNat_lt
  constructor
  · have hvalue := Bytes.toNat_sized seed
    have hticket : (UInt64.ofNat (Bytes.toNat seed.val % totalTickets.toNat)).toNat =
        Bytes.toNat seed.val % totalTickets.toNat :=
      UInt64.toNat_ofNat_of_lt' ((Nat.mod_lt _ hpos).trans hlt)
    have hdraws := (winningTicket_eq_ok_iff seed totalTickets _).mpr ⟨hpos, hticket⟩
    refine ⟨_, hdraws, ?_, ?_, ?_⟩
    · rw [winningTicketU128_eq, hdraws]
    · rw [hticket, hvalue]
    · rw [hticket, toNat_reduce_u128From hpos]
  · intro front byte back _
    have hremainder : (reduce (u128From totalTickets) front).toNat < totalTickets.toNat := by
      rw [toNat_reduce_u128From hpos]
      exact Nat.mod_lt _ hpos
    rw [← hmodulus] at hremainder hlt ⊢
    refine ⟨hremainder, round_lt hlt hremainder byte, ?_⟩
    rw [reduce_concat, toNat_reduceByte hlt hremainder]

/-- The largest seed and the largest modulus: `2 ^ 64 - 1` divides `2 ^ 256 - 1`. -/
theorem winning_ticket_exact_largest :
    winningTicketU128 ⟨List.replicate 32 255, rfl⟩ 18446744073709551615 = .ok 0 := by
  obtain ⟨⟨ticket, -, hticket, hvalue, -⟩, -⟩ :=
    winning_ticket_exact ⟨List.replicate 32 255, rfl⟩ 18446744073709551615 (by decide)
  have hzero : ticket.toNat = 0 := by
    rw [hvalue]
    decide +kernel
  rw [hticket, UInt64.toNat_inj.mp (hzero.trans UInt64.toNat_zero.symm)]

end OpenPool
