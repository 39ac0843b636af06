import OpenPool.Library.Bytes

/-! # Reading hexadecimal text

What the `hex` crate decodes: an even number of digits, of either case. -/

namespace Bytes

/-- The value of a digit of either case. -/
def hexValue (c : Char) : Option ℕ :=
  if '0' ≤ c ∧ c ≤ '9' then some (c.toNat - 48)
  else if 'a' ≤ c ∧ c ≤ 'f' then some (c.toNat - 87)
  else if 'A' ≤ c ∧ c ≤ 'F' then some (c.toNat - 55)
  else none

/-- `hex::decode`, without the reason of a failure. -/
def ofHex : List Char → Option (List UInt8)
  | [] => some []
  | [_] => none
  | high :: low :: rest => do
      let high ← hexValue high
      let low ← hexValue low
      let bytes ← ofHex rest
      return UInt8.ofNat (high * 16 + low) :: bytes

/-! ## Digits -/

theorem toNat_toLower (c : Char) :
    c.toLower.toNat = if 65 ≤ c.toNat ∧ c.toNat ≤ 90 then c.toNat + 32 else c.toNat := by
  unfold Char.toLower
  split
  · rename_i h
    have hle : c.val.toNat ≤ 90 := h.2
    rw [if_pos ⟨h.1, h.2⟩]
    change (c.val + 32).toNat = c.val.toNat + 32
    rw [UInt32.toNat_add]
    change (c.val.toNat + 32) % 2 ^ 32 = _
    omega
  · rename_i h
    rw [if_neg fun h' => h ⟨h'.1, h'.2⟩]

theorem toNat_hexDigit {n : ℕ} (h : n < 16) :
    (hexDigit n).toNat = if n < 10 then 48 + n else 87 + n := by
  have hall : ∀ n : Fin 16, (hexDigit n).toNat = if n.val < 10 then 48 + n.val else 87 + n.val := by
    decide
  exact hall ⟨n, h⟩

theorem hexValue_eq_some_iff (c : Char) (n : ℕ) :
    hexValue c = some n ↔ n < 16 ∧ c.toLower = hexDigit n := by
  have hle : ∀ {a b : Char}, a ≤ b ↔ a.toNat ≤ b.toNat := Iff.rfl
  have hdigit : ∀ h : n < 16, (c.toLower = hexDigit n ↔
      c.toLower.toNat = if n < 10 then 48 + n else 87 + n) :=
    fun h => by rw [← Char.toNat_inj, toNat_hexDigit h]
  have hbounds : '0'.toNat = 48 ∧ '9'.toNat = 57 ∧ 'a'.toNat = 97 ∧ 'f'.toNat = 102 ∧
      'A'.toNat = 65 ∧ 'F'.toNat = 70 := ⟨rfl, rfl, rfl, rfl, rfl, rfl⟩
  simp only [hexValue, hle, hbounds]
  constructor
  · intro h
    have hn : n < 16 := by
      split at h
      · cases h
        omega
      · split at h
        · cases h
          omega
        · split at h
          · cases h
            omega
          · cases h
    refine ⟨hn, (hdigit hn).mpr ?_⟩
    rw [toNat_toLower]
    grind
  · rintro ⟨hn, h⟩
    rw [hdigit hn, toNat_toLower] at h
    grind

/-! ## Texts -/

/-- Exactly the digits of the bytes can be read, each in either case. -/
theorem ofHex_eq_some_iff (text : List Char) (bytes : List UInt8) :
    ofHex text = some bytes ↔ text.map Char.toLower = toHex bytes := by
  induction text using ofHex.induct generalizing bytes with
  | case1 =>
      cases bytes with
      | nil => exact ⟨fun _ => rfl, fun _ => rfl⟩
      | cons byte bytes => simp [ofHex, toHex]
  | case2 c =>
      cases bytes with
      | nil => simp [ofHex, toHex]
      | cons byte bytes => simp [ofHex, toHex]
  | case3 high low rest ih =>
      simp only [ofHex, Option.bind_eq_bind, Option.bind_eq_some_iff, Option.pure_def,
        Option.some.injEq, hexValue_eq_some_iff, ih, List.map_cons]
      constructor
      · rintro ⟨a, ⟨ha, hhigh⟩, b, ⟨hb, hlow⟩, tail, htail, rfl⟩
        have hbyte : (UInt8.ofNat (a * 16 + b)).toNat = a * 16 + b :=
          UInt8.toNat_ofNat_of_lt' (by change _ < 256; omega)
        rw [hhigh, hlow, htail]
        simp only [toHex, List.flatMap_cons, hbyte, List.cons_append, List.nil_append]
        congr 3 <;> omega
      · intro h
        cases bytes with
        | nil => simp [toHex] at h
        | cons byte bytes =>
            have hlt := byte.toNat_lt
            simp only [toHex, List.flatMap_cons, List.cons_append, List.nil_append,
              List.cons.injEq] at h
            obtain ⟨hhigh, hlow, hrest⟩ := h
            refine ⟨byte.toNat / 16, ⟨by omega, hhigh⟩, byte.toNat % 16, ⟨by omega, hlow⟩, bytes,
              hrest, ?_⟩
            rw [Nat.div_add_mod' byte.toNat 16, UInt8.ofNat_toNat]

theorem toLower_hexDigit : ∀ n : Fin 16, (hexDigit n).toLower = hexDigit n := by decide

theorem map_toLower_toHex (bytes : List UInt8) : (toHex bytes).map Char.toLower = toHex bytes := by
  induction bytes with
  | nil => rfl
  | cons byte bytes ih =>
      have hlt := byte.toNat_lt
      have hhigh := toLower_hexDigit ⟨byte.toNat / 16, by omega⟩
      have hlow := toLower_hexDigit ⟨byte.toNat % 16, by omega⟩
      change (hexDigit (byte.toNat / 16) :: hexDigit (byte.toNat % 16) :: toHex bytes).map _ = _
      rw [List.map_cons, List.map_cons, hhigh, hlow, ih]
      rfl

end Bytes
