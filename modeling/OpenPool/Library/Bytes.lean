import Mathlib.Algebra.BigOperators.Fin
import Mathlib.Data.Nat.Count
import Mathlib.Data.Nat.Digits.Lemmas
import Mathlib.SetTheory.Cardinal.Finite

/-! # Fixed-width byte strings and big-endian integers -/

namespace Bytes

/-- A byte string that carries its length. -/
abbrev Sized (n : ℕ) := {bytes : List UInt8 // bytes.length = n}

/-- The same byte `n` times. -/
def Sized.replicate (n : ℕ) (byte : UInt8) : Sized n := ⟨List.replicate n byte, List.length_replicate⟩

@[simp] theorem length_sized {n : ℕ} (bytes : Sized n) : bytes.val.length = n := bytes.property

/-- The low `width` bytes of `value`, most significant byte first. -/
def ofNat : ℕ → ℕ → List UInt8
  | 0, _ => []
  | width + 1, value => ofNat width (value / 256) ++ [UInt8.ofNat value]

/-- A byte string read as a big-endian integer. -/
def toNat (bytes : List UInt8) : ℕ :=
  Nat.ofDigits 256 (bytes.reverse.map UInt8.toNat)

@[simp] theorem length_ofNat (width value : ℕ) : (ofNat width value).length = width := by
  induction width generalizing value with
  | zero => rfl
  | succ width ih => simp [ofNat, ih]

@[simp] theorem toNat_nil : toNat [] = 0 := rfl

theorem toNat_concat (bytes : List UInt8) (byte : UInt8) :
    toNat (bytes ++ [byte]) = toNat bytes * 256 + byte.toNat := by
  simp [toNat, Nat.ofDigits_cons]
  omega

theorem toNat_cons (byte : UInt8) (bytes : List UInt8) :
    toNat (byte :: bytes) = byte.toNat * 256 ^ bytes.length + toNat bytes := by
  simp only [toNat, List.reverse_cons, List.map_append, Nat.ofDigits_append, List.length_map,
    List.length_reverse, List.map_cons, List.map_nil, Nat.ofDigits_singleton]
  rw [Nat.add_comm, Nat.mul_comm]

/-- Each byte counts for the power of 256 of its place. -/
theorem toNat_eq_sum (bytes : List UInt8) :
    toNat bytes = ∑ i : Fin bytes.length, (bytes.get i).toNat * 256 ^ (bytes.length - 1 - i) := by
  induction bytes with
  | nil => rfl
  | cons byte bytes ih =>
      rw [toNat_cons, ih]
      change _ = ∑ i : Fin (bytes.length + 1), _
      rw [Fin.sum_univ_succ]
      congr 1
      apply Finset.sum_congr rfl
      intro i _
      have hplace : bytes.length - 1 - i.val = (byte :: bytes).length - 1 - i.succ.val := by
        simp only [List.length_cons, Fin.val_succ]
        omega
      rw [hplace]
      rfl

theorem toNat_sized {n : ℕ} (bytes : Sized n) :
    toNat bytes.val = ∑ i : Fin n, (bytes.val.get (i.cast bytes.property.symm)).toNat *
      256 ^ (n - 1 - i) := by
  obtain ⟨bytes, rfl⟩ := bytes
  exact toNat_eq_sum bytes

/-- Reducing after every byte gives the remainder of the whole integer. -/
theorem foldl_mod (modulus : ℕ) (bytes : List UInt8) :
    bytes.foldl (fun remainder byte => (remainder * 256 + byte.toNat) % modulus) 0 =
      toNat bytes % modulus := by
  induction bytes using List.reverseRecOn with
  | nil => simp
  | append_singleton bytes byte ih =>
      rw [List.foldl_append, List.foldl_cons, List.foldl_nil, ih, toNat_concat]
      exact (((Nat.mod_modEq _ _).mul_right 256).add_right _)

theorem toNat_lt (bytes : List UInt8) : toNat bytes < 256 ^ bytes.length := by
  have h := Nat.ofDigits_lt_base_pow_length (b := 256)
    (l := bytes.reverse.map UInt8.toNat) (by omega)
    (by
      intro digit hdigit
      obtain ⟨byte, -, rfl⟩ := List.mem_map.mp hdigit
      exact byte.toNat_lt)
  simpa [toNat] using h

/-- Writing and reading back loses nothing below `256 ^ width`. -/
theorem toNat_ofNat {width value : ℕ} (h : value < 256 ^ width) :
    toNat (ofNat width value) = value := by
  induction width generalizing value with
  | zero =>
      have hzero : value = 0 := by simpa using h
      subst value
      rfl
  | succ width ih =>
      have hquot : value / 256 < 256 ^ width :=
        Nat.div_lt_of_lt_mul (by rwa [pow_succ'] at h)
      rw [ofNat, toNat_concat, ih hquot, UInt8.toNat_ofNat']
      omega

theorem ofNat_inj {width m n : ℕ} (hm : m < 256 ^ width) (hn : n < 256 ^ width) :
    ofNat width m = ofNat width n ↔ m = n := by
  refine ⟨fun h => ?_, fun h => h ▸ rfl⟩
  rw [← toNat_ofNat hm, h, toNat_ofNat hn]

/-- Reading and writing back loses nothing either. -/
theorem ofNat_toNat (bytes : List UInt8) : ofNat bytes.length (toNat bytes) = bytes := by
  induction bytes using List.reverseRecOn with
  | nil => rfl
  | append_singleton bytes byte ih =>
      have hlt := byte.toNat_lt
      have hquot : (toNat bytes * 256 + byte.toNat) / 256 = toNat bytes := by omega
      have hbyte : UInt8.ofNat (toNat bytes * 256 + byte.toNat) = byte := by
        apply UInt8.toNat_inj.mp
        rw [UInt8.toNat_ofNat']
        omega
      rw [List.length_append, List.length_singleton, ofNat, toNat_concat, hquot, ih, hbyte]

/-- Byte strings of one length are numbered by the integers they read as. -/
def equivFin (n : ℕ) : Sized n ≃ Fin (256 ^ n) where
  toFun bytes := ⟨toNat bytes.val, by simpa using toNat_lt bytes.val⟩
  invFun value := ⟨ofNat n value, length_ofNat n value⟩
  left_inv bytes := by
    apply Subtype.ext
    simpa using ofNat_toNat bytes.val
  right_inv value := Fin.ext (toNat_ofNat value.isLt)

open scoped Count in
/-- Counting byte strings is counting the integers they read as. -/
theorem card_sized (n : ℕ) (p : ℕ → Prop) [DecidablePred p] :
    Nat.card {bytes : Sized n // p (toNat bytes.val)} = Nat.count p (256 ^ n) := by
  rw [Nat.count_eq_card_fintype, ← Nat.card_eq_fintype_card]
  apply Nat.card_congr
  calc {bytes : Sized n // p (toNat bytes.val)}
      ≃ {value : Fin (256 ^ n) // p value} := (equivFin n).subtypeEquiv fun _ => Iff.rfl
    _ ≃ {value : {k // k < 256 ^ n} // p value} := Fin.equivSubtype.subtypeEquiv fun _ => Iff.rfl
    _ ≃ {k // k < 256 ^ n ∧ p k} := Equiv.subtypeSubtypeEquivSubtypeInter _ p

/-- The concatenation of fields of fixed widths determines every field. -/
theorem flatten_inj {xs ys : List (List UInt8)} (hwidth : xs.map List.length = ys.map List.length) :
    xs.flatten = ys.flatten ↔ xs = ys := by
  constructor
  · induction xs generalizing ys with
    | nil =>
        intro _
        cases ys with
        | nil => rfl
        | cons y ys => simp at hwidth
    | cons x xs ih =>
        cases ys with
        | nil => simp at hwidth
        | cons y ys =>
            intro h
            simp only [List.map_cons, List.cons.injEq] at hwidth
            obtain ⟨hhead, htail⟩ := List.append_inj h hwidth.1
            rw [hhead, ih hwidth.2 htail]
  · rintro rfl
    rfl

/-! ## Hexadecimal text -/

def hexDigit (n : ℕ) : Char := Char.ofNat (if n < 10 then 48 + n else 87 + n)

/-- Two lowercase digits a byte. -/
def toHex (bytes : List UInt8) : List Char :=
  bytes.flatMap fun byte => [hexDigit (byte.toNat / 16), hexDigit (byte.toNat % 16)]

theorem hexDigit_inj : ∀ a b : Fin 16, hexDigit a = hexDigit b → a = b := by decide

theorem toHex_append (front back : List UInt8) :
    toHex (front ++ back) = toHex front ++ toHex back := by
  simp [toHex]

/-- A character that is no digit does not occur in a hexadecimal form. -/
theorem not_mem_toHex {c : Char} (hdigit : ∀ a : Fin 16, hexDigit a ≠ c) (bytes : List UInt8) :
    c ∉ toHex bytes := by
  intro h
  obtain ⟨byte, -, hmem⟩ := List.mem_flatMap.mp h
  have hlt := byte.toNat_lt
  simp only [List.mem_cons, List.not_mem_nil, or_false] at hmem
  rcases hmem with hmem | hmem
  · exact hdigit ⟨byte.toNat / 16, by omega⟩ hmem.symm
  · exact hdigit ⟨byte.toNat % 16, by omega⟩ hmem.symm

theorem toHex_inj {xs ys : List UInt8} : toHex xs = toHex ys ↔ xs = ys := by
  constructor
  · induction xs generalizing ys with
    | nil =>
        intro h
        cases ys with
        | nil => rfl
        | cons y ys => simp [toHex] at h
    | cons x xs ih =>
        intro h
        cases ys with
        | nil => simp [toHex] at h
        | cons y ys =>
            have hx := x.toNat_lt
            have hy := y.toNat_lt
            simp only [toHex, List.flatMap_cons, List.cons_append, List.nil_append,
              List.cons.injEq] at h
            obtain ⟨hhigh, hlow, htail⟩ := h
            have hhigh := Fin.mk.inj
              (hexDigit_inj ⟨x.toNat / 16, by omega⟩ ⟨y.toNat / 16, by omega⟩ hhigh)
            have hlow := Fin.mk.inj
              (hexDigit_inj ⟨x.toNat % 16, by omega⟩ ⟨y.toNat % 16, by omega⟩ hlow)
            rw [ih htail, UInt8.toNat_inj.mp (by omega : x.toNat = y.toNat)]
  · rintro rfl
    rfl

end Bytes
