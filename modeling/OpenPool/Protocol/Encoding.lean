import OpenPool.Library.Hex
import OpenPool.Protocol.Ledger

/-! # Hashes as text -/

namespace OpenPool

open Fallible

def Hash32.toHex (hash : Hash32) : String := String.ofList (Bytes.toHex hash.val)

def Hash32.fromHex (value : String) : Except ProtocolError Hash32 := do
  let decoded ← orElse (Bytes.ofHex value.toList) .invalidHashEncoding
  if h : decoded.length = 32 then .ok ⟨decoded, h⟩ else .error .invalidHashEncoding

/-- Exactly the 64 digits of a hash are read, each in either case. -/
theorem Hash32.fromHex_eq_ok_iff (value : String) (hash : Hash32) :
    Hash32.fromHex value = .ok hash ↔ value.toList.map Char.toLower = Bytes.toHex hash.val := by
  simp only [Hash32.fromHex, bind_eq_ok_iff, orElse_eq_ok_iff, Bytes.ofHex_eq_some_iff]
  constructor
  · rintro ⟨decoded, hdecoded, h⟩
    split at h
    · cases h
      exact hdecoded
    · cases h
  · intro h
    exact ⟨hash.val, h, dif_pos hash.property⟩

theorem Hash32.fromHex_toHex (hash : Hash32) : Hash32.fromHex (Hash32.toHex hash) = .ok hash := by
  rw [Hash32.fromHex_eq_ok_iff, Hash32.toHex, String.toList_ofList]
  exact Bytes.map_toLower_toHex hash.val

end OpenPool
