import OpenPool.Api.Http

/-! # Encrypted payment addresses

A version marker, a nonce of twelve bytes, and the sealed text. -/

namespace OpenPool

open Fallible Text

/-- `Aes256Gcm` under a key: sealing and opening with a nonce. -/
structure Aead where
  encrypt : (nonce plaintext : List UInt8) → Option (List UInt8)
  decrypt : (nonce ciphertext : List UInt8) → Option (List UInt8)

/-- What is documented of the cipher: opening undoes sealing, and the tag is never empty. -/
structure Aead.Lawful (aead : Aead) : Prop where
  decrypt_encrypt : ∀ {nonce plaintext ciphertext}, aead.encrypt nonce plaintext = some ciphertext →
    aead.decrypt nonce ciphertext = some plaintext
  tagged : ∀ {nonce plaintext ciphertext}, aead.encrypt nonce plaintext = some ciphertext →
    ciphertext ≠ []

structure AddressCipher where
  aead : Aead

inductive ApiStartupError where
  | invalidEncryptionKey
  | unsupportedCiphertext
  deriving DecidableEq

def ApiStartupError.toString : ApiStartupError → String
  | invalidEncryptionKey => "ADDRESS_ENCRYPTION_KEY must be base64-encoded 32-byte key material"
  | unsupportedCiphertext => "encrypted payment address uses an unsupported key or format"

/-- A fresh nonce for each address. -/
abbrev AeadNonce := Bytes.Sized 12

namespace AddressCipher

/-- `OPENPOOL-AEAD-V1` and a zero byte. -/
def marker : List UInt8 := utf8 "OPENPOOL-AEAD-V1" ++ [0]

def encrypt (cipher : AddressCipher) (nonce : AeadNonce) (value : String) :
    Except ApiError (List UInt8) := do
  let ciphertext ← orElse (cipher.aead.encrypt nonce.val (utf8 value))
    (.internal "could not encrypt payment address")
  return marker ++ nonce.val ++ ciphertext

def decrypt (cipher : AddressCipher) (value : List UInt8) : Except ApiStartupError String := do
  ensure (marker <+: value ∧ marker.length + 12 < value.length) .unsupportedCiphertext
  let sealed := value.drop marker.length
  let plaintext ← orElse (cipher.aead.decrypt (sealed.take 12) (sealed.drop 12))
    .unsupportedCiphertext
  orElse (ofUtf8 plaintext) .unsupportedCiphertext

section Format

variable {cipher : AddressCipher} {value : List UInt8} {address : String}

theorem encrypt_eq_ok_iff {nonce : AeadNonce} : cipher.encrypt nonce address = .ok value ↔
    ∃ ciphertext, cipher.aead.encrypt nonce.val (utf8 address) = some ciphertext ∧
      value = marker ++ nonce.val ++ ciphertext := by
  simp only [encrypt, bind_eq_ok_iff, orElse_eq_ok_iff, pure_eq_ok_iff, eq_comm (b := value)]

/-- Exactly the values of this format open, under a nonce that stands in them. -/
theorem decrypt_eq_ok_iff : cipher.decrypt value = .ok address ↔
    ∃ (nonce : AeadNonce) (ciphertext : List UInt8), ciphertext ≠ [] ∧
      value = marker ++ nonce.val ++ ciphertext ∧
      cipher.aead.decrypt nonce.val ciphertext = some (utf8 address) := by
  simp only [decrypt, bind_eq_ok_iff, ensure_eq_ok_iff, orElse_eq_ok_iff, ofUtf8_eq_some_iff]
  constructor
  · rintro ⟨-, ⟨⟨tail, rfl⟩, hlength⟩, plaintext, hopen, rfl⟩
    rw [List.length_append] at hlength
    rw [List.drop_left] at hopen
    refine ⟨⟨tail.take 12, by rw [List.length_take]; omega⟩, tail.drop 12, ?_, ?_, hopen⟩
    · intro hnil
      have := List.length_drop (l := tail) (i := 12)
      rw [hnil, List.length_nil] at this
      omega
    · rw [List.append_assoc, List.take_append_drop]
  · rintro ⟨nonce, ciphertext, hne, rfl, hopen⟩
    have hpos := List.length_pos_iff.mpr hne
    refine ⟨(), ⟨⟨_, (List.append_assoc ..).symm⟩, ?_⟩, utf8 address, ?_, rfl⟩
    · rw [List.length_append, List.length_append, nonce.property]
      omega
    · rw [List.append_assoc, List.drop_left, List.take_left' nonce.property,
        List.drop_left' nonce.property]
      exact hopen

/-- What was encrypted decrypts to the same address. -/
theorem decrypt_encrypt (hlawful : cipher.aead.Lawful) {nonce : AeadNonce}
    (h : cipher.encrypt nonce address = .ok value) : cipher.decrypt value = .ok address := by
  obtain ⟨ciphertext, hseal, rfl⟩ := encrypt_eq_ok_iff.mp h
  exact decrypt_eq_ok_iff.mpr
    ⟨nonce, ciphertext, hlawful.tagged hseal, rfl, hlawful.decrypt_encrypt hseal⟩

end Format

end AddressCipher

end OpenPool
