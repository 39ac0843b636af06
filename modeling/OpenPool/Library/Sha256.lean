import OpenPool.Library.Bytes

/-! # SHA-256

The compression function over 32-bit words held as naturals, written for evaluation:
it is the hash at which results about an arbitrary hash function are instantiated. -/

namespace Sha256

def roundConstants : List ℕ := [
  0x428a2f98, 0x71374491, 0xb5c0fbcf, 0xe9b5dba5, 0x3956c25b, 0x59f111f1, 0x923f82a4, 0xab1c5ed5,
  0xd807aa98, 0x12835b01, 0x243185be, 0x550c7dc3, 0x72be5d74, 0x80deb1fe, 0x9bdc06a7, 0xc19bf174,
  0xe49b69c1, 0xefbe4786, 0x0fc19dc6, 0x240ca1cc, 0x2de92c6f, 0x4a7484aa, 0x5cb0a9dc, 0x76f988da,
  0x983e5152, 0xa831c66d, 0xb00327c8, 0xbf597fc7, 0xc6e00bf3, 0xd5a79147, 0x06ca6351, 0x14292967,
  0x27b70a85, 0x2e1b2138, 0x4d2c6dfc, 0x53380d13, 0x650a7354, 0x766a0abb, 0x81c2c92e, 0x92722c85,
  0xa2bfe8a1, 0xa81a664b, 0xc24b8b70, 0xc76c51a3, 0xd192e819, 0xd6990624, 0xf40e3585, 0x106aa070,
  0x19a4c116, 0x1e376c08, 0x2748774c, 0x34b0bcb5, 0x391c0cb3, 0x4ed8aa4a, 0x5b9cca4f, 0x682e6ff3,
  0x748f82ee, 0x78a5636f, 0x84c87814, 0x8cc70208, 0x90befffa, 0xa4506ceb, 0xbef9a3f7, 0xc67178f2]

def rotateRight (amount word : ℕ) : ℕ :=
  (word >>> amount ||| word <<< (32 - amount)) % 2 ^ 32

structure State where
  (a b c d e f g h : ℕ)

def initial : State :=
  ⟨0x6a09e667, 0xbb67ae85, 0x3c6ef372, 0xa54ff53a, 0x510e527f, 0x9b05688c, 0x1f83d9ab, 0x5be0cd19⟩

/-- One round, for the sum of its constant and its schedule word. -/
def round (s : State) (input : ℕ) : State :=
  let choice := (s.e &&& s.f) ^^^ ((0xffffffff - s.e) &&& s.g)
  let majority := (s.a &&& s.b) ^^^ (s.a &&& s.c) ^^^ (s.b &&& s.c)
  let t1 := s.h + (rotateRight 6 s.e ^^^ rotateRight 11 s.e ^^^ rotateRight 25 s.e) + choice + input
  let t2 := (rotateRight 2 s.a ^^^ rotateRight 13 s.a ^^^ rotateRight 22 s.a) + majority
  ⟨(t1 + t2) % 2 ^ 32, s.a, s.b, s.c, (s.d + t1) % 2 ^ 32, s.e, s.f, s.g⟩

/-- The message schedule, extended by `count` words; the latest word comes first. -/
def extend : ℕ → List ℕ → List ℕ
  | 0, words => words
  | count + 1, words =>
      let small0 := fun x => rotateRight 7 x ^^^ rotateRight 18 x ^^^ (x >>> 3)
      let small1 := fun x => rotateRight 17 x ^^^ rotateRight 19 x ^^^ (x >>> 10)
      extend count ((small1 (words.getD 1 0) + words.getD 6 0 + small0 (words.getD 14 0) +
        words.getD 15 0) % 2 ^ 32 :: words)

def compress (s : State) (words : List ℕ) : State :=
  let schedule := (extend 48 words.reverse).reverse
  let t := (List.zipWith (· + ·) roundConstants schedule).foldl round s
  ⟨(s.a + t.a) % 2 ^ 32, (s.b + t.b) % 2 ^ 32, (s.c + t.c) % 2 ^ 32, (s.d + t.d) % 2 ^ 32,
    (s.e + t.e) % 2 ^ 32, (s.f + t.f) % 2 ^ 32, (s.g + t.g) % 2 ^ 32, (s.h + t.h) % 2 ^ 32⟩

/-- The first `count` big-endian 32-bit words of a byte string. -/
def words : ℕ → List UInt8 → List ℕ
  | 0, _ => []
  | count + 1, bytes => Bytes.toNat (bytes.take 4) :: words count (bytes.drop 4)

def blocks : ℕ → List UInt8 → State → State
  | 0, _, s => s
  | count + 1, bytes, s => blocks count (bytes.drop 64) (compress s (words 16 (bytes.take 64)))

def pad (message : List UInt8) : List UInt8 :=
  message ++ 0x80 :: List.replicate ((119 - message.length % 64) % 64) 0 ++
    Bytes.ofNat 8 (8 * message.length)

def digest (message : List UInt8) : Bytes.Sized 32 :=
  let padded := pad message
  let s := blocks (padded.length / 64) padded initial
  ⟨[s.a, s.b, s.c, s.d, s.e, s.f, s.g, s.h].flatMap (Bytes.ofNat 4), by simp⟩

example : Bytes.toNat (digest [0x61, 0x62, 0x63]).val =
    0xba7816bf8f01cfea414140de5dae2223b00361a396177a9cb410ff61f20015ad := by decide +kernel

end Sha256
