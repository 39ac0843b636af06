import OpenPool.Library.Bytes

/-! # Keyed hashes

HMAC over a hash function with blocks of 64 bytes and 32 bytes of output. -/

namespace Hmac

open Bytes

variable (hash : List UInt8 → Sized 32)

/-- A key longer than a block is hashed first. -/
def blockKey (key : List UInt8) : List UInt8 :=
  let short := if key.length ≤ 64 then key else (hash key).val
  short ++ List.replicate (64 - short.length) 0

def mac (key message : List UInt8) : Sized 32 :=
  let padded := blockKey hash key
  hash (padded.map (· ^^^ 0x5c) ++ (hash (padded.map (· ^^^ 0x36) ++ message)).val)

end Hmac
