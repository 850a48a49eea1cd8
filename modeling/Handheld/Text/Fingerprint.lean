import Handheld.Text.Number

/-!
# Fingerprints

A fingerprint stands for a long run of bytes in a listing.  It is the 64-bit FNV-1a hash: each
byte in turn is mixed into the hash by an exclusive or, and the hash is multiplied by a prime
modulo `2 ^ 64`.
-/

namespace Handheld.Text

def fingerprintStart : UInt64 := 0xcbf29ce484222325

/-- The fingerprint with one more byte. -/
def mixByte (hash : UInt64) (byte : UInt8) : UInt64 :=
  (hash ^^^ byte.toUInt64) * 0x100000001b3

/-- The fingerprint with the four bytes of a word, the most significant first. -/
def mixWord (hash : UInt64) (word : UInt32) : UInt64 :=
  [(24 : UInt32), 16, 8, 0].foldl (fun hash shift => mixByte hash (word >>> shift).toUInt8) hash

def fingerprint (bytes : Array UInt8) : String :=
  hex 16 (bytes.foldl mixByte fingerprintStart).toNat

def wordFingerprint (words : Array UInt32) : String :=
  hex 16 (words.foldl mixWord fingerprintStart).toNat

end Handheld.Text
