import Handheld.Core.Machine
import Handheld.Picture.Pixel

/-!
# Access to Native Memory

The host reads and writes native memory only through these functions.  A range of memory is
an address of 32 bits and a length of 64 bits; it is *inside* if its end, computed exactly,
is not past the end of the memory.  An access outside is refused as a whole.
-/

namespace Handheld.Memory

/-- The end of a range, unless that is no size. -/
def rangeEnd? (addr : UInt32) (len : Nat) : Option Nat :=
  if addr.toNat + len ≤ Checked.maxSize then some (addr.toNat + len) else none

/-- The first place of a range and the place after its last, if the range lies inside a memory
of `size` bytes. -/
def range (size : Nat) (addr : UInt32) (len : Nat) : Except Error (Nat × Nat) :=
  match rangeEnd? addr len with
  | some stop => if stop ≤ size then .ok (addr.toNat, stop) else .error (.outOfBounds addr len size)
  | none => .error (.outOfBounds addr len size)

/-- The memory with the bytes from `start` on replaced by `data`. -/
def splice (memory : Bytes) (start : Nat) (data : Bytes) : Bytes :=
  memory.extract 0 start ++ data ++ memory.extract (start + data.size) memory.size

def write (memory : Bytes) (addr : UInt32) (data : Bytes) : Except Error Bytes :=
  match range memory.size addr data.size with
  | .ok (start, _) => .ok (splice memory start data)
  | .error error => .error error

def view (memory : Bytes) (addr : UInt32) (len : Nat) : Except Error Bytes :=
  match range memory.size addr len with
  | .ok (start, stop) => .ok (memory.extract start stop)
  | .error error => .error error

/-! ## Access by a core

A core addresses its own memory byte by byte or in words of four bytes, the least significant
byte first. -/

/-- Replaces the four bytes from `start` on.  The caller checks that they are inside. -/
def storeBytes (memory : Bytes) (start : Nat) (b₀ b₁ b₂ b₃ : UInt8) : Bytes :=
  (((memory.setIfInBounds start b₀).setIfInBounds (start + 1) b₁).setIfInBounds
    (start + 2) b₂).setIfInBounds (start + 3) b₃

/-- Byte `place` of a word, counted from the least significant one. -/
def wordByte (word : UInt32) (place : UInt32) : UInt8 := (word >>> (8 * place)).toUInt8

/-- Stores a word at `start`.  The caller checks that all of it is inside. -/
def storeWord (memory : Bytes) (start : Nat) (word : UInt32) : Bytes :=
  storeBytes memory start (wordByte word 0) (wordByte word 1) (wordByte word 2)
    (wordByte word 3)

/-- The word at `start`, if all of it is inside. -/
def loadWord? (memory : Bytes) (start : Nat) : Option UInt32 := do
  return packBytes (← memory[start + 3]?) (← memory[start + 2]?) (← memory[start + 1]?)
    (← memory[start]?)

/-- The memory extended with zeros to at least `size` bytes. -/
def grow (memory : Bytes) (size : Nat) : Bytes :=
  memory ++ Array.replicate (size - memory.size) 0

end Handheld.Memory
