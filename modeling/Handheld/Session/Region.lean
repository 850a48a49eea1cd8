import Handheld.Core.Memory
import Handheld.Session.Act

/-!
# Regions

A region is a block of native memory that belongs to the host.  `allocate` makes one that
holds given bytes, `release` gives one back.  A block that was handed out but does not lie
inside of native memory is given back at once, and nothing has been written.
-/

namespace Handheld

/-- A block of native memory owned by the host. -/
structure Region where
  addr : UInt32
  len : UInt32
  addr_ne_zero : addr ≠ 0
deriving Repr

instance : DecidableEq Region := fun a b =>
  decidable_of_iff (a.addr = b.addr ∧ a.len = b.len) (by cases a; cases b; simp)

namespace Region

variable {σ τ : Type}

/-- The region of `len` bytes at an address, unless the address is null. -/
def ofAddress? (addr len : UInt32) : Option Region :=
  if h : addr = 0 then none else some ⟨addr, len, h⟩

theorem ofAddress?_eq_none_iff {addr len : UInt32} : ofAddress? addr len = none ↔ addr = 0 := by
  simp [ofAddress?]

def isEmpty (region : Region) : Bool := region.len == 0

/-- Writes bytes to native memory, all of them or, if they do not lie inside, none. -/
def writeMemory (addr : UInt32) (bytes : Bytes) : Act σ τ (Except Error Unit) := do
  match Memory.write (← Act.memory) addr bytes with
  | .ok memory =>
    Act.setMemory memory
    return .ok ()
  | .error error => return .error error

def viewMemory (addr : UInt32) (len : Nat) : Act σ τ (Except Error Bytes) := do
  return Memory.view (← Act.memory) addr len

variable [NativeCore σ]

/-- Fills a fresh region with bytes; if they do not fit into memory, gives it back.  The error
is then that of the access, also if the block cannot be given back. -/
def fill (region : Region) (bytes : Bytes) : Act σ τ (Except Error Region) := do
  match ← writeMemory region.addr bytes with
  | .ok () =>
    Act.note (.allocated region.len region.addr)
    return .ok region
  | .error error =>
    -- Nothing has been written, and nobody else knows of the block.
    let freed ← Act.ask (.free region.addr)
    Act.noteError freed (.freeFailed region.addr)
    return .error error

/-- Copies bytes into a new block of native memory of exactly their length.  A length that is no
word is refused without a call; a null address means that the core has no such block. -/
def allocate (bytes : Bytes) : Act σ τ (Except Error Region) := do
  if bytes.size < UInt32.size then
    let len := UInt32.ofNat bytes.size
    match ← Act.ask (.malloc len) with
    | .ok addr =>
      match ofAddress? addr len with
      | some region => fill region bytes
      | none => return .error (.outOfMemory bytes.size)
    | .error error => return .error error
  else return .error (.outOfMemory bytes.size)

/-- Gives a region back to the native allocator.  The region is used up whether or not the core
takes it. -/
def release (region : Region) : Act σ τ (Except Error Unit) := do
  Act.note (.releasing region.len region.addr)
  Act.ask (.free region.addr)

end Region

end Handheld
