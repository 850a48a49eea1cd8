import Handheld.Core.Memory
import Handheld.Session.Lifecycle

/-!
# The Bench Core

A native core for trying out the controller without a real one.  It keeps a heap at the start
of memory, hands out instance handles counting up from 1, and draws a picture behind the heap
on every step: the pixel at `(x, y)` tells `x`, `y` and the number of the step.  It can be told
to fail in given ways, and it keeps a log of the calls made to it.

The heap is a bump allocator: blocks are handed out one behind the other and never reused.
-/

namespace Handheld

/-! ## §1 The state -/

/-- A block of the heap that has been handed out. -/
structure Block where
  addr : UInt32
  len : UInt32
deriving DecidableEq, Repr

/-- The ways in which the bench core can be told to fail.  Each lasts for one call. -/
structure Mischief where
  /-- The next allocation finds no block. -/
  failMalloc : Bool := false
  /-- The next block runs off the end of memory. -/
  misplaceMalloc : Bool := false
  /-- The next rom is refused. -/
  failCreate : Bool := false
  /-- The next instance cannot be destroyed. -/
  failDestroy : Bool := false
deriving DecidableEq, Repr

def Mischief.add (mischief : Mischief) (name : String) : Mischief :=
  match name with
  | "malloc" => { mischief with failMalloc := true }
  | "misplace" => { mischief with misplaceMalloc := true }
  | "create" => { mischief with failCreate := true }
  | "destroy" => { mischief with failDestroy := true }
  | _ => mischief

/-- The private state of the bench core. -/
structure Bench where
  heapSize : UInt32
  screen : Screen := ⟨160, 144⟩
  stepStatus : Int32 := 0
  /-- The screen pointer points so close to the end of memory that no picture fits. -/
  screenPastEnd : Bool := false
  mischief : Mischief := {}
  nextAlloc : UInt32 := 16
  blocks : List Block := []
  nextHandle : UInt32 := 1
  instances : List Handle := []
  frames : UInt64 := 0
  calls : List Request := []
deriving DecidableEq, Repr

/-- The machine of a bench core that has done nothing yet.  Its memory is the heap, all zeros. -/
def Bench.machine (bench : Bench) : Machine Bench :=
  ⟨Array.replicate bench.heapSize.toNat 0, bench⟩

namespace Bench

/-! ## §2 The heap -/

/-- The length of the live block at an address.  Only the first byte of a block is its address:
an address inside of a block is that of no block. -/
def blockLen? (blocks : List Block) (addr : UInt32) : Option UInt32 :=
  (blocks.find? fun block => block.addr == addr).map Block.len

def eraseBlock (blocks : List Block) (addr : UInt32) : List Block :=
  blocks.filter fun block => block.addr != addr

/-- The blocks with another one, in place of any at the same address. -/
def insertBlock (blocks : List Block) (block : Block) : List Block :=
  eraseBlock blocks block.addr ++ [block]

/-- The contents of the live block at an address, as far as they are inside of memory. -/
def block? (machine : Machine Bench) (addr : UInt32) : Faulty (Option Bytes) :=
  match blockLen? machine.state.blocks addr with
  | none => return none
  | some len => do
    let stop := (← Checked.add32 addr len).toNat
    if stop ≤ machine.memory.size then return some (machine.memory.extract addr.toNat stop)
    else return none

/-- The first multiple of eight at or behind an address.  Eight is added before it is rounded
down, so the last addresses of all have none. -/
def alignUp (addr : UInt32) : Faulty UInt32 := do
  return ((← Checked.add32 addr 8) - 1) &&& 0xFFFFFFF8

/-- Hands out the next block of the heap, or the null address if it is too long. -/
def bump (bench : Bench) (len : UInt32) : Faulty (UInt32 × Bench) :=
  if bench.nextAlloc.toNat + len.toNat ≤ bench.heapSize.toNat then do
    -- The sum is a word, because the size of the heap is one.
    let nextAlloc ← alignUp (bench.nextAlloc + len)
    let blocks := insertBlock bench.blocks ⟨bench.nextAlloc, len⟩
    return (bench.nextAlloc, { bench with nextAlloc, blocks })
  else return (0, bench)

/-- Hands out a block two bytes before the end of memory. -/
def misplace (bench : Bench) (memorySize : Nat) (len : UInt32) : Faulty (UInt32 × Bench) := do
  let addr ← Checked.sub32 (UInt32.ofNat memorySize) 2
  return (addr, { bench with blocks := insertBlock bench.blocks ⟨addr, len⟩ })

/-- Answers an allocation.  A planned failure is spent on it; of two that are planned the refusal
comes first and the misplaced block stays planned. -/
def malloc (bench : Bench) (memorySize : Nat) (len : UInt32) : Faulty (UInt32 × Bench) :=
  if bench.mischief.failMalloc then
    return (0, { bench with mischief.failMalloc := false })
  else if bench.mischief.misplaceMalloc then
    { bench with mischief.misplaceMalloc := false }.misplace memorySize len
  else bench.bump len

/-- Takes a live block back.  Its place is not used again. -/
def free (bench : Bench) (addr : UInt32) : Reply Error Unit Bench :=
  match blockLen? bench.blocks addr with
  | some _ => (.ok (), { bench with blocks := eraseBlock bench.blocks addr })
  | none => (.error (.native ("free of unallocated block " ++ Text.address addr)), bench)

/-! ## §3 The screen -/

/-- The length in bytes of one picture.  It is a plain product of sizes: two long axes are a
fault here, before the length is compared with anything. -/
def frameBytes (bench : Bench) : Faulty Nat := do
  Checked.mulSize (← Checked.mulSize bench.screen.width.toNat bench.screen.height.toNat)
    bytesPerPixel

/-- Extends memory so that a picture fits behind the heap, if its end has an address.  Otherwise
memory stays too short, and the controller finds out. -/
def reserveScreen (bench : Bench) (memory : Bytes) : Faulty Bytes := do
  let stop := bench.heapSize.toNat + (← bench.frameBytes)
  return if stop < UInt32.size then Memory.grow memory stop else memory

/-- The pixel drawn at a point on the given step, counted from 1. -/
def framePixel (frame : UInt64) (x y : UInt32) : Pixel :=
  .rgba frame.toUInt8 x.toUInt8 y.toUInt8 0xFF

def drawPixel (bench : Bench) (y : UInt32) (memory : Bytes) (x : Nat) : Faulty Bytes := do
  let place ← Checked.add32 (← Checked.mul32 y bench.screen.width) (UInt32.ofNat x)
  let start := bench.heapSize.toNat + place.toNat * bytesPerPixel
  if start + bytesPerPixel ≤ memory.size then
    return Memory.storeBytes memory start bench.frames.toUInt8 (UInt8.ofNat x) y.toUInt8 0xFF
  else throw .outOfRange

def drawRow (bench : Bench) (memory : Bytes) (y : Nat) : Faulty Bytes :=
  (List.range bench.screen.width.toNat).foldlM (bench.drawPixel (UInt32.ofNat y)) memory

/-- Draws the picture of the current step behind the heap.  Memory is extended if it is too
short, and by no more than that. -/
def drawFrame (bench : Bench) (memory : Bytes) : Faulty Bytes := do
  let needed ← Checked.addSize bench.heapSize.toNat (← bench.frameBytes)
  Checked.capacity needed
  (List.range bench.screen.height.toNat).foldlM bench.drawRow (Memory.grow memory needed)

def screenAddr (bench : Bench) (memorySize : Nat) : Faulty UInt32 :=
  if bench.screenPastEnd then Checked.sub32 (UInt32.ofNat memorySize) 2
  else return bench.heapSize

/-! ## §4 Instances -/

/-- Creates an instance for the rom in a live block of exactly its length. -/
def create (machine : Machine Bench) (rom len : UInt32) :
    Faulty (Option Handle × Machine Bench) := do
  -- A planned failure is spent on this call, whatever comes of it.
  let bench := machine.state
  let refused := bench.mischief.failCreate
  let bench := { bench with mischief.failCreate := false }
  if refused ∨ len = 0 ∨ blockLen? bench.blocks rom ≠ some len then
    return (none, { machine with state := bench })
  else
    match Handle.ofRaw? bench.nextHandle with
    | none => return (none, { machine with state := bench })
    | some handle =>
      let nextHandle ← Checked.next32 bench.nextHandle
      let memory ← bench.reserveScreen machine.memory
      return (some handle,
        ⟨memory, { bench with nextHandle, instances := bench.instances ++ [handle] }⟩)

/-- Why a call for an unknown instance fails. -/
def noInstance (handle : Handle) : Error :=
  .native ("no such instance " ++ toString handle.raw)

/-- Removes a live instance, unless a failure is planned; the instance then stays. -/
def destroy (bench : Bench) (handle : Handle) : Reply Error Unit Bench :=
  if bench.mischief.failDestroy then
    (.error (.native "destroy trapped"), { bench with mischief.failDestroy := false })
  else if handle ∈ bench.instances then
    (.ok (), { bench with instances := bench.instances.filter (· ≠ handle) })
  else (.error (noInstance handle), bench)

/-- Counts a step and draws its picture.  The status is the one that the core has been told to
give; the picture is drawn in any case. -/
def step (machine : Machine Bench) : Faulty (Int32 × Machine Bench) := do
  let frames ← Checked.next64 machine.state.frames
  let bench := { machine.state with frames }
  let memory ← bench.drawFrame machine.memory
  return (bench.stepStatus, ⟨memory, bench⟩)

/-! ## §5 The function table -/

/-- A request is answered only for a live instance. -/
def forInstance {α : Type} (machine : Machine Bench) (handle : Handle)
    (answer : Faulty (α × Machine Bench)) : Faulty (Reply Error α (Machine Bench)) :=
  if handle ∈ machine.state.instances then do
    let (value, machine) ← answer
    return (.ok value, machine)
  else return (.error (noInstance handle), machine)

def log (machine : Machine Bench) (request : Request) : Machine Bench :=
  { machine with state.calls := machine.state.calls ++ [request] }

/-- Answers a request that has been entered into the log. -/
def answer (machine : Machine Bench) :
    (request : Request) → Faulty (Reply Error request.Answer (Machine Bench))
  | .malloc len => do
    let (addr, state) ← machine.state.malloc machine.memory.size len
    return (.ok addr, { machine with state })
  | .free addr =>
    let (result, state) := machine.state.free addr
    return (result, { machine with state })
  | .create rom len => do
    let (handle, machine) ← create machine rom len
    return (.ok handle, machine)
  | .destroy handle =>
    let (result, state) := machine.state.destroy handle
    return (result, { machine with state })
  | .step handle _ => forInstance machine handle (step machine)
  | .screenPointer handle =>
    forInstance machine handle do
      return (← machine.state.screenAddr machine.memory.size, machine)
  | .screenWidth handle => forInstance machine handle (.ok (machine.state.screen.width, machine))
  | .screenHeight handle =>
    forInstance machine handle (.ok (machine.state.screen.height, machine))
  | .setButtonState handle _ _ => forInstance machine handle (.ok ((), machine))

instance : NativeCore Bench where
  answer request machine := answer (log machine request) request

end Bench

end Handheld
