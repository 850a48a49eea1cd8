import Handheld.Core.Memory
import Handheld.Guest.Linked

/-!
# The Sample Core

A small compiled core with the interface of a real one.  Its linear memory has two pages:

| address  | contents                                  |
|----------|-------------------------------------------|
| `16`     | the id of the last button                 |
| `20`     | the id of the last button state           |
| `24`     | set by the initializer                    |
| `28`     | the number of blocks given back           |
| `0x800`  | the screen, eight by four pixels          |
| `0x1000` | the heap, which grows to the end          |

Every step fills the screen with one pixel.  Its red channel is the number of the step and
its green channel is the first byte of the rom.  Blocks are handed out one behind the other
and never reused.  Arithmetic on words wraps around.
-/

namespace Handheld

/-! ## §1 The state -/

/-- The size of the linear memory: two pages. -/
def Sample.memorySize : Nat := 0x20000

/-- The global variables of the sample core. -/
structure Sample where
  heap : UInt32 := 0x1000
  /-- The address of the rom that runs. -/
  rom : UInt32 := 0
  /-- The handle of the instance, or null. -/
  handle : UInt32 := 0
  frames : UInt32 := 0
deriving DecidableEq, Repr

/-- What the sample core says about its screen.  The picture is drawn at `0x800` all the
same. -/
structure Panel where
  addr : UInt32 := 0x800
  width : UInt32 := 8
  height : UInt32 := 4
deriving DecidableEq, Repr

namespace Sample

/-! ## §2 Functions -/

/-- Stores a word at a fixed address.  A word that does not lie inside of memory is a trap, and
nothing of it is stored. -/
def store (addr : Nat) (word : UInt32) (machine : Machine Sample) :
    Reply Trap UInt32 (Machine Sample) :=
  if addr + 4 ≤ machine.memory.size then
    (.ok 0, { machine with memory := Memory.storeWord machine.memory addr word })
  else (.error .outOfBounds, machine)

/-- Sets the word that tells that the core has been initialized. -/
def setMark (mark : UInt32) : Body Sample := fun _ machine => store 24 mark machine

/-- Calls an imported function that nobody provides. -/
def abort (machine : Machine Sample) : Reply Trap UInt32 (Machine Sample) :=
  (.error (.unknownImport "abort"), machine)

/-- Hands out the next block, or null if the heap ends before it.  The end of the block is
rounded up to a multiple of eight, where the next one begins. -/
def malloc : Body Sample
  | [len], machine =>
    let addr := machine.state.heap
    -- The sum may wrap around; only its result is compared.
    let top := (addr + len + 7) &&& 0xFFFFFFF8
    if 0x20000 < top then (.ok 0, machine)
    else (.ok addr, { machine with state.heap := top })
  | _, machine => abort machine

/-- Counts the blocks given back.  Which block it is makes no difference. -/
def free : Body Sample
  | [_], machine =>
    match Memory.loadWord? machine.memory 28 with
    | some count => store 28 (count + 1) machine
    | none => (.error .outOfBounds, machine)
  | _, machine => abort machine

/-- Starts the one instance there can be, unless the rom is empty. -/
def create : Body Sample
  | [rom, len], machine =>
    if len = 0 then (.ok 0, machine)
    else (.ok 7, { machine with state.rom := rom, state.handle := 7 })
  | _, machine => abort machine

/-- Ends the instance, whichever handle is given. -/
def destroy : Body Sample
  | [_], machine => (.ok 0, { machine with state.handle := 0 })
  | _, machine => abort machine

/-- The pixel of a step: opaque, red for the step and green for the rom.  All of the number of
the step is put in, so from step 256 on it reaches into the green channel too. -/
def pixel (frames : UInt32) (romByte : UInt8) : UInt32 :=
  (frames ||| (romByte.toUInt32 <<< 8)) ||| 0xFF000000

/-- Fills the first `count` pixels of the screen. -/
def fill (word : UInt32) : (count : Nat) → Machine Sample → Reply Trap UInt32 (Machine Sample)
  | 0, machine => (.ok 0, machine)
  | count + 1, machine =>
    match fill word count machine with
    | (.ok _, machine) => store (0x800 + 4 * count) word machine
    | failed => failed

/-- Fills the whole screen with the pixel of the current step. -/
def draw (machine : Machine Sample) : Reply Trap UInt32 (Machine Sample) :=
  match machine.memory[machine.state.rom.toNat]? with
  | none => (.error .outOfBounds, machine)
  | some romByte => fill (pixel machine.state.frames romByte) 32 machine

/-- Runs the instance for one frame.  It can do nothing less than a frame. -/
def step : Body Sample
  | [handle, mode], machine =>
    -- A handle of another instance is a fault, a mode it does not know a trap.
    if handle ≠ machine.state.handle then (.ok 1, machine)
    else if mode ≠ 0 then abort machine
    else draw { machine with state.frames := machine.state.frames + 1 }
  | _, machine => abort machine

/-- Takes note of the state of a button. -/
def setButtonState : Body Sample
  | [_, button, state], machine =>
    match store 16 button machine with
    | (.ok _, machine) => store 20 state machine
    | failed => failed
  | _, machine => abort machine

/-- Answers every call with the same word. -/
def constant (word : UInt32) : Body Sample := fun _ machine => (.ok word, machine)

/-- What each function of the interface does. -/
def body (panel : Panel) : NativeFunction → Body Sample
  | .create => create
  | .destroy => destroy
  | .step => step
  | .screenPointer => constant panel.addr
  | .screenWidth => constant panel.width
  | .screenHeight => constant panel.height
  | .setButtonState => setButtonState
  | .malloc => malloc
  | .free => free

/-! ## §3 The image -/

/-- The initializers that builds of the sample core export. -/
inductive Startup
  /-- One, which sets its word to 1. -/
  | plain
  | none
  /-- The same one under the second name. -/
  | ctors
  /-- One under each name; the second sets the word to 2. -/
  | both
  /-- One that takes a word, so that it is no initializer. -/
  | typed
  /-- Such a one under the first name, a proper one under the second. -/
  | typedBoth
  | trap
deriving DecidableEq, Repr

/-- The kind of build with the given name; the plain one for any other name. -/
def Startup.ofName : String → Startup
  | "none" => .none
  | "ctors" => .ctors
  | "both" => .both
  | "typed" => .typed
  | "typed_both" => .typedBoth
  | "trap" => .trap
  | _ => .plain

/-- The exported initializers. -/
def Startup.exports : Startup → ExportTable Sample
  | .plain => [("_initialize", .function .initializer (setMark 1))]
  | .none => []
  | .ctors => [("__wasm_call_ctors", .function .initializer (setMark 1))]
  | .both =>
    [("_initialize", .function .initializer (setMark 1)),
     ("__wasm_call_ctors", .function .initializer (setMark 2))]
  | .typed => [("_initialize", .function ⟨[.i32], []⟩ (setMark 1))]
  | .typedBoth =>
    [("_initialize", .function ⟨[.i32], []⟩ (setMark 1)),
     ("__wasm_call_ctors", .function .initializer (setMark 2))]
  | .trap => [("_initialize", .function .initializer fun _ => abort)]

/-- Everything a build of the sample core exports. -/
def exports (startup : Startup) (panel : Panel) : ExportTable Sample :=
  (memoryName, .memory) :: startup.exports ++
    NativeFunction.all.map fun function =>
      (function.exportName, .function function.signature (body panel function))

def image (startup : Startup) (panel : Panel) : Image Sample where
  exports := exports startup panel
  machine := ⟨Array.replicate memorySize 0, {}⟩

end Sample

end Handheld
