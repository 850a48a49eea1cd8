import Handheld.Session.Region

/-!
# The Life of a Rom

At most one rom runs at a time.  The instance that runs it and the buffer that holds its
image are either both there or both absent; `Lifecycle` is this state.

- `Lifecycle.load` replaces whatever runs by a new rom and sizes the surface for it.  On any
  failure the lifecycle is left empty, and the error is that of the step which failed first.
- `Lifecycle.unload` destroys the instance and then gives the buffer back.  If the instance
  cannot be destroyed it may still use the buffer, so the buffer is leaked.

The steps of a load are: unload, refuse an empty rom, allocate and fill the buffer, create
the instance, ask for its screen, check the screen, resize the surface.  What an earlier step
acquired is given back when a later one fails.
-/

namespace Handheld

/-! ## §1 Screens -/

/-- The resolution of a core's screen. -/
structure Screen where
  width : UInt32
  height : UInt32
deriving DecidableEq, Repr

namespace Screen

/-- The length in bytes of one picture in native memory, or the largest size if it is
longer. -/
def frameBytes (screen : Screen) : Nat :=
  Checked.saturatingMul (Checked.saturatingMul screen.width.toNat screen.height.toNat)
    bytesPerPixel

/-- The product of two words, if it is a word. -/
def scaleAxis? (axis scale : UInt32) : Option UInt32 :=
  if axis.toNat * scale.toNat < UInt32.size then some (axis * scale) else none

/-- The size of the screen enlarged by a factor, if both axes are words. -/
def scaled? (screen : Screen) (scale : UInt32) : Option (UInt32 × UInt32) := do
  return (← scaleAxis? screen.width scale, ← scaleAxis? screen.height scale)

/-- The size that a surface needs to show the screen: it exists, and neither axis is zero. -/
def surfaceSize? (screen : Screen) (scale : UInt32) : Option (UInt32 × UInt32) :=
  (screen.scaled? scale).filter fun size => size.1 ≠ 0 ∧ size.2 ≠ 0

end Screen

/-! ## §2 Loaded roms -/

/-- A running instance together with the rom buffer it was created from. -/
structure LoadedRom where
  handle : Handle
  rom : Region
  screen : Screen
deriving DecidableEq, Repr

/-- The rom that is running, if any. -/
inductive Lifecycle
  | empty
  | loaded (current : LoadedRom)
deriving DecidableEq, Repr

namespace Lifecycle

def current? : Lifecycle → Option LoadedRom
  | .empty => none
  | .loaded current => some current

def isLoaded (lifecycle : Lifecycle) : Bool := lifecycle.current?.isSome

def handle? (lifecycle : Lifecycle) : Option Handle := lifecycle.current?.map LoadedRom.handle

def screen? (lifecycle : Lifecycle) : Option Screen := lifecycle.current?.map LoadedRom.screen

variable {σ τ : Type} [NativeCore σ]

/-! ## §3 Unloading -/

/-- Destroys an instance and gives its rom buffer back, in this order: an instance may use its
buffer until it is destroyed. -/
def tearDown (handle : Handle) (rom : Region) : Act σ τ (Except Error Unit) := do
  match ← Act.ask (.destroy handle) with
  | .ok () => rom.release
  | .error error =>
    -- The instance may still use the buffer.
    Act.note (.leaking handle rom.len rom.addr)
    return .error error

/-- Stops the rom that is running, if any.  The lifecycle is empty afterwards even if the core
refuses one of the two calls; what it has not taken back then is lost. -/
def unload : Lifecycle → Act σ τ (Except Error Unit × Lifecycle)
  | .empty => return (.ok (), .empty)
  | .loaded current => do
    Act.note (.unloading current.handle)
    return (← tearDown current.handle current.rom, .empty)

/-! ## §4 Loading -/

/-- Gives back the buffer of a rom that no instance was created for.  A failure is only
reported: the load fails anyway, for the reason that came first. -/
def discard (rom : Region) : Act σ τ Unit := do
  Act.noteError (← rom.release) .discardFailed

def askScreen (handle : Handle) : Act σ τ (Except Error Screen) := do
  match ← Act.ask (.screenWidth handle) with
  | .error error => return .error error
  | .ok width =>
    match ← Act.ask (.screenHeight handle) with
    | .error error => return .error error
    | .ok height => return .ok ⟨width, height⟩

variable [Surface τ]

/-- Sizes the surface for a screen, unless the screen cannot be shown: its picture is longer
than native memory, or an enlarged axis is zero or no word. -/
def fitSurface (screen : Screen) (scale : UInt32) : Act σ τ (Except Error Screen) := do
  if (← Act.memory).size < screen.frameBytes then
    return .error (.invalidResolution screen.width screen.height)
  else
    match screen.surfaceSize? scale with
    | none => return .error (.invalidResolution screen.width screen.height)
    | some (width, height) =>
      return (← Act.present (.resize width height)).map fun () => screen

/-- Finds out the screen of a new instance and sizes the surface for it.  Whatever fails here,
the instance is there and has to be removed again. -/
def configure (handle : Handle) (scale : UInt32) : Act σ τ (Except Error Screen) := do
  match ← askScreen handle with
  | .error error => return .error error
  | .ok screen => fitSurface screen scale

/-- Takes a new instance into service, or removes it again. -/
def settle (handle : Handle) (rom : Region) (scale : UInt32) (bytes : Nat) :
    Act σ τ (Except Error LoadedRom) := do
  match ← configure handle scale with
  | .ok screen =>
    Act.note (.loaded bytes handle screen.width screen.height)
    return .ok ⟨handle, rom, screen⟩
  | .error error =>
    -- What fails here is only reported: the first cause is the answer.
    Act.noteError (← tearDown handle rom) (.abandonFailed handle)
    return .error error

/-- Creates an instance for the rom in a buffer.  The core may fail or may refuse the rom; in
either case the buffer is given back. -/
def boot (rom : Region) (scale : UInt32) (bytes : Nat) : Act σ τ (Except Error LoadedRom) := do
  match ← Act.ask (.create rom.addr rom.len) with
  | .ok (some handle) => settle handle rom scale bytes
  | .ok none =>
    discard rom
    return .error (.createFailed bytes)
  | .error error =>
    discard rom
    return .error error

/-- Starts a rom while none is running.  An empty rom is refused before anything is asked of the
core. -/
def launch (image : Bytes) (scale : UInt32) : Act σ τ (Except Error LoadedRom) := do
  if image.isEmpty then return .error .emptyRom
  else
    match ← Region.allocate image with
    | .error error => return .error error
    | .ok rom => boot rom scale image.size

/-- Replaces whatever is running by a new rom, and sizes the surface to its screen enlarged
by `scale`.  The old rom is stopped first, and a failure to stop it is the failure of the
load: the new rom is then not looked at. -/
def load (lifecycle : Lifecycle) (image : Bytes) (scale : UInt32) :
    Act σ τ (Except Error Screen × Lifecycle) := do
  match ← lifecycle.unload with
  -- The old rom is gone in either case.
  | (.error error, _) => return (.error error, .empty)
  | (.ok (), _) =>
    match ← launch image scale with
    | .error error => return (.error error, .empty)
    | .ok current => return (.ok current.screen, .loaded current)

end Lifecycle

end Handheld
