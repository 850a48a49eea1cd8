import Handheld.Display.Error
import Handheld.Text.Number

/-!
# Controller Errors

What an operation of the controller can fail with.  Some errors are *load failures*: they
leave the controller empty and are shown to the user.
-/

namespace Handheld

/-- Why an operation of the controller failed. -/
inductive Error
  /-- The native allocator had no block of so many bytes. -/
  | outOfMemory (bytes : Nat)
  /-- The native core refused a rom of so many bytes. -/
  | createFailed (bytes : Nat)
  | emptyRom
  /-- The screen cannot be shown. -/
  | invalidResolution (width height : UInt32)
  /-- A range of native memory lies outside of it; `size` is the length of the memory. -/
  | outOfBounds (addr : UInt32) (len size : Nat)
  | native (reason : String)
  | surface (cause : HostError)
deriving DecidableEq, Repr

namespace Error

def message : Error → String
  | .outOfMemory bytes => "native allocator could not provide " ++ toString bytes ++ " bytes"
  | .createFailed bytes =>
    "native core rejected the rom image (" ++ toString bytes ++ " bytes)"
  | .emptyRom => "rom image is empty"
  | .invalidResolution width height =>
    "native core reported an unusable screen resolution of " ++ toString width ++ "x"
      ++ toString height
  | .outOfBounds addr len size =>
    "access of " ++ toString len ++ " bytes at " ++ Text.address addr
      ++ " is outside of native memory (" ++ toString size ++ " bytes)"
  | .native reason => "native core: " ++ reason
  | .surface cause => "display surface: " ++ cause.message

/-- The error is a failure of a load that can be shown to the user. -/
def isLoadFailure : Error → Bool
  | .outOfMemory _ | .createFailed _ | .emptyRom | .invalidResolution _ _ => true
  | .outOfBounds _ _ _ | .native _ | .surface _ => false

end Error

end Handheld
