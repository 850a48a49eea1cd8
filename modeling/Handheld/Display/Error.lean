/-!
# Frontend Errors

What can go wrong on the side of the user interface: the display surface, the source of
refreshes and the registration for events.
-/

namespace Handheld

/-- Why a request to the frontend failed. -/
inductive HostError
  | eventsNotSupported
  | eventsAlreadyRegistered
  /-- The surface cannot have the requested size. -/
  | sizeNotSupported (width height : UInt32)
  /-- A frame of one size, enlarged, was drawn on a surface of another. -/
  | frameMismatch (frame expected : UInt32 × UInt32)
  | specific (reason : String)
deriving DecidableEq, Repr

namespace HostError

/-- How a size is written in an error message. -/
def sizeText (size : UInt32 × UInt32) : String :=
  "(" ++ toString size.1 ++ ", " ++ toString size.2 ++ ")"

def message : HostError → String
  | .eventsNotSupported => "This frontend doesn't support input events"
  | .eventsAlreadyRegistered => "This frontend already has an event sender registered"
  | .sizeNotSupported width height =>
    "Surface size " ++ toString width ++ "x" ++ toString height
      ++ " is not supported by this frontend"
  | .frameMismatch frame expected =>
    "Frame is " ++ sizeText frame ++ " but the surface expects " ++ sizeText expected
  | .specific reason => reason

end HostError

end Handheld
