import Handheld.Display.Surface
import Handheld.Journal.Diagnostic

/-!
# The Journal

The journal of a run is the list of everything the controller did that can be seen from
outside, in order: the calls into the native core, the requests to the surface, the calls to
the host, each with its answer, and the diagnostics.
-/

namespace Handheld

inductive HostCall
  /-- Wait for the next refresh of the display. -/
  | refresh (answer : Except HostError Bool)
  | frameComplete (frames : UInt64)
  | reportError (cause : Error)

/-- One event of a run. -/
inductive Entry
  | native (request : Request) (answer : Except Error request.Answer)
  | surface (request : SurfaceRequest) (answer : Except HostError Unit)
  | host (call : HostCall)
  | diagnostic (note : Diagnostic)

abbrev Journal := List Entry

namespace Journal

def requests (journal : Journal) : List Request :=
  journal.filterMap fun
    | .native request _ => some request
    | _ => none

def surfaceRequests (journal : Journal) : List SurfaceRequest :=
  journal.filterMap fun
    | .surface request _ => some request
    | _ => none

def diagnostics (journal : Journal) : List Diagnostic :=
  journal.filterMap fun
    | .diagnostic note => some note
    | _ => none

end Journal

end Handheld
