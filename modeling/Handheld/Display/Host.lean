import Handheld.Display.Surface
import Handheld.Journal.Diagnostic

/-!
# Hosts

A host is the side of the user interface: it says when the display refreshes, sends the
user's events, and hears about completed frames and failed operations.  It is also the
surface that pictures are drawn on.

A host sends events only while the controller waits for a refresh.  A host that does not say
otherwise takes no registration, ignores completed frames, and shows failures as diagnostics.
-/

namespace Handheld

/-- A host, with state `τ`. -/
class Host (τ : Type) extends Surface τ where
  /-- Waits for the next refresh.  The answer is false once the display has gone away.  The
  events are those that the user sent in the meantime. -/
  waitForRefresh : τ → Faulty (Reply HostError Bool τ × List HostEvent)
  /-- Registers the controller as the receiver of the host's events. -/
  registerEvents : τ → Reply HostError Unit τ := fun host => (.error .eventsNotSupported, host)
  /-- Hears how many frames have been produced so far. -/
  frameComplete : (frames : UInt64) → τ → τ := fun _ host => host
  /-- Hears that an operation the user asked for has failed. -/
  reportError : (cause : Error) → τ → Noted τ := fun cause host => ⟨host, [.reported cause]⟩

end Handheld
