import Handheld.Core.Request
import Handheld.Input.Event
import Handheld.Instant

/-!
# Diagnostics

Everything the controller reports about its own work.  A diagnostic is kept as what
happened; its level and its message follow from that.  The messages of the two reports at the
end of a run are given as text, because they show measured times.
-/

namespace Handheld

/-- How important a diagnostic is, the most important first. -/
inductive Level
  | error
  | warn
  | info
  | debug
  | trace
deriving DecidableEq, Repr

namespace Level

def name : Level → String
  | .error => "ERROR"
  | .warn => "WARN"
  | .info => "INFO"
  | .debug => "DEBUG"
  | .trace => "TRACE"

/-- The rank of a level: the higher, the less important. -/
def rank : Level → Nat
  | .error => 0
  | .warn => 1
  | .info => 2
  | .debug => 3
  | .trace => 4

/-- A diagnostic of level `level` passes a filter set to `limit`. -/
def passes (level limit : Level) : Bool := level.rank ≤ limit.rank

end Level

/-- Something that the controller reports. -/
inductive Diagnostic
  /-- A queue was over its limit and gave up its oldest item. -/
  | queueOverLimit (limit : Nat)
  /-- A frame was not newer than one already shown. -/
  | staleFrame (clock : Instant)
  | allocated (len addr : UInt32)
  | releasing (len addr : UInt32)
  /-- A block that was handed out in vain could not be given back. -/
  | freeFailed (addr : UInt32) (cause : Error)
  /-- The buffer of a refused rom could not be given back. -/
  | discardFailed (cause : Error)
  | loaded (bytes : Nat) (handle : Handle) (width height : UInt32)
  | unloading (handle : Handle)
  /-- An instance could not be destroyed, so its rom is never given back. -/
  | leaking (handle : Handle) (len addr : UInt32)
  /-- An instance that could not be configured could not be removed either. -/
  | abandonFailed (handle : Handle) (cause : Error)
  /-- A step of the core answered with a status other than zero. -/
  | stepFault (status : Int32)
  | forwarded (key : Key) (state : ButtonState) (button : Button)
  | keyFailed (key : Key) (cause : Error)
  | loadFailed (cause : Error)
  | unloadFailed (cause : Error)
  | tickFailed (cause : Error)
  | shutdownFailed (cause : Error)
  /-- A failure that the host shows to the user in no other way. -/
  | reported (cause : Error)
  | stopped (wakes : UInt64) (clock : Instant)
  | statistics (text : String)
  | coreLoaded (path : String)
  /-- A core's initializer is about to run. -/
  | running (initializer : String)
deriving DecidableEq, Repr

namespace Diagnostic

def level : Diagnostic → Level
  | .queueOverLimit _ | .staleFrame _ | .allocated _ _ | .releasing _ _ | .running _ => .debug
  | .freeFailed _ _ | .discardFailed _ | .leaking _ _ _ | .abandonFailed _ _ | .keyFailed _ _
  | .loadFailed _ | .unloadFailed _ | .tickFailed _ | .shutdownFailed _ | .reported _ => .error
  | .loaded _ _ _ _ | .unloading _ | .stopped _ _ | .statistics _ | .coreLoaded _ => .info
  | .stepFault _ => .warn
  | .forwarded _ _ _ => .trace

def message [Clockwork] : Diagnostic → String
  | .queueOverLimit limit =>
    "dropping data from queue due to limit of " ++ toString limit ++ " items"
  | .staleFrame clock => "discarding stale frame at " ++ Clockwork.text clock
  | .allocated len addr =>
    "allocated " ++ toString len ++ " bytes of native memory at " ++ Text.address addr
  | .releasing len addr =>
    "releasing " ++ toString len ++ " bytes of native memory at " ++ Text.address addr
  | .freeFailed addr cause =>
    "unable to free native block at " ++ Text.address addr ++ ": " ++ cause.message
  | .discardFailed cause => "unable to release rom buffer: " ++ cause.message
  | .loaded bytes handle width height =>
    "loaded " ++ toString bytes ++ " byte rom as instance " ++ toString handle.raw
      ++ ", screen is " ++ toString width ++ "x" ++ toString height
  | .unloading handle => "unloading instance " ++ toString handle.raw
  | .leaking handle len addr =>
    "failed to destroy instance " ++ toString handle.raw ++ ", leaking " ++ toString len
      ++ " bytes at " ++ Text.address addr
  | .abandonFailed handle cause =>
    "while abandoning instance " ++ toString handle.raw ++ ": " ++ cause.message
  | .stepFault status => "stepping produced error " ++ toString status
  | .forwarded key state button => key.name ++ " " ++ state.name ++ " as " ++ button.name
  | .keyFailed key cause => "error while sending " ++ key.name ++ ": " ++ cause.message
  | .loadFailed cause => "unable to load rom: " ++ cause.message
  | .unloadFailed cause => "unable to unload rom: " ++ cause.message
  | .tickFailed cause => "error while running frame: " ++ cause.message
  | .shutdownFailed cause => "error while shutting down: " ++ cause.message
  | .reported cause => cause.message
  | .stopped wakes clock =>
    "frame driver stopped after " ++ toString wakes ++ " wakes (" ++ Clockwork.text clock ++ ")"
  | .statistics text => text
  | .coreLoaded path => "loaded core from " ++ path
  | .running initializer => "running " ++ initializer

end Diagnostic

/-- A value together with the diagnostics that were issued while it was computed. -/
structure Noted (α : Type) where
  value : α
  notes : List Diagnostic
deriving Repr

end Handheld
