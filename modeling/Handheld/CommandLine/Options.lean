import Handheld.Journal.Diagnostic
import Handheld.Session.Emulator

/-!
# Options of the Program

What the command line sets, and what the settings mean: the options of the emulator and the
level down to which diagnostics are printed.
-/

namespace Handheld.CommandLine

/-- The settings that the command line makes. -/
structure Options where
  core : String
  rom : Option String := none
  logLevel : Option String := none
  /-- A mark before the names of the core's functions. -/
  symbolMark : String := ""
  scale : UInt32 := 4
  /-- Keys without a button press the A button. -/
  legacyKeys : Bool := false
deriving DecidableEq, Repr

namespace Options

def emulator (options : Options) : EmulatorOptions where
  scale := options.scale
  unmappedKeys := if options.legacyKeys then .primaryButton else .ignore

/-- The level that a name stands for. -/
def levelOfName? : String → Option Level
  | "trace" => some .trace
  | "debug" => some .debug
  | "info" => some .info
  | "warn" => some .warn
  | "error" => some .error
  | _ => none

/-- The least important level that is printed.  Warnings are, unless another level is
named. -/
def maxLevel (options : Options) : Level := (options.logLevel.bind levelOfName?).getD .warn

end Options

end Handheld.CommandLine
