import Handheld.CommandLine.Reader
import Handheld.Guest.Sample
import Handheld.Journal.Listing
import Handheld.Rehearsal.Platform
import Handheld.Rehearsal.Stage
import Handheld.Session.FrameLoop

/-!
# The Program

Runs a rom without a window: the display refreshes for one second and goes away.  The program
carries one core, the sample core, under the name `sample`.  Diagnostics down to the level
that the command line sets go to the standard error.
-/

namespace Handheld.CommandLine

/-- The name of the core that the program carries. -/
def carriedCore : String := "sample"

def usage : String :=
  "Usage: gbe [OPTIONS] --core <FILE> [ROM]\n\n"
    ++ "Arguments:\n"
    ++ "  [ROM]  ROM image to load at start-up\n\n"
    ++ "Options:\n"
    ++ "  -c, --core <FILE>               Compiled core to run\n"
    ++ "  -s, --scale <SCALE>             Scale the screen, from 1 to 16\n"
    ++ "  -l, --log-level <LEVEL>         Set the type of log messages to print\n"
    ++ "      --symbol-prefix <MARK>      Mark before the core's function names\n"
    ++ "      --legacy-unmapped-keys      Keys without a button press the A button\n"
    ++ "  -h, --help                      Print help"

def UsageError.message : UsageError → String
  | .missingRequiredArgument => "the core is missing"
  | .unknownArgument => "there is an unexpected argument"
  | .invalidValue => "an option has no value"
  | .valueValidation => "the scale is not a number from 1 to 16"
  | .argumentConflict => "an option is given twice"
  | .tooManyValues => "a switch has a value"
  | .displayHelp => usage

/-- The number of refreshes before the display goes away: those of one second. -/
def lifetime : Nat := 60

/-- A run of the program with the image of the rom that is to be loaded, if there is one. -/
def session (options : Options) (rom : Option Bytes) :
    Act (Linked Sample) Stage (FrameLoop.Ending × Emulator) := do
  match ← FrameLoop.register with
  | .error cause => return (.failed cause, .new options.emulator)
  | .ok loop =>
    let loop := { loop with events := loop.events.sendAll (rom.toList.map .loadRom) }
    let (ending, _, emulator) ← loop.run (lifetime + 1) (.new options.emulator)
    emulator.shutDown
    return (ending, emulator)

def display : Stage := { canvas := .new .argb, lifetime }

/-- Prints the diagnostics that are important enough. -/
def printNotes (limit : Level) (notes : List Diagnostic) : IO Unit := do
  for note in notes do
    if note.level.passes limit then IO.eprintln note.line

/-- Runs the program with the options of a command line.  Gives the exit code. -/
def runOptions (options : Options) : IO UInt32 := do
  let image? := if options.core = carriedCore then some (Sample.image .plain {}) else none
  let linked := Image.load options.core image? (.withMark options.symbolMark)
  printNotes options.maxLevel linked.notes
  match linked.value with
  | .error cause =>
    IO.eprintln ("ERROR " ++ cause.message)
    return 1
  | .ok machine =>
    let rom ← options.rom.mapM fun path => IO.FS.readBinFile path
    match (session options (rom.map ByteArray.data)).run { machine, display } with
    | .error cut =>
      printNotes options.maxLevel cut.journal.diagnostics
      IO.eprintln ("the run was cut short: " ++ toString (repr cut.fault))
      return 101
    | .ok outcome =>
      printNotes options.maxLevel outcome.journal.diagnostics
      match outcome.value.1 with
      | .failed cause =>
        IO.eprintln ("ERROR " ++ cause.message)
        return 1
      | _ => return 0

/-- Runs the program with the arguments of a command line.  Gives the exit code. -/
def runArguments (arguments : List String) : IO UInt32 := do
  match Options.read arguments with
  | .ok options => runOptions options
  | .error .displayHelp =>
    IO.println usage
    return 0
  | .error cause =>
    IO.eprintln ("error: " ++ cause.message)
    return 2

end Handheld.CommandLine

def main (arguments : List String) : IO UInt32 := Handheld.CommandLine.runArguments arguments
