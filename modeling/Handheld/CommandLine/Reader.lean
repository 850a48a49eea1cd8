import Handheld.CommandLine.Options
import Handheld.Text.Number

/-!
# Reading the Command Line

Arguments are read from left to right, and the first failure met while reading decides.  Only
then a missing argument is looked for.

- A *setting* takes a value: `--scale=3`, `--scale 3`, `-s=3`, `-s3` or `-s 3`.
- The *switch* `--legacy-unmapped-keys` and the request for help take none.
- After `--`, every argument is positional; there is one place, for the rom.

A setting whose value is a separate argument is not settled when the value is read, but when
the next setting, switch or positional argument begins, or at the end.  So its failures come
later than those of an attached value, and an unknown argument behind it goes first.
-/

namespace Handheld.CommandLine

/-! ## §1 Failures -/

/-- Why a command line is not carried out. -/
inductive UsageError
  /-- The core has not been named. -/
  | missingRequiredArgument
  /-- There is no such setting or switch, or no place for a positional argument. -/
  | unknownArgument
  /-- A setting has no value. -/
  | invalidValue
  /-- A value is not of the kind that the setting takes. -/
  | valueValidation
  /-- A setting or a switch is made twice. -/
  | argumentConflict
  /-- A switch is given a value. -/
  | tooManyValues
  /-- Help has been asked for. -/
  | displayHelp
deriving DecidableEq, Repr

/-! ## §2 Vocabulary -/

inductive Setting
  | core
  | scale
  | logLevel
  | symbolMark
deriving DecidableEq, Repr

/-- What an option names. -/
inductive Term
  | setting (setting : Setting)
  /-- The switch that gives keys without a button the A button. -/
  | legacyKeys
  | help
deriving DecidableEq, Repr

/-- What stands behind two dashes. -/
def Term.ofLong? : String → Option Term
  | "core" => some (.setting .core)
  | "scale" => some (.setting .scale)
  | "log-level" => some (.setting .logLevel)
  | "symbol-prefix" => some (.setting .symbolMark)
  | "legacy-unmapped-keys" => some .legacyKeys
  | "help" => some .help
  | _ => none

/-- What stands behind one dash. -/
def Term.ofShort? : Char → Option Term
  | 'c' => some (.setting .core)
  | 's' => some (.setting .scale)
  | 'l' => some (.setting .logLevel)
  | 'h' => some .help
  | _ => none

/-- The scale in a value: a number from 1 to 16. -/
def scaleOfText? (value : String) : Option UInt32 :=
  match Text.readNat? value.toList with
  | some scale => if 1 ≤ scale ∧ scale ≤ 16 then some (UInt32.ofNat scale) else none
  | none => none

/-! ## §3 The state of reading -/

/-- A setting whose value is a separate argument. -/
structure Pending where
  setting : Setting
  /-- The value, once it has been read. -/
  value : Option String := none
deriving DecidableEq, Repr

structure Reading where
  core : Option String := none
  rom : Option String := none
  scale : Option UInt32 := none
  logLevel : Option String := none
  symbolMark : Option String := none
  legacyKeys : Bool := false
  /-- The setting that is still to be settled. -/
  pending : Option Pending := none
  /-- All further arguments are positional. -/
  trailing : Bool := false
deriving DecidableEq, Repr

namespace Reading

def isMade (reading : Reading) : Setting → Bool
  | .core => reading.core.isSome
  | .scale => reading.scale.isSome
  | .logLevel => reading.logLevel.isSome
  | .symbolMark => reading.symbolMark.isSome

def make (reading : Reading) (setting : Setting) (value : String) : Except UsageError Reading :=
  if reading.isMade setting then .error .argumentConflict
  else
    match setting with
    | .core => .ok { reading with core := some value }
    | .logLevel => .ok { reading with logLevel := some value }
    | .symbolMark => .ok { reading with symbolMark := some value }
    | .scale =>
      match scaleOfText? value with
      | some scale => .ok { reading with scale := some scale }
      | none => .error .valueValidation

def settle (reading : Reading) : Except UsageError Reading :=
  match reading.pending with
  | none => .ok reading
  | some ⟨_, none⟩ => .error .invalidValue
  | some ⟨setting, some value⟩ => { reading with pending := none }.make setting value

/-! ## §4 Arguments -/

/-- Reads an option with the value that is attached to it. -/
def option (reading : Reading) (term : Term) (attached : Option String) :
    Except UsageError Reading :=
  match term, attached with
  | .setting setting, some value => do (← reading.settle).make setting value
  | .setting setting, none => do
    return { ← reading.settle with pending := some ⟨setting, none⟩ }
  | .legacyKeys, none => do
    let reading ← reading.settle
    if reading.legacyKeys then throw .argumentConflict
    else return { reading with legacyKeys := true }
  | .help, none => do
    let _ ← reading.settle
    throw .displayHelp
  | .legacyKeys, some _ | .help, some _ => .error .tooManyValues

def long (reading : Reading) (chars : List Char) : Except UsageError Reading :=
  let name := String.ofList (chars.takeWhile (· ≠ '='))
  let attached :=
    match chars.dropWhile (· ≠ '=') with
    | [] => none
    | _ :: value => some (String.ofList value)
  match Term.ofLong? name with
  | some term => reading.option term attached
  | none => .error .unknownArgument

/-- Reads an option behind one dash.  What follows a setting's letter is its value, with or
without an equals sign; what follows the request for help is never read. -/
def short (reading : Reading) (letter : Char) (rest : List Char) : Except UsageError Reading :=
  match Term.ofShort? letter with
  | some (.setting setting) =>
    match rest with
    | [] => reading.option (.setting setting) none
    | '=' :: value => reading.option (.setting setting) (some (String.ofList value))
    | value => reading.option (.setting setting) (some (String.ofList value))
  | some term => reading.option term none
  | none => .error .unknownArgument

def positional (reading : Reading) (argument : String) : Except UsageError Reading :=
  -- A second rom is refused before the pending setting is settled.
  if reading.rom.isSome then .error .unknownArgument
  else do return { ← reading.settle with rom := some argument }

/-- Reads an argument that is neither an option nor the mark `--`: the value of the pending
setting, if it has none, else a positional argument. -/
def plain (reading : Reading) (argument : String) : Except UsageError Reading :=
  match reading.pending with
  | some ⟨setting, none⟩ => .ok { reading with pending := some ⟨setting, some argument⟩ }
  | _ => reading.positional argument

def step (reading : Reading) (argument : String) : Except UsageError Reading :=
  if reading.trailing then reading.positional argument
  else
    match argument.toList with
    -- The mark is no value: a setting that waits for one stays without.
    | ['-', '-'] => .ok { reading with trailing := true }
    | '-' :: '-' :: chars => reading.long chars
    | '-' :: letter :: rest => reading.short letter rest
    -- A lone dash is an argument like any other.
    | _ => reading.plain argument

/-- The options of a command line that has been read to its end. -/
def finish (reading : Reading) : Except UsageError Options := do
  let reading ← reading.settle
  match reading.core with
  | none => throw .missingRequiredArgument
  | some core =>
    return {
      core
      rom := reading.rom
      logLevel := reading.logLevel
      symbolMark := reading.symbolMark.getD ""
      scale := reading.scale.getD 4
      legacyKeys := reading.legacyKeys }

end Reading

def Options.read (arguments : List String) : Except UsageError Options := do
  (← arguments.foldlM Reading.step {}).finish

end Handheld.CommandLine
