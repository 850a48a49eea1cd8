import Handheld.Text.Number

/-!
# Keys

Physical keys, and the codes by which a browser names them.

- `Key.ofCode` reads a code; a code that names no key reads as `Key.unknown`;
- `Key.code` writes the code of a key.

Fifteen keys have a code of their own.  The others come in families: the letter keys
(`KeyA` to `KeyZ`), the digit keys (`Digit0` to `Digit9`) and the function keys (`F1` to
`F12`).  The number in a family's code may be written with a plus sign or leading zeros.
-/

namespace Handheld

/-- A physical key. -/
inductive Key
  | arrowUp
  | arrowDown
  | arrowLeft
  | arrowRight
  | enter
  | backspace
  | space
  | tab
  | escape
  | shiftLeft
  | shiftRight
  | controlLeft
  | controlRight
  | altLeft
  | altRight
  | letter (glyph : Char)
  /-- A digit key of the main row. -/
  | digit (value : UInt8)
  | function (number : UInt8)
  /-- Any key that has no name here. -/
  | unknown
deriving DecidableEq, Repr

namespace Key

/-! ## §1 Codes -/

/-- The keys with a code of their own. -/
def namedCodes : List (String × Key) :=
  [("ArrowUp", .arrowUp), ("ArrowDown", .arrowDown), ("ArrowLeft", .arrowLeft),
   ("ArrowRight", .arrowRight), ("Enter", .enter), ("Backspace", .backspace),
   ("Space", .space), ("Tab", .tab), ("Escape", .escape), ("ShiftLeft", .shiftLeft),
   ("ShiftRight", .shiftRight), ("ControlLeft", .controlLeft),
   ("ControlRight", .controlRight), ("AltLeft", .altLeft), ("AltRight", .altRight)]

/-- The letter key of a code that ends in exactly one capital letter. -/
def ofLetters : List Char → Key
  | [glyph] => if 'A' ≤ glyph ∧ glyph ≤ 'Z' then .letter glyph else .unknown
  | _ => .unknown

/-- The digit key of a code that ends in a number from zero to nine. -/
def ofDigits (digits : List Char) : Key :=
  match Text.readNat? digits with
  | some value => if value ≤ 9 then .digit (UInt8.ofNat value) else .unknown
  | none => .unknown

/-- The function key of a code that ends in a number from one to twelve. -/
def ofNumber (digits : List Char) : Key :=
  match Text.readNat? digits with
  | some number =>
    if 1 ≤ number ∧ number ≤ 12 then .function (UInt8.ofNat number) else .unknown
  | none => .unknown

/-- The key of a code that belongs to a family. -/
def ofFamily : List Char → Key
  | 'K' :: 'e' :: 'y' :: letters => ofLetters letters
  | 'D' :: 'i' :: 'g' :: 'i' :: 't' :: digits => ofDigits digits
  | 'F' :: digits => ofNumber digits
  | _ => .unknown

/-- The key with the given code. -/
def ofCode (code : String) : Key :=
  match namedCodes.lookup code with
  | some key => key
  | none => ofFamily code.toList

/-- The code of a key. -/
def code (key : Key) : String :=
  match namedCodes.find? (fun named => named.2 == key) with
  | some named => named.1
  | none =>
    match key with
    | .letter glyph => "Key" ++ String.singleton glyph
    | .digit value => "Digit" ++ toString value.toNat
    | .function number => "F" ++ toString number.toNat
    | _ => "Unidentified"

/-! ## §2 Names -/

/-- How a key is written in diagnostics. -/
def name : Key → String
  | .letter glyph => "Letter('" ++ String.singleton glyph ++ "')"
  | .digit value => "Digit(" ++ toString value.toNat ++ ")"
  | .function number => "Function(" ++ toString number.toNat ++ ")"
  | .unknown => "Unknown"
  | key => key.code

end Key

end Handheld
