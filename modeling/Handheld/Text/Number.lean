/-!
# Numbers as Text

Ways to write a number and to read it.

- `hex` writes a number with a fixed count of hexadecimal digits, `address` a memory address;
- `padLeft` right-aligns a number in a column;
- `readNat?` reads an unsigned number: at least one decimal digit, any number of leading
  zeros, and at most one leading plus sign;
- `readHexBytes` reads bytes of two hexadecimal digits each.
-/

namespace Handheld.Text

/-! ## §1 Writing -/

/-- The lowest `digits` hexadecimal digits of a number, most significant first. -/
def hexDigits : (digits : Nat) → Nat → List Char
  | 0, _ => []
  | digits + 1, n => hexDigits digits (n / 16) ++ [Nat.digitChar (n % 16)]

/-- A number in `digits` hexadecimal digits. -/
def hex (digits n : Nat) : String := String.ofList (hexDigits digits n)

/-- A memory address: eight hexadecimal digits after the mark `0x`. -/
def address (addr : UInt32) : String := "0x" ++ hex 8 addr.toNat

/-- A text right-aligned in a column of the given width. -/
def padLeft (width : Nat) (text : String) : String :=
  String.ofList (List.replicate (width - text.length) ' ') ++ text

theorem length_hexDigits (digits n : Nat) : (hexDigits digits n).length = digits := by
  induction digits generalizing n with
  | zero => rfl
  | succ digits ih => simp [hexDigits, ih]

/-! ## §2 Reading -/

/-- The value of a hexadecimal digit in lower case; that of any other character is zero. -/
def hexValue (c : Char) : Nat :=
  if '0' ≤ c ∧ c ≤ '9' then c.toNat - '0'.toNat
  else if 'a' ≤ c ∧ c ≤ 'f' then c.toNat - 'a'.toNat + 10
  else 0

/-- The bytes written in pairs of hexadecimal digits. -/
def readHexBytes : List Char → List UInt8
  | high :: low :: rest => UInt8.ofNat (16 * hexValue high + hexValue low) :: readHexBytes rest
  | _ => []

def digitValue? (c : Char) : Option Nat :=
  if '0' ≤ c ∧ c ≤ '9' then some (c.toNat - '0'.toNat) else none

/-- Reads decimal digits up to the end, after digits worth `value`. -/
def readDigits? : (value : Nat) → List Char → Option Nat
  | value, [] => some value
  | value, c :: rest => do readDigits? (10 * value + (← digitValue? c)) rest

/-- Reads a number of one or more decimal digits, which a plus sign may precede. -/
def readNat? : List Char → Option Nat
  | [] => none
  | ['+'] => none
  | '+' :: rest => readDigits? 0 rest
  | digits => readDigits? 0 digits

end Handheld.Text
