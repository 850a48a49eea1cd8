import Handheld.Input.Key

/-!
# Window Keys

A desktop window names its keys in its own way: `Up`, `LeftShift`, `Q`, `Key7`, `F3`.  This
module finds the physical key behind such a name.  Keys that the handheld has no use for,
such as the number pad, are unknown.
-/

namespace Handheld

namespace Key

/-- The names of the window keys that are neither letters, digits nor function keys. -/
def namedWindowKeys : List (String × Key) :=
  [("Up", .arrowUp), ("Down", .arrowDown), ("Left", .arrowLeft), ("Right", .arrowRight),
   ("Enter", .enter), ("Backspace", .backspace), ("Space", .space), ("Tab", .tab),
   ("Escape", .escape), ("LeftShift", .shiftLeft), ("RightShift", .shiftRight),
   ("LeftCtrl", .controlLeft), ("RightCtrl", .controlRight), ("LeftAlt", .altLeft),
   ("RightAlt", .altRight)]

def capitals : List Char := "ABCDEFGHIJKLMNOPQRSTUVWXYZ".toList

/-- Every window key that has a physical key, with that key. -/
def windowKeys : List (String × Key) :=
  namedWindowKeys
    ++ capitals.map (fun glyph => (String.singleton glyph, .letter glyph))
    ++ (List.range 10).map (fun n => ("Key" ++ toString n, .digit (UInt8.ofNat n)))
    ++ (List.range 12).map (fun n => ("F" ++ toString (n + 1), .function (UInt8.ofNat (n + 1))))

/-- The physical key behind a window key. -/
def ofWindowName (windowName : String) : Key := (windowKeys.lookup windowName).getD .unknown

end Key

end Handheld
