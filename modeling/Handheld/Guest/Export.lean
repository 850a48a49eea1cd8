import Handheld.Core.Machine

/-!
# Exports of a Compiled Core

A core compiled for a sandbox exports its memory and its functions under names.  Each export
is a memory or a function of some type; a call of a function gives one word or a trap.

- `ExportNames` are the names under which the nine functions of a core are looked for;
- `ExportTable` is what a core exports;
- `Sandbox` is the library that compiles cores, runs them and looks their exports up.  What it
  does with an export table is plain, but what it says when that goes wrong is its own matter,
  so its texts are a parameter of everything that reports them.
-/

namespace Handheld

/-! ## §1 Functions -/

/-- The types of the values that cross the boundary of the sandbox.  The interface of a core is
made of words; the other types of the sandbox are only told apart from that one. -/
inductive ValueType
  | i32
  | other (name : String)
deriving DecidableEq, Repr

structure Signature where
  params : List ValueType
  results : List ValueType
deriving DecidableEq, Repr

/-- The type that a function of a core is required to have: it takes and gives words. -/
def NativeFunction.signature (function : NativeFunction) : Signature where
  params := List.replicate function.arity .i32
  results := if function.returnsWord then [.i32] else []

def Signature.initializer : Signature := ⟨[], []⟩

inductive Trap
  /-- Memory outside of the linear memory was addressed. -/
  | outOfBounds
  /-- An imported function was called that nobody provides. -/
  | unknownImport (name : String)
deriving DecidableEq, Repr

/-- What an exported function does: it takes words and gives a word, which means nothing if
the function has no result. -/
abbrev Body (σ : Type) := List UInt32 → Machine σ → Reply Trap UInt32 (Machine σ)

/-! ## §2 Names -/

/-- The name of a function in the interface of a core. -/
def NativeFunction.exportName : NativeFunction → String
  | .create => "gbhw_create_web"
  | .destroy => "gbhw_destroy"
  | .step => "gbhw_step"
  | .screenPointer => "gbhw_get_screen_web"
  | .screenWidth => "gbhw_get_screen_resolution_width"
  | .screenHeight => "gbhw_get_screen_resolution_height"
  | .setButtonState => "gbhw_set_button_state"
  | .malloc => "malloc"
  | .free => "free"

/-- The name under which each function is looked for. -/
structure ExportNames where
  name : NativeFunction → String

namespace ExportNames

/-- The names of the interface, each preceded by a mark.  Some builds mark every name with an
underscore. -/
def withMark (mark : String) : ExportNames := ⟨fun function => mark ++ function.exportName⟩

def plain : ExportNames := withMark ""

/-- Two sets of names agree on every function. -/
def sameAs (names others : ExportNames) : Bool :=
  NativeFunction.all.all fun function => names.name function == others.name function

end ExportNames

def memoryName : String := "memory"

/-- The names of initializers.  The first that a core exports is called once. -/
def initializerNames : List String := ["_initialize", "__wasm_call_ctors"]

/-! ## §3 Tables -/

/-- Something that a core exports. -/
inductive Export (σ : Type)
  | memory
  | function (signature : Signature) (body : Body σ)

/-- What an export is, without what it does. -/
inductive ExportType
  | memory
  | function (signature : Signature)
deriving DecidableEq, Repr

def Export.type {σ : Type} : Export σ → ExportType
  | .memory => .memory
  | .function signature _ => .function signature

/-- What a core exports, by name. -/
abbrev ExportTable (σ : Type) := List (String × Export σ)

namespace ExportTable

variable {σ : Type}

/-- The body of the function that is exported under a name with a type. -/
def body? (table : ExportTable σ) (name : String) (signature : Signature) : Option (Body σ) :=
  match table.lookup name with
  | some (.function actual body) => if actual = signature then some body else none
  | _ => none

/-- What stands under a name, if anything does. -/
def type? (table : ExportTable σ) (name : String) : Option ExportType :=
  (table.lookup name).map Export.type

def hasMemory (table : ExportTable σ) (name : String) : Bool :=
  match table.lookup name with
  | some .memory => true
  | _ => false

/-- The table with every export under a new name. -/
def rename (table : ExportTable σ) (newName : String → String) : ExportTable σ :=
  table.map fun entry => (newName entry.1, entry.2)

def swap (table : ExportTable σ) (a b : String) : ExportTable σ :=
  table.rename fun name => if name = a then b else if name = b then a else name

/-- The table without the functions of the given names. -/
def dropFunctions (table : ExportTable σ) (names : List String) : ExportTable σ :=
  table.filter fun entry =>
    match entry.2 with
    | .memory => true
    | .function _ _ => !names.contains entry.1

def dropMemory (table : ExportTable σ) : ExportTable σ :=
  table.filter fun entry =>
    match entry.2 with
    | .memory => false
    | .function _ _ => true

/-- The table with a mark before the names of the interface. -/
def mark (table : ExportTable σ) (text : String) : ExportTable σ :=
  table.rename fun name =>
    if NativeFunction.all.any (fun function => function.exportName == name) then text ++ name
    else name

end ExportTable

/-! ## §4 The sandbox -/

/-- The library that compiles and runs cores, with what it says when it fails. -/
class Sandbox where
  /-- Why no core can be compiled from the file at a path. -/
  compileText : (path : String) → String
  trapText : Trap → String
  /-- Why what has been found under a name is not a function of the required type. -/
  lookupText : (name : String) → (found : Option ExportType) → (required : Signature) → String

end Handheld
