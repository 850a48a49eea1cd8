import Handheld.Guest.Export
import Handheld.Journal.Diagnostic

/-!
# Linked Cores

A compiled core becomes a native core by being *linked*: its initializer is run, and its
memory and its nine functions are looked up by name and type.  Linking is all or nothing.
The first failure decides, in this order: a trap of the initializer, a missing memory, a
missing function in the order of `NativeFunction.all`.

Words cross the boundary in both directions, so a linked core answers a request by calling
the function with the request's operands and reading the answer in the word it gives.
-/

namespace Handheld

/-- A core that has been compiled and instantiated, but not linked. -/
structure Image (σ : Type) where
  exports : ExportTable σ
  machine : Machine σ

/-- The private state of a linked core: its own, and the functions that were found. -/
structure Linked (σ : Type) where
  state : σ
  body : NativeFunction → Body σ

namespace Linked

variable {σ : Type}

/-- Calls a function of a linked core.  What it has done before a trap stays done, and the core
can be called again. -/
def call (function : NativeFunction) (operands : List UInt32) (machine : Machine (Linked σ)) :
    Reply Trap UInt32 (Machine (Linked σ)) :=
  let linked := machine.state
  let (result, inner) := linked.body function operands ⟨machine.memory, linked.state⟩
  (result, ⟨inner.memory, { linked with state := inner.state }⟩)

instance [Sandbox] : NativeCore (Linked σ) where
  answer request machine :=
    match call request.function request.operands machine with
    | (.ok word, machine) => .ok (.ok (request.ofWord word), machine)
    | (.error trap, machine) => .ok (.error (.native (Sandbox.trapText trap)), machine)

end Linked

namespace Image

variable {σ : Type}

/-- The first initializer that the core exports, with its name. -/
def initializer? (image : Image σ) : Option (String × Body σ) :=
  initializerNames.findSome? fun name =>
    (image.exports.body? name .initializer).map fun body => (name, body)

variable [Sandbox]

/-- Runs the initializer, if there is one.  That comes before anything else is looked up, so it
may have run in a core that is then found unusable. -/
def initialized (image : Image σ) : Noted (Except Error (Machine σ)) :=
  match image.initializer? with
  | none => ⟨.ok image.machine, []⟩
  | some (name, body) =>
    match body [] image.machine with
    | (.ok _, machine) => ⟨.ok machine, [.running name]⟩
    | (.error trap, _) => ⟨.error (.native (Sandbox.trapText trap)), [.running name]⟩

/-- The function that is exported under its name with its type. -/
def function? (image : Image σ) (names : ExportNames) (function : NativeFunction) :
    Option (Body σ) :=
  image.exports.body? (names.name function) function.signature

/-- The first function that is not there. -/
def missing? (image : Image σ) (names : ExportNames) : Option NativeFunction :=
  NativeFunction.all.find? fun function => (image.function? names function).isNone

/-- Why a link ends at a function.  The sandbox tells what is wrong with it. -/
def lookupError (image : Image σ) (names : ExportNames) (function : NativeFunction) : Error :=
  let name := names.name function
  .native ("export " ++ name ++ ": " ++
    Sandbox.lookupText name (image.exports.type? name) function.signature)

/-- Looks up the memory and the functions.  A function counts only with exactly its type, and all
nine must be there. -/
def resolve (image : Image σ) (names : ExportNames) (machine : Machine σ) :
    Except Error (Machine (Linked σ)) :=
  if image.exports.hasMemory memoryName then
    match image.missing? names with
    | some function => .error (image.lookupError names function)
    -- No function is missing, so the default is never called.
    | none =>
      .ok ⟨machine.memory, machine.state, fun function =>
        (image.function? names function).getD fun _ machine =>
          (.error (.unknownImport (names.name function)), machine)⟩
  else .error (.native ("core has no exported " ++ memoryName))

/-- Makes a native core of a compiled one.  Nothing is left of the core if that fails. -/
def link (image : Image σ) (names : ExportNames) : Noted (Except Error (Machine (Linked σ))) :=
  let started := image.initialized
  ⟨started.value.bind (image.resolve names), started.notes⟩

/-- Makes a native core of the file at `path`, which holds `image?` unless it cannot be
compiled. -/
def load (path : String) (image? : Option (Image σ)) (names : ExportNames) :
    Noted (Except Error (Machine (Linked σ))) :=
  match image? with
  | none => ⟨.error (.native (Sandbox.compileText path)), []⟩
  | some image =>
    let linked := image.link names
    ⟨linked.value, .coreLoaded path :: linked.notes⟩

end Image

end Handheld
