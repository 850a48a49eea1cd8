import Handheld.Core.Machine

/-!
# Scripted Answers

For a rehearsal the answers of a party can be laid down beforehand.  A *script* is a list of
overrides; each call takes one from the front.  An override answers in the party's place or
lets the call pass; after the last one every call passes.

`Scripted` puts a script for each function in front of a native core.
-/

namespace Handheld

/-- What happens to one call. -/
inductive Override (ε α : Type)
  | pass
  /-- The call fails, and goes no further. -/
  | fail (cause : ε)
  /-- The call is answered, and goes no further. -/
  | answer (value : α)
deriving DecidableEq, Repr

/-- What happens to the next calls. -/
abbrev Script (ε α : Type) := List (Override ε α)

def Script.take {ε α : Type} : Script ε α → Override ε α × Script ε α
  | [] => (.pass, [])
  | override :: rest => (override, rest)

/-- A native core with scripts in front of it.  Answers are laid down as words. -/
structure Scripted (σ : Type) where
  inner : σ
  scripts : NativeFunction → Script Error UInt32 := fun _ => []

namespace Scripted

variable {σ : Type}

/-- The scripts with another one for one function. -/
def setScript (scripted : Scripted σ) (function : NativeFunction) (script : Script Error UInt32) :
    Scripted σ :=
  { scripted with scripts := fun other =>
      if other = function then script else scripted.scripts other }

/-- Adds overrides behind those that a function's script has already. -/
def extend (scripted : Scripted σ) (function : NativeFunction)
    (overrides : Script Error UInt32) : Scripted σ :=
  scripted.setScript function (scripted.scripts function ++ overrides)

/-- The machine of the core without the scripts. -/
def innerMachine (machine : Machine (Scripted σ)) : Machine σ :=
  ⟨machine.memory, machine.state.inner⟩

instance [NativeCore σ] : NativeCore (Scripted σ) where
  answer request machine :=
    let (override, rest) := (machine.state.scripts request.function).take
    let state := machine.state.setScript request.function rest
    match override with
    | .fail cause => .ok (.error cause, { machine with state })
    | .answer word => .ok (.ok (request.ofWord word), { machine with state })
    | .pass => do
      let (answer, inner) ← NativeCore.answer request (innerMachine machine)
      return (answer, ⟨inner.memory, { state with inner := inner.state }⟩)

end Scripted

end Handheld
