import Handheld.Checked
import Handheld.Core.Request
import Handheld.Input.Event

/-!
# Native Machines

A native core works on a *machine*: a linear memory, which the host shares with it, and
whatever state the core keeps to itself.  `NativeCore` is the function table: it answers a
request and moves the machine on.  Three things can come of a request:

- an answer;
- an error of the call itself, such as a trap; the machine stays usable;
- a fault, which ends the run.
-/

namespace Handheld

/-- A native core's linear memory together with its private state. -/
structure Machine (σ : Type) where
  memory : Bytes
  state : σ
deriving DecidableEq, Repr

/-- The outcome of a call that may fail, with the state it leaves behind. -/
abbrev Reply (ε α σ : Type) := Except ε α × σ

/-- The function table of a native core with private state `σ`. -/
class NativeCore (σ : Type) where
  answer : (request : Request) → Machine σ → Faulty (Reply Error request.Answer (Machine σ))

end Handheld
