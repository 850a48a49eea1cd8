import Handheld.Display.Host
import Handheld.Journal.Entry
import Handheld.Session.Stopwatch

/-!
# Acts

An operation of the controller works on a *rig*: the native machine, the display and a
stopwatch.  An `Act` is such an operation.  It gives a value and moves the rig on, and it
keeps a journal of what it did; the journal of two acts in a row is that of the first
followed by that of the second.  A fault ends an act without an outcome; what the act had done
until then stays in the journal of the interruption.

An error of the domain is not a fault but part of the value: the type
`Act σ τ (Except Error α)` is that of an operation that may fail.

- `Act.pure` and `Act.bind` make acts a monad;
- the acts of §2 are the only ones that touch the rig; each writes one entry for each call
  that can be seen from outside.
-/

namespace Handheld

/-- Everything that the controller works on. -/
structure Rig (σ τ : Type) where
  machine : Machine σ
  display : τ
  stopwatch : Stopwatch := {}
deriving Repr

/-- What an act gives, leaves behind and has done. -/
structure Outcome (σ τ α : Type) where
  value : α
  rig : Rig σ τ
  journal : Journal

/-- How a fault cuts an act short. -/
structure Interruption where
  fault : Fault
  /-- What the act had done before the fault. -/
  journal : Journal

/-- A fault that comes before anything has been done. -/
instance : MonadLift Faulty (Except Interruption) where
  monadLift := Except.mapError (⟨·, []⟩)

/-- What was done before the fault is forgotten. -/
instance : MonadLift (Except Interruption) Faulty where
  monadLift := Except.mapError Interruption.fault

/-- An operation on a rig. -/
structure Act (σ τ α : Type) where
  run : Rig σ τ → Except Interruption (Outcome σ τ α)

namespace Act

variable {σ τ α β γ : Type}

/-! ## §1 Sequencing -/

@[ext] theorem ext {x y : Act σ τ α} (h : ∀ rig, x.run rig = y.run rig) : x = y := by
  cases x; cases y
  exact congrArg Act.mk (funext h)

protected def pure (value : α) : Act σ τ α where
  run rig := .ok ⟨value, rig, []⟩

/-- Does one act and then another that depends on its value. -/
protected def bind (first : Act σ τ α) (next : α → Act σ τ β) : Act σ τ β where
  run rig :=
    match first.run rig with
    | .error cut => .error cut
    | .ok ⟨value, rig, journal⟩ =>
      match (next value).run rig with
      | .error ⟨fault, more⟩ => .error ⟨fault, journal ++ more⟩
      | .ok ⟨value, rig, more⟩ => .ok ⟨value, rig, journal ++ more⟩

instance : Monad (Act σ τ) where
  pure := Act.pure
  bind := Act.bind

@[simp] theorem run_pure (value : α) (rig : Rig σ τ) :
    (pure value : Act σ τ α).run rig = .ok ⟨value, rig, []⟩ := rfl

theorem run_bind (first : Act σ τ α) (next : α → Act σ τ β) (rig : Rig σ τ) :
    (first >>= next).run rig =
      match first.run rig with
      | .error cut => .error cut
      | .ok ⟨value, rig, journal⟩ =>
        match (next value).run rig with
        | .error ⟨fault, more⟩ => .error ⟨fault, journal ++ more⟩
        | .ok ⟨value, rig, more⟩ => .ok ⟨value, rig, journal ++ more⟩ := rfl

/-- An outcome of two acts in a row is made of an outcome of each. -/
theorem run_bind_eq_ok_iff {first : Act σ τ α} {next : α → Act σ τ β} {rig : Rig σ τ}
    {outcome : Outcome σ τ β} :
    (first >>= next).run rig = .ok outcome ↔
      ∃ middle last, first.run rig = .ok middle ∧
        (next middle.value).run middle.rig = .ok last ∧
        outcome = ⟨last.value, last.rig, middle.journal ++ last.journal⟩ := by
  rw [run_bind]
  cases hfirst : first.run rig with
  | error cut => simp
  | ok middle =>
    obtain ⟨value, rig', journal⟩ := middle
    dsimp only
    cases hnext : (next value).run rig' with
    | error cut => simp [hnext]
    | ok last => simp [hnext, eq_comm]

instance : LawfulMonad (Act σ τ) := LawfulMonad.mk' (Act σ τ)
  -- Mapping the identity changes nothing.
  (fun x => by
    ext rig
    show (x >>= pure).run rig = _
    rw [run_bind]
    cases x.run rig <;> simp)
  -- A given value is bound by substitution.
  (fun value next => by
    ext rig
    rw [run_bind]
    simp only [run_pure]
    cases (next value).run rig <;> simp)
  -- Binding is associative, because appending journals is.
  (fun x f g => by
    ext rig
    simp only [run_bind]
    cases x.run rig with
    | error cut => rfl
    | ok middle =>
      dsimp only
      cases (f middle.value).run middle.rig with
      | error cut => rfl
      | ok last =>
        dsimp only
        cases (g last.value).run last.rig <;> simp [List.append_assoc])

/-! ## §2 The rig -/

/-- Gives the value of a computation that a fault may end. -/
def ofFaulty (computation : Faulty α) : Act σ τ α where
  run rig :=
    match computation with
    | .ok value => .ok ⟨value, rig, []⟩
    | .error fault => .error ⟨fault, []⟩

def note (diagnostic : Diagnostic) : Act σ τ Unit where
  run rig := .ok ⟨(), rig, [.diagnostic diagnostic]⟩

/-- Gives a value and issues the diagnostics that belong to it. -/
def ofNoted (noted : Noted α) : Act σ τ α where
  run rig := .ok ⟨noted.value, rig, noted.notes.map .diagnostic⟩

def memory : Act σ τ Bytes where
  run rig := .ok ⟨rig.machine.memory, rig, []⟩

def setMemory (memory : Bytes) : Act σ τ Unit where
  run rig := .ok ⟨(), { rig with machine.memory := memory }, []⟩

def ask [NativeCore σ] (request : Request) : Act σ τ (Except Error request.Answer) where
  run rig :=
    match NativeCore.answer request rig.machine with
    | .error fault => .error ⟨fault, []⟩
    | .ok (answer, machine) =>
      .ok ⟨answer, { rig with machine }, [.native request answer]⟩

/-- Makes a request to the surface.  A refusal becomes an error of the controller. -/
def present [Surface τ] (request : SurfaceRequest) : Act σ τ (Except Error Unit) where
  run rig :=
    match request.perform rig.display with
    | .error fault => .error ⟨fault, []⟩
    | .ok (answer, display) =>
      .ok ⟨answer.mapError .surface, { rig with display }, [.surface request answer]⟩

/-- The encoding that the surface wants. -/
def encoding [Surface τ] : Act σ τ PixelEncoding where
  run rig := .ok ⟨Surface.encoding rig.display, rig, []⟩

def readStopwatch : Act σ τ Nat where
  run rig :=
    .ok ⟨rig.stopwatch.read.1, { rig with stopwatch := rig.stopwatch.read.2 }, []⟩

/-- Waits for the next refresh of the display.  Gives the host's answer and the events that
the user sent in the meantime. -/
def waitForRefresh [Host τ] : Act σ τ (Except HostError Bool × List HostEvent) where
  run rig :=
    match Host.waitForRefresh rig.display with
    | .error fault => .error ⟨fault, []⟩
    | .ok ((answer, display), events) =>
      .ok ⟨(answer, events), { rig with display }, [.host (.refresh answer)]⟩

def registerEvents [Host τ] : Act σ τ (Except Error Unit) where
  run rig :=
    match Host.registerEvents rig.display with
    | (answer, display) => .ok ⟨answer.mapError .surface, { rig with display }, []⟩

/-- Tells the host how many frames have been produced. -/
def frameComplete [Host τ] (frames : UInt64) : Act σ τ Unit where
  run rig :=
    .ok ⟨(), { rig with display := Host.frameComplete frames rig.display },
      [.host (.frameComplete frames)]⟩

/-- Tells the host that an operation has failed. -/
def reportError [Host τ] (cause : Error) : Act σ τ Unit where
  run rig :=
    match Host.reportError cause rig.display with
    | ⟨display, notes⟩ =>
      .ok ⟨(), { rig with display }, .host (.reportError cause) :: notes.map .diagnostic⟩

/-! ## §3 Errors that are only reported -/

/-- Issues a diagnostic if there is an error, which goes no further. -/
def noteError (result : Except Error α) (diagnostic : Error → Diagnostic) : Act σ τ Unit :=
  match result with
  | .ok _ => pure ()
  | .error cause => note (diagnostic cause)

end Act

end Handheld
