import Handheld.Checked

/-!
# Clocks

A clock counts femtoseconds from the start of the run.  The display refreshes at a rate in
hertz, and between two refreshes lies the *period* of that rate.

How far a clock can count, and how long a period is, is up to the library that clocks are made
of.  A `Clockwork` stands for that library: everything that moves or shows a clock takes it as
a parameter.  `Clockwork.Standard` is what the library says about itself, and it is a
hypothesis wherever a result needs more than that clocks go forward.
-/

namespace Handheld

/-- A point in time, in femtoseconds since the start of the run. -/
structure Instant where
  femtos : Nat
deriving DecidableEq, Repr

def Instant.start : Instant := ⟨0⟩

/-- A span of time, in femtoseconds. -/
structure Period where
  femtos : Nat
deriving DecidableEq, Repr

/-- The femtoseconds of a second. -/
def Period.second : Nat := 1_000_000_000_000_000

/-! ## §1 What clocks are made of -/

/-- The library that provides clocks. -/
class Clockwork where
  /-- A clock is always below this number of femtoseconds. -/
  bound : Nat
  /-- The time between two refreshes of a display with the given rate in hertz. -/
  ofHertz : (rate : Nat) → Faulty Period
  /-- The period of a display that refreshes sixty times a second. -/
  refresh : Period
  /-- How a clock is written in diagnostics. -/
  text : Instant → String
  ofHertz_sixty : ofHertz 60 = .ok refresh
  /-- A clock that has moved on by a refresh is newer than before. -/
  refresh_pos : 0 < refresh.femtos

/-- What the library documents: clocks are words of 128 bits, and the period of a rate is a
second divided by the rate, the fraction dropped. -/
structure Clockwork.Standard [Clockwork] : Prop where
  bound : UInt64.size * UInt64.size ≤ Clockwork.bound
  ofHertz : ∀ rate, rate ≠ 0 → Clockwork.ofHertz rate = .ok ⟨Period.second / rate⟩

variable [Clockwork]

theorem Clockwork.Standard.refresh_femtos (standard : Clockwork.Standard) :
    Clockwork.refresh.femtos = Period.second / 60 := by
  have sixty := standard.ofHertz 60 (by decide)
  rw [Clockwork.ofHertz_sixty] at sixty
  exact congrArg Period.femtos (Except.ok.inj sixty)

/-! ## §2 Moving a clock on -/

namespace Instant

def advance (clock : Instant) (period : Period) : Faulty Instant :=
  if clock.femtos + period.femtos < Clockwork.bound then
    .ok ⟨clock.femtos + period.femtos⟩
  else .error .overflow

theorem advance_eq_ok_iff {clock later : Instant} {period : Period} :
    clock.advance period = .ok later ↔
      clock.femtos + period.femtos < Clockwork.bound ∧
        later = ⟨clock.femtos + period.femtos⟩ := by
  unfold advance
  split
  · next h =>
    simp only [Except.ok.injEq, h, true_and]
    exact eq_comm
  · next h => simp only [h, false_and, reduceCtorEq]

end Instant

end Handheld
