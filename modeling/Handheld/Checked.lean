/-!
# Checked Arithmetic

Counters, coordinates and sizes live in words of a fixed width.  An operation whose exact
result does not fit its word never wraps around: it is a *fault*, and a fault ends the whole
run.  A fault is different from an error of the domain, which is an ordinary answer that the
caller handles.

- `Fault` names the causes;
- `Checked.add32`, `Checked.mul32`, `Checked.sub32`, `Checked.next64` compute in words;
- `Checked.addSize`, `Checked.mulSize` compute sizes, which are natural numbers below `UInt64.size`;
- `Checked.saturatingMul` is the one size operation that stops at the largest size instead.

Each operation has one law, which says exactly when it succeeds and with what.
-/

namespace Handheld

/-- Why a run was cut short: the program was asked for something that no state can hold. -/
inductive Fault
  /-- A sum, difference or product does not fit its word. -/
  | overflow
  /-- An element outside of a buffer was addressed. -/
  | outOfRange
  | divisionByZero
  /-- A buffer would be longer than any host buffer can be. -/
  | capacity
deriving DecidableEq, Repr

/-- A computation that a fault may end. -/
abbrev Faulty := Except Fault

namespace Checked

/-! ## §1 Words -/

def add32 (a b : UInt32) : Faulty UInt32 :=
  if a.toNat + b.toNat < UInt32.size then .ok (a + b) else .error .overflow

def mul32 (a b : UInt32) : Faulty UInt32 :=
  if a.toNat * b.toNat < UInt32.size then .ok (a * b) else .error .overflow

def sub32 (a b : UInt32) : Faulty UInt32 :=
  if b.toNat ≤ a.toNat then .ok (a - b) else .error .overflow

def next32 (n : UInt32) : Faulty UInt32 := add32 n 1

def next64 (n : UInt64) : Faulty UInt64 :=
  if n.toNat + 1 < UInt64.size then .ok (n + 1) else .error .overflow

theorem add32_eq_ok_iff {a b c : UInt32} :
    add32 a b = .ok c ↔ a.toNat + b.toNat < UInt32.size ∧ c.toNat = a.toNat + b.toNat := by
  unfold add32
  split
  · next h =>
    simp only [Except.ok.injEq, h, true_and, ← UInt32.toNat_inj, UInt32.toNat_add]
    rw [Nat.mod_eq_of_lt h]
    exact eq_comm
  · next h => simp only [h, false_and, reduceCtorEq]

theorem mul32_eq_ok_iff {a b c : UInt32} :
    mul32 a b = .ok c ↔ a.toNat * b.toNat < UInt32.size ∧ c.toNat = a.toNat * b.toNat := by
  unfold mul32
  split
  · next h =>
    simp only [Except.ok.injEq, h, true_and, ← UInt32.toNat_inj, UInt32.toNat_mul]
    -- Below the bound the product of the words is that of the numbers.
    rw [Nat.mod_eq_of_lt h]
    exact eq_comm
  · next h => simp only [h, false_and, reduceCtorEq]

theorem sub32_eq_ok_iff {a b c : UInt32} :
    sub32 a b = .ok c ↔ b.toNat ≤ a.toNat ∧ c.toNat = a.toNat - b.toNat := by
  unfold sub32
  split
  · next h =>
    simp only [Except.ok.injEq, h, true_and, ← UInt32.toNat_inj]
    rw [UInt32.toNat_sub_of_le _ _ (UInt32.le_iff_toNat_le.2 h)]
    exact eq_comm
  · next h => simp only [h, false_and, reduceCtorEq]

theorem next64_eq_ok_iff {n m : UInt64} :
    next64 n = .ok m ↔ n.toNat + 1 < UInt64.size ∧ m.toNat = n.toNat + 1 := by
  unfold next64
  split
  · next h =>
    simp only [Except.ok.injEq, h, true_and, ← UInt64.toNat_inj, UInt64.toNat_add]
    show (n.toNat + 1) % UInt64.size = m.toNat ↔ _
    rw [Nat.mod_eq_of_lt h]
    exact eq_comm
  · next h => simp only [h, false_and, reduceCtorEq]

/-! ## §2 Sizes -/

/-- The largest size: sizes are 64 bits wide. -/
def maxSize : Nat := UInt64.size - 1

/-- The most bytes that one host buffer can hold. -/
def maxBufferBytes : Nat := UInt64.size / 2 - 1

/-- A size that has been computed exactly, if it is one. -/
def size (n : Nat) : Faulty Nat :=
  if n ≤ maxSize then .ok n else .error .overflow

def addSize (a b : Nat) : Faulty Nat := size (a + b)

def mulSize (a b : Nat) : Faulty Nat := size (a * b)

/-- The product of two sizes, or the largest size if the exact product is larger. -/
def saturatingMul (a b : Nat) : Nat := min (a * b) maxSize

def divSize (a b : Nat) : Faulty Nat :=
  if b = 0 then .error .divisionByZero else .ok (a / b)

/-- A host buffer of `bytes` bytes can exist. -/
def capacity (bytes : Nat) : Faulty Unit :=
  if bytes ≤ maxBufferBytes then .ok () else .error .capacity

theorem size_eq_ok_iff {n m : Nat} : size n = .ok m ↔ n ≤ maxSize ∧ m = n := by
  unfold size
  split
  · next h => simp [h, eq_comm]
  · next h => simp only [h, false_and, reduceCtorEq]

theorem capacity_eq_ok_iff {n : Nat} : capacity n = .ok () ↔ n ≤ maxBufferBytes := by
  unfold capacity
  split
  · next h => simp only [h]
  · next h => simp only [h, reduceCtorEq]

end Checked

end Handheld
