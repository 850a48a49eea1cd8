import Mathlib.Algebra.Group.Nat.Defs
import Handheld.Checked

/-!
# Computations That No Fault Ends

The laws of checked arithmetic say when an operation succeeds.  Here they are turned around:
below its bound an operation has a result, and a loop whose body always has one has one, too.
-/

namespace Handheld.Checked

/-! ## §1 Single operations -/

theorem add32_ok {a b : UInt32} (h : a.toNat + b.toNat < 2 ^ 32) :
    ∃ c, add32 a b = .ok c ∧ c.toNat = a.toNat + b.toNat := by
  have success : add32 a b = .ok (a + b) := if_pos h
  exact ⟨a + b, success, (add32_eq_ok_iff.1 success).2⟩

theorem mul32_ok {a b : UInt32} (h : a.toNat * b.toNat < 2 ^ 32) :
    ∃ c, mul32 a b = .ok c ∧ c.toNat = a.toNat * b.toNat := by
  have success : mul32 a b = .ok (a * b) := if_pos h
  exact ⟨a * b, success, (mul32_eq_ok_iff.1 success).2⟩

theorem mul32_error {a b : UInt32} (h : 2 ^ 32 ≤ a.toNat * b.toNat) :
    mul32 a b = .error .overflow := if_neg (Nat.not_lt.2 h)

theorem toNat_pos {a : UInt32} (nonzero : a ≠ 0) : 0 < a.toNat :=
  Nat.pos_of_ne_zero fun zero => nonzero (UInt32.toNat_inj.1 zero)

theorem toNat_min (a b : UInt32) : (min a b).toNat = min a.toNat b.toNat := by
  show (if a ≤ b then a else b).toNat = _
  split
  · next le =>
    rw [Nat.min_eq_left (UInt32.le_iff_toNat_le.1 le)]
  · next gt =>
    rw [Nat.min_eq_right (Nat.le_of_lt (UInt32.lt_iff_toNat_lt.1 (UInt32.not_le.1 gt)))]

theorem next32_ok {n : UInt32} (h : n.toNat + 1 < 2 ^ 32) :
    ∃ m, next32 n = .ok m ∧ m.toNat = n.toNat + 1 := add32_ok h

theorem next32_error {n : UInt32} (h : 2 ^ 32 ≤ n.toNat + 1) : next32 n = .error .overflow :=
  if_neg (Nat.not_lt.2 h)

theorem next64_ok {n : UInt64} (h : n.toNat + 1 < 2 ^ 64) :
    ∃ m, next64 n = .ok m ∧ m.toNat = n.toNat + 1 := by
  have success : next64 n = .ok (n + 1) := if_pos h
  exact ⟨n + 1, success, (next64_eq_ok_iff.1 success).2⟩

theorem next64_error {n : UInt64} (h : 2 ^ 64 ≤ n.toNat + 1) : next64 n = .error .overflow :=
  if_neg (Nat.not_lt.2 h)

theorem maxSize_eq : maxSize = 2 ^ 64 - 1 := rfl

theorem maxBufferBytes_eq : maxBufferBytes = 2 ^ 63 - 1 := rfl

theorem size_ok {n : Nat} (h : n ≤ maxSize) : size n = .ok n := if_pos h

theorem size_error {n : Nat} (h : maxSize < n) : size n = .error .overflow :=
  if_neg (Nat.not_le.2 h)

theorem capacity_ok {n : Nat} (h : n ≤ maxBufferBytes) : capacity n = .ok () := if_pos h

theorem divSize_ok {a b : Nat} (h : b ≠ 0) : divSize a b = .ok (a / b) := if_neg h

/-! ## §2 Sequences and loops -/

/-- A result of two computations in a row is made of a result of each. -/
theorem bind_eq_ok_iff {α β : Type} {first : Faulty α} {next : α → Faulty β} {result : β} :
    (first >>= next) = .ok result ↔ ∃ value, first = .ok value ∧ next value = .ok result := by
  cases first with
  | error fault =>
    constructor
    · intro h
      cases h
    · rintro ⟨value, h, -⟩
      cases h
  | ok value =>
    constructor
    · intro h
      exact ⟨value, rfl, h⟩
    · rintro ⟨other, h, rest⟩
      obtain rfl := Except.ok.inj h
      exact rest

/-- What a run is found out to give by evaluation, it gives. -/
theorem exists_of_any {ε α : Type} {result : Except ε α} {holds : α → Prop} [DecidablePred holds]
    (found : result.toOption.any (fun value => holds value)) :
    ∃ value, result = .ok value ∧ holds value := by
  cases result with
  | error cause => cases found
  | ok value => exact ⟨value, rfl, of_decide_eq_true found⟩

/-- A loop whose body keeps an invariant, and has a result as long as it holds, has a result
that fulfils it. -/
theorem loop_ok {α : Type} {body : α → Nat → Faulty α} {init : α} (count : Nat)
    (inv : Nat → α → Prop) (start : inv 0 init)
    (step : ∀ i state, i < count → inv i state →
      ∃ next, body state i = .ok next ∧ inv (i + 1) next) :
    ∃ final, (List.range count).foldlM body init = .ok final ∧ inv count final := by
  induction count with
  | zero => exact ⟨init, rfl, start⟩
  | succ count ih =>
    -- The rounds before the last one are a loop of their own.
    obtain ⟨middle, rounds, hmiddle⟩ := ih fun i state hi => step i state (by omega)
    obtain ⟨final, last, hfinal⟩ := step count middle (by omega) hmiddle
    refine ⟨final, ?_, hfinal⟩
    rw [List.range_succ, List.foldlM_append, rounds]
    show (List.foldlM body middle [count]) = _
    rw [List.foldlM_cons, last]
    rfl

/-- What every round of a loop keeps, a loop that has a result has kept. -/
theorem loop_keeps {α : Type} {body : α → Nat → Faulty α} {rounds : List Nat} {init final : α}
    (holds : α → Prop)
    (step : ∀ {i state next}, body state i = .ok next → holds state → holds next)
    (run : rounds.foldlM body init = .ok final) (start : holds init) : holds final := by
  induction rounds generalizing init with
  | nil =>
    obtain rfl := Except.ok.inj run
    exact start
  | cons round rounds ih =>
    rw [List.foldlM_cons] at run
    obtain ⟨middle, first, rest⟩ := bind_eq_ok_iff.1 run
    exact ih rest (step first start)

/-- A loop whose body keeps an invariant up to a round that a fault ends is ended by this fault. -/
theorem loop_error {α : Type} {body : α → Nat → Faulty α} {init : α} {count last : Nat}
    {fault : Fault} (inside : last < count) (inv : Nat → α → Prop) (start : inv 0 init)
    (step : ∀ i state, i < last → inv i state →
      ∃ next, body state i = .ok next ∧ inv (i + 1) next)
    (stops : ∀ state, inv last state → body state last = .error fault) :
    (List.range count).foldlM body init = .error fault := by
  obtain ⟨middle, rounds, hmiddle⟩ := loop_ok last inv start step
  obtain ⟨more, rfl⟩ := Nat.exists_eq_add_of_lt inside
  rw [Nat.add_assoc, List.range_add, List.foldlM_append, rounds]
  show (List.foldlM body middle ((List.range (more + 1)).map (last + ·))) = _
  rw [List.range_succ_eq_map, List.map_cons, List.foldlM_cons, Nat.add_zero, stops middle hmiddle]
  rfl

end Handheld.Checked
