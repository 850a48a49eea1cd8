import Handheld.Text.Number
import Mathlib.Data.List.Induction

/-!
# Reading Numbers

What `readNat?` accepts.  A number has one canonical text, the digits that `Nat.toDigits`
writes; the reader accepts that text behind padding, which is a plus sign at most and then
zeros (`readNat?_eq_some_iff`).
-/

namespace Handheld.Text

/-! ## §1 Digits -/

theorem digitValue?_eq_some_iff {c : Char} {value : Nat} :
    digitValue? c = some value ↔ value < 10 ∧ c = Nat.digitChar value := by
  constructor
  · intro read
    simp only [digitValue?, Option.ite_none_right_eq_some, Option.some.injEq] at read
    obtain ⟨⟨low, high⟩, rfl⟩ := read
    -- The digits are the ten characters from 48 on.
    have low' : 48 ≤ c.toNat := low
    have high' : c.toNat ≤ 57 := high
    have small : c.toNat - 48 < 10 := by omega
    refine ⟨small, Char.toNat_inj.1 ?_⟩
    rw [show '0'.toNat = 48 from rfl, Nat.toNat_digitChar_of_lt_ten small]
    omega
  · rintro ⟨small, rfl⟩
    revert value
    decide

/-- Reading digits behind others goes on from their value. -/
theorem readDigits?_append (digits more : List Char) (value : Nat) :
    readDigits? value (digits ++ more) =
      (readDigits? value digits).bind (readDigits? · more) := by
  induction digits generalizing value with
  | nil => rfl
  | cons c digits ih =>
    cases hc : digitValue? c <;> simp [readDigits?, hc, ih]

theorem readDigits?_digitChar {value digit : Nat} (small : digit < 10) :
    readDigits? value [Nat.digitChar digit] = some (10 * value + digit) := by
  simp [readDigits?, digitValue?_eq_some_iff.2 ⟨small, rfl⟩]

/-- The canonical digits of a number are read as the number. -/
theorem readDigits?_toDigits (n : Nat) : readDigits? 0 (Nat.toDigits 10 n) = some n := by
  induction n using Nat.base_induction 10 (by decide) with
  | single digit small =>
    rw [Nat.toDigits_of_lt_base small, readDigits?_digitChar small, Nat.mul_zero, Nat.zero_add]
  | digit n digit small positive ih =>
    rw [← Nat.toDigits_append_toDigits (by decide) positive small, readDigits?_append, ih,
      Nat.toDigits_of_lt_base small]
    exact readDigits?_digitChar small

theorem readDigits?_zeros (zeros : Nat) (digits : List Char) :
    readDigits? 0 (List.replicate zeros '0' ++ digits) = readDigits? 0 digits := by
  induction zeros with
  | zero => rfl
  | succ zeros ih => exact ih

/-- Digits that are read are the canonical ones of their number behind zeros. -/
theorem eq_zeros_append_of_readDigits? {digits : List Char} {n : Nat}
    (nonempty : digits ≠ []) (read : readDigits? 0 digits = some n) :
    ∃ zeros, digits = List.replicate zeros '0' ++ Nat.toDigits 10 n := by
  -- From the right, as the number grows: the last digit goes on from the value of the others.
  induction digits using List.reverseRecOn generalizing n with
  | nil => exact absurd rfl nonempty
  | append_singleton digits c ih =>
    rw [readDigits?_append, Option.bind_eq_some_iff] at read
    obtain ⟨m, before, last⟩ := read
    -- The value of the digits before is ten times as much with one digit behind them.
    obtain ⟨digit, hdigit, rfl⟩ : ∃ digit, digitValue? c = some digit ∧ 10 * m + digit = n := by
      simpa [readDigits?, Option.bind_eq_some_iff] using last
    obtain ⟨small, rfl⟩ := digitValue?_eq_some_iff.1 hdigit
    rcases Nat.eq_zero_or_pos m with rfl | positive
    · -- Everything before the last digit is a zero.
      refine ⟨digits.length, ?_⟩
      have zeros : digits = List.replicate digits.length '0' := by
        rcases eq_or_ne digits [] with rfl | nonempty'
        · rfl
        · obtain ⟨zeros, rfl⟩ := ih nonempty' before
          simp [List.replicate_succ']
      rw [Nat.mul_zero, Nat.zero_add, Nat.toDigits_of_lt_base small, ← zeros]
    -- The number is not zero, so there are digits before the last one, and they are canonical.
    · have nonempty' : digits ≠ [] := by
        rintro rfl
        simp only [readDigits?, Option.some.injEq] at before
        omega
      obtain ⟨zeros, rfl⟩ := ih nonempty' before
      refine ⟨zeros, ?_⟩
      rw [← Nat.toDigits_append_toDigits (by decide) positive small,
        Nat.toDigits_of_lt_base small, List.append_assoc]

/-! ## §2 Padding -/

/-- What may stand before the canonical digits of a number: a plus sign at most, then
zeros. -/
inductive Padding : List Char → Prop
  | zeros (count : Nat) : Padding (List.replicate count '0')
  | plus (count : Nat) : Padding ('+' :: List.replicate count '0')

theorem Padding.nil : Padding [] := .zeros 0

theorem readNat?_plus {digits : List Char} (nonempty : digits ≠ []) :
    readNat? ('+' :: digits) = readDigits? 0 digits := by
  cases digits with
  | nil => exact absurd rfl nonempty
  | cons c digits => rfl

theorem readNat?_of_readDigits? {digits : List Char} {n : Nat} (nonempty : digits ≠ [])
    (read : readDigits? 0 digits = some n) : readNat? digits = some n := by
  -- A plus sign is not a digit, so the reader takes its last branch.
  have unsigned (rest : List Char) : digits ≠ '+' :: rest := by
    rintro rfl
    simp [readDigits?, digitValue?] at read
  unfold readNat?
  split
  · exact absurd rfl nonempty
  · exact absurd rfl (unsigned [])
  · exact absurd rfl (unsigned _)
  · exact read

theorem readNat?_padded {padding : List Char} (pads : Padding padding) (n : Nat) :
    readNat? (padding ++ Nat.toDigits 10 n) = some n := by
  have nonempty (count : Nat) : List.replicate count '0' ++ Nat.toDigits 10 n ≠ [] :=
    List.append_ne_nil_of_right_ne_nil _ Nat.toDigits_ne_nil
  have read (count : Nat) :
      readDigits? 0 (List.replicate count '0' ++ Nat.toDigits 10 n) = some n := by
    rw [readDigits?_zeros, readDigits?_toDigits]
  cases pads with
  | zeros count => exact readNat?_of_readDigits? (nonempty count) (read count)
  | plus count => exact (readNat?_plus (nonempty count)).trans (read count)

/-- The reader accepts exactly the padded canonical texts of a number. -/
theorem readNat?_eq_some_iff {text : List Char} {n : Nat} :
    readNat? text = some n ↔
      ∃ padding, Padding padding ∧ text = padding ++ Nat.toDigits 10 n := by
  constructor
  · intro read
    unfold readNat? at read
    split at read
    · cases read
    · cases read
    · next digits noDigits =>
      obtain ⟨count, split⟩ := eq_zeros_append_of_readDigits? (by simpa using noDigits) read
      exact ⟨_, .plus count, by rw [split, List.cons_append]⟩
    · next nonempty _ _ =>
      obtain ⟨count, split⟩ := eq_zeros_append_of_readDigits? nonempty read
      exact ⟨_, .zeros count, split⟩
  · rintro ⟨padding, pads, rfl⟩
    exact readNat?_padded pads n

end Handheld.Text
