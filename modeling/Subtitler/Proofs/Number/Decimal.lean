import Mathlib.Data.List.Induction
import Mathlib.Tactic.SplitIfs
import Subtitler.Number.Decimal

/-!
# Numbers and their digits

The digits of a number write this number (`value_digits`), and only zero is written with a zero in
front (`head?_digits`). What some digits write is below the power of ten with as many zeros
(`value_lt`).
-/

namespace Subtitler.Decimal

/-! ## One digit -/

theorem isDigit_iff {c : Char} : c.isDigit = true ↔ 48 ≤ c.toNat ∧ c.toNat ≤ 57 := by
  simp [Char.isDigit, UInt32.le_iff_toNat_le]

theorem digitValue_lt {c : Char} (h : c.isDigit = true) : digitValue c < 10 := by
  have hcode := isDigit_iff.1 h
  simp only [digitValue, Char.reduceToNat]
  omega

theorem digitChar_lt {d : Nat} (h : d < 10) :
    (Nat.digitChar d).isDigit = true ∧ digitValue (Nat.digitChar d) = d := by
  have hall : ∀ d < 10, (Nat.digitChar d).isDigit = true ∧ digitValue (Nat.digitChar d) = d := by
    decide
  exact hall d h

/-! ## The digits of a number -/

theorem isDigit_of_mem_digits {n : Nat} {c : Char} (h : c ∈ digits n) : c.isDigit = true :=
  Nat.isDigit_of_mem_toDigits (by decide) (by decide) h

theorem value_digits (n : Nat) : value (digits n) = n := by
  have hread := @Nat.ofDigitChars_toDigits 10 n (by decide) (by decide)
  simpa only [Nat.ofDigitChars, value, digits, digitValue, Nat.mul_comm] using hread

theorem exists_digits (n : Nat) : ∃ d ds, digits n = d :: ds ∧ d.isDigit = true := by
  obtain ⟨d, ds, hds⟩ := List.exists_cons_of_ne_nil (@Nat.toDigits_ne_nil n 10)
  rw [← digits] at hds
  exact ⟨d, ds, hds, isDigit_of_mem_digits (by rw [hds]; exact List.mem_cons_self)⟩

/-- Only zero is written with a zero in front. -/
theorem head?_digits {n : Nat} (h : 0 < n) : (digits n).head? ≠ some '0' := by
  induction n using Nat.strongRecOn with
  | ind n ih =>
    rw [digits, Nat.toDigits_eq_if (by decide)]
    split_ifs with hsmall
    · have hall : ∀ d < 10, 0 < d → [Nat.digitChar d].head? ≠ some '0' := by decide
      exact hall n hsmall h
    · have hmore := ih (n / 10) (by omega) (by omega)
      rwa [List.head?_append, Option.or_of_isSome (by simp [Nat.toDigits_ne_nil])]

/-! ## The number that some digits write -/

theorem value_concat (ds : List Char) (c : Char) :
    value (ds ++ [c]) = value ds * 10 + digitValue c := by
  simp [value]

theorem value_lt {ds : List Char} (hds : ∀ c ∈ ds, c.isDigit = true) :
    value ds < Nat.pow 10 ds.length := by
  induction ds using List.reverseRecOn with
  | nil => exact Nat.one_pos
  | append_singleton ds c ih =>
    have hbefore := ih fun d hd => hds d (List.mem_append_left [c] hd)
    have hlast := digitValue_lt (hds c (by simp))
    rw [value_concat, List.length_append, List.length_singleton]
    calc value ds * 10 + digitValue c < Nat.pow 10 ds.length * 10 := by omega
      _ = Nat.pow 10 (ds.length + 1) := rfl

end Subtitler.Decimal
