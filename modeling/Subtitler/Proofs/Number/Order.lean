import Mathlib.Algebra.Order.Field.Basic
import Mathlib.Data.Rat.Cast.Order
import Subtitler.Number.Binary

/-!
# The order of floating-point numbers

**Theorem (`below_iff_less`).** For the numbers of a format, the order of their keys is the order of
what they stand for: finite numbers lie between the two infinite ones and are ordered as rational
numbers, and the not-a-number is neither below nor above anything.
-/

namespace Subtitler.Binary

/-! ## Two orders -/

/-- A number has a smaller key than another one. -/
def Below (f : Format) (x y : Binary) : Prop :=
  ∃ i j, x.orderKey f = some i ∧ y.orderKey f = some j ∧ i < j

/-- A significand with a sign. -/
def signed (negative : Bool) (significand : Nat) : Int :=
  if negative then -significand else significand

/-- A number is less than another one. -/
def Less : Binary → Binary → Prop
  | finite s m e, finite t n d => (signed s m : Rat) * 2 ^ e < signed t n * 2 ^ d
  | finite _ _ _, infinite negative => negative = false
  | infinite negative, finite _ _ _ => negative = true
  | infinite s, infinite t => s = true ∧ t = false
  | nan, _ | _, nan => False

/-- A finite number of a format has its significand and exponent in the bounds of the format. -/
def IsOf (f : Format) : Binary → Prop
  | finite _ m e => m < Nat.pow 2 f.precision ∧ f.least ≤ e ∧ e ≤ f.greatest
  | _ => True

/-! ## Keys -/

variable {f : Format}

theorem orderKey_finite (s : Bool) (m : Nat) (e : Int) :
    (finite s m e).orderKey f = some (signed s (m * Nat.pow 2 (e - f.least).toNat)) := by
  cases s <;> rfl

theorem orderKey_infinite (s : Bool) :
    (infinite s).orderKey f =
      some (signed s (Nat.pow 2 (f.precision + (f.greatest - f.least).toNat))) := by
  cases s <;> rfl

/-- A key is the number in units of the least one. -/
theorem signed_key {e : Int} (h : f.least ≤ e) (s : Bool) (m : Nat) :
    (signed s (m * Nat.pow 2 (e - f.least).toNat) : Rat) * 2 ^ f.least = signed s m * 2 ^ e := by
  have hpow : (2 : Rat) ^ (e - f.least).toNat * 2 ^ f.least = 2 ^ e := by
    rw [← zpow_natCast, ← zpow_add₀ two_ne_zero, Int.toNat_of_nonneg (sub_nonneg.2 h),
      sub_add_cancel]
  cases s <;> simp [signed, mul_assoc, hpow]

/-- The keys of finite numbers lie between those of the infinite ones. -/
theorem key_lt {m : Nat} {e : Int} (hm : m < Nat.pow 2 f.precision) (he : e ≤ f.greatest) :
    m * Nat.pow 2 (e - f.least).toNat <
      Nat.pow 2 (f.precision + (f.greatest - f.least).toNat) := by
  have hpow : Nat.pow 2 (e - f.least).toNat ≤ Nat.pow 2 (f.greatest - f.least).toNat :=
    Nat.pow_le_pow_right Nat.two_pos (by omega)
  calc m * Nat.pow 2 (e - f.least).toNat
      ≤ m * Nat.pow 2 (f.greatest - f.least).toNat := Nat.mul_le_mul_left m hpow
    _ < Nat.pow 2 f.precision * Nat.pow 2 (f.greatest - f.least).toNat :=
      Nat.mul_lt_mul_of_pos_right hm (Nat.pow_pos Nat.two_pos)
    _ = Nat.pow 2 (f.precision + (f.greatest - f.least).toNat) := (Nat.pow_add 2 _ _).symm

theorem signed_lt_of_lt {k l : Nat} (h : k < l) (s t : Bool) :
    signed s k < signed t l ↔ t = false := by
  cases s <;> cases t <;> grind [signed]

theorem signed_lt_of_gt {k l : Nat} (h : l < k) (s t : Bool) :
    signed s k < signed t l ↔ s = true := by
  cases s <;> cases t <;> grind [signed]

theorem signed_lt_self {k : Nat} (h : 0 < k) (s t : Bool) :
    signed s k < signed t k ↔ s = true ∧ t = false := by
  cases s <;> cases t <;> grind [signed]

/-! ## The order of keys -/

theorem exists_orderKey {x : Binary} (h : x ≠ nan) : ∃ i, x.orderKey f = some i := by
  cases x with
  | nan => exact absurd rfl h
  | finite s m e => exact ⟨_, orderKey_finite s m e⟩
  | infinite s => exact ⟨_, orderKey_infinite s⟩

theorem Below.irrefl (x : Binary) : ¬x.Below f x := by
  rintro ⟨i, j, hi, hj, hlt⟩
  obtain rfl := Option.some.inj (hi.symm.trans hj)
  exact lt_irrefl i hlt

theorem Below.trans {x y z : Binary} (hxy : x.Below f y) (hyz : y.Below f z) : x.Below f z := by
  obtain ⟨i, j, hi, hj, hij⟩ := hxy
  obtain ⟨j', k, hj', hk, hjk⟩ := hyz
  obtain rfl := Option.some.inj (hj.symm.trans hj')
  exact ⟨i, k, hi, hk, hij.trans hjk⟩

/-- A number that is not above `x` is below all that is above `x`. -/
theorem Below.of_not_below {x y z : Binary} (hxz : x.Below f z) (hxy : ¬x.Below f y)
    (hy : y ≠ nan) : y.Below f z := by
  obtain ⟨i, k, hi, hk, hik⟩ := hxz
  obtain ⟨j, hj⟩ := exists_orderKey (f := f) hy
  have hji : j ≤ i := not_lt.1 fun hij => hxy ⟨i, j, hi, hj, hij⟩
  exact ⟨j, k, hj, hk, hji.trans_lt hik⟩

/-! ## The orders agree -/

theorem below_iff {x y : Binary} {i j : Int} (hx : x.orderKey f = some i)
    (hy : y.orderKey f = some j) : x.Below f y ↔ i < j := by
  simp [Below, hx, hy]

theorem not_below_nan (x : Binary) : ¬x.Below f nan := by
  rintro ⟨i, j, -, hj, -⟩
  cases hj

theorem not_nan_below (y : Binary) : ¬nan.Below f y := by
  rintro ⟨i, j, hi, -, -⟩
  cases hi

theorem finite_below_iff {s t : Bool} {m n : Nat} {e d : Int} (he : f.least ≤ e)
    (hd : f.least ≤ d) : (finite s m e).Below f (finite t n d) ↔
      (signed s m : Rat) * 2 ^ e < signed t n * 2 ^ d := by
  have hscale : (0 : Rat) < 2 ^ f.least := zpow_pos two_pos _
  rw [below_iff (orderKey_finite s m e) (orderKey_finite t n d), ← signed_key he, ← signed_key hd,
    mul_lt_mul_iff_left₀ hscale, Int.cast_lt]

/-- **The keys of a format order its numbers.** -/
theorem below_iff_less {x y : Binary} (hx : x.IsOf f) (hy : y.IsOf f) :
    x.Below f y ↔ x.Less y := by
  cases x with
  | nan => exact iff_of_false (not_nan_below y) id
  | finite s m e =>
    obtain ⟨hm, hle, hge⟩ := hx
    cases y with
    | nan => exact iff_of_false (not_below_nan _) id
    | finite t n d => exact finite_below_iff hle hy.2.1
    | infinite t =>
      rw [below_iff (orderKey_finite s m e) (orderKey_infinite t)]
      exact signed_lt_of_lt (key_lt hm hge) s t
  | infinite s =>
    cases y with
    | nan => exact iff_of_false (not_below_nan _) id
    | finite t n d =>
      rw [below_iff (orderKey_infinite s) (orderKey_finite t n d)]
      exact signed_lt_of_gt (key_lt hy.1 hy.2.2) s t
    | infinite t =>
      rw [below_iff (orderKey_infinite s) (orderKey_infinite t)]
      exact signed_lt_self (Nat.pow_pos Nat.two_pos) s t

end Subtitler.Binary
