import MetricExpr.Decimal.Fixed
import MetricExpr.Proofs.Decimal.ReadBack
import Mathlib.Algebra.Group.Int.Even
import Mathlib.Algebra.Order.Ring.Abs
/-!
# Rounding to an integer

A rational rounds to the integers that no other is nearer to, in a tie to the even one (`RoundsTo`). There is only one,
and it grows with the rational (`RoundsTo.mono`). The quotient of naturals is rounded so (`roundsTo_roundDiv`), and so is a
double to a count of units of its fixed-point text (`Finite.roundsTo_count`).
-/
namespace MetricExpr

/-- The integer is nearest to the rational; if another one is as near, it is even. -/
structure RoundsTo (v : ℚ) (n : ℤ) : Prop where
  nearest : ∀ m : ℤ, |v - n| ≤ |v - m|
  even : ∀ m : ℤ, m ≠ n → |v - m| = |v - n| → Even n

namespace RoundsTo

variable {v w : ℚ} {m n : ℤ}

/-- An integer within a half, even if it is a half away. -/
theorem of_near (hnear : |v - n| ≤ 1 / 2) (heven : |v - n| = 1 / 2 → Even n) : RoundsTo v n := by
  have hother : ∀ m : ℤ, m ≠ n → 1 / 2 ≤ |v - m| := by
    intro m hm
    have hone : (1 : ℚ) ≤ |(m : ℚ) - n| := by exact_mod_cast Int.one_le_abs (sub_ne_zero.2 hm)
    have htriangle := abs_sub_le (m : ℚ) v n
    rw [abs_sub_comm (m : ℚ) v] at htriangle
    linarith
  refine ⟨fun m => ?_, fun m hm htie => heven ?_⟩
  · by_cases hm : m = n
    · rw [hm]
    · exact hnear.trans (hother m hm)
  · exact le_antisymm hnear (htie ▸ hother m hm)

/-- **A greater rational does not round to a smaller integer.** -/
theorem mono (hv : RoundsTo v m) (hw : RoundsTo w n) (h : v ≤ w) : m ≤ n := by
  by_contra hlt
  have hlt : n < m := not_le.1 hlt
  have hlt' : (n : ℚ) < m := by exact_mod_cast hlt
  -- Both rationals are half way from `n` to `m`, so both integers are even, and the one half way is nearer.
  have hhigh : n + m ≤ 2 * v := by
    have hnear := sq_le_sq.2 (hv.nearest n)
    nlinarith
  have hlow : 2 * w ≤ n + m := by
    have hnear := sq_le_sq.2 (hw.nearest m)
    nlinarith
  have hmiddle : 2 * v = n + m := by linarith
  have hmiddle' : 2 * w = n + m := by linarith
  have htie : |v - n| = |v - m| := by
    rw [abs_of_pos (by linarith), abs_of_neg (by linarith)]
    linarith
  have htie' : |w - m| = |w - n| := by
    rw [abs_of_neg (by linarith), abs_of_pos (by linarith)]
    linarith
  obtain ⟨a, rfl⟩ := hv.even n hlt.ne htie
  obtain ⟨b, rfl⟩ := hw.even _ hlt.ne' htie'
  have hcentre : v - ((a + b : ℤ) : ℚ) = 0 := by
    push_cast at hmiddle ⊢
    linarith
  have hzero := hv.nearest (a + b)
  rw [hcentre, abs_zero] at hzero
  have hexact : v = ((a + a : ℤ) : ℚ) := sub_eq_zero.1 (abs_nonpos_iff.1 hzero)
  rw [hexact] at hmiddle
  linarith

theorem unique (hm : RoundsTo v m) (hn : RoundsTo v n) : m = n := le_antisymm (hm.mono hn le_rfl) (hn.mono hm le_rfl)

theorem neg (h : RoundsTo v n) : RoundsTo (-v) (-n) := by
  have hdistance : ∀ m : ℤ, |-v - m| = |v - (-m : ℤ)| := by
    intro m
    rw [← abs_neg, Int.cast_neg]
    ring_nf
  refine ⟨fun m => ?_, fun m hm htie => ?_⟩
  · rw [hdistance, hdistance, neg_neg]
    exact h.nearest (-m)
  · rw [hdistance, hdistance, neg_neg] at htie
    exact (h.even (-m) (fun he => hm (neg_eq_iff_eq_neg.1 he)) htie).neg

end RoundsTo

theorem roundDiv_even {a b : Nat} (hb : 0 < b)
    (h : 2 * (b * roundDiv a b) = 2 * a + b ∨ 2 * a = 2 * (b * roundDiv a b) + b) : Even (roundDiv a b) := by
  have hdiv := Nat.div_add_mod a b
  have hmod := Nat.mod_lt a hb
  rw [Nat.even_iff]
  unfold roundDiv at h ⊢
  dsimp only at h ⊢
  split at h
  · rename_i hdown
    rw [if_pos hdown]
    simp only [Bool.or_eq_true, decide_eq_true_eq, Bool.and_eq_true, beq_iff_eq] at hdown
    omega
  · rename_i hup
    rw [if_neg hup]
    simp only [Bool.or_eq_true, decide_eq_true_eq, Bool.and_eq_true, beq_iff_eq, not_or] at hup
    rw [Nat.mul_add] at h
    omega

/-- **The quotient of naturals is rounded to the nearest integer, a tie to the even one.** -/
theorem roundsTo_roundDiv (a : Nat) {b : Nat} (hb : 0 < b) : RoundsTo ((a : ℚ) / b) (roundDiv a b) := by
  have hb' : (0 : ℚ) < b := by exact_mod_cast hb
  obtain ⟨hlow, hhigh⟩ := roundDiv_near a b hb
  have hlow : 2 * ((b : ℚ) * roundDiv a b) ≤ 2 * a + b := by exact_mod_cast hlow
  have hhigh : 2 * (a : ℚ) ≤ 2 * (b * roundDiv a b) + b := by exact_mod_cast hhigh
  have hscaled : |(a : ℚ) / b - roundDiv a b| = |(a : ℚ) - b * roundDiv a b| / b := by
    rw [← abs_of_pos hb', ← abs_div, abs_of_pos hb', sub_div, mul_div_cancel_left₀ _ hb'.ne']
  refine RoundsTo.of_near ?_ fun htie => ?_
  · rw [Int.cast_natCast, hscaled, div_le_iff₀ hb', abs_le]
    constructor <;> linarith
  · rw [Int.cast_natCast, hscaled, div_eq_iff hb'.ne'] at htie
    rw [Int.even_coe_nat]
    refine roundDiv_even hb ?_
    rcases abs_cases ((a : ℚ) - b * roundDiv a b) with ⟨habs, -⟩ | ⟨habs, -⟩
    · refine .inr ?_
      have hupper : 2 * (a : ℚ) = 2 * (b * roundDiv a b) + b := by linarith
      exact_mod_cast hupper
    · refine .inl ?_
      have hlower : 2 * ((b : ℚ) * roundDiv a b) = 2 * a + b := by linarith
      exact_mod_cast hlower

namespace Finite

/-- The number as a rational. -/
def value (x : Finite) : ℚ := if x.negative then -x.size else x.size

/-- The number as a count of units `10 ^ -places`. -/
def count (x : Finite) (places : Nat) : ℤ := if x.negative then -x.units places else x.units places

theorem roundsTo_units (x : Finite) (places : Nat) : RoundsTo (x.size * 10 ^ places) (x.units places) := by
  have hscaled : x.size * 10 ^ places = (x.significand * twoTo x.exponent * tenTo places : Nat) / (twoTo (-x.exponent) : Nat) := by
    have hten : (tenTo places : ℚ) = 10 ^ places := by simp [tenTo]
    rw [Digits.size_eq_div, Nat.cast_mul (_ * _), hten]
    ring
  rw [hscaled]
  exact roundsTo_roundDiv _ (twoTo_pos _)

/-- **The count is the exact value of the number, rounded.** -/
theorem roundsTo_count (x : Finite) (places : Nat) : RoundsTo (x.value * 10 ^ places) (x.count places) := by
  unfold value count
  split
  · rw [neg_mul]
    exact (x.roundsTo_units places).neg
  · exact x.roundsTo_units places

end Finite
end MetricExpr
