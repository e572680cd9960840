import MetricExpr.Decimal.Shortest
import Mathlib.Algebra.Order.Field.Basic
import Mathlib.Algebra.Order.Field.Power
import Mathlib.Data.Rat.Cast.Order
import Mathlib.Tactic.FieldSimp
import Mathlib.Tactic.Linarith
import Mathlib.Tactic.Ring
/-!
# The nearest double

A rational between the ends of a double's interval is rounded to that double (`Binary64.ofRatio_of_nearest`), and so is a
decimal number (`Binary64.ofDecimal_of_nearest`). The rationals stand for the quotients of naturals that the rounding works
on. Below a power of two the interval reaches into the finer grid, and the rounding comes back by a carry.
-/
namespace MetricExpr

/-! ## Powers as rationals -/

theorem pow_toNat_div (b : Nat) (hb : 0 < b) (e : Int) :
    ((b ^ e.toNat : Nat) : ℚ) / ((b ^ (-e).toNat : Nat) : ℚ) = (b : ℚ) ^ e := by
  have hb0 : (b : ℚ) ≠ 0 := by exact_mod_cast hb.ne'
  rcases Int.le_total 0 e with h | h
  · obtain ⟨k, rfl⟩ := Int.eq_ofNat_of_zero_le h
    have hneg : (-(k : Int)).toNat = 0 := by omega
    rw [hneg, Int.toNat_natCast, pow_zero, Nat.cast_one, div_one, zpow_natCast, Nat.cast_pow]
  · obtain ⟨k, hk⟩ := Int.eq_ofNat_of_zero_le (show 0 ≤ -e by omega)
    have he : e = -(k : Int) := by omega
    subst he
    have hneg : (-(k : Int)).toNat = 0 := by omega
    rw [neg_neg, hneg, Int.toNat_natCast, pow_zero, Nat.cast_one, zpow_neg, zpow_natCast, one_div, Nat.cast_pow]

theorem twoTo_div (e : Int) : (twoTo e : ℚ) / (twoTo (-e) : ℚ) = 2 ^ e := pow_toNat_div 2 (by decide) e

theorem tenTo_div (e : Int) : (tenTo e : ℚ) / (tenTo (-e) : ℚ) = 10 ^ e := pow_toNat_div 10 (by decide) e

theorem twoTo_pos (e : Int) : 0 < twoTo e := Nat.pow_pos (by decide)

theorem tenTo_pos (e : Int) : 0 < tenTo e := Nat.pow_pos (by decide)

theorem twoTo_le_iff {n d : Nat} (hd : 0 < d) (k : Int) :
    d * twoTo k ≤ n * twoTo (-k) ↔ (2 : ℚ) ^ k ≤ (n : ℚ) / d := by
  have hd' : (0 : ℚ) < d := by exact_mod_cast hd
  have ht : (0 : ℚ) < twoTo (-k) := by exact_mod_cast twoTo_pos (-k)
  rw [← twoTo_div, div_le_div_iff₀ ht hd', mul_comm (twoTo k : ℚ)]
  norm_cast

/-- The binary logarithm is the exponent of the power of two at or below the quotient. -/
theorem floorLog2_spec {n d : Nat} (hn : 0 < n) (hd : 0 < d) :
    (2 : ℚ) ^ floorLog2 n d ≤ (n : ℚ) / d ∧ (n : ℚ) / d < 2 ^ (floorLog2 n d + 1) := by
  have hd' : (0 : ℚ) < d := by exact_mod_cast hd
  have hn1 : (2 : ℚ) ^ (n.log2 : Int) ≤ n := by
    rw [zpow_natCast]
    exact_mod_cast Nat.log2_self_le hn.ne'
  have hn2 : (n : ℚ) < 2 ^ ((n.log2 : Int) + 1) := by
    have h := @Nat.lt_log2_self n
    exact_mod_cast h
  have hd1 : (2 : ℚ) ^ (d.log2 : Int) ≤ d := by
    rw [zpow_natCast]
    exact_mod_cast Nat.log2_self_le hd.ne'
  have hd2 : (d : ℚ) < 2 ^ ((d.log2 : Int) + 1) := by
    have h := @Nat.lt_log2_self d
    exact_mod_cast h
  unfold floorLog2
  dsimp only
  split
  · rename_i h
    refine ⟨(twoTo_le_iff hd _).mp h, ?_⟩
    rw [div_lt_iff₀ hd']
    calc (n : ℚ) < 2 ^ ((n.log2 : Int) + 1) := hn2
      _ = 2 ^ ((n.log2 : Int) - d.log2 + 1) * 2 ^ (d.log2 : Int) := by
        rw [← zpow_add₀ two_ne_zero]
        congr 1
        omega
      _ ≤ 2 ^ ((n.log2 : Int) - d.log2 + 1) * d := mul_le_mul_of_nonneg_left hd1 (by positivity)
  · rename_i h
    rw [twoTo_le_iff hd, not_le] at h
    rw [sub_add_cancel]
    refine ⟨?_, h⟩
    rw [le_div_iff₀ hd']
    calc (2 : ℚ) ^ ((n.log2 : Int) - d.log2 - 1) * d
        ≤ 2 ^ ((n.log2 : Int) - d.log2 - 1) * 2 ^ ((d.log2 : Int) + 1) :=
          mul_le_mul_of_nonneg_left hd2.le (by positivity)
      _ = 2 ^ (n.log2 : Int) := by
        rw [← zpow_add₀ two_ne_zero]
        congr 1
        omega
      _ ≤ n := hn1

theorem floorLog2_eq {n d : Nat} (hn : 0 < n) (hd : 0 < d) {k : Int} (hlow : (2 : ℚ) ^ k ≤ (n : ℚ) / d)
    (hhigh : (n : ℚ) / d < 2 ^ (k + 1)) : floorLog2 n d = k := by
  obtain ⟨h1, h2⟩ := floorLog2_spec hn hd
  have ha := (zpow_lt_zpow_iff_right₀ one_lt_two).mp (hlow.trans_lt h2)
  have hb := (zpow_lt_zpow_iff_right₀ one_lt_two).mp (h1.trans_lt hhigh)
  omega

/-! ## Rounding a quotient -/

theorem roundDiv_near (a b : Nat) (hb : 0 < b) :
    2 * (b * roundDiv a b) ≤ 2 * a + b ∧ 2 * a ≤ 2 * (b * roundDiv a b) + b := by
  have hdiv := Nat.div_add_mod a b
  have hmod := Nat.mod_lt a hb
  unfold roundDiv
  dsimp only
  split
  · rename_i h
    have hle : 2 * (a % b) ≤ b := by
      simp only [Bool.or_eq_true, decide_eq_true_eq, Bool.and_eq_true, beq_iff_eq] at h
      omega
    omega
  · rename_i h
    have hle : b ≤ 2 * (a % b) := by
      simp only [Bool.or_eq_true, decide_eq_true_eq, Bool.and_eq_true, beq_iff_eq, not_or] at h
      omega
    rw [Nat.mul_add]
    omega

/-- The nearest natural number to a quotient; at both ends only an even one. -/
theorem roundDiv_eq {a b m : Nat} (hb : 0 < b) (hlow : 2 * (b * m) ≤ 2 * a + b) (hhigh : 2 * a ≤ 2 * (b * m) + b)
    (hodd : m % 2 = 1 → 2 * (b * m) < 2 * a + b ∧ 2 * a < 2 * (b * m) + b) : roundDiv a b = m := by
  have hdiv := Nat.div_add_mod a b
  have hmod := Nat.mod_lt a hb
  have hle : a / b ≤ m := by
    by_contra hgt
    have h := Nat.mul_le_mul_left b (show m + 1 ≤ a / b by omega)
    rw [Nat.mul_add] at h
    omega
  have hge : m ≤ a / b + 1 := by
    by_contra hgt
    have h := Nat.mul_le_mul_left b (show a / b + 2 ≤ m by omega)
    rw [Nat.mul_add] at h
    omega
  unfold roundDiv
  dsimp only
  by_cases hm : a / b = m
  · rw [hm] at hdiv ⊢
    refine if_pos ?_
    simp only [Bool.or_eq_true, decide_eq_true_eq, Bool.and_eq_true, beq_iff_eq]
    omega
  · have hm' : m = a / b + 1 := by omega
    rw [hm', Nat.mul_add] at hlow hhigh hodd
    rw [hm']
    refine if_neg ?_
    simp only [Bool.or_eq_true, decide_eq_true_eq, Bool.and_eq_true, beq_iff_eq]
    omega

/-! ## Intervals of doubles -/

/-- Is a rational between the ends, when a quarter of the last place is `quarter`? -/
def Digits.Interval.Contains (range : Digits.Interval) (quarter v : ℚ) : Prop :=
  if range.closed then range.low * quarter ≤ v ∧ v ≤ range.high * quarter
  else range.low * quarter < v ∧ v < range.high * quarter

namespace Finite

/-- A rational that no double is nearer to than this one, which is taken without its sign. -/
def NearestTo (x : Finite) (v : ℚ) : Prop := (Digits.Interval.of x).Contains (2 ^ (x.exponent - 2)) v

def size (x : Finite) : ℚ := x.significand * 2 ^ x.exponent

/-- A power of two above the finest grid. -/
def IsPower (x : Finite) : Prop := x.significand = leastFull ∧ -1074 < x.exponent

instance (x : Finite) : Decidable x.IsPower := inferInstanceAs (Decidable (_ ∧ _))

/-- How far the interval reaches below, in last places. -/
def reach (x : Finite) : ℚ := if x.IsPower then 1 / 4 else 1 / 2

theorem reach_pos (x : Finite) : 0 < x.reach := by
  unfold reach
  split <;> norm_num

theorem reach_le (x : Finite) : x.reach ≤ 1 / 2 := by
  unfold reach
  split <;> norm_num

/-- The ends of the interval; they belong to it iff the significand is even. -/
theorem nearestTo_iff {x : Finite} (hx : x.significand ≠ 0) (v : ℚ) :
    x.NearestTo v ↔ if x.significand % 2 = 0
      then (x.significand - x.reach) * 2 ^ x.exponent ≤ v ∧ v ≤ (x.significand + 1 / 2) * 2 ^ x.exponent
      else (x.significand - x.reach) * 2 ^ x.exponent < v ∧ v < (x.significand + 1 / 2) * 2 ^ x.exponent := by
  have hquarter : (2 : ℚ) ^ (x.exponent - 2) = 2 ^ x.exponent / 4 := by
    rw [zpow_sub₀ two_ne_zero]
    norm_num
  have hlow : ((Digits.Interval.of x).low : ℚ) * (2 ^ x.exponent / 4) =
      (x.significand - x.reach) * 2 ^ x.exponent := by
    have hcond : (x.significand == leastFull && decide (-1074 < x.exponent)) = decide x.IsPower := by
      rw [Bool.beq_eq_decide_eq]
      exact (Bool.decide_and _ _).symm
    unfold Digits.Interval.of reach
    dsimp only
    rw [hcond]
    by_cases hp : x.IsPower
    · rw [if_pos hp, if_pos (decide_eq_true hp), Nat.cast_sub (by omega)]
      push_cast
      ring
    · rw [if_neg hp, if_neg (by simp [hp]), Nat.cast_sub (by omega)]
      push_cast
      ring
  have hhigh : ((Digits.Interval.of x).high : ℚ) * (2 ^ x.exponent / 4) =
      (x.significand + 1 / 2) * 2 ^ x.exponent := by
    unfold Digits.Interval.of
    push_cast
    ring
  unfold NearestTo Digits.Interval.Contains
  rw [hquarter, hlow, hhigh]
  unfold Digits.Interval.of
  simp only [beq_iff_eq]

theorem NearestTo.bounds {x : Finite} {v : ℚ} (h : x.NearestTo v) (hx : x.significand ≠ 0) :
    (x.significand - x.reach) * 2 ^ x.exponent ≤ v ∧ v ≤ (x.significand + 1 / 2) * 2 ^ x.exponent ∧
      (x.significand % 2 = 1 →
        (x.significand - x.reach) * 2 ^ x.exponent < v ∧ v < (x.significand + 1 / 2) * 2 ^ x.exponent) := by
  rw [nearestTo_iff hx] at h
  split at h
  · exact ⟨h.1, h.2, fun hodd => by omega⟩
  · exact ⟨h.1.le, h.2.le, fun _ => h⟩

theorem nearestTo_of_lt {x : Finite} {v : ℚ} (hx : x.significand ≠ 0)
    (hlow : (x.significand - x.reach) * 2 ^ x.exponent < v) (hhigh : v < (x.significand + 1 / 2) * 2 ^ x.exponent) :
    x.NearestTo v := by
  rw [nearestTo_iff hx]
  split
  · exact ⟨hlow.le, hhigh.le⟩
  · exact ⟨hlow, hhigh⟩

theorem nearestTo_size {x : Finite} (hx : x.significand ≠ 0) : x.NearestTo x.size := by
  have hp : (0 : ℚ) < 2 ^ x.exponent := by positivity
  have hr := x.reach_pos
  refine nearestTo_of_lt hx ?_ ?_
  · exact mul_lt_mul_of_pos_right (by linarith) hp
  · exact mul_lt_mul_of_pos_right (by linarith) hp

/-- What a nonzero double is nearest to lies between half the least double and twice the greatest power of two. -/
theorem NearestTo.range {x : Finite} {v : ℚ} (h : x.NearestTo v) (hx : x.significand ≠ 0) :
    (2 : ℚ) ^ (-1075 : Int) ≤ v ∧ v < 2 ^ (1024 : Int) := by
  obtain ⟨hlow, hhigh, -⟩ := h.bounds hx
  obtain ⟨hm, he, he', -⟩ := x.canonical
  have hm1 : (1 : ℚ) ≤ x.significand := by exact_mod_cast Nat.one_le_iff_ne_zero.mpr hx
  have hm2 : (x.significand : ℚ) + 1 ≤ 2 ^ (53 : Int) := by
    have h53 : x.significand + 1 ≤ 2 ^ 53 := hm
    exact_mod_cast h53
  have hr := x.reach_le
  constructor
  · calc (2 : ℚ) ^ (-1075 : Int) = 1 / 2 * 2 ^ (-1074 : Int) := by
          rw [show (-1075 : Int) = -1 + -1074 by norm_num, zpow_add₀ two_ne_zero]
          norm_num
      _ ≤ 1 / 2 * 2 ^ x.exponent := by
          have := zpow_le_zpow_right₀ (one_le_two (α := ℚ)) he
          linarith
      _ ≤ (x.significand - x.reach) * 2 ^ x.exponent := mul_le_mul_of_nonneg_right (by linarith) (by positivity)
      _ ≤ v := hlow
  · calc v ≤ (x.significand + 1 / 2) * 2 ^ x.exponent := hhigh
      _ < 2 ^ (53 : Int) * 2 ^ x.exponent := mul_lt_mul_of_pos_right (by linarith) (by positivity)
      _ ≤ 2 ^ (53 : Int) * 2 ^ (971 : Int) :=
          mul_le_mul_of_nonneg_left (zpow_le_zpow_right₀ one_le_two he') (by positivity)
      _ = 2 ^ (1024 : Int) := by
          rw [← zpow_add₀ two_ne_zero]
          norm_num

end Finite

/-! ## Rounding comes to the nearest double -/

theorem roundDiv_of_bounds {a b m : Nat} (hb : 0 < b) (hlow : (m : ℚ) - 1 / 2 ≤ a / b)
    (hhigh : (a : ℚ) / b ≤ m + 1 / 2) (hodd : m % 2 = 1 → (m : ℚ) - 1 / 2 < a / b ∧ (a : ℚ) / b < m + 1 / 2) :
    roundDiv a b = m := by
  have hb' : (0 : ℚ) < b := by exact_mod_cast hb
  have hle : ∀ p q : Nat, (p : ℚ) ≤ q → p ≤ q := fun p q h => by exact_mod_cast h
  have hlt : ∀ p q : Nat, (p : ℚ) < q → p < q := fun p q h => by exact_mod_cast h
  rw [le_div_iff₀ hb'] at hlow
  rw [div_le_iff₀ hb'] at hhigh
  rw [lt_div_iff₀ hb', div_lt_iff₀ hb'] at hodd
  refine roundDiv_eq hb (hle _ _ ?_) (hle _ _ ?_) fun hm => ⟨hlt _ _ ?_, hlt _ _ ?_⟩
  · push_cast
    linarith
  · push_cast
    linarith
  · push_cast
    linarith [(hodd hm).1]
  · push_cast
    linarith [(hodd hm).2]

theorem scaled_quotient (n d : Nat) (e : Int) :
    ((n * twoTo (-e) : Nat) : ℚ) / ((d * twoTo e : Nat) : ℚ) = n / d / 2 ^ e := by
  rw [← twoTo_div e]
  push_cast
  rw [div_div_div_eq, mul_comm (d : ℚ)]

namespace Binary64

theorem ofCanonical_eq (negative : Bool) (x : Finite) :
    ofCanonical negative x.significand x.exponent = .finite { x with negative := negative } := by
  unfold ofCanonical
  exact dif_pos x.canonical

theorem ofRatio_eq {n d : Nat} (hn : n ≠ 0) {e : Int} {m : Nat} (negative : Bool)
    (he : max (-1074) (floorLog2 n d - 52) = e) (hm : roundDiv (n * twoTo (-e)) (d * twoTo e) = m) :
    ofRatio negative n d =
      if m = significandBound then ofCanonical negative leastFull (e + 1) else ofCanonical negative m e := by
  unfold ofRatio
  rw [if_neg hn]
  dsimp only
  rw [he, hm]

theorem zpow_add_exponent (x : Finite) (k : Int) : (2 : ℚ) ^ (k + x.exponent) = 2 ^ k * 2 ^ x.exponent :=
  zpow_add₀ two_ne_zero _ _

theorem isPower_of_lt {x : Finite} (hx : x.significand ≠ 0) {v : ℚ} (h : x.NearestTo v)
    (hbelow : v < 2 ^ (52 + x.exponent)) (hnormal : -1074 < x.exponent) : x.IsPower := by
  have hp : (0 : ℚ) < 2 ^ x.exponent := by positivity
  have hr := x.reach_le
  obtain ⟨-, -, -, hfull⟩ := x.canonical
  have hge : leastFull ≤ x.significand := by
    by_contra hlt
    have he := hfull (by omega)
    omega
  have hle : x.significand ≤ leastFull := by
    by_contra hgt
    have hm : (4503599627370497 : ℚ) ≤ x.significand := by exact_mod_cast not_le.mp hgt
    rw [zpow_add_exponent] at hbelow
    have hlt := lt_of_mul_lt_mul_right ((h.bounds hx).1.trans_lt hbelow) hp.le
    norm_num at hlt
    linarith
  exact ⟨Nat.le_antisymm hle hge, hnormal⟩

/-- Below a power of two the quotient is rounded on the finer grid, and a carry brings it up. -/
theorem ofRatio_of_power {x : Finite} (hpower : x.IsPower) {n d : Nat} (hn : 0 < n) (hd : 0 < d)
    (h : x.NearestTo ((n : ℚ) / d)) (hbelow : (n : ℚ) / d < 2 ^ (52 + x.exponent)) (negative : Bool) :
    ofRatio negative n d = .finite { x with negative := negative } := by
  have hp : (0 : ℚ) < 2 ^ x.exponent := by positivity
  have hlow := (h.bounds (by rw [hpower.1]; decide)).1
  have hreach : x.reach = 1 / 4 := if_pos hpower
  have hm : (x.significand : ℚ) = 4503599627370496 := by
    rw [hpower.1]
    norm_num
  rw [hreach, hm] at hlow
  have hlog : floorLog2 n d = 51 + x.exponent := by
    refine floorLog2_eq hn hd ?_ ?_
    · rw [zpow_add_exponent]
      refine le_trans (mul_le_mul_of_nonneg_right ?_ hp.le) hlow
      norm_num
    · convert hbelow using 2
      omega
  -- Twice the significand is even, so that it is taken at the lower end, too.
  have hround : roundDiv (n * twoTo (-(x.exponent - 1))) (d * twoTo (x.exponent - 1)) = significandBound := by
    have hscaled := scaled_quotient n d (x.exponent - 1)
    have hhalf : (n : ℚ) / d / 2 ^ (x.exponent - 1) = 2 * (n / d) / 2 ^ x.exponent := by
      rw [zpow_sub_one₀ two_ne_zero]
      field_simp
    rw [hhalf] at hscaled
    refine roundDiv_of_bounds (Nat.mul_pos hd (twoTo_pos _)) ?_ ?_ (fun h => absurd h (by decide))
    · rw [hscaled, le_div_iff₀ hp]
      norm_num at hlow ⊢
      linarith
    · rw [hscaled, div_le_iff₀ hp]
      rw [zpow_add_exponent] at hbelow
      norm_num at hbelow ⊢
      linarith
  have he : max (-1074) (floorLog2 n d - 52) = x.exponent - 1 := by
    have := hpower.2
    omega
  rw [ofRatio_eq hn.ne' negative he hround, if_pos rfl, sub_add_cancel]
  exact (congrArg (ofCanonical negative · x.exponent) hpower.1.symm).trans (ofCanonical_eq negative x)

/-- Elsewhere the quotient is rounded on the double's own grid. -/
theorem ofRatio_of_grid {x : Finite} (hx : x.significand ≠ 0) {n d : Nat} (hn : 0 < n) (hd : 0 < d)
    (h : x.NearestTo ((n : ℚ) / d)) (hfull : -1074 < x.exponent → (2 : ℚ) ^ (52 + x.exponent) ≤ n / d)
    (negative : Bool) : ofRatio negative n d = .finite { x with negative := negative } := by
  obtain ⟨hlow, hhigh, hodd⟩ := h.bounds hx
  have hp : (0 : ℚ) < 2 ^ x.exponent := by positivity
  have hr := x.reach_le
  obtain ⟨hm, hemin, -, -⟩ := x.canonical
  obtain ⟨hge, hlt⟩ := floorLog2_spec hn hd
  have hlog : floorLog2 n d ≤ 52 + x.exponent := by
    by_contra hgt
    have hmono := zpow_le_zpow_right₀ (one_le_two (α := ℚ)) (show 53 + x.exponent ≤ floorLog2 n d by omega)
    have hm1 : (x.significand : ℚ) + 1 ≤ 2 ^ (53 : Int) := by
      have h53 : x.significand + 1 ≤ 2 ^ 53 := hm
      exact_mod_cast h53
    rw [zpow_add_exponent] at hmono
    have hle := le_of_mul_le_mul_right (hmono.trans (hge.trans hhigh)) hp
    linarith
  have he : max (-1074) (floorLog2 n d - 52) = x.exponent := by
    by_cases hnormal : -1074 < x.exponent
    · have := (zpow_lt_zpow_iff_right₀ one_lt_two).mp ((hfull hnormal).trans_lt hlt)
      omega
    · omega
  have hround : roundDiv (n * twoTo (-x.exponent)) (d * twoTo x.exponent) = x.significand := by
    have hscaled := scaled_quotient n d x.exponent
    refine roundDiv_of_bounds (Nat.mul_pos hd (twoTo_pos _)) ?_ ?_ fun hm => ⟨?_, ?_⟩
    · rw [hscaled, le_div_iff₀ hp]
      exact (mul_le_mul_of_nonneg_right (by linarith) hp.le).trans hlow
    · rw [hscaled, div_le_iff₀ hp]
      exact hhigh
    · rw [hscaled, lt_div_iff₀ hp]
      exact (mul_le_mul_of_nonneg_right (by linarith) hp.le).trans_lt (hodd hm).1
    · rw [hscaled, div_lt_iff₀ hp]
      exact (hodd hm).2
  rw [ofRatio_eq hn.ne' negative he hround, if_neg hm.ne]
  exact ofCanonical_eq negative x

/-- **A quotient that a double is nearest to is rounded to it.** -/
theorem ofRatio_of_nearest {x : Finite} (hx : x.significand ≠ 0) {n d : Nat} (hd : 0 < d)
    (h : x.NearestTo ((n : ℚ) / d)) (negative : Bool) :
    ofRatio negative n d = .finite { x with negative := negative } := by
  have hd' : (0 : ℚ) < d := by exact_mod_cast hd
  have hn : 0 < n := by
    have hv : (0 : ℚ) < (n : ℚ) / d := lt_of_lt_of_le (by positivity) (h.range hx).1
    rw [div_pos_iff_of_pos_right hd'] at hv
    exact_mod_cast hv
  by_cases hcarry : (n : ℚ) / d < 2 ^ (52 + x.exponent) ∧ -1074 < x.exponent
  · exact ofRatio_of_power (isPower_of_lt hx h hcarry.1 hcarry.2) hn hd h hcarry.1 negative
  · exact ofRatio_of_grid hx hn hd h (fun hnormal => not_lt.mp fun hlt => hcarry ⟨hlt, hnormal⟩) negative

/-! ## Decimal numbers -/

theorem digitCount_spec {c : Nat} (hc : c ≠ 0) :
    (10 : ℚ) ^ ((digitCount c : Int) - 1) ≤ c ∧ (c : ℚ) < 10 ^ (digitCount c : Int) := by
  unfold digitCount
  rw [if_neg hc]
  have hpos : 0 < (Nat.toDigits 10 c).length := Nat.length_toDigits_pos
  have hlt : c < 10 ^ (Nat.toDigits 10 c).length := (Nat.length_toDigits_le_iff (by decide) hpos).mp le_rfl
  have hge : 10 ^ ((Nat.toDigits 10 c).length - 1) ≤ c := by
    by_cases h1 : (Nat.toDigits 10 c).length = 1
    · rw [h1]
      exact Nat.one_le_iff_ne_zero.mpr hc
    · by_contra hlt
      have := (Nat.length_toDigits_le_iff (by decide) (by omega)).mpr (not_le.mp hlt)
      omega
  constructor
  · rw [show (((Nat.toDigits 10 c).length : Int) - 1) = (((Nat.toDigits 10 c).length - 1 : Nat) : Int) by omega,
      zpow_natCast]
    exact_mod_cast hge
  · rw [zpow_natCast]
    exact_mod_cast hlt

/-- **A decimal number that a double is nearest to is rounded to it.** -/
theorem ofDecimal_of_nearest {x : Finite} (hx : x.significand ≠ 0) {c : Nat} {e : Int}
    (h : x.NearestTo (c * 10 ^ e)) (negative : Bool) :
    ofDecimal negative c e = .finite { x with negative := negative } := by
  obtain ⟨hlow, hhigh⟩ := h.range hx
  have hten : (0 : ℚ) < 10 ^ e := by positivity
  have hc : c ≠ 0 := by
    rintro rfl
    rw [Nat.cast_zero, zero_mul] at hlow
    exact absurd hlow (not_le.mpr (by positivity))
  obtain ⟨hmin, hmax⟩ := digitCount_spec hc
  have hsmall : ¬ 310 < e + digitCount c := by
    intro hbig
    have hpow := zpow_le_zpow_right₀ (show (1 : ℚ) ≤ 10 by norm_num)
      (show 310 ≤ (digitCount c : Int) - 1 + e by omega)
    have hval : (10 : ℚ) ^ ((digitCount c : Int) - 1 + e) ≤ c * 10 ^ e := by
      rw [zpow_add₀ (by norm_num)]
      exact mul_le_mul_of_nonneg_right hmin hten.le
    have hlt : (10 : ℚ) ^ (310 : Int) < 2 ^ (1024 : Int) := (hpow.trans hval).trans_lt hhigh
    have hnat : (10 : Nat) ^ 310 < 2 ^ 1024 := by exact_mod_cast hlt
    exact absurd hnat (by decide +kernel)
  have hlarge : ¬ e + digitCount c < -330 := by
    intro htiny
    have hpow := zpow_le_zpow_right₀ (show (1 : ℚ) ≤ 10 by norm_num)
      (show (digitCount c : Int) + e ≤ -331 by omega)
    have hval : c * 10 ^ e < (10 : ℚ) ^ ((digitCount c : Int) + e) := by
      rw [zpow_add₀ (by norm_num)]
      exact mul_lt_mul_of_pos_right hmax hten
    have hlt : (2 : ℚ) ^ (-1075 : Int) < 10 ^ (-331 : Int) := (hlow.trans_lt hval).trans_le hpow
    rw [zpow_neg, zpow_neg, inv_lt_inv₀ (by positivity) (by positivity)] at hlt
    have hnat : (10 : Nat) ^ 331 < 2 ^ 1075 := by exact_mod_cast hlt
    exact absurd hnat (by decide +kernel)
  unfold ofDecimal
  rw [if_neg hc, if_neg hsmall, if_neg hlarge]
  refine ofRatio_of_nearest hx (tenTo_pos _) ?_ negative
  rw [Nat.cast_mul, mul_div_assoc, tenTo_div]
  exact h

end Binary64

end MetricExpr
