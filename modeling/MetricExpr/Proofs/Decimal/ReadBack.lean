import MetricExpr.Proofs.Binary64.Nearest
/-!
# Shortest digits read back

The shortest digits of a double are a decimal number that the double is nearest to (`Digits.nearestTo_shortest`). Every
number that the search returns lies in the double's interval; and the search does not fail, since seventeen digits divide
the size so finely that one of them does.
-/
namespace MetricExpr

/-! ## Decimal and binary logarithms -/

/-- A power of ten is below a power of two if its exponent is small enough for the quotients 31/103 and 28/93, which are
on both sides of the logarithm. -/
theorem ten_zpow_le_two_zpow {j l : Int} (hpos : 0 ≤ j → 103 * j ≤ 31 * l) (hneg : j ≤ 0 → 93 * j ≤ 28 * l) :
    (10 : ℚ) ^ j ≤ 2 ^ l := by
  rcases Int.le_total 0 j with hj | hj
  · have hl := hpos hj
    lift j to ℕ using hj
    lift l to ℕ using (by omega)
    rw [zpow_natCast, zpow_natCast]
    have hpow : (10 ^ j) ^ 31 ≤ (2 ^ l) ^ 31 := by
      calc (10 ^ j) ^ 31 = (10 ^ 31) ^ j := by rw [← pow_mul, ← pow_mul, mul_comm]
        _ ≤ (2 ^ 103) ^ j := Nat.pow_le_pow_left (by norm_num) j
        _ = 2 ^ (103 * j) := by rw [← pow_mul]
        _ ≤ 2 ^ (l * 31) := Nat.pow_le_pow_right (by decide) (by omega)
        _ = (2 ^ l) ^ 31 := by rw [← pow_mul]
    exact_mod_cast (Nat.pow_le_pow_iff_left (by decide)).mp hpow
  · have hl := hneg hj
    obtain ⟨k, rfl⟩ : ∃ k : Nat, j = -(k : Int) := ⟨(-j).toNat, by omega⟩
    rcases Int.le_total 0 l with hl0 | hl0
    · calc (10 : ℚ) ^ (-(k : Int)) ≤ 1 := zpow_le_one_of_nonpos₀ (by norm_num) (by omega)
        _ ≤ 2 ^ l := one_le_zpow₀ (by norm_num) hl0
    · obtain ⟨i, rfl⟩ : ∃ i : Nat, l = -(i : Int) := ⟨(-l).toNat, by omega⟩
      have hpow : (2 ^ i) ^ 28 ≤ (10 ^ k) ^ 28 := by
        calc (2 ^ i) ^ 28 = 2 ^ (i * 28) := by rw [← pow_mul]
          _ ≤ 2 ^ (93 * k) := Nat.pow_le_pow_right (by decide) (by omega)
          _ = (2 ^ 93) ^ k := by rw [← pow_mul]
          _ ≤ (10 ^ 28) ^ k := Nat.pow_le_pow_left (by norm_num) k
          _ = (10 ^ k) ^ 28 := by rw [← pow_mul, ← pow_mul, mul_comm]
      have hnat := (Nat.pow_le_pow_iff_left (by decide)).mp hpow
      rw [zpow_neg, zpow_neg, zpow_natCast, zpow_natCast]
      exact inv_anti₀ (by positivity) (by exact_mod_cast hnat)

namespace Digits

theorem tenTo_le_iff {n d : Nat} (hd : 0 < d) (k : Int) :
    d * tenTo k ≤ n * tenTo (-k) ↔ (10 : ℚ) ^ k ≤ (n : ℚ) / d := by
  have hd' : (0 : ℚ) < d := by exact_mod_cast hd
  have ht : (0 : ℚ) < tenTo (-k) := by exact_mod_cast tenTo_pos (-k)
  rw [← tenTo_div, div_le_div_iff₀ ht hd', mul_comm (tenTo k : ℚ)]
  norm_cast

/-- The power of ten that the decimal logarithm names does not exceed the quotient, within the range of doubles. -/
theorem floorLog10_le {n d : Nat} (hn : 0 < n) (hd : 0 < d) (hlow : -1100 ≤ floorLog2 n d)
    (hhigh : floorLog2 n d ≤ 1100) : (10 : ℚ) ^ floorLog10 n d ≤ (n : ℚ) / d := by
  unfold floorLog10
  dsimp only
  split
  · rename_i h
    exact (tenTo_le_iff hd _).mp (of_decide_eq_true h)
  · split
    · rename_i h
      exact (tenTo_le_iff hd _).mp (of_decide_eq_true h)
    · refine le_trans (ten_zpow_le_two_zpow ?_ ?_) (floorLog2_spec hn hd).1
      · omega
      · omega

/-! ## The decimal grid -/

def value (d : Digits) : ℚ := d.coefficient * 10 ^ d.exponent

theorem cross_le (a c : Nat) (q e : Int) : a * (twoTo q * tenTo (-e)) ≤ c * (twoTo (-q) * tenTo e) ↔
    (a : ℚ) * 2 ^ q ≤ c * 10 ^ e := by
  have h2 : (0 : ℚ) < twoTo (-q) := by exact_mod_cast twoTo_pos (-q)
  have h10 : (0 : ℚ) < tenTo (-e) := by exact_mod_cast tenTo_pos (-e)
  rw [← twoTo_div, ← tenTo_div, ← mul_div_assoc, ← mul_div_assoc, div_le_div_iff₀ h2 h10]
  norm_cast
  rw [mul_assoc, mul_assoc, mul_comm (tenTo e)]

theorem cross_ge (a c : Nat) (q e : Int) : c * (twoTo (-q) * tenTo e) ≤ a * (twoTo q * tenTo (-e)) ↔
    (c : ℚ) * 10 ^ e ≤ a * 2 ^ q := by
  have h2 : (0 : ℚ) < twoTo (-q) := by exact_mod_cast twoTo_pos (-q)
  have h10 : (0 : ℚ) < tenTo (-e) := by exact_mod_cast tenTo_pos (-e)
  rw [← twoTo_div, ← tenTo_div, ← mul_div_assoc, ← mul_div_assoc, div_le_div_iff₀ h10 h2]
  norm_cast
  rw [mul_assoc, mul_assoc, mul_comm (tenTo e)]

theorem Interval.holds_iff (range : Interval) (q e : Int) (c : Nat) :
    range.holds (twoTo q * tenTo (-e)) (twoTo (-q) * tenTo e) c = true ↔ range.Contains (2 ^ q) (c * 10 ^ e) := by
  unfold Interval.holds Interval.Contains
  dsimp only
  split
  · rw [Bool.and_eq_true, decide_eq_true_eq, decide_eq_true_eq, cross_le, cross_ge]
  · rw [Bool.and_eq_true, decide_eq_true_eq, decide_eq_true_eq, ← not_le, cross_ge, not_le,
      ← not_le (a := range.high * _), cross_le, not_le]

/-- The point of the grid nearest to the size of a double. -/
def gridPoint (x : Finite) (e : Int) : Nat :=
  roundDiv (4 * x.significand * (twoTo (x.exponent - 2) * tenTo (-e))) (twoTo (-(x.exponent - 2)) * tenTo e)

/-- The nearest point is tried first, then its neighbour. -/
theorem onGrid?_eq (x : Finite) (e : Int) : ∃ other, onGrid? x e =
    if (Interval.of x).holds (twoTo (x.exponent - 2) * tenTo (-e)) (twoTo (-(x.exponent - 2)) * tenTo e) (gridPoint x e)
    then some ⟨gridPoint x e, e⟩
    else if (Interval.of x).holds (twoTo (x.exponent - 2) * tenTo (-e)) (twoTo (-(x.exponent - 2)) * tenTo e) other
    then some ⟨other, e⟩
    else none :=
  ⟨_, rfl⟩

theorem nearestTo_of_onGrid? {x : Finite} {e : Int} {d : Digits} (h : onGrid? x e = some d) :
    x.NearestTo d.value := by
  obtain ⟨other, heq⟩ := onGrid?_eq x e
  rw [heq] at h
  split at h
  · rename_i hholds
    rw [← Option.some.inj h]
    exact (Interval.holds_iff _ _ _ _).mp hholds
  · split at h
    · rename_i hholds
      rw [← Option.some.inj h]
      exact (Interval.holds_iff _ _ _ _).mp hholds
    · cases h

theorem onGrid?_isSome {x : Finite} {e : Int} (h : x.NearestTo (gridPoint x e * 10 ^ e)) : (onGrid? x e).isSome := by
  obtain ⟨other, heq⟩ := onGrid?_eq x e
  rw [heq, if_pos ((Interval.holds_iff _ _ _ _).mpr h)]
  rfl

theorem gridPoint_near (x : Finite) (e : Int) :
    2 * (gridPoint x e * 10 ^ e) ≤ 2 * x.size + 10 ^ e ∧ 2 * x.size ≤ 2 * (gridPoint x e * 10 ^ e) + 10 ^ e := by
  obtain ⟨hlow, hhigh⟩ := roundDiv_near (4 * x.significand * (twoTo (x.exponent - 2) * tenTo (-e)))
    (twoTo (-(x.exponent - 2)) * tenTo e) (Nat.mul_pos (twoTo_pos _) (tenTo_pos _))
  have h2 : (0 : ℚ) < twoTo (-(x.exponent - 2)) := by exact_mod_cast twoTo_pos _
  have h10 : (0 : ℚ) < tenTo (-e) := by exact_mod_cast tenTo_pos _
  have hsize : x.size = 4 * x.significand * (twoTo (x.exponent - 2) / twoTo (-(x.exponent - 2))) := by
    unfold Finite.size
    rw [twoTo_div, zpow_sub₀ two_ne_zero]
    ring
  have hlow : (2 * ((twoTo (-(x.exponent - 2)) * tenTo e) * gridPoint x e) : ℚ) ≤
      2 * (4 * x.significand * (twoTo (x.exponent - 2) * tenTo (-e))) + twoTo (-(x.exponent - 2)) * tenTo e := by
    exact_mod_cast hlow
  have hhigh : (2 * (4 * x.significand * (twoTo (x.exponent - 2) * tenTo (-e))) : ℚ) ≤
      2 * ((twoTo (-(x.exponent - 2)) * tenTo e) * gridPoint x e) + twoTo (-(x.exponent - 2)) * tenTo e := by
    exact_mod_cast hhigh
  rw [hsize, ← tenTo_div]
  constructor
  · refine le_of_mul_le_mul_right ?_ (mul_pos h2 h10)
    field_simp
    linarith
  · refine le_of_mul_le_mul_right ?_ (mul_pos h2 h10)
    field_simp
    linarith

/-! ## Seventeen digits suffice -/

/-- A grid that divides the size into 10 ^ 16 parts is finer than the interval. -/
theorem zpow_lt_reach {x : Finite} {e : Int} (hfine : (10 : ℚ) ^ e * 10 ^ 16 ≤ x.size) :
    (10 : ℚ) ^ e < 2 * x.reach * 2 ^ x.exponent := by
  have hp : (0 : ℚ) < 2 ^ x.exponent := by positivity
  have hm : x.significand < significandBound := x.canonical.1
  unfold Finite.size at hfine
  unfold Finite.reach
  split
  · rename_i hpower
    have hm : (x.significand : ℚ) = 4503599627370496 := by
      rw [hpower.1]
      norm_num
    rw [hm] at hfine
    linarith
  · have hm : (x.significand : ℚ) ≤ 9007199254740992 := by exact_mod_cast hm.le
    have hle := mul_le_mul_of_nonneg_right hm hp.le
    linarith

theorem nearestTo_gridPoint {x : Finite} (hx : x.significand ≠ 0) {e : Int}
    (hfine : (10 : ℚ) ^ e * 10 ^ 16 ≤ x.size) : x.NearestTo (gridPoint x e * 10 ^ e) := by
  have hgap := zpow_lt_reach hfine
  have hp : (0 : ℚ) < 2 ^ x.exponent := by positivity
  have hreach := mul_le_mul_of_nonneg_right x.reach_le hp.le
  obtain ⟨hlow, hhigh⟩ := gridPoint_near x e
  unfold Finite.size at hlow hhigh
  refine Finite.nearestTo_of_lt hx ?_ ?_
  · rw [sub_mul]
    linarith
  · rw [add_mul]
    linarith

/-- A search that ends on a grid with a point that reads back finds such a point. -/
theorem nearestTo_search {x : Finite} : ∀ (fuel : Nat) (e : Int), (onGrid? x (e - fuel)).isSome →
    x.NearestTo (search x fuel e).value
  | 0, e, h => by
    rw [Nat.cast_zero, sub_zero] at h
    obtain ⟨d, hd⟩ := Option.isSome_iff_exists.mp h
    unfold search
    rw [hd]
    exact nearestTo_of_onGrid? hd
  | fuel + 1, e, h => by
    unfold search
    cases hd : onGrid? x e with
    | some d => exact nearestTo_of_onGrid? hd
    | none =>
      refine nearestTo_search fuel (e - 1) ?_
      rw [Nat.cast_succ, ← sub_sub, sub_right_comm] at h
      exact h

theorem value_trim (c : Nat) (e : Int) : (trim c e).value = c * 10 ^ e := by
  fun_induction trim c e with
  | case1 c e h ih =>
    have hc : c = 10 * (c / 10) := by omega
    have hq : (c : ℚ) = 10 * (c / 10 : Nat) := by exact_mod_cast hc
    rw [ih, hq, zpow_add_one₀ (by norm_num)]
    ring
  | case2 c e h => rfl

theorem size_eq_div (x : Finite) : x.size = (x.significand * twoTo x.exponent : Nat) / (twoTo (-x.exponent) : Nat) := by
  rw [Nat.cast_mul, mul_div_assoc, twoTo_div]
  rfl

/-- **The shortest digits read back.** -/
theorem nearestTo_shortest {x : Finite} (hx : x.significand ≠ 0) : x.NearestTo (shortest x).value := by
  have hn : 0 < x.significand * twoTo x.exponent := Nat.mul_pos (Nat.pos_of_ne_zero hx) (twoTo_pos _)
  have hd := twoTo_pos (-x.exponent)
  obtain ⟨hlow, hhigh⟩ := (Finite.nearestTo_size hx).range hx
  obtain ⟨hlog, hlog'⟩ := floorLog2_spec hn hd
  rw [← size_eq_div] at hlog hlog'
  have hmin := (zpow_lt_zpow_iff_right₀ one_lt_two).mp (hlow.trans_lt hlog')
  have hmax := (zpow_lt_zpow_iff_right₀ one_lt_two).mp (hlog.trans_lt hhigh)
  have htop := floorLog10_le hn hd (by omega) (by omega)
  rw [← size_eq_div] at htop
  unfold shortest
  dsimp only
  rw [value_trim]
  -- The last grid of the search divides the greatest power of ten in the size into 10 ^ 16 parts.
  refine nearestTo_search 16 _ (onGrid?_isSome (nearestTo_gridPoint hx ?_))
  rw [← zpow_natCast, ← zpow_add₀ (by norm_num), Nat.cast_ofNat, sub_add_cancel]
  exact htop

end Digits

end MetricExpr
