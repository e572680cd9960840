import MetricExpr.Proofs.Binary64.Nearest
/-!
# Integers within the range of doubles

The greatest double is `2 ^ 1024 - 2 ^ 971`. An integer rounds to it or to less up to half a step beyond; from there on,
the tie included, it has no double.
-/
namespace MetricExpr.Binary64

/-- The least integer that no double is near to. -/
def integerBound : Nat := 2 ^ 1024 - 2 ^ 970

theorem isFinite_ofCanonical_iff {negative : Bool} {m : Nat} {e : Int} :
    (ofCanonical negative m e).isFinite = true ↔ Canonical m e := by
  unfold ofCanonical
  split
  · simpa [isFinite]
  · simpa [isFinite]

theorem floorLog2_one {a : Nat} (ha : a ≠ 0) : floorLog2 a 1 = a.log2 := by
  unfold floorLog2
  have hone : (1 : Nat).log2 = 0 := by decide
  have hle : 1 * twoTo a.log2 ≤ a * twoTo (-(a.log2 : Int)) := by
    have hneg : (-(a.log2 : Int)).toNat = 0 := by omega
    simpa [twoTo, hneg] using Nat.log2_self_le ha
  simp only [hone, Int.ofNat_zero, Int.sub_zero]
  exact if_pos hle

theorem twoTo_eq (e : Int) : twoTo e = 2 ^ e.toNat := rfl

/-- Brought to the grid of its double, an integer has 53 bits. -/
theorem scaled_bounds {a : Nat} (ha : a ≠ 0) {e : Int} (he : e = a.log2 - 52) :
    twoTo e * 2 ^ 52 ≤ a * twoTo (-e) ∧ a * twoTo (-e) < twoTo e * 2 ^ 53 := by
  have hlow := Nat.log2_self_le ha
  have hhigh := Nat.lt_log2_self (n := a)
  obtain hneg | hpos := Int.le_total e 0
  · have h1 : twoTo e = 1 := by rw [twoTo, Int.toNat_of_nonpos hneg]
    obtain ⟨j, hj⟩ : ∃ j : Nat, a.log2 + j = 52 := ⟨52 - a.log2, by omega⟩
    have h2 : twoTo (-e) = 2 ^ j := by rw [twoTo, show (-e).toNat = j by omega]; rfl
    rw [h1, h2, one_mul, one_mul, ← hj, show 53 = a.log2 + 1 + j by omega, pow_add, pow_add]
    exact ⟨Nat.mul_le_mul_right _ hlow, Nat.mul_lt_mul_of_pos_right hhigh (by positivity)⟩
  · have h1 : twoTo (-e) = 1 := by rw [twoTo, Int.toNat_of_nonpos (by omega)]
    obtain ⟨j, hj⟩ : ∃ j : Nat, a.log2 = j + 52 := ⟨a.log2 - 52, by omega⟩
    have h2 : twoTo e = 2 ^ j := by rw [twoTo, show e.toNat = j by omega]; rfl
    rw [h1, h2, mul_one, ← pow_add, ← pow_add, ← hj, show j + 53 = a.log2 + 1 by omega]
    exact ⟨hlow, hhigh⟩

/-- The significand that an integer is rounded to has 53 bits, or is one more than that. -/
theorem rounded_bounds {a d m : Nat} (hd : 0 < d) (hlow : d * 2 ^ 52 ≤ a) (hhigh : a < d * 2 ^ 53) (hm : roundDiv a d = m) :
    2 ^ 52 ≤ m ∧ m ≤ 2 ^ 53 := by
  obtain ⟨hnear1, hnear2⟩ := roundDiv_near a d hd
  rw [hm] at hnear1 hnear2
  constructor
  · by_contra hlt
    have h := Nat.mul_le_mul_left d (show m + 1 ≤ 2 ^ 52 by omega)
    rw [Nat.mul_add] at h
    omega
  · by_contra hgt
    have h := Nat.mul_le_mul_left d (show 2 ^ 53 + 1 ≤ m by omega)
    rw [Nat.mul_add] at h
    omega

/-- An integer has a double iff it is below the bound. -/
theorem isFinite_ofInt_iff {n : Int} : (ofInt n).isFinite = true ↔ n.natAbs < integerBound := by
  unfold ofInt integerBound
  generalize n.natAbs = a
  -- Powers as multiples of one of them, which is never computed.
  obtain ⟨step, hstep, hpos⟩ : ∃ step, (2 : Nat) ^ 971 = step ∧ 0 < step := ⟨_, rfl, by positivity⟩
  have hhalf : 2 ^ 1 * 2 ^ 970 = step := by rw [← pow_add, hstep]
  have hunder : (2 : Nat) ^ 1023 = 2 ^ 52 * step := by rw [← hstep, ← pow_add]
  have hover : (2 : Nat) ^ 1024 = 2 ^ 53 * step := by rw [← hstep, ← pow_add]
  have htwo : twoTo 971 = step := by simp only [twoTo_eq, Int.reduceToNat, hstep]
  rw [hover]
  clear hover
  have hfull : leastFull = 2 ^ 52 := rfl
  have hcarry : significandBound = 2 ^ 53 := rfl
  generalize (2 : Nat) ^ 970 = half at hhalf ⊢
  by_cases ha : a = 0
  · subst ha
    simp only [ofRatio, if_pos, zero, isFinite, true_iff]
    omega
  obtain ⟨e, he⟩ : ∃ e : Int, e = a.log2 - 52 := ⟨_, rfl⟩
  have hmax : max (-1074) (floorLog2 a 1 - 52) = e := by rw [floorLog2_one ha]; omega
  obtain ⟨m, hm⟩ : ∃ m, roundDiv (a * twoTo (-e)) (1 * twoTo e) = m := ⟨_, rfl⟩
  rw [ofRatio_eq ha _ hmax hm]
  rw [one_mul] at hm
  obtain ⟨hlow, hhigh⟩ := scaled_bounds ha he
  obtain ⟨hge, hle⟩ := rounded_bounds (twoTo_pos e) hlow hhigh hm
  have hfinite : (if m = significandBound then ofCanonical (decide (n < 0)) leastFull (e + 1)
      else ofCanonical (decide (n < 0)) m e).isFinite = true ↔ e ≤ 970 ∨ e = 971 ∧ m ≠ 2 ^ 53 := by
    split
    · rw [isFinite_ofCanonical_iff, Canonical]
      omega
    · rw [isFinite_ofCanonical_iff, Canonical]
      omega
  rw [hfinite]
  obtain hsmall | rfl | hlarge : e ≤ 970 ∨ e = 971 ∨ 972 ≤ e := by omega
  · have hpow : 2 ^ (a.log2 + 1) ≤ (2 : Nat) ^ 1023 := pow_le_pow_right₀ one_le_two (by omega)
    have hlt := Nat.lt_log2_self (n := a)
    omega
  · have hone : twoTo (-971) = 1 := rfl
    rw [hone, htwo, mul_one] at hm hlow hhigh
    obtain ⟨hnear1, hnear2⟩ := roundDiv_near a step hpos
    rw [hm] at hnear1 hnear2
    constructor
    · rintro (hlt | ⟨-, hne⟩)
      · omega
      · by_contra hnot
        have hround : roundDiv a step = 2 ^ 53 := roundDiv_eq hpos (by omega) (by omega) (by omega)
        omega
    · intro hlt
      refine .inr ⟨rfl, fun heq => ?_⟩
      rw [heq] at hnear1
      omega
  · have hpow : (2 : Nat) ^ 1024 ≤ 2 ^ a.log2 := pow_le_pow_right₀ one_le_two (by omega)
    have hge := Nat.log2_self_le ha
    omega

/-- Integers of 64 bits have a double. -/
theorem lt_integerBound {a : Nat} (h : a < 2 ^ 64) : a < integerBound := by
  have hpow : (2 : Nat) ^ 64 ≤ 2 ^ 970 := pow_le_pow_right₀ one_le_two (by decide)
  have hbound : (2 : Nat) ^ 1024 = 2 ^ 54 * 2 ^ 970 := by rw [← pow_add]
  unfold integerBound
  omega

theorem ofInt?_of_lt {n : Int} (h : n.natAbs < 2 ^ 64) : ofInt? n = some (ofInt n) :=
  if_pos (isFinite_ofInt_iff.2 (lt_integerBound h))

theorem isNaN_of_isFinite {x : Binary64} (h : x.isFinite = true) : x.isNaN = false := by
  cases x with
  | nan => cases h
  | finite | infinity => rfl

end MetricExpr.Binary64
