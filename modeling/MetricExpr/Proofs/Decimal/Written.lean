import MetricExpr.Expr.Print
import MetricExpr.Proofs.Decimal.ReadBack
import MetricExpr.Proofs.Decimal.Scanned
import Mathlib.Data.Nat.Cast.Field
/-!
# Written numbers

A numeral that is written has plain digits (`Numeral.Written`), so it is well formed. What a layout writes for a decimal
number is such a numeral with the same value, so the shortest text of a double is read as that double
(`Finite.exists_numeral`).
-/
namespace MetricExpr

/-! ## Plain digits -/

namespace Text

theorem digit?_of_isDigit {c : Char} (h : c.isDigit = true) : digit? c = some (c.toNat - 0x30) := by
  have hsmall : c.toNat < 128 := Nat.lt_of_le_of_lt (bounds_of_isDigit h).2 (by decide)
  unfold digit?
  rw [if_pos hsmall, if_pos h]

theorem isDigit_of_isDigit {c : Char} (h : c.isDigit = true) : isDigit c = true := by
  unfold isDigit
  rw [digit?_of_isDigit h]
  rfl

theorem digitsValue_eq {cs : List Char} (h : ∀ c ∈ cs, c.isDigit = true) :
    digitsValue cs = Nat.ofDigitChars 10 cs 0 := by
  rw [Nat.ofDigitChars_eq_foldl]
  unfold digitsValue
  refine List.foldl_ext _ _ _ fun n c hc => ?_
  rw [digit?_of_isDigit (h c hc)]
  rfl

end Text

theorem decimal_ne_nil (n : Nat) : decimal n ≠ [] := Nat.toDigits_ne_nil

theorem isDigit_of_mem_decimal {n : Nat} {c : Char} (h : c ∈ decimal n) : c.isDigit = true :=
  Nat.isDigit_of_mem_toDigits (by decide) (by decide) h

theorem digitsValue_decimal (n : Nat) : Text.digitsValue (decimal n) = n := by
  rw [Text.digitsValue_eq fun _ => isDigit_of_mem_decimal]
  exact Nat.ofDigitChars_ten_toDigits

theorem digitsValue_zeros (k : Nat) {cs : List Char} (h : ∀ c ∈ cs, c.isDigit = true) :
    Text.digitsValue (List.replicate k '0' ++ cs) = Text.digitsValue cs := by
  have hall : ∀ c ∈ List.replicate k '0' ++ cs, c.isDigit = true := by
    intro c hc
    rcases List.mem_append.mp hc with hz | hd
    · rw [List.eq_of_mem_replicate hz]
      decide
    · exact h c hd
  rw [Text.digitsValue_eq hall, Text.digitsValue_eq h, Nat.ofDigitChars_append, Nat.ofDigitChars_replicate_zero,
    Nat.mul_zero]

theorem digitsValue_append_zeros {cs : List Char} (h : ∀ c ∈ cs, c.isDigit = true) (k : Nat) :
    Text.digitsValue (cs ++ List.replicate k '0') = 10 ^ k * Text.digitsValue cs := by
  have hall : ∀ c ∈ cs ++ List.replicate k '0', c.isDigit = true := by
    intro c hc
    rcases List.mem_append.mp hc with hd | hz
    · exact h c hd
    · rw [List.eq_of_mem_replicate hz]
      decide
  rw [Text.digitsValue_eq hall, Text.digitsValue_eq h, Nat.ofDigitChars_append, Nat.ofDigitChars_replicate_zero]

theorem isDigit_of_mem_padded {width n : Nat} {c : Char} (h : c ∈ padded width n) : c.isDigit = true := by
  rcases List.mem_append.mp h with hz | hd
  · rw [List.eq_of_mem_replicate hz]
    decide
  · exact isDigit_of_mem_decimal hd

theorem padded_ne_nil (width n : Nat) : padded width n ≠ [] := List.append_ne_nil_of_right_ne_nil _ (decimal_ne_nil n)

theorem digitsValue_padded (width n : Nat) : Text.digitsValue (padded width n) = n := by
  unfold padded
  dsimp only
  rw [digitsValue_zeros _ fun _ => isDigit_of_mem_decimal, digitsValue_decimal]

/-! ## Numerals as they are written -/

namespace Numeral

/-- A numeral of plain digits in the form that is written: digits come first, and an exponent has a small letter and a
sign. -/
structure Written (n : Numeral) : Prop where
  whole_ne_nil : n.whole ≠ []
  whole_digits : ∀ c ∈ n.whole, c.isDigit = true
  fraction_digits : ∀ ds ∈ n.fraction, ∀ c ∈ ds, c.isDigit = true
  exponent_form : ∀ x ∈ n.exponent, x.1 = 'e' ∧ (x.2.1 = ['+'] ∨ x.2.1 = ['-']) ∧ x.2.2 ≠ [] ∧
    ∀ c ∈ x.2.2, c.isDigit = true

theorem Written.wellFormed {n : Numeral} (hn : n.Written) : n.WellFormed where
  whole c hc := Text.isDigit_of_isDigit (hn.whole_digits c hc)
  fraction ds hds c hc := Text.isDigit_of_isDigit (hn.fraction_digits ds hds c hc)
  digit := .inl hn.whole_ne_nil
  exponent x hx := by
    obtain ⟨hletter, hsign, hne, hdigits⟩ := hn.exponent_form x hx
    exact ⟨.inl hletter, .inr hsign, hne, fun c hc => Text.isDigit_of_isDigit (hdigits c hc)⟩

theorem Written.exists_cons {n : Numeral} (hn : n.Written) : ∃ c body, n.lexeme = c :: body ∧ c.isDigit = true := by
  obtain ⟨c, ds, hwhole⟩ := List.exists_cons_of_ne_nil hn.whole_ne_nil
  rw [lexeme_eq, hwhole]
  exact ⟨c, _, rfl, hn.whole_digits c (by rw [hwhole]; exact List.mem_cons_self)⟩

/-- The number that a numeral writes. -/
def size (n : Numeral) : ℚ :=
  Text.digitsValue (n.whole ++ n.fraction.getD []) * 10 ^ (n.scale - (n.fraction.getD []).length)

theorem value_of_nearest {x : Finite} (hx : x.significand ≠ 0) {n : Numeral} (h : x.NearestTo n.size) :
    n.value = .finite { x with negative := false } := Binary64.ofDecimal_of_nearest hx h false

end Numeral

/-! ## Layouts write numerals -/

def Layout.numeral (layout : Layout) (d : Digits) : Numeral :=
  let cs := decimal d.coefficient
  let top := d.exponent + cs.length - 1
  if layout.leastPositional ≤ top && top < layout.beyondPositional then
    if top < 0 then ⟨['0'], some (List.replicate (-top - 1).toNat '0' ++ cs), none⟩
    else if d.exponent < 0 then ⟨cs.take (top + 1).toNat, some (cs.drop (top + 1).toNat), none⟩
    else ⟨cs ++ List.replicate d.exponent.toNat '0', some ['0'], none⟩
  else
    ⟨cs.take 1, if cs.length = 1 then none else some (cs.drop 1),
      some ('e', [if top < 0 then '-' else '+'], padded layout.exponentDigits top.natAbs)⟩

theorem Layout.lexeme_numeral (layout : Layout) (d : Digits) : (layout.numeral d).lexeme = layout.write d := by
  unfold Layout.numeral Layout.write
  dsimp only
  have hne := decimal_ne_nil d.coefficient
  generalize decimal d.coefficient = cs at hne
  split
  · split
    · exact List.append_nil _
    · split
      · exact List.append_nil _
      · exact List.append_nil _
  · cases cs with
    | nil => exact absurd rfl hne
    | cons first rest =>
      cases rest with
      | nil => rfl
      | cons second rest => rfl

theorem Layout.written_numeral (layout : Layout) (d : Digits) : (layout.numeral d).Written := by
  have hne := decimal_ne_nil d.coefficient
  have hlen := List.length_pos_of_ne_nil hne
  have hcs : ∀ c ∈ decimal d.coefficient, c.isDigit = true := fun _ => isDigit_of_mem_decimal
  have hzeros : ∀ k, ∀ c ∈ List.replicate k '0', c.isDigit = true := by
    intro k c hc
    rw [List.eq_of_mem_replicate hc]
    decide
  unfold Layout.numeral
  dsimp only
  generalize decimal d.coefficient = cs at hne hlen hcs
  split
  · split
    · refine ⟨List.cons_ne_nil _ _, hzeros 1, fun ds hds c hc => ?_, nofun⟩
      rw [← Option.some.inj hds] at hc
      exact (List.mem_append.mp hc).elim (hzeros _ c) (hcs c)
    · split
      · refine ⟨?_, fun c hc => hcs c (List.mem_of_mem_take hc), fun ds hds c hc => ?_, nofun⟩
        · exact List.ne_nil_of_length_pos (by rw [List.length_take]; omega)
        · rw [← Option.some.inj hds] at hc
          exact hcs c (List.mem_of_mem_drop hc)
      · refine ⟨List.append_ne_nil_of_left_ne_nil hne _, fun c hc => ?_, fun ds hds c hc => ?_, nofun⟩
        · exact (List.mem_append.mp hc).elim (hcs c) (hzeros _ c)
        · rw [← Option.some.inj hds] at hc
          exact hzeros 1 c hc
  · refine ⟨?_, fun c hc => hcs c (List.mem_of_mem_take hc), fun ds hds c hc => ?_, fun x hx => ?_⟩
    · exact List.ne_nil_of_length_pos (by rw [List.length_take]; omega)
    · split at hds
      · cases hds
      · rw [← Option.some.inj hds] at hc
        exact hcs c (List.mem_of_mem_drop hc)
    · rw [← Option.some.inj hx]
      refine ⟨rfl, ?_, padded_ne_nil _ _, fun _ => isDigit_of_mem_padded⟩
      split
      · exact .inr rfl
      · exact .inl rfl

/-- What a layout writes has the value of the decimal number. -/
theorem Layout.size_numeral (layout : Layout) (d : Digits) : (layout.numeral d).size = d.value := by
  have hlen := List.length_pos_of_ne_nil (decimal_ne_nil d.coefficient)
  have hcs : ∀ c ∈ decimal d.coefficient, c.isDigit = true := fun _ => isDigit_of_mem_decimal
  have hval := digitsValue_decimal d.coefficient
  have hsize : ∀ n : Numeral, Text.digitsValue (n.whole ++ n.fraction.getD []) = d.coefficient →
      n.scale - (n.fraction.getD []).length = d.exponent → n.size = d.value := by
    intro n hdigits hscale
    unfold Numeral.size Digits.value
    rw [hdigits, hscale]
  unfold Layout.numeral
  dsimp only
  generalize decimal d.coefficient = cs at hlen hcs hval
  split
  · split
    · refine hsize _ ?_ ?_
      · exact (digitsValue_zeros ((-(d.exponent + cs.length - 1) - 1).toNat + 1) hcs).trans hval
      · simp only [Numeral.scale, Option.getD_some, List.length_append, List.length_replicate]
        omega
    · split
      · refine hsize _ ?_ ?_
        · simp only [Option.getD_some, List.take_append_drop, hval]
        · simp only [Numeral.scale, Option.getD_some, List.length_drop]
          omega
      · obtain ⟨k, hk⟩ := Int.eq_ofNat_of_zero_le (show 0 ≤ d.exponent by omega)
        unfold Numeral.size Digits.value
        simp only [Option.getD_some, Numeral.scale, List.append_assoc]
        rw [← List.replicate_succ', digitsValue_append_zeros hcs, hval, hk, Int.toNat_natCast, zpow_natCast]
        push_cast
        rw [List.length_singleton, pow_succ]
        norm_num
        ring
  · refine hsize _ ?_ ?_
    · dsimp only
      split
      · rename_i hone
        rw [Option.getD_none, List.append_nil, List.take_of_length_le hone.le, hval]
      · rw [Option.getD_some, List.take_append_drop, hval]
    · have hfraction : ((if cs.length = 1 then none else some (cs.drop 1)).getD []).length = cs.length - 1 := by
        split
        · rename_i hone
          rw [hone]
          rfl
        · exact List.length_drop
      rw [hfraction]
      unfold Numeral.scale
      dsimp only
      rw [digitsValue_padded]
      split
      · have hminus : (['-'] == ['-']) = true := rfl
        rw [hminus, if_pos rfl]
        omega
      · have hplus : (['+'] == ['-']) = false := rfl
        rw [hplus, if_neg Bool.false_ne_true]
        omega

/-! ## Constants in source text -/

namespace Finite

/-- The same number with a plus. -/
def magnitude (x : Finite) : Finite := { x with negative := false }

theorem magnitude_of_isZero {x : Finite} (h : x.isZero = true) : x.magnitude = zero false := by
  obtain ⟨negative, significand, exponent, canonical⟩ := x
  have hm : significand = 0 := beq_iff_eq.mp h
  subst hm
  have he : exponent = -1074 := canonical.2.2.2 (by decide)
  subst he
  rfl

theorem natAbs_truncate {x : Finite} (h : x.isIntegral = true) : (x.truncate.natAbs : ℚ) = x.size := by
  have hdiv : twoTo (-x.exponent) ∣ x.significand * twoTo x.exponent := by
    unfold isIntegral at h
    rw [Bool.or_eq_true, decide_eq_true_eq, beq_iff_eq] at h
    rcases h with h | h
    · have hone : twoTo (-x.exponent) = 1 := by
        unfold twoTo
        rw [Int.toNat_eq_zero.mpr (by omega)]
      rw [hone]
      exact one_dvd _
    · exact Dvd.dvd.mul_right (Nat.dvd_of_mod_eq_zero h) _
  have habs : x.truncate.natAbs = x.significand * twoTo x.exponent / twoTo (-x.exponent) := by
    unfold truncate
    dsimp only
    split
    · rw [Int.natAbs_neg]
      exact Int.natAbs_natCast _
    · exact Int.natAbs_natCast _
  have hne : (twoTo (-x.exponent) : ℚ) ≠ 0 := by exact_mod_cast (twoTo_pos _).ne'
  rw [habs, Nat.cast_div hdiv hne, Digits.size_eq_div]

theorem written_decimal (n : Nat) : (Numeral.mk (decimal n) none none).Written :=
  ⟨decimal_ne_nil n, fun _ => isDigit_of_mem_decimal, nofun, nofun⟩

theorem lexeme_decimal (n : Nat) : (Numeral.mk (decimal n) none none).lexeme = decimal n := by
  rw [Numeral.lexeme_eq]
  unfold Numeral.fractionChars Numeral.exponentChars
  rw [List.append_nil, List.append_nil]

/-- **The text of a constant is a sign and a numeral that is read as its magnitude.** -/
theorem exists_numeral (x : Finite) : ∃ n : Numeral, n.Written ∧ n.value = .finite x.magnitude ∧
    x.sourceChars = (if x.negative then ['-'] else []) ++ n.lexeme := by
  unfold sourceChars
  by_cases hzero : x.isZero = true
  · rw [if_pos hzero]
    refine ⟨⟨decimal 0, none, none⟩, written_decimal 0, ?_, ?_⟩
    · rw [magnitude_of_isZero hzero]
      decide
    · split <;> rfl
  · rw [if_neg hzero]
    have hx : x.significand ≠ 0 := fun h => hzero (beq_iff_eq.mpr h)
    split
    · rename_i hint
      rw [Bool.and_eq_true] at hint
      refine ⟨⟨decimal x.truncate.natAbs, none, none⟩, written_decimal _, Numeral.value_of_nearest hx ?_, ?_⟩
      · have hsize : (Numeral.mk (decimal x.truncate.natAbs) none none).size = x.size := by
          unfold Numeral.size
          rw [← natAbs_truncate hint.1]
          simp only [Option.getD_none, List.append_nil, digitsValue_decimal, Numeral.scale, List.length_nil]
          norm_num
        rw [hsize]
        exact nearestTo_size hx
      · rw [lexeme_decimal]
    · refine ⟨Layout.plain.numeral (.shortest x), Layout.written_numeral _ _, Numeral.value_of_nearest hx ?_, ?_⟩
      · rw [Layout.size_numeral]
        exact Digits.nearestTo_shortest hx
      · unfold chars
        rw [if_neg hzero, Layout.lexeme_numeral]
        split <;> rfl

end Finite

end MetricExpr
