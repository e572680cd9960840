import MetricExpr.Display.Value
import MetricExpr.Proofs.Decimal.Rounded
import MetricExpr.Proofs.Display.JsonText
import MetricExpr.Proofs.Expr.Lexemes
import Mathlib.Data.List.DropRight
/-!
# Displayed numbers

A number is shown by the digits of the count of units it rounds to (`Display.number_eq`): those in front of the point, and
those behind it up to the last that is not zero. The text is canonical (`Display.shown_mem_canonical`) and is read as this
count of units (`Display.denoted?_shown`), so it says to which multiple of the unit the number rounds, and no more.
-/
namespace MetricExpr

/-! ## Digits of a count -/

namespace Display

/-- The digits in front of the point of a count of units `10 ^ -places`. -/
def wholeDigits (places units : Nat) : List Char :=
  (padded (places + 1) units).take ((padded (places + 1) units).length - places)

/-- The digits behind the point, one for each place. -/
def fractionDigits (places units : Nat) : List Char :=
  (padded (places + 1) units).drop ((padded (places + 1) units).length - places)

/-- The digits behind the point up to the last that is not zero. -/
def keptDigits (places units : Nat) : List Char := dropEnd (· == '0') (fractionDigits places units)

/-- The numeral that shows a count of units `10 ^ -places`. -/
def numeral (places units : Nat) : Numeral :=
  ⟨wholeDigits places units, if keptDigits places units = [] then none else some (keptDigits places units), none⟩

variable (places units : Nat)

theorem places_lt_length_padded : places < (padded (places + 1) units).length := by
  rw [padded, List.length_append, List.length_replicate]
  omega

theorem wholeDigits_append : wholeDigits places units ++ fractionDigits places units = padded (places + 1) units :=
  List.take_append_drop _ _

theorem length_fractionDigits : (fractionDigits places units).length = places := by
  have hlength := places_lt_length_padded places units
  rw [fractionDigits, List.length_drop]
  omega

theorem wholeDigits_ne_nil : wholeDigits places units ≠ [] := by
  have hlength := places_lt_length_padded places units
  refine List.ne_nil_of_length_pos ?_
  rw [wholeDigits, List.length_take]
  omega

theorem isDigit_of_mem_wholeDigits {c : Char} (h : c ∈ wholeDigits places units) : c.isDigit = true :=
  isDigit_of_mem_padded (List.mem_of_mem_take h)

theorem isDigit_of_mem_fractionDigits {c : Char} (h : c ∈ fractionDigits places units) : c.isDigit = true :=
  isDigit_of_mem_padded (List.mem_of_mem_drop h)

/-- There are either as many digits as are wanted, so that one is in front of the point, or those of the count alone. -/
theorem wholeDigits_leading (ds : List Char) (h : wholeDigits places units = '0' :: ds) : ds = [] := by
  have hlength := places_lt_length_padded places units
  by_cases hshort : (decimal units).length ≤ places + 1
  · have hpadded : (padded (places + 1) units).length = places + 1 := by
      rw [padded, List.length_append, List.length_replicate]
      omega
    have hone := congrArg List.length h
    rw [wholeDigits, List.length_take, hpadded, List.length_cons] at hone
    exact List.eq_nil_of_length_eq_zero (by omega)
  · have hdecimal : padded (places + 1) units = decimal units := by
      rw [padded, Nat.sub_eq_zero_of_le (by omega)]
      rfl
    have hfirst := wholeDigits_append places units
    rw [h, hdecimal] at hfirst
    by_cases hunits : units = 0
    · rw [hunits] at hshort
      exact absurd (show 1 ≤ places + 1 by omega) hshort
    · exact absurd hfirst.symm (decimal_ne_zero_cons units hunits _)

theorem exists_zeros : ∃ k, fractionDigits places units = keptDigits places units ++ List.replicate k '0' := by
  refine ⟨((fractionDigits places units).rtakeWhile (· == '0')).length, ?_⟩
  have hzeros : (fractionDigits places units).rtakeWhile (· == '0') =
      List.replicate ((fractionDigits places units).rtakeWhile (· == '0')).length '0' :=
    List.eq_replicate_of_mem fun c hc => eq_of_beq (List.mem_rtakeWhile_imp (p := (· == '0')) hc)
  rw [← hzeros]
  exact List.rdropWhile_append_rtakeWhile.symm

theorem isPrefix_keptDigits : keptDigits places units <+: fractionDigits places units := List.rdropWhile_prefix _ _

theorem isDigit_of_mem_keptDigits {c : Char} (h : c ∈ keptDigits places units) : c.isDigit = true :=
  isDigit_of_mem_fractionDigits places units ((isPrefix_keptDigits places units).subset h)

theorem getLast_keptDigits (h : keptDigits places units ≠ []) : (keptDigits places units).getLast h ≠ '0' :=
  fun hzero => List.rdropWhile_last_not _ _ h (beq_iff_eq.2 hzero)

theorem length_keptDigits_le : (keptDigits places units).length ≤ places :=
  (isPrefix_keptDigits places units).length_le.trans (length_fractionDigits places units).le

theorem getD_fraction : (numeral places units).fraction.getD [] = keptDigits places units := by
  unfold numeral
  split
  · rename_i hnone
    exact hnone.symm
  · rfl

theorem written_numeral : (numeral places units).Written where
  whole_ne_nil := wholeDigits_ne_nil places units
  whole_digits _ := isDigit_of_mem_wholeDigits places units
  fraction_digits ds hds c hc := by
    refine isDigit_of_mem_keptDigits places units ?_
    rw [← getD_fraction, hds]
    exact hc
  exponent_form := nofun

/-- The numeral writes the count of units. -/
theorem size_numeral : (numeral places units).size = units / 10 ^ places := by
  obtain ⟨k, hk⟩ := exists_zeros places units
  have hdigits : ∀ c ∈ wholeDigits places units ++ keptDigits places units, c.isDigit = true :=
    List.forall_mem_append.2
      ⟨fun _ => isDigit_of_mem_wholeDigits places units, fun _ => isDigit_of_mem_keptDigits places units⟩
  have hlength : (keptDigits places units).length + k = places := by
    have hplaces := length_fractionDigits places units
    rwa [hk, List.length_append, List.length_replicate] at hplaces
  have hvalue : (units : ℚ) = 10 ^ k * Text.digitsValue (wholeDigits places units ++ keptDigits places units) := by
    have hall := wholeDigits_append places units
    rw [hk, ← List.append_assoc] at hall
    have hunits := digitsValue_padded (places + 1) units
    rw [← hall, digitsValue_append_zeros hdigits] at hunits
    exact_mod_cast hunits.symm
  have hpower : (10 : ℚ) ^ places = 10 ^ (keptDigits places units).length * 10 ^ k := by rw [← pow_add, hlength]
  rw [Numeral.size, getD_fraction, hvalue, hpower]
  show (Text.digitsValue (wholeDigits places units ++ keptDigits places units) : ℚ) *
    10 ^ ((0 : ℤ) - (keptDigits places units).length) = _
  rw [zero_sub, zpow_neg, zpow_natCast]
  field_simp

/-! ## Trimming -/

theorem dropEnd_append {p : Char → Bool} (cs : List Char) {ds : List Char} (h : ∀ c ∈ ds, p c = true) :
    dropEnd p (cs ++ ds) = dropEnd p cs := by
  rw [dropEnd, List.reverse_append, List.dropWhile_append_of_pos fun c hc => h c (List.mem_reverse.1 hc), dropEnd]

theorem dropEnd_concat {p : Char → Bool} (cs : List Char) {c : Char} (h : p c = false) : dropEnd p (cs ++ [c]) = cs ++ [c] :=
  List.rdropWhile_concat_neg _ _ _ (by simp [h])

theorem ne_point_of_isDigit {c : Char} (h : c.isDigit = true) : c ≠ '.' := by
  rintro rfl
  exact absurd h (by decide)

/-- Of a fraction the zeros at its end go, and the point with them if nothing is left behind it. -/
theorem trimmed_point {cs : List Char} (hcs : dropEnd (· == '.') cs = cs) {ds : List Char}
    (hds : ∀ c ∈ ds, c.isDigit = true) : trimmed (cs ++ '.' :: ds) =
      cs ++ Numeral.fractionChars (if dropEnd (· == '0') ds = [] then none else some (dropEnd (· == '0') ds)) := by
  have hsplit : cs ++ '.' :: ds = cs ++ '.' :: dropEnd (· == '0') ds ++ ds.rtakeWhile (· == '0') := by
    rw [List.append_assoc]
    exact congrArg (cs ++ '.' :: ·) List.rdropWhile_append_rtakeWhile.symm
  have hcontains : (cs ++ '.' :: ds).contains '.' = true := by simp
  rw [trimmed, if_pos hcontains, hsplit, dropEnd_append _ fun _ => List.mem_rtakeWhile_imp]
  split
  · rename_i hnone
    rw [hnone, dropEnd_concat cs (by decide), dropEnd_append cs (by simp), hcs, Numeral.fractionChars, List.append_nil]
  · rename_i hsome
    have hzero : (dropEnd (· == '0') ds).getLast hsome ≠ '0' :=
      fun h => List.rdropWhile_last_not _ _ hsome (beq_iff_eq.2 h)
    have hpoint : (dropEnd (· == '0') ds).getLast hsome ≠ '.' :=
      ne_point_of_isDigit (hds _ ((List.rdropWhile_prefix _ ds).subset (List.getLast_mem hsome)))
    have hconcat : cs ++ '.' :: dropEnd (· == '0') ds = cs ++ '.' :: (dropEnd (· == '0') ds).dropLast ++
        [(dropEnd (· == '0') ds).getLast hsome] := by
      rw [List.append_assoc, List.cons_append, List.dropLast_append_getLast hsome]
    rw [hconcat, dropEnd_concat _ (by simpa using hzero), dropEnd_concat _ (by simpa using hpoint), ← hconcat]
    rfl

theorem point_notMem_front (negative : Bool) : '.' ∉ JsonValue.signChars negative ++ wholeDigits places units := by
  rw [List.mem_append, not_or]
  refine ⟨?_, fun h => ne_point_of_isDigit (isDigit_of_mem_wholeDigits places units h) rfl⟩
  cases negative <;> decide

theorem dropEnd_front (negative : Bool) : dropEnd (· == '.') (JsonValue.signChars negative ++ wholeDigits places units) =
    JsonValue.signChars negative ++ wholeDigits places units := by
  refine List.rdropWhile_eq_self_iff.2 fun hne h => ?_
  have hpoint := List.getLast_mem hne
  rw [beq_iff_eq.1 h] at hpoint
  exact point_notMem_front places units negative hpoint

theorem pointed_eq : Finite.pointed places units =
    wholeDigits places units ++ if places = 0 then [] else '.' :: fractionDigits places units := by
  unfold Finite.pointed
  split
  · rename_i hplaces
    subst hplaces
    have hpadded : padded 1 units = decimal units := by
      rw [padded, Nat.sub_eq_zero_of_le (List.length_pos_of_ne_nil (decimal_ne_nil units))]
      rfl
    rw [List.append_nil, wholeDigits, Nat.zero_add, hpadded, Nat.sub_zero, List.take_length]
  · rfl

theorem lexeme_numeral : (numeral places units).lexeme =
    wholeDigits places units ++ Numeral.fractionChars (numeral places units).fraction := List.append_nil _

/-- Fixed-point text is trimmed to the numeral. -/
theorem trimmed_pointed (negative : Bool) : trimmed (JsonValue.signChars negative ++ Finite.pointed places units) =
    JsonValue.signChars negative ++ (numeral places units).lexeme := by
  rw [pointed_eq, lexeme_numeral, ← List.append_assoc, ← List.append_assoc]
  by_cases hplaces : places = 0
  · subst hplaces
    have hnone : keptDigits 0 units = [] :=
      List.eq_nil_of_length_eq_zero (Nat.le_zero.1 (length_keptDigits_le 0 units))
    have hcontains : ¬ (JsonValue.signChars negative ++ wholeDigits 0 units).contains '.' = true := by
      rw [List.contains_iff_mem]
      exact point_notMem_front 0 units negative
    rw [if_pos rfl, List.append_nil, trimmed, if_neg hcontains, numeral, if_pos hnone, Numeral.fractionChars,
      List.append_nil]
  · rw [if_neg hplaces]
    exact trimmed_point (dropEnd_front places units negative) fun _ => isDigit_of_mem_fractionDigits places units

/-! ## The text of a number -/

/-- A count of units `10 ^ -places` as it is shown. -/
def shown (n : ℤ) : List Char := JsonValue.signChars (n < 0) ++ (numeral places n.natAbs).lexeme

/-- The number that a text writes: a sign and a numeral. -/
def denoted? (cs : List Char) : Option ℚ :=
  match Numeral.scan? (Numeral.sign cs).2 with
  | some (n, []) => some (if (Numeral.sign cs).1 = ['-'] then -n.size else n.size)
  | _ => none

theorem scan?_numeral : Numeral.scan? (numeral places units).lexeme = some (numeral places units, []) := by
  have hscan := Numeral.scan?_lexeme (written_numeral places units).wellFormed (show Numeral.Stops [] from nofun)
  rwa [List.append_nil] at hscan

theorem lexeme_numeral_inj {units units' : Nat} (h : (numeral places units).lexeme = (numeral places units').lexeme) :
    units = units' := by
  have hscan := congrArg Numeral.scan? h
  rw [scan?_numeral, scan?_numeral] at hscan
  have hsize := congrArg Numeral.size (Prod.mk.inj (Option.some.inj hscan)).1
  rw [size_numeral, size_numeral, div_left_inj' (by positivity)] at hsize
  exact_mod_cast hsize

theorem lexeme_numeral_zero : (numeral places 0).lexeme = ['0'] := by
  have hpadded : padded (places + 1) 0 = List.replicate (places + 1) '0' := by
    rw [List.replicate_succ']
    rfl
  have hwhole : wholeDigits places 0 = ['0'] := by
    rw [wholeDigits, hpadded, List.length_replicate, List.take_replicate]
    simp
  have hnone : keptDigits places 0 = [] := by
    refine List.rdropWhile_eq_nil_iff.2 fun c hc => ?_
    rw [fractionDigits, hpadded] at hc
    exact beq_iff_eq.2 (List.eq_of_mem_replicate (List.mem_of_mem_drop hc))
  rw [lexeme_numeral, numeral, hwhole, if_pos hnone]
  rfl

theorem sign_shown (n : ℤ) :
    Numeral.sign (shown places n) = (JsonValue.signChars (n < 0), (numeral places n.natAbs).lexeme) := by
  have hsign := JsonValue.sign_lexeme (written_numeral places n.natAbs).wellFormed (wholeDigits_ne_nil places n.natAbs)
    (n < 0) []
  rwa [List.append_nil] at hsign

theorem shown_eq (n : ℤ) : shown places n = JsonValue.signChars (n < 0) ++ wholeDigits places n.natAbs ++
    Numeral.fractionChars (numeral places n.natAbs).fraction := by
  rw [shown, lexeme_numeral, List.append_assoc]

theorem shown_ne_minus_zero (n : ℤ) : shown places n ≠ ['-', '0'] := by
  intro h
  have hsign := sign_shown places n
  rw [h] at hsign
  obtain ⟨hminus, hzero⟩ := Prod.mk.inj hsign
  have habs : n.natAbs = 0 := lexeme_numeral_inj places (hzero.symm.trans (lexeme_numeral_zero places).symm)
  obtain rfl := Int.natAbs_eq_zero.1 habs
  cases hminus

theorem denoted?_shown (n : ℤ) : denoted? (shown places n) = some ((n : ℚ) / 10 ^ places) := by
  rw [denoted?, sign_shown, scan?_numeral]
  dsimp only
  rw [size_numeral]
  by_cases hn : n < 0
  · have hcast : ((n.natAbs : ℕ) : ℚ) = -n := by
      rw [Nat.cast_natAbs, abs_of_neg hn, Int.cast_neg]
    rw [if_pos (by simp [JsonValue.signChars, hn]), hcast, neg_div, neg_neg]
  · have hcast : ((n.natAbs : ℕ) : ℚ) = n := by
      rw [Nat.cast_natAbs, abs_of_nonneg (not_lt.1 hn)]
    rw [if_neg (by simp [JsonValue.signChars, hn]), hcast]

theorem shown_inj {m n : ℤ} (h : shown places m = shown places n) : m = n := by
  have hdenoted := congrArg denoted? h
  rw [denoted?_shown, denoted?_shown, Option.some_inj, div_left_inj' (by positivity)] at hdenoted
  exact_mod_cast hdenoted

/-- **A number is shown by the count of units that it rounds to.** -/
theorem number_eq (x : Finite) : number places (.finite x) = String.ofList (shown places (x.count places)) := by
  have hfixed : x.fixed places = JsonValue.signChars x.negative ++ Finite.pointed places (x.units places) := by
    unfold Finite.fixed JsonValue.signChars
    split <;> rfl
  have htrimmed : trimmed (x.fixed places) = JsonValue.signChars x.negative ++ (numeral places (x.units places)).lexeme := by
    rw [hfixed]
    exact trimmed_pointed places _ x.negative
  obtain ⟨c, rest, hlexeme, hdigit⟩ := (written_numeral places (x.units places)).exists_cons
  unfold number
  dsimp only
  rw [htrimmed, Finite.count, shown]
  cases hnegative : x.negative with
  | false =>
    have hminus : (c :: rest == ['-', '0']) = false := by
      refine beq_false_of_ne fun h => ?_
      rw [(List.cons.inj h).1] at hdigit
      exact absurd hdigit (by decide)
    have hsign : ¬ (x.units places : ℤ) < 0 := Int.not_lt.2 (Int.natCast_nonneg _)
    simp [JsonValue.signChars, hlexeme, hminus, hsign]
  | true =>
    by_cases hzero : x.units places = 0
    · simp [JsonValue.signChars, hzero, lexeme_numeral_zero]
    · have hlexeme : (numeral places (x.units places)).lexeme ≠ ['0'] := fun h =>
        hzero (lexeme_numeral_inj places (h.trans (lexeme_numeral_zero places).symm))
      simp [JsonValue.signChars, hlexeme, Nat.pos_of_ne_zero hzero]

/-! ## Its shape -/

/-- A digit that may be the first of several in front of the point, or the last behind it. -/
def isNonzeroDigit (c : Char) : Bool := c.isDigit && c != '0'

/-- A sign or none, a zero or digits that begin with another one, and a point with digits that end with another one. -/
def canonical : Language Char :=
  (1 + {['-']}) * ({['0']} + Shape.one isNonzeroDigit * Shape.run Char.isDigit) *
    (1 + {['.']} * (Shape.run Char.isDigit * Shape.one isNonzeroDigit))

theorem signChars_mem (negative : Bool) : JsonValue.signChars negative ∈ (1 + {['-']} : Language Char) := by
  rw [Shape.mem_optional]
  cases negative
  · exact .inl rfl
  · exact .inr rfl

theorem wholeDigits_mem : wholeDigits places units ∈
    ({['0']} + Shape.one isNonzeroDigit * Shape.run Char.isDigit : Language Char) := by
  have hdigits : ∀ c ∈ wholeDigits places units, c.isDigit = true := fun _ => isDigit_of_mem_wholeDigits places units
  have hleading := wholeDigits_leading places units
  obtain ⟨c, rest, hwhole⟩ := List.exists_cons_of_ne_nil (wholeDigits_ne_nil places units)
  rw [hwhole] at hdigits hleading ⊢
  obtain ⟨hc, hrest⟩ := List.forall_mem_cons.1 hdigits
  rw [Language.mem_add, Shape.mem_one_mul_run]
  by_cases hzero : c = '0'
  · subst hzero
    rw [hleading rest rfl]
    exact .inl rfl
  · exact .inr ⟨c, rest, rfl, by simp [isNonzeroDigit, hc, hzero], hrest⟩

theorem fractionChars_mem : Numeral.fractionChars (numeral places units).fraction ∈
    (1 + {['.']} * (Shape.run Char.isDigit * Shape.one isNonzeroDigit) : Language Char) := by
  rw [Shape.mem_optional, numeral]
  dsimp only
  split
  · exact .inl rfl
  · rename_i hsome
    have hdigits : ∀ c ∈ keptDigits places units, c.isDigit = true := fun _ => isDigit_of_mem_keptDigits places units
    have hlast : isNonzeroDigit ((keptDigits places units).getLast hsome) = true := by
      simp [isNonzeroDigit, hdigits _ (List.getLast_mem hsome), getLast_keptDigits places units hsome]
    refine .inr (Language.mem_mul.2 ⟨['.'], rfl, keptDigits places units, Language.mem_mul.2 ?_, rfl⟩)
    exact ⟨(keptDigits places units).dropLast, fun c hc => hdigits c (List.mem_of_mem_dropLast hc), _, ⟨_, hlast, rfl⟩,
      List.dropLast_append_getLast hsome⟩

/-- **What is shown of a count is canonical.** -/
theorem shown_mem_canonical (n : ℤ) : shown places n ∈ canonical :=
  Language.mem_mul.2 ⟨_, Language.mem_mul.2 ⟨_, signChars_mem (n < 0), _, wholeDigits_mem places n.natAbs, rfl⟩, _,
    fractionChars_mem places n.natAbs, (shown_eq places n).symm⟩

/-- What stands behind the point. -/
def behindPoint (cs : List Char) : List Char := (cs.dropWhile (· != '.')).drop 1

theorem behindPoint_shown (n : ℤ) : behindPoint (shown places n) = keptDigits places n.natAbs := by
  have hfront : ∀ c ∈ JsonValue.signChars (n < 0) ++ wholeDigits places n.natAbs, (c != '.') = true :=
    fun c hc => bne_iff_ne.2 fun h => point_notMem_front places n.natAbs (n < 0) (h ▸ hc)
  rw [shown_eq, behindPoint, List.dropWhile_append_of_pos hfront, ← getD_fraction]
  cases (numeral places n.natAbs).fraction <;> rfl

/-- **Displayed numbers are canonical and correctly rounded.** The text denotes the multiple of the unit that the exact
value rounds to, a tie to the even multiple. So two numbers have the same text iff they round to the same multiple, and a
greater number is never shown as a smaller one. -/
theorem number_canonical (places : Nat) (x : Finite) :
    datum places (.real (.finite x)) = .ok (number places (.finite x)) ∧
    (number places (.finite x)).toList ∈ canonical ∧
    (behindPoint (number places (.finite x)).toList).length ≤ places ∧
    number places (.finite x) ≠ "-0" ∧
    (∃ n : ℤ, RoundsTo (x.value * 10 ^ places) n ∧
      denoted? (number places (.finite x)).toList = some ((n : ℚ) / 10 ^ places)) ∧
    ∀ y : Finite, (number places (.finite x) = number places (.finite y) ↔
        ∃ n : ℤ, RoundsTo (x.value * 10 ^ places) n ∧ RoundsTo (y.value * 10 ^ places) n) ∧
      (x.value ≤ y.value → ∀ a ∈ denoted? (number places (.finite x)).toList,
        ∀ b ∈ denoted? (number places (.finite y)).toList, a ≤ b) := by
  have hrounds := fun z : Finite => z.roundsTo_count places
  have htext : ∀ z : Finite, (number places (.finite z)).toList = shown places (z.count places) := by
    intro z
    rw [number_eq, String.toList_ofList]
  refine ⟨rfl, ?_, ?_, fun h => ?_, ⟨x.count places, hrounds x, ?_⟩, fun y => ⟨⟨fun h => ?_, ?_⟩, fun hle a ha b hb => ?_⟩⟩
  · rw [htext]
    exact shown_mem_canonical places _
  · rw [htext, behindPoint_shown]
    exact length_keptDigits_le places _
  · exact shown_ne_minus_zero places (x.count places) ((htext x).symm.trans (congrArg String.toList h))
  · rw [htext, denoted?_shown]
  · have hcount : x.count places = y.count places :=
      shown_inj places ((htext x).symm.trans ((congrArg String.toList h).trans (htext y)))
    exact ⟨x.count places, hrounds x, hcount ▸ hrounds y⟩
  · rintro ⟨n, hx, hy⟩
    rw [number_eq, number_eq, (hrounds x).unique hx, (hrounds y).unique hy]
  · rw [htext, denoted?_shown] at ha hb
    obtain rfl := Option.some.inj ha
    obtain rfl := Option.some.inj hb
    have hcount : x.count places ≤ y.count places :=
      (hrounds x).mono (hrounds y) (mul_le_mul_of_nonneg_right hle (by positivity))
    exact div_le_div_of_nonneg_right (by exact_mod_cast hcount) (by positivity)

/-- Without places, a half below zero is shown as zero, and a half on either side of two as two. -/
theorem number_canonical_halves :
    let zero : Finite := ⟨true, 4503599627370496, -53, by decide⟩
    let low : Finite := ⟨false, 6755399441055744, -52, by decide⟩
    let high : Finite := ⟨false, 5629499534213120, -51, by decide⟩
    number 0 (.finite zero) = "0" ∧ number 0 (.finite low) = "2" ∧ number 0 (.finite high) = "2" ∧
      low.value ≤ high.value ∧ (∃ n, RoundsTo (low.value * 10 ^ 0) n ∧ RoundsTo (high.value * 10 ^ 0) n) ∧
      ∀ a ∈ denoted? (number 0 (.finite low)).toList, ∀ b ∈ denoted? (number 0 (.finite high)).toList, a ≤ b := by
  intro zero low high
  have hzero : number 0 (.finite zero) = "0" := by decide +kernel
  have hlow : number 0 (.finite low) = "2" := by decide +kernel
  have hhigh : number 0 (.finite high) = "2" := by decide +kernel
  have hle : low.value ≤ high.value := by
    norm_num [low, high, Finite.value, Finite.size]
  obtain ⟨-, -, -, -, -, hother⟩ := number_canonical 0 low
  exact ⟨hzero, hlow, hhigh, hle, (hother high).1.1 (hlow.trans hhigh.symm), (hother high).2 hle⟩

end Display
end MetricExpr
