import MetricExpr.Decimal.Numeral
import Mathlib.Data.List.TakeDrop
import Mathlib.Data.List.TakeWhile
/-!
# The numeral in front of a text

What is read off the front of a text is a well-formed numeral (`Numeral.wellFormed_of_scan?`), and no well-formed numeral
in front of the text leaves less of it (`Numeral.scan?_longest`). A well-formed numeral that nothing goes on with is read
as it stands (`Numeral.scan?_lexeme`); its whole text is the text of a double, of the numeral's value
(`Numeral.ofText?_lexeme`).
-/
namespace MetricExpr

namespace Text

theorem bounds_of_isDigit {c : Char} (h : c.isDigit = true) : 0x30 ≤ c.toNat ∧ c.toNat ≤ 0x39 := by
  simp only [Char.isDigit, Bool.and_eq_true, decide_eq_true_eq, UInt32.le_iff_toNat_le] at h
  exact h

theorem exists_zero_of_isDigit {c : Char} (h : isDigit c = true) :
    ∃ base ∈ 0x30 :: digitZeros, base ≤ c.toNat ∧ c.toNat < base + 10 := by
  obtain ⟨value, hvalue⟩ := Option.isSome_iff_exists.1 h
  unfold digit? at hvalue
  split at hvalue
  · split at hvalue
    · rename_i hd
      have := bounds_of_isDigit hd
      exact ⟨0x30, List.mem_cons_self, by omega, by omega⟩
    · cases hvalue
  · obtain ⟨base, hfind, -⟩ := Option.map_eq_some_iff.1 hvalue
    have hrange := List.find?_some hfind
    rw [Bool.and_eq_true, decide_eq_true_eq, decide_eq_true_eq] at hrange
    exact ⟨base, List.mem_cons_of_mem _ (List.mem_of_find?_eq_some hfind), hrange⟩

theorem isBlank_of_isDigit {c : Char} (h : isDigit c = true) : isBlank c = false := by
  obtain ⟨base, hbase, hlow, hhigh⟩ := exists_zero_of_isDigit h
  rw [← Bool.not_eq_true, isBlank, inRanges_iff]
  rintro ⟨range, hrange, hfirst, hlast⟩
  have hapart : ∀ base ∈ 0x30 :: digitZeros, ∀ range ∈ blankRanges, range.2 < base ∨ base + 10 ≤ range.1 := by
    decide +kernel
  have := hapart base hbase range hrange
  omega

theorem toLower_of_isDigit {c : Char} (h : isDigit c = true) : c.toLower = c := by
  obtain ⟨base, hbase, hlow, hhigh⟩ := exists_zero_of_isDigit h
  have hapart : ∀ base ∈ 0x30 :: digitZeros, base + 10 ≤ 0x41 ∨ 0x5A < base := by decide +kernel
  have := hapart base hbase
  unfold Char.toLower
  rw [dif_neg]
  rintro ⟨hupper, hlast⟩
  have hupper : 0x41 ≤ c.toNat := UInt32.le_iff_toNat_le.1 hupper
  have hlast : c.toNat ≤ 0x5A := UInt32.le_iff_toNat_le.1 hlast
  omega

end Text

namespace Numeral

/-- An exponent: its letter, a sign or none, and at least one digit. -/
structure ExponentForm (x : Char × List Char × List Char) : Prop where
  letter : x.1 = 'e' ∨ x.1 = 'E'
  sign : x.2.1 = [] ∨ x.2.1 = ['+'] ∨ x.2.1 = ['-']
  digits_ne_nil : x.2.2 ≠ []
  digits : ∀ c ∈ x.2.2, Text.isDigit c = true

/-- A numeral with digits of any script where digits stand, at least one of them before the exponent. -/
structure WellFormed (n : Numeral) : Prop where
  whole : ∀ c ∈ n.whole, Text.isDigit c = true
  fraction : ∀ ds ∈ n.fraction, ∀ c ∈ ds, Text.isDigit c = true
  digit : n.whole ≠ [] ∨ ∃ ds ∈ n.fraction, ds ≠ []
  exponent : ∀ x ∈ n.exponent, ExponentForm x

/-- No numeral goes on with this text. -/
def Stops (rest : List Char) : Prop := ∀ c ∈ rest.head?, Text.isDigit c = false ∧ c ≠ '.' ∧ c ≠ 'e' ∧ c ≠ 'E'

def exponentChars : Option (Char × List Char × List Char) → List Char
  | some (letter, sign, ds) => letter :: sign ++ ds
  | none => []

def fractionChars : Option (List Char) → List Char
  | some ds => '.' :: ds
  | none => []

theorem lexeme_eq (n : Numeral) : n.lexeme = n.whole ++ fractionChars n.fraction ++ exponentChars n.exponent := rfl

/-! ## Digits -/

theorem digits_eq (cs : List Char) : digits cs = (cs.takeWhile Text.isDigit, cs.dropWhile Text.isDigit) :=
  List.span_eq_takeWhile_dropWhile _ cs

theorem digits_append_digits {ds : List Char} (hds : ∀ c ∈ ds, Text.isDigit c = true) (rest : List Char) :
    digits (ds ++ rest) = (ds ++ (digits rest).1, (digits rest).2) := by
  rw [digits_eq, digits_eq, List.takeWhile_append_of_pos hds, List.dropWhile_append_of_pos hds]

theorem digits_of_head {rest : List Char} (h : ∀ c ∈ rest.head?, Text.isDigit c = false) : digits rest = ([], rest) := by
  rw [digits_eq]
  cases rest with
  | nil => rfl
  | cons c cs => simp [h c rfl]

theorem digits_append {ds rest : List Char} (hds : ∀ c ∈ ds, Text.isDigit c = true)
    (hrest : ∀ c ∈ rest.head?, Text.isDigit c = false) : digits (ds ++ rest) = (ds, rest) := by
  rw [digits_append_digits hds, digits_of_head hrest, List.append_nil]

theorem append_digits (cs : List Char) : (digits cs).1 ++ (digits cs).2 = cs := by
  rw [digits_eq]
  exact List.takeWhile_append_dropWhile

theorem isDigit_of_mem_digits {cs : List Char} {c : Char} (h : c ∈ (digits cs).1) : Text.isDigit c = true := by
  rw [digits_eq] at h
  exact List.mem_takeWhile_imp h

theorem length_digits_le (cs : List Char) : (digits cs).2.length ≤ cs.length := by
  have h := congrArg List.length (append_digits cs)
  rw [List.length_append] at h
  omega

theorem isDigit_point : Text.isDigit '.' = false := by decide

/-! ## What is read is well formed -/

theorem append_sign (cs : List Char) : (sign cs).1 ++ (sign cs).2 = cs ∧
    ((sign cs).1 = [] ∨ (sign cs).1 = ['+'] ∨ (sign cs).1 = ['-']) := by
  unfold sign
  split <;> simp

theorem exponentForm_of_exponent? {cs rest : List Char} {x : Char × List Char × List Char}
    (h : exponent? cs = some (x, rest)) : ExponentForm x ∧ exponentChars (some x) ++ rest = cs := by
  unfold exponent? at h
  split at h
  · rename_i letter after
    split at h
    · rename_i hletter
      dsimp only at h
      split at h
      · cases h
      · rename_i hne
        obtain ⟨hsign, hform⟩ := append_sign after
        obtain ⟨rfl, rfl⟩ := Prod.mk.inj (Option.some.inj h)
        refine ⟨⟨by simpa using hletter, hform, by simpa using hne, fun c hc => isDigit_of_mem_digits hc⟩, ?_⟩
        show letter :: (sign after).1 ++ (digits (sign after).2).1 ++ (digits (sign after).2).2 = letter :: after
        rw [List.append_assoc, append_digits, List.cons_append, hsign]
    · cases h
  · cases h

theorem form_of_mantissa? {cs whole rest : List Char} {fraction : Option (List Char)}
    (h : mantissa? cs = some (whole, fraction, rest)) :
    (∀ c ∈ whole, Text.isDigit c = true) ∧ (∀ ds ∈ fraction, ∀ c ∈ ds, Text.isDigit c = true) ∧
      (whole ≠ [] ∨ ∃ ds ∈ fraction, ds ≠ []) ∧ whole ++ fractionChars fraction ++ rest = cs := by
  have hcs := append_digits cs
  unfold mantissa? at h
  dsimp only at h
  split at h
  · rename_i after hafter
    split at h
    · cases h
    · rename_i hdigit
      obtain ⟨rfl, hrest⟩ := Prod.mk.inj (Option.some.inj h)
      obtain ⟨rfl, rfl⟩ := Prod.mk.inj hrest
      refine ⟨fun c hc => isDigit_of_mem_digits hc, ?_, ?_, ?_⟩
      · rintro ds ⟨⟩ c hc
        exact isDigit_of_mem_digits hc
      · simp only [Bool.and_eq_true, List.isEmpty_iff, not_and_or] at hdigit
        exact hdigit.imp id fun hne => ⟨_, rfl, hne⟩
      · rw [hafter] at hcs
        simpa [fractionChars, append_digits] using hcs
  · split at h
    · cases h
    · rename_i hne
      obtain ⟨rfl, hrest⟩ := Prod.mk.inj (Option.some.inj h)
      obtain ⟨rfl, rfl⟩ := Prod.mk.inj hrest
      exact ⟨fun c hc => isDigit_of_mem_digits hc, nofun, .inl (by simpa using hne), by simpa [fractionChars] using hcs⟩

/-- **What is read off the front of a text is a well-formed numeral**, and the rest is what stands behind it. -/
theorem wellFormed_of_scan? {cs rest : List Char} {n : Numeral} (h : scan? cs = some (n, rest)) :
    n.WellFormed ∧ n.lexeme ++ rest = cs := by
  obtain ⟨⟨whole, fraction, after⟩, hmantissa, hn⟩ := Option.map_eq_some_iff.1 h
  obtain ⟨hwhole, hfraction, hdigit, hcs⟩ := form_of_mantissa? hmantissa
  dsimp only at hn
  split at hn
  · rename_i x more hexponent
    obtain ⟨rfl, rfl⟩ := Prod.mk.inj hn
    obtain ⟨hform, hafter⟩ := exponentForm_of_exponent? hexponent
    refine ⟨⟨hwhole, hfraction, hdigit, fun y hy => Option.some.inj hy ▸ hform⟩, ?_⟩
    rw [lexeme_eq, List.append_assoc, hafter, hcs]
  · obtain ⟨rfl, rfl⟩ := Prod.mk.inj hn
    refine ⟨⟨hwhole, hfraction, hdigit, nofun⟩, ?_⟩
    rw [lexeme_eq, exponentChars, List.append_nil, hcs]

/-! ## No well-formed numeral is longer -/

theorem sign_of_head {c : Char} (h : Text.isDigit c = true ∨ c = '.') (cs : List Char) :
    sign (c :: cs) = ([], c :: cs) := by
  unfold sign
  split
  · rename_i heq
    rw [(List.cons.inj heq).1] at h
    exact absurd h (by decide)
  · rename_i heq
    rw [(List.cons.inj heq).1] at h
    exact absurd h (by decide)
  · rfl

theorem sign_append {s ds rest : List Char} (hs : s = [] ∨ s = ['+'] ∨ s = ['-']) (hne : ds ≠ [])
    (hds : ∀ c ∈ ds, Text.isDigit c = true) : sign (s ++ ds ++ rest) = (s, ds ++ rest) := by
  obtain ⟨d, more, rfl⟩ := List.exists_cons_of_ne_nil hne
  rcases hs with rfl | rfl | rfl
  · exact sign_of_head (.inl (hds d List.mem_cons_self)) (more ++ rest)
  · rfl
  · rfl

theorem exponent?_append {x : Char × List Char × List Char} (hx : ExponentForm x) (rest : List Char) :
    exponent? (exponentChars (some x) ++ rest) = some ((x.1, x.2.1, x.2.2 ++ (digits rest).1), (digits rest).2) := by
  obtain ⟨letter, s, ds⟩ := x
  obtain ⟨hletter, hsign, hne, hds⟩ := hx
  have hletter : (letter == 'e' || letter == 'E') = true := by simpa using hletter
  show exponent? (letter :: (s ++ ds ++ rest)) = _
  unfold exponent?
  dsimp only
  rw [if_pos hletter, sign_append hsign hne hds]
  dsimp only
  rw [digits_append_digits hds, if_neg (by simpa using fun h => absurd h hne)]

/-- Behind a fraction or a whole, what is not a digit is left. -/
theorem exists_mantissa? {n : Numeral} (hn : n.WellFormed) (rest : List Char) :
    ∃ whole fraction after, mantissa? (n.whole ++ fractionChars n.fraction ++ rest) = some (whole, fraction, after) ∧
      after.length ≤ rest.length ∧ ((∀ c ∈ rest.head?, Text.isDigit c = false ∧ c ≠ '.') →
        whole = n.whole ∧ fraction = n.fraction ∧ after = rest) := by
  have hwhole : n.whole ≠ [] → ∀ tail, (n.whole ++ tail).isEmpty = false := by
    intro hne tail
    simp [hne]
  cases hf : n.fraction with
  | none =>
    have hne : n.whole ≠ [] := hn.digit.resolve_right fun ⟨ds, hds, _⟩ => by rw [hf] at hds; cases hds
    have hdigits := digits_append_digits hn.whole rest
    unfold mantissa? fractionChars
    rw [List.append_nil, hdigits]
    dsimp only
    split
    · rename_i after hafter
      have hlen := length_digits_le rest
      rw [hafter, List.length_cons] at hlen
      rw [hwhole hne, Bool.false_and, if_neg Bool.false_ne_true]
      refine ⟨_, _, _, rfl, Nat.le_trans (length_digits_le after) (by omega), fun hhead => ?_⟩
      rw [digits_of_head fun c hc => (hhead c hc).1] at hafter
      dsimp only at hafter
      subst hafter
      exact absurd rfl (hhead '.' rfl).2
    · rw [hwhole hne, if_neg Bool.false_ne_true]
      refine ⟨_, _, _, rfl, length_digits_le rest, fun hhead => ?_⟩
      rw [digits_of_head fun c hc => (hhead c hc).1, List.append_nil]
      exact ⟨rfl, rfl, rfl⟩
  | some ds =>
    have hds := hn.fraction ds hf
    have hdigits : digits (n.whole ++ ('.' :: (ds ++ rest))) = (n.whole, '.' :: (ds ++ rest)) :=
      digits_append hn.whole fun c hc => Option.some.inj hc ▸ isDigit_point
    have hsome : (n.whole.isEmpty && (ds ++ (digits rest).1).isEmpty) = false := by
      rcases hn.digit with hne | ⟨ds', hds', hne⟩
      · simp [hne]
      · obtain rfl : ds = ds' := Option.some.inj (hf.symm.trans hds')
        simp [hne]
    unfold mantissa? fractionChars
    rw [List.append_assoc, List.cons_append, hdigits]
    simp only [digits_append_digits hds]
    rw [if_neg (by rw [hsome]; exact Bool.false_ne_true)]
    refine ⟨_, _, _, rfl, length_digits_le rest, fun hhead => ?_⟩
    rw [digits_of_head fun c hc => (hhead c hc).1, List.append_nil]
    exact ⟨rfl, rfl, rfl⟩

theorem head?_exponentChars {n : Numeral} (hn : n.WellFormed) {rest : List Char}
    (hrest : n.exponent = none → ∀ c ∈ rest.head?, Text.isDigit c = false ∧ c ≠ '.') :
    ∀ c ∈ (exponentChars n.exponent ++ rest).head?, Text.isDigit c = false ∧ c ≠ '.' := by
  intro c hc
  cases hx : n.exponent with
  | none =>
    rw [hx] at hc
    exact hrest hx c hc
  | some x =>
    rw [hx] at hc
    obtain rfl : x.1 = c := Option.some.inj hc
    rcases (hn.exponent x hx).letter with he | he <;> rw [he] <;> decide

theorem scan?_of_mantissa? {cs whole after : List Char} {fraction : Option (List Char)}
    (h : mantissa? cs = some (whole, fraction, after)) :
    scan? cs = some ((exponent? after).elim (⟨whole, fraction, none⟩, after) fun (x, rest) =>
      (⟨whole, fraction, some x⟩, rest)) := by
  unfold scan?
  rw [h, Option.map_some]
  dsimp only
  cases exponent? after <;> rfl

/-- **No well-formed numeral in front of a text is longer than the one that is read.** -/
theorem scan?_longest {n : Numeral} (hn : n.WellFormed) (rest : List Char) :
    ∃ n' rest', scan? (n.lexeme ++ rest) = some (n', rest') ∧ rest'.length ≤ rest.length := by
  obtain ⟨whole, fraction, after, hmantissa, hlen, hexact⟩ := exists_mantissa? hn (exponentChars n.exponent ++ rest)
  rw [← List.append_assoc, ← lexeme_eq] at hmantissa
  refine ⟨_, _, scan?_of_mantissa? hmantissa, ?_⟩
  cases hx : n.exponent with
  | none =>
    rw [hx, exponentChars, List.nil_append] at hlen
    cases hexponent : exponent? after with
    | none => exact hlen
    | some found =>
      have hback := congrArg List.length (exponentForm_of_exponent? hexponent).2
      rw [List.length_append] at hback
      show found.2.length ≤ rest.length
      omega
  | some x =>
    obtain ⟨-, -, rfl⟩ := hexact (head?_exponentChars hn fun hnone => by rw [hx] at hnone; cases hnone)
    rw [hx, exponent?_append (hn.exponent x hx)]
    exact length_digits_le rest

/-- **A well-formed numeral that nothing goes on with is read as it stands.** -/
theorem scan?_lexeme {n : Numeral} (hn : n.WellFormed) {rest : List Char} (hrest : Stops rest) :
    scan? (n.lexeme ++ rest) = some (n, rest) := by
  obtain ⟨whole, fraction, after, hmantissa, -, hexact⟩ := exists_mantissa? hn (exponentChars n.exponent ++ rest)
  obtain ⟨rfl, rfl, rfl⟩ := hexact (head?_exponentChars hn fun _ c hc => ⟨(hrest c hc).1, (hrest c hc).2.1⟩)
  rw [← List.append_assoc, ← lexeme_eq] at hmantissa
  rw [scan?_of_mantissa? hmantissa]
  obtain ⟨whole, fraction, exponent⟩ := n
  cases exponent with
  | none =>
    have hnone : exponent? rest = none := by
      cases hsome : exponent? rest with
      | none => rfl
      | some found =>
        obtain ⟨hform, rfl⟩ := exponentForm_of_exponent? hsome
        obtain ⟨-, -, he, hE⟩ := hrest found.1.1 rfl
        exact (hform.letter.elim he hE).elim
    show some ((exponent? rest).elim _ _) = _
    rw [hnone]
    rfl
  | some x =>
    rw [exponent?_append (hn.exponent x rfl), digits_of_head fun c hc => (hrest c hc).1, List.append_nil]
    rfl

/-! ## The value of a numeral's text -/

theorem WellFormed.mem_lexeme {n : Numeral} (hn : n.WellFormed) {c : Char} (h : c ∈ n.lexeme) :
    Text.isDigit c = true ∨ c ∈ ['.', 'e', 'E', '+', '-'] := by
  rw [lexeme_eq] at h
  rcases List.mem_append.1 h with h | h
  · rcases List.mem_append.1 h with h | h
    · exact .inl (hn.whole c h)
    · cases hf : n.fraction with
      | none =>
        rw [hf] at h
        cases h
      | some ds =>
        rw [hf] at h
        rcases List.mem_cons.1 h with rfl | h
        · exact .inr (by decide)
        · exact .inl (hn.fraction ds hf c h)
  · cases hx : n.exponent with
    | none =>
      rw [hx] at h
      cases h
    | some x =>
      obtain ⟨hletter, hsign, -, hdigits⟩ := hn.exponent x hx
      rw [hx] at h
      rcases List.mem_append.1 h with h | h
      · rcases List.mem_cons.1 h with rfl | h
        · rcases hletter with he | he <;> simp [he]
        · rcases hsign with hs | hs | hs <;> simp_all
      · exact .inl (hdigits c h)

theorem WellFormed.exists_cons {n : Numeral} (hn : n.WellFormed) :
    ∃ c body, n.lexeme = c :: body ∧ (Text.isDigit c = true ∨ c = '.') := by
  rw [lexeme_eq]
  cases hw : n.whole with
  | cons c ds => exact ⟨c, _, rfl, .inl (hn.whole c (hw ▸ List.mem_cons_self))⟩
  | nil =>
    obtain ⟨ds, hds, -⟩ := hn.digit.resolve_left (not_not_intro hw)
    rw [Option.mem_def.1 hds]
    exact ⟨'.', _, rfl, .inr rfl⟩

theorem WellFormed.isBlank {n : Numeral} (hn : n.WellFormed) {c : Char} (h : c ∈ n.lexeme) : Text.isBlank c = false := by
  rcases hn.mem_lexeme h with hd | hc
  · exact Text.isBlank_of_isDigit hd
  · simp only [List.mem_cons, List.not_mem_nil, or_false] at hc
    rcases hc with rfl | rfl | rfl | rfl | rfl <;> decide

end Numeral

theorem Text.stripBy_eq_self {p : Char → Bool} {cs : List Char} (h : ∀ c ∈ cs, p c = false) : stripBy p cs = cs := by
  have hkeep : ∀ ds : List Char, (∀ c ∈ ds, p c = false) → ds.dropWhile p = ds := by
    intro ds hds
    cases ds with
    | nil => rfl
    | cons d ds => exact List.dropWhile_cons_of_neg (by simp [hds d List.mem_cons_self])
  rw [stripBy, hkeep cs h, hkeep _ (by simpa using h), List.reverse_reverse]

theorem joinDigits?_eq_some : ∀ {cs : List Char} (previous : Option Char), '_' ∉ cs → joinDigits? previous cs = some cs
  | [], _, _ => rfl
  | c :: cs, previous, h => by
    obtain ⟨hc, hcs⟩ := not_or.1 (mt List.mem_cons.2 h)
    rw [joinDigits?, joinDigits?_eq_some _ hcs]
    · rfl
    · exact fun he => hc he.symm

theorem named?_eq_none {c : Char} (h : Text.isDigit c = true ∨ c = '.') (cs : List Char) : named? (c :: cs) = none := by
  have hsmall : c.toLower ≠ 'i' ∧ c.toLower ≠ 'n' := by
    rcases h with hd | rfl
    · rw [Text.toLower_of_isDigit hd]
      exact ⟨fun he => by rw [he] at hd; exact absurd hd (by decide),
        fun he => by rw [he] at hd; exact absurd hd (by decide)⟩
    · decide
  unfold named?
  split
  · rename_i heq
    exact absurd (List.cons.inj heq).1 hsmall.1
  · rename_i heq
    exact absurd (List.cons.inj heq).1 hsmall.1
  · rename_i heq
    exact absurd (List.cons.inj heq).1 hsmall.2
  · rfl

/-- **The whole text of a numeral is read as a double**, and that is the numeral's value. -/
theorem Numeral.ofText?_lexeme {n : Numeral} (hn : n.WellFormed) :
    Binary64.ofText? (String.ofList n.lexeme) = some n.value := by
  obtain ⟨c, body, hlexeme, hfirst⟩ := hn.exists_cons
  have hstrip : Text.stripBy Text.isNumberBlank n.lexeme = n.lexeme :=
    Text.stripBy_eq_self fun d hd => by rw [Text.isNumberBlank, hn.isBlank hd, Bool.false_and]
  have hjoin : joinDigits? none n.lexeme = some n.lexeme :=
    joinDigits?_eq_some none fun h => absurd (hn.mem_lexeme h) (by decide)
  have hsign : Numeral.sign n.lexeme = ([], n.lexeme) := hlexeme ▸ sign_of_head hfirst body
  have hnamed : named? n.lexeme = none := hlexeme ▸ named?_eq_none hfirst body
  have hscan := scan?_lexeme hn (show Stops [] from nofun)
  rw [List.append_nil] at hscan
  unfold Binary64.ofText?
  rw [String.toList_ofList, hstrip, hjoin]
  simp only [Option.bind_eq_bind, Option.bind_some, hsign, hnamed, hscan]
  rfl

end MetricExpr
