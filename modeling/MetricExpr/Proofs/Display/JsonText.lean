import MetricExpr.Display.Json
import MetricExpr.Proofs.Decimal.Written
/-!
# JSON texts

A text is JSON if the grammar of values, numbers and strings derives it (`JsonValue.Denotes`). The grammar is strict: it has
no names but `null`, `true` and `false`, no zeros in front of a number, and no control characters in a string. What is
written for a value denotes this value (`JsonValue.denotes_writeAt`).
-/
namespace MetricExpr

/-! ## Numbers -/

/-- The numerals that are numbers of JSON: no zero comes before other digits, and a point stands between digits. -/
structure Numeral.IsJson (n : Numeral) : Prop where
  whole : n.whole ≠ [] ∧ ∀ c ∈ n.whole, c.isDigit = true
  leading : ∀ ds, n.whole = '0' :: ds → ds = []
  fraction : ∀ ds ∈ n.fraction, ds ≠ [] ∧ ∀ c ∈ ds, c.isDigit = true
  exponent : ∀ x ∈ n.exponent, x.1 ∈ ['e', 'E'] ∧ x.2.1 ∈ [[], ['+'], ['-']] ∧ x.2.2 ≠ [] ∧ ∀ c ∈ x.2.2, c.isDigit = true

theorem Numeral.IsJson.wellFormed {n : Numeral} (hn : n.IsJson) : n.WellFormed where
  whole c hc := Text.isDigit_of_isDigit (hn.whole.2 c hc)
  fraction ds hds c hc := Text.isDigit_of_isDigit ((hn.fraction ds hds).2 c hc)
  digit := .inl hn.whole.1
  exponent x hx := by
    obtain ⟨hletter, hsign, hne, hdigits⟩ := hn.exponent x hx
    exact ⟨by simpa using hletter, by simpa using hsign, hne, fun c hc => Text.isDigit_of_isDigit (hdigits c hc)⟩

theorem Numeral.Written.isJson {n : Numeral} (hn : n.Written) (hleading : ∀ ds, n.whole = '0' :: ds → ds = [])
    (hfraction : n.fraction ≠ some []) : n.IsJson where
  whole := ⟨hn.whole_ne_nil, hn.whole_digits⟩
  leading := hleading
  fraction ds hds := ⟨fun h => hfraction (h ▸ hds), hn.fraction_digits ds hds⟩
  exponent x hx := by
    obtain ⟨hletter, hsign, hdigits⟩ := hn.exponent_form x hx
    exact ⟨by simp [hletter], by simpa using .inr hsign, hdigits⟩

theorem decimal_ne_zero_cons (n : Nat) (hn : n ≠ 0) (ds : List Char) : decimal n ≠ '0' :: ds := by
  induction n using Nat.strongRecOn generalizing ds with
  | ind n ih =>
    by_cases hsmall : n < 10
    · have hdigit : ∀ k < 10, k ≠ 0 → Nat.digitChar k ≠ '0' := by decide
      rw [decimal, Nat.toDigits_of_lt_base hsmall]
      exact fun h => hdigit n hsmall hn (List.cons.inj h).1
    · have hsplit : decimal n = decimal (n / 10) ++ [(n % 10).digitChar] :=
        Nat.toDigits_of_base_le (by decide) (Nat.not_lt.1 hsmall)
      obtain ⟨c, cs, hcons⟩ := List.exists_cons_of_ne_nil (decimal_ne_nil (n / 10))
      rw [hsplit, hcons]
      intro h
      rw [(List.cons.inj h).1] at hcons
      exact ih (n / 10) (by omega) (by omega) cs hcons

theorem isJson_decimal (n : Nat) : (Numeral.mk (decimal n) none none).IsJson := by
  refine (Finite.written_decimal n).isJson (fun ds hds => ?_) nofun
  by_cases hn : n = 0
  · subst hn
    exact (List.cons.inj hds).2.symm
  · exact absurd hds (decimal_ne_zero_cons n hn ds)

/-- What a layout writes for a number that is not zero. -/
theorem Layout.isJson_numeral (layout : Layout) {d : Digits} (hd : d.coefficient ≠ 0) :
    (layout.numeral d).IsJson ∧ ((layout.numeral d).fraction.isSome ∨ (layout.numeral d).exponent.isSome) := by
  obtain ⟨c, cs, hcs⟩ := List.exists_cons_of_ne_nil (decimal_ne_nil d.coefficient)
  have hc : c ≠ '0' := fun h => decimal_ne_zero_cons _ hd cs (h ▸ hcs)
  have hshape : (∀ ds, (layout.numeral d).whole = '0' :: ds → ds = []) ∧ (layout.numeral d).fraction ≠ some [] ∧
      ((layout.numeral d).fraction.isSome ∨ (layout.numeral d).exponent.isSome) := by
    unfold Layout.numeral
    dsimp only
    rw [hcs]
    split
    · split
      · exact ⟨fun ds hds => (List.cons.inj hds).2.symm, by simp, .inl rfl⟩
      · split
        · refine ⟨fun ds hds => ?_, fun h => ?_, .inl rfl⟩
          · obtain ⟨k, hk⟩ := Nat.exists_eq_succ_of_ne_zero (n := (d.exponent + (c :: cs).length - 1 + 1).toNat) (by omega)
            rw [hk, List.take_succ_cons] at hds
            exact absurd (List.cons.inj hds).1 hc
          · have hlength := List.drop_eq_nil_iff.1 (Option.some.inj h)
            omega
        · exact ⟨fun ds hds => absurd (List.cons.inj hds).1 hc, by simp, .inl rfl⟩
    · refine ⟨fun ds hds => (List.cons.inj hds).2.symm, ?_, .inr rfl⟩
      split
      · nofun
      · rename_i hlength
        intro h
        obtain rfl : cs = [] := Option.some.inj h
        exact hlength rfl
  exact ⟨(layout.written_numeral d).isJson hshape.1 hshape.2.1, hshape.2.2⟩

/-- **The text of a double is a number of JSON**, with a point or an exponent, that is read as this double. -/
theorem Finite.exists_json (x : Finite) : ∃ n : Numeral, n.IsJson ∧ (n.fraction.isSome ∨ n.exponent.isSome) ∧
    n.value = .finite x.magnitude ∧ x.chars = (if x.negative then ['-'] else []) ++ n.lexeme := by
  by_cases hzero : x.isZero = true
  · refine ⟨⟨['0'], some ['0'], none⟩, ⟨⟨nofun, List.forall_mem_singleton.2 rfl⟩, by simp, by simp, nofun⟩,
      .inl rfl, ?_, ?_⟩
    · rw [magnitude_of_isZero hzero]
      decide
    · rw [chars, if_pos hzero]
      split <;> rfl
  · have hx : x.significand ≠ 0 := fun h => hzero (beq_iff_eq.mpr h)
    have hnearest := Digits.nearestTo_shortest hx
    have hcoefficient : (Digits.shortest x).coefficient ≠ 0 := by
      intro h
      have hlow := (hnearest.range hx).1
      rw [Digits.value, h, Nat.cast_zero, zero_mul] at hlow
      exact absurd hlow (not_le.2 (by positivity))
    obtain ⟨hjson, hpoint⟩ := Layout.plain.isJson_numeral hcoefficient
    refine ⟨_, hjson, hpoint, Numeral.value_of_nearest hx (by rwa [Layout.size_numeral]), ?_⟩
    rw [chars, if_neg hzero, Layout.lexeme_numeral]
    split <;> rfl

/-! ## Hexadecimal digits -/

namespace Text

theorem hexDigit?_digitChar : ∀ n < 16, hexDigit? (Nat.digitChar n) = some n := by decide

theorem hexValue?_toDigits (n : Nat) : hexValue? (Nat.toDigits 16 n) = some n := by
  induction n using Nat.strongRecOn with
  | ind n ih =>
    by_cases hsmall : n < 16
    · simp [Nat.toDigits_of_lt_base hsmall, hexValue?, hexDigit?_digitChar n hsmall]
    · rw [Nat.toDigits_of_base_le (by decide) (Nat.not_lt.1 hsmall), hexValue?, List.foldlM_append]
      have hhead : List.foldlM (fun n c => (hexDigit? c).map (16 * n + ·)) 0 (Nat.toDigits 16 (n / 16)) = some (n / 16) :=
        ih (n / 16) (by omega)
      rw [hhead]
      simp [hexDigit?_digitChar (n % 16) (Nat.mod_lt n (by decide)), Nat.div_add_mod]

theorem hexValue?_hex (width n : Nat) : hexValue? (hex width n) = some n := by
  have hzeros : ∀ k cs, hexValue? (List.replicate k '0' ++ cs) = hexValue? cs := by
    intro k cs
    induction k with
    | zero => rfl
    | succ k ih => exact ih
  rw [hex, hzeros, hexValue?_toDigits]

theorem length_hex {width n : Nat} (hwidth : 0 < width) (hn : n < 16 ^ width) : (hex width n).length = width := by
  have hlength : (Nat.toDigits 16 n).length ≤ width := (Nat.length_toDigits_le_iff (by decide) hwidth).2 hn
  simp only [hex, List.length_append, List.length_replicate]
  omega

end Text

/-! ## Strings -/

namespace JsonValue

/-- The characters that are escaped by one character, with these. -/
def shortEscapes : List (Char × Char) :=
  [('"', '"'), ('\\', '\\'), ('/', '/'), ('b', '\x08'), ('f', '\x0c'), ('n', '\n'), ('r', '\r'), ('t', '\t')]

/-- A unit of sixteen bits as four hexadecimal digits. -/
def IsUnit (digits : List Char) (n : Nat) : Prop := digits.length = 4 ∧ Text.hexValue? digits = some n

/-- What stands between the quotes of a string, and the characters that it means. -/
inductive Quotes : List Char → List Char → Prop
  | nil : Quotes [] []
  | plain {c : Char} {cs s : List Char} (hc : 0x20 ≤ c.toNat) (hplain : c ≠ '"' ∧ c ≠ '\\') (h : Quotes cs s) :
    Quotes (c :: cs) (c :: s)
  | short {c d : Char} {cs s : List Char} (hc : (c, d) ∈ shortEscapes) (h : Quotes cs s) : Quotes ('\\' :: c :: cs) (d :: s)
  | unit {digits : List Char} {c : Char} {cs s : List Char} (hc : IsUnit digits c.toNat) (h : Quotes cs s) :
    Quotes ('\\' :: 'u' :: digits ++ cs) (c :: s)
  | surrogates {high low : List Char} {m n : Nat} {c : Char} {cs s : List Char} (hm : m < 0x400) (hn : n < 0x400)
    (hhigh : IsUnit high (0xD800 + m)) (hlow : IsUnit low (0xDC00 + n)) (hc : c.toNat = 0x10000 + 0x400 * m + n)
    (h : Quotes cs s) : Quotes ('\\' :: 'u' :: high ++ ('\\' :: 'u' :: low ++ cs)) (c :: s)

theorem isUnit_hex {n : Nat} (hn : n < 0x10000) : IsUnit (Text.hex 4 n) n :=
  ⟨Text.length_hex (by decide) hn, Text.hexValue?_hex 4 n⟩

theorem quotes_escapeChar (c : Char) {cs s : List Char} (h : Quotes cs s) : Quotes (escapeChar c ++ cs) (c :: s) := by
  have hshort : ∀ d e, (d, e) ∈ shortEscapes → c = e → Quotes ('\\' :: d :: cs) (c :: s) :=
    fun d e he hc => hc ▸ .short he h
  unfold escapeChar
  split
  · rename_i hc
    obtain rfl | rfl : c = '"' ∨ c = '\\' := by simpa using hc
    · exact hshort '"' '"' (by decide) rfl
    · exact hshort '\\' '\\' (by decide) rfl
  rename_i hplain
  split
  · exact hshort 'n' '\n' (by decide) (eq_of_beq ‹_›)
  split
  · exact hshort 'r' '\r' (by decide) (eq_of_beq ‹_›)
  split
  · exact hshort 't' '\t' (by decide) (eq_of_beq ‹_›)
  split
  · exact hshort 'b' '\x08' (by decide) (eq_of_beq ‹_›)
  split
  · exact hshort 'f' '\x0c' (by decide) (eq_of_beq ‹_›)
  split
  · rename_i hc
    exact .plain (by simp at hc; exact hc.1) (by simpa using hplain) h
  split
  · rename_i hc
    exact .unit (isUnit_hex hc) h
  · rename_i hc
    have hvalid : c.toNat < 0xD800 ∨ 0xDFFF < c.toNat ∧ c.toNat < 0x110000 := c.valid
    dsimp only
    rw [List.append_assoc]
    exact .surrogates (m := (c.toNat - 0x10000) / 0x400) (n := (c.toNat - 0x10000) % 0x400) (by omega) (by omega)
      (isUnit_hex (by omega)) (isUnit_hex (by omega)) (by omega) h

theorem quotes_flatMap : ∀ s : List Char, Quotes (s.flatMap escapeChar) s
  | [] => .nil
  | c :: s => by
    rw [List.flatMap_cons]
    exact quotes_escapeChar c (quotes_flatMap s)

/-! ## Values -/

/-- Blanks, which may stand between the parts of a value. -/
def AreBlank (cs : List Char) : Prop := ∀ c ∈ cs, c ∈ [' ', '\n', '\r', '\t']

/-- The sign of a number. -/
def signChars (negative : Bool) : List Char := if negative then ['-'] else []

theorem sign_lexeme {n : Numeral} (hn : n.WellFormed) (hwhole : n.whole ≠ []) (negative : Bool) (rest : List Char) :
    Numeral.sign (signChars negative ++ (n.lexeme ++ rest)) = (signChars negative, n.lexeme ++ rest) := by
  have hform : signChars negative = [] ∨ signChars negative = ['+'] ∨ signChars negative = ['-'] := by
    cases negative
    · exact .inl rfl
    · exact .inr (.inr rfl)
  have hread := @Numeral.sign_append _ _ (Numeral.fractionChars n.fraction ++ (Numeral.exponentChars n.exponent ++ rest))
    hform hwhole hn.whole
  rw [Numeral.lexeme_eq]
  simpa using hread

/-- A string and the colon behind it. -/
inductive DenotesKey : List Char → String → Prop
  | colon {cs w w' : List Char} {k : String} (h : Quotes cs k.toList) (hw : AreBlank w) (hw' : AreBlank w') :
    DenotesKey ('"' :: cs ++ '"' :: w ++ ':' :: w') k

mutual

/-- A text of JSON and what it means. A number with a point or an exponent is a double, and all others are integers. -/
inductive Denotes : List Char → JsonValue → Prop
  | null : Denotes "null".toList .null
  | yes : Denotes "true".toList (.flag true)
  | no : Denotes "false".toList (.flag false)
  | integer {n : Numeral} {i : Int} (hn : n.IsJson) (hwhole : n.fraction = none ∧ n.exponent = none)
    (hi : Text.digitsValue n.whole = i.natAbs) : Denotes (signChars (i < 0) ++ n.lexeme) (.integer i)
  | real {n : Numeral} {x : Finite} (hn : n.IsJson) (hreal : n.fraction.isSome ∨ n.exponent.isSome)
    (hx : n.value = .finite x.magnitude) : Denotes (signChars x.negative ++ n.lexeme) (.real x)
  | text {cs : List Char} {s : String} (h : Quotes cs s.toList) : Denotes ('"' :: cs ++ ['"']) (.text s)
  | noItems {w : List Char} (hw : AreBlank w) : Denotes ('[' :: w ++ [']']) (.array [])
  | array {cs : List Char} {items : List JsonValue} (h : DenotesItems cs items) :
    Denotes ('[' :: cs ++ [']']) (.array items)
  | noFields {w : List Char} (hw : AreBlank w) : Denotes ('\x7b' :: w ++ ['\x7d']) (.object [])
  | object {cs : List Char} {fields : List (String × JsonValue)} (h : DenotesFields cs fields) :
    Denotes ('\x7b' :: cs ++ ['\x7d']) (.object fields)

/-- Values with commas between them. -/
inductive DenotesItems : List Char → List JsonValue → Prop
  | last {w cs w' : List Char} {x : JsonValue} (hw : AreBlank w) (h : Denotes cs x) (hw' : AreBlank w') :
    DenotesItems (w ++ cs ++ w') [x]
  | more {w cs w' rest : List Char} {x : JsonValue} {xs : List JsonValue} (hw : AreBlank w) (h : Denotes cs x)
    (hw' : AreBlank w') (hrest : DenotesItems rest xs) : DenotesItems (w ++ cs ++ w' ++ ',' :: rest) (x :: xs)

/-- Strings and values with colons between them, and with commas between the pairs. -/
inductive DenotesFields : List Char → List (String × JsonValue) → Prop
  | last {w key cs w' : List Char} {k : String} {x : JsonValue} (hw : AreBlank w) (hk : DenotesKey key k)
    (h : Denotes cs x) (hw' : AreBlank w') : DenotesFields (w ++ key ++ cs ++ w') [(k, x)]
  | more {w key cs w' rest : List Char} {k : String} {x : JsonValue} {fields : List (String × JsonValue)}
    (hw : AreBlank w) (hk : DenotesKey key k) (h : Denotes cs x) (hw' : AreBlank w')
    (hrest : DenotesFields rest fields) : DenotesFields (w ++ key ++ cs ++ w' ++ ',' :: rest) ((k, x) :: fields)

end

/-- What a value starts with. -/
theorem Denotes.exists_cons {cs : List Char} {x : JsonValue} (h : Denotes cs x) : ∃ c rest, cs = c :: rest ∧
    (c ∈ "ntf\"[\x7b".toList ∨ c.isDigit = true ∨ c = '-' ∧ ∃ d rest', rest = d :: rest' ∧ d.isDigit = true) := by
  have hnumber : ∀ {negative : Bool} {n : Numeral}, n.IsJson → ∃ c rest, signChars negative ++ n.lexeme = c :: rest ∧
      (c ∈ "ntf\"[\x7b".toList ∨ c.isDigit = true ∨ c = '-' ∧ ∃ d rest', rest = d :: rest' ∧ d.isDigit = true) := by
    intro negative n hn
    obtain ⟨d, ds, hwhole⟩ := List.exists_cons_of_ne_nil hn.whole.1
    have hd : d.isDigit = true := hn.whole.2 d (hwhole ▸ List.mem_cons_self)
    rw [Numeral.lexeme_eq, hwhole]
    cases negative with
    | false => exact ⟨d, _, rfl, .inr (.inl hd)⟩
    | true => exact ⟨'-', _, rfl, .inr (.inr ⟨rfl, d, _, rfl, hd⟩)⟩
  cases h with
  | integer hn => exact hnumber hn
  | real hn => exact hnumber hn
  | null | yes | no | text | noItems | array | noFields | object => exact ⟨_, _, rfl, .inl (by decide)⟩

/-- **JSON has no names for infinities and NaN.** -/
theorem not_denotes_nonfinite (x : JsonValue) :
    ¬ Denotes "NaN".toList x ∧ ¬ Denotes "Infinity".toList x ∧ ¬ Denotes "-Infinity".toList x := by
  have hname : ∀ c rest, c ∉ "ntf\"[\x7b".toList → c.isDigit = false → c ≠ '-' → ¬ Denotes (c :: rest) x := by
    intro c rest hname hdigit hsign h
    obtain ⟨c', rest', hcs, hc⟩ := h.exists_cons
    obtain ⟨rfl, rfl⟩ := List.cons.inj hcs
    simp_all
  refine ⟨hname 'N' _ (by decide) rfl (by decide), hname 'I' _ (by decide) rfl (by decide), fun h => ?_⟩
  obtain ⟨c, rest, hcs, hc⟩ := h.exists_cons
  obtain ⟨rfl, rfl⟩ := List.cons.inj hcs
  obtain hc | hc | ⟨-, d, rest', hrest, hd⟩ := hc
  · revert hc
    decide
  · cases hc
  · obtain ⟨rfl, -⟩ := List.cons.inj hrest
    cases hd

theorem areBlank_nil : AreBlank [] := nofun

theorem areBlank_lineBreak (depth : Nat) : AreBlank (lineBreak depth).toList := by
  intro c hc
  obtain rfl | ⟨-, rfl⟩ : c = '\n' ∨ depth ≠ 0 ∧ c = ' ' := by simpa [lineBreak] using hc
  · decide
  · decide

theorem toList_string (s : String) : (string s).toList = '"' :: s.toList.flatMap escapeChar ++ ['"'] := String.toList_ofList

theorem denotesKey_string (k : String) : DenotesKey ((string k).toList ++ ": ".toList) k := by
  have h : DenotesKey ('"' :: k.toList.flatMap escapeChar ++ '"' :: [] ++ ':' :: [' ']) k :=
    .colon (quotes_flatMap k.toList) areBlank_nil (by simp [AreBlank])
  rw [toList_string]
  simpa using h

theorem denotes_integer (i : Int) : Denotes (toString i).toList (.integer i) := by
  have h := Denotes.integer (isJson_decimal i.natAbs) ⟨rfl, rfl⟩ (digitsValue_decimal i.natAbs)
  rw [Finite.lexeme_decimal] at h
  cases i with
  | ofNat n =>
    have htext : (toString (Int.ofNat n)).toList = decimal n := String.toList_ofList
    rw [htext]
    exact h
  | negSucc n =>
    have htext : (toString (Int.negSucc n)).toList = '-' :: decimal (n + 1) := by
      show ("-" ++ String.ofList (decimal (n + 1))).toList = _
      simp
    rw [htext]
    simpa [signChars, Int.negSucc_lt_zero] using h

theorem denotes_real (x : Finite) : Denotes x.chars (.real x) := by
  obtain ⟨n, hn, hreal, hvalue, hchars⟩ := x.exists_json
  rw [hchars]
  exact .real hn hreal hvalue

mutual

/-- **What is written for a value is a text of JSON that means this value.** -/
theorem denotes_writeAt (depth : Nat) : ∀ x : JsonValue, Denotes (writeAt depth x).toList x
  | null => .null
  | flag true => .yes
  | flag false => .no
  | integer i => denotes_integer i
  | real x => by
    rw [writeAt, String.toList_ofList]
    exact denotes_real x
  | text s => by
    rw [writeAt, toList_string]
    exact .text (quotes_flatMap s.toList)
  | array [] => by simpa [writeAt] using Denotes.noItems areBlank_nil
  | array (x :: xs) => by
    have h := denotesItems_writeItems (depth + 1) xs (areBlank_lineBreak (depth + 1)) (denotes_writeAt (depth + 1) x)
      (areBlank_lineBreak depth)
    have htext := Denotes.array h
    simpa [writeAt] using htext
  | object [] => by simpa [writeAt] using Denotes.noFields areBlank_nil
  | object ((k, x) :: fields) => by
    have h := denotesFields_writeFields (depth + 1) fields (areBlank_lineBreak (depth + 1)) (denotesKey_string k)
      (denotes_writeAt (depth + 1) x) (areBlank_lineBreak depth)
    have htext := Denotes.object h
    simpa [writeAt] using htext

theorem denotesItems_writeItems (depth : Nat) : ∀ (xs : List JsonValue) {w cs w' : List Char} {x : JsonValue}, AreBlank w →
    Denotes cs x → AreBlank w' → DenotesItems (w ++ cs ++ ((writeItems depth xs).toList ++ w')) (x :: xs)
  | [], w, cs, w', x, hw, h, hw' => .last hw h hw'
  | y :: ys, w, cs, w', x, hw, h, hw' => by
    have hrest := denotesItems_writeItems depth ys (areBlank_lineBreak depth) (denotes_writeAt depth y) hw'
    have htext := DenotesItems.more hw h areBlank_nil hrest
    simpa [writeItems] using htext

theorem denotesFields_writeFields (depth : Nat) : ∀ (fields : List (String × JsonValue)) {w key cs w' : List Char}
    {k : String} {x : JsonValue}, AreBlank w → DenotesKey key k → Denotes cs x → AreBlank w' →
    DenotesFields (w ++ key ++ cs ++ ((writeFields depth fields).toList ++ w')) ((k, x) :: fields)
  | [], w, key, cs, w', k, x, hw, hk, h, hw' => .last hw hk h hw'
  | (k', y) :: fields, w, key, cs, w', k, x, hw, hk, h, hw' => by
    have hrest := denotesFields_writeFields depth fields (areBlank_lineBreak depth) (denotesKey_string k')
      (denotes_writeAt depth y) hw'
    have htext := DenotesFields.more hw hk h areBlank_nil hrest
    simpa [writeFields] using htext

end

end JsonValue
end MetricExpr
