import MetricExpr.Proofs.Expr.Scanning
import Mathlib.Computability.Language
/-!
# The shapes of tokens

Numbers, words and operators are given by the languages of their texts (`Shape.number`, `Shape.word`,
`Shape.comparison`), a glob by what its inner text stands for (`Token.Writes`). At the front of a text the longest text of
a shape is cut off (`Token.front_eq_ok_iff`), and nothing is cut off where no shape begins (`Token.front_eq_error_iff`).
-/
namespace MetricExpr

namespace Text

theorem bounds_of_isAlpha {c : Char} (h : c.isAlpha = true) : 0x41 ≤ c.toNat ∧ c.toNat ≤ 0x7A := by
  have h : (decide (c.val ≥ 'A'.val ∧ c.val ≤ 'Z'.val) ||
      (decide (c.val ≥ 'a'.val) && decide (c.val ≤ 'z'.val))) = true := h
  simp only [Bool.or_eq_true, Bool.and_eq_true, decide_eq_true_eq, UInt32.le_iff_toNat_le] at h
  rcases h with ⟨hfirst, hlast⟩ | ⟨hfirst, hlast⟩
  · exact ⟨hfirst, Nat.le_trans hlast (by decide)⟩
  · exact ⟨Nat.le_trans (by decide) hfirst, hlast⟩

theorem isDigit_of_isWordStart {c : Char} (h : isWordStart c = true) : isDigit c = false := by
  have hcases : c = '_' ∨ c.isAlpha = true := by simpa [isWordStart] using h
  rcases hcases with rfl | halpha
  · decide
  · have hbounds := bounds_of_isAlpha halpha
    have hplain : ¬ (c.isDigit = true) := by
      intro hdigit
      have := bounds_of_isDigit hdigit
      omega
    simp [isDigit, digit?, show c.toNat < 128 by omega, hplain]

theorem isBlank_of_isWordPart {c : Char} (h : isWordPart c = true) : isBlank c = false := by
  have hcases : c = '_' ∨ isAlphanumeric c = true := by simpa [isWordPart] using h
  rcases hcases with rfl | hpart
  · decide
  rw [← Bool.not_eq_true, isBlank, inRanges_iff]
  rintro ⟨range, hrange, hfirst, hlast⟩
  unfold isAlphanumeric at hpart
  split at hpart
  · have hbounds : 0x30 ≤ c.toNat ∧ c.toNat ≤ 0x7A := by
      rcases Bool.or_eq_true_iff.1 hpart with halpha | hdigit
      · have := bounds_of_isAlpha halpha
        omega
      · have := bounds_of_isDigit hdigit
        omega
    have hapart : ∀ range ∈ blankRanges, range.2 < 0x30 ∨ 0x7A < range.1 := by decide
    have := hapart range hrange
    omega
  · obtain ⟨letters, hletters, hlow, hhigh⟩ := inRanges_iff.1 hpart
    have hapart : ∀ letters ∈ alphanumericRanges, ∀ range ∈ blankRanges,
        range.2 < letters.1 ∨ letters.2 < range.1 := by decide +kernel
    have := hapart letters hletters range hrange
    omega

end Text

/-! ## Shapes -/

namespace Shape

/-- One character of a class. -/
def one (p : Char → Bool) : Language Char := {cs | ∃ c, p c = true ∧ cs = [c]}

/-- Any number of characters of a class. -/
def run (p : Char → Bool) : Language Char := {cs | ∀ c ∈ cs, p c = true}

def digits : Language Char := one Text.isDigit * run Text.isDigit

def mantissa : Language Char := digits * (1 + {['.']} * run Text.isDigit) + {['.']} * digits

def exponent : Language Char :=
  one (fun c => c == 'e' || c == 'E') * (1 + one fun c => c == '+' || c == '-') * digits

/-- A number: digits with an optional fraction, or a point and digits, and an optional exponent. -/
def number : Language Char := mantissa * (1 + exponent)

def word : Language Char := one Text.isWordStart * run Text.isWordPart

def comparison : Language Char := {cs | ∃ rel : Relation, cs = rel.symbol.toList}

def arithmetic : Language Char := {cs | ∃ op : Arith, cs = op.symbol.toList}

/-- The texts of all tokens that are not quoted. -/
def bare : Language Char := number + word + comparison + arithmetic + {['('], [')'], ['%']}

variable {p q : Char → Bool} {cs : List Char}

theorem mem_one_mul_run : cs ∈ one p * run q ↔ ∃ c rest, cs = c :: rest ∧ p c = true ∧ ∀ d ∈ rest, q d = true := by
  rw [Language.mem_mul]
  constructor
  · rintro ⟨_, ⟨c, hc, rfl⟩, rest, hrest, rfl⟩
    exact ⟨c, rest, rfl, hc, hrest⟩
  · rintro ⟨c, rest, rfl, hc, hrest⟩
    exact ⟨[c], ⟨c, hc, rfl⟩, rest, hrest, rfl⟩

theorem mem_digits : cs ∈ digits ↔ cs ≠ [] ∧ ∀ c ∈ cs, Text.isDigit c = true := by
  unfold digits
  rw [mem_one_mul_run]
  constructor
  · rintro ⟨c, rest, rfl, hc, hrest⟩
    exact ⟨List.cons_ne_nil c rest, List.forall_mem_cons.2 ⟨hc, hrest⟩⟩
  · rintro ⟨hne, hall⟩
    obtain ⟨c, rest, rfl⟩ := List.exists_cons_of_ne_nil hne
    obtain ⟨hc, hrest⟩ := List.forall_mem_cons.1 hall
    exact ⟨c, rest, rfl, hc, hrest⟩

theorem mem_optional {l : Language Char} : cs ∈ 1 + l ↔ cs = [] ∨ cs ∈ l := by
  rw [Language.mem_add, Language.mem_one]

/-! ## Numbers -/

theorem mem_mantissa : cs ∈ mantissa ↔ ∃ whole fraction, (∀ c ∈ whole, Text.isDigit c = true) ∧
    (∀ ds ∈ fraction, ∀ c ∈ ds, Text.isDigit c = true) ∧ (whole ≠ [] ∨ ∃ ds ∈ fraction, ds ≠ []) ∧
      whole ++ Numeral.fractionChars fraction = cs := by
  simp only [mantissa, Language.mem_add, Language.mem_mul, Language.mem_one, mem_digits]
  constructor
  · rintro (⟨whole, ⟨hne, hwhole⟩, _, rfl | ⟨_, rfl, ds, hds, rfl⟩, rfl⟩ | ⟨_, rfl, ds, ⟨hne, hds⟩, rfl⟩)
    · exact ⟨whole, none, hwhole, nofun, .inl hne, rfl⟩
    · exact ⟨whole, some ds, hwhole, fun _ h => Option.some.inj h ▸ hds, .inl hne, rfl⟩
    · exact ⟨[], some ds, nofun, fun _ h => Option.some.inj h ▸ hds, .inr ⟨ds, rfl, hne⟩, rfl⟩
  · rintro ⟨whole, fraction, hwhole, hfraction, hdigit, rfl⟩
    by_cases hne : whole = []
    · obtain ⟨ds, rfl, hds⟩ := hdigit.resolve_left (not_not_intro hne)
      exact .inr ⟨['.'], rfl, ds, ⟨hds, hfraction ds rfl⟩, by rw [hne]; rfl⟩
    · refine .inl ⟨whole, ⟨hne, hwhole⟩, Numeral.fractionChars fraction, ?_, rfl⟩
      cases fraction with
      | none => exact .inl rfl
      | some ds => exact .inr ⟨['.'], rfl, ds, hfraction ds rfl, rfl⟩

theorem mem_exponent : cs ∈ exponent ↔ ∃ x, Numeral.ExponentForm x ∧ Numeral.exponentChars (some x) = cs := by
  simp only [exponent, Language.mem_mul, mem_optional, mem_digits]
  constructor
  · rintro ⟨_, ⟨_, ⟨letter, hletter, rfl⟩, sign, hsign, rfl⟩, ds, ⟨hne, hds⟩, rfl⟩
    refine ⟨(letter, sign, ds), ⟨by simpa using hletter, ?_, hne, hds⟩, rfl⟩
    rcases hsign with rfl | ⟨c, hc, rfl⟩
    · exact .inl rfl
    · exact .inr (by simpa using hc)
  · rintro ⟨⟨letter, sign, ds⟩, ⟨hletter, hsign, hne, hds⟩, rfl⟩
    refine ⟨letter :: sign, ⟨[letter], ⟨letter, by simpa using hletter, rfl⟩, sign, ?_, rfl⟩, ds, ⟨hne, hds⟩, rfl⟩
    rcases hsign with rfl | rfl | rfl
    · exact .inl rfl
    · exact .inr ⟨'+', rfl, rfl⟩
    · exact .inr ⟨'-', rfl, rfl⟩

theorem mem_number : cs ∈ number ↔ ∃ n : Numeral, n.WellFormed ∧ n.lexeme = cs := by
  simp only [number, Language.mem_mul, mem_mantissa, mem_optional, mem_exponent]
  constructor
  · rintro ⟨_, ⟨whole, fraction, hwhole, hfraction, hdigit, rfl⟩, _, rfl | ⟨x, hx, rfl⟩, rfl⟩
    · exact ⟨⟨whole, fraction, none⟩, ⟨hwhole, hfraction, hdigit, nofun⟩, rfl⟩
    · exact ⟨⟨whole, fraction, some x⟩, ⟨hwhole, hfraction, hdigit, fun _ h => Option.some.inj h ▸ hx⟩, rfl⟩
  · rintro ⟨n, hn, rfl⟩
    refine ⟨_, ⟨n.whole, n.fraction, hn.whole, hn.fraction, hn.digit, rfl⟩, Numeral.exponentChars n.exponent, ?_, rfl⟩
    cases hx : n.exponent with
    | none => exact .inl rfl
    | some x => exact .inr ⟨x, hn.exponent x hx, rfl⟩

/-! ## The longest text of a shape -/

/-- The longest text of a shape in front of a text. -/
structure IsLongest (shape : Language Char) (lexeme text : List Char) : Prop where
  mem : lexeme ∈ shape
  front : lexeme <+: text
  longest : ∀ other ∈ shape, other <+: text → other.length ≤ lexeme.length

theorem isLongest_number_iff {lexeme : List Char} :
    IsLongest number lexeme cs ↔ ∃ n rest, Numeral.scan? cs = some (n, rest) ∧ n.lexeme = lexeme := by
  constructor
  · rintro ⟨hmem, ⟨rest, rfl⟩, hlongest⟩
    obtain ⟨m, hm, rfl⟩ := mem_number.1 hmem
    obtain ⟨n, rest', hscan, hle⟩ := Numeral.scan?_longest hm rest
    obtain ⟨hn, hcs⟩ := Numeral.wellFormed_of_scan? hscan
    -- neither is longer than the other, and both stand in front of one text
    have hshort := hlongest n.lexeme (mem_number.2 ⟨n, hn, rfl⟩) ⟨rest', hcs⟩
    have hlength := congrArg List.length hcs
    rw [List.length_append, List.length_append] at hlength
    exact ⟨n, rest', hscan, List.append_inj_left hcs (by omega)⟩
  · rintro ⟨n, rest, hscan, rfl⟩
    obtain ⟨hn, rfl⟩ := Numeral.wellFormed_of_scan? hscan
    refine ⟨mem_number.2 ⟨n, hn, rfl⟩, List.prefix_append _ _, fun other hother hfront => ?_⟩
    obtain ⟨m, hm, rfl⟩ := mem_number.1 hother
    obtain ⟨rest', hrest'⟩ := hfront
    obtain ⟨n', rest'', hscan', hle⟩ := Numeral.scan?_longest hm rest'
    rw [hrest', hscan] at hscan'
    obtain ⟨-, rfl⟩ := Prod.mk.inj (Option.some.inj hscan')
    have hlength := congrArg List.length hrest'
    rw [List.length_append, List.length_append] at hlength
    omega

theorem isLongest_word_iff {c : Char} {lexeme : List Char} :
    IsLongest word lexeme (c :: cs) ↔ Text.isWordStart c = true ∧ lexeme = c :: cs.takeWhile Text.isWordPart := by
  have hbest : Text.isWordStart c = true → c :: cs.takeWhile Text.isWordPart ∈ word := fun hc =>
    mem_one_mul_run.2 ⟨c, _, rfl, hc, fun _ hd => List.mem_takeWhile_imp hd⟩
  have hfront : c :: cs.takeWhile Text.isWordPart <+: c :: cs := (List.prefix_cons_inj c).2 (List.takeWhile_prefix _)
  have hlongest : ∀ other ∈ word, other <+: c :: cs →
      Text.isWordStart c = true ∧ other <+: c :: cs.takeWhile Text.isWordPart := by
    intro other hother hprefix
    obtain ⟨d, rest, rfl, hd, hrest⟩ := mem_one_mul_run.1 hother
    obtain ⟨rfl, htail⟩ := List.cons_prefix_cons.1 hprefix
    obtain ⟨tail, rfl⟩ := htail
    rw [List.takeWhile_append_of_pos hrest]
    exact ⟨hd, (List.prefix_cons_inj d).2 (List.prefix_append _ _)⟩
  constructor
  · rintro ⟨hmem, hprefix, hmost⟩
    obtain ⟨hc, hshort⟩ := hlongest lexeme hmem hprefix
    exact ⟨hc, hshort.eq_of_length_le (hmost _ (hbest hc) hfront)⟩
  · rintro ⟨hc, rfl⟩
    exact ⟨hbest hc, hfront, fun other hother hprefix => (hlongest other hother hprefix).2.length_le⟩

/-! ## Blanks -/

theorem isBlank_of_mem {lexeme : List Char} (h : lexeme ∈ bare) {c : Char} (hc : c ∈ lexeme) :
    Text.isBlank c = false := by
  have hnone : ∀ {cs : List Char}, cs.all (fun d => !Text.isBlank d) = true → c ∈ cs → Text.isBlank c = false := by
    intro cs hall hd
    simpa using List.all_eq_true.1 hall c hd
  simp only [bare, Language.mem_add] at h
  rcases h with (((hnumber | hword) | ⟨rel, rfl⟩) | ⟨op, rfl⟩) | hsymbol
  · obtain ⟨n, hn, rfl⟩ := mem_number.1 hnumber
    exact hn.isBlank hc
  · obtain ⟨d, rest, rfl, hd, hrest⟩ := mem_one_mul_run.1 hword
    rcases List.mem_cons.1 hc with rfl | hc
    · exact Text.isBlank_of_isWordPart (Text.isWordPart_of_isWordStart c hd)
    · exact Text.isBlank_of_isWordPart (hrest c hc)
  · exact hnone (by cases rel <;> decide) hc
  · exact hnone (by cases op <;> decide) hc
  · exact hnone (by rcases hsymbol with rfl | rfl | rfl <;> decide) hc

end Shape

namespace Token

/-! ## Globs -/

/-- Between quotes the first text stands for the second: a backslash is left out and the character behind it is kept, and
any character but a quote stands for itself. -/
inductive Writes : List Char → List Char → Prop where
  | nil : Writes [] []
  | escaped (c : Char) {inner body : List Char} : Writes inner body → Writes ('\\' :: c :: inner) (c :: body)
  | plain {c : Char} {inner body : List Char} : c ≠ '"' → c ≠ '\\' → Writes inner body → Writes (c :: inner) (c :: body)

theorem Writes.globBody? {inner body : List Char} (h : Writes inner body) (rest : List Char) :
    globBody? (inner ++ '"' :: rest) = some (body, inner.length + 1) := by
  induction h with
  | nil => rfl
  | escaped c _ ih =>
    rw [List.cons_append, List.cons_append, Token.globBody?, ih]
    rfl
  | plain hquote hbackslash _ ih =>
    rw [List.cons_append, Token.globBody?, ih]
    · rfl
    · exact hquote
    · exact fun h => absurd h hbackslash
    · exact fun _ _ h => absurd h hbackslash

theorem writes_of_globBody? : ∀ {cs body : List Char} {n : Nat}, Token.globBody? cs = some (body, n) →
    ∃ inner rest, cs = inner ++ '"' :: rest ∧ Writes inner body ∧ n = inner.length + 1 := by
  intro cs
  induction cs using Token.globBody?.induct with
  | case1 => nofun
  | case2 rest =>
    intro body n h
    obtain ⟨rfl, rfl⟩ := Prod.mk.inj (Option.some.inj h)
    exact ⟨[], rest, rfl, .nil, rfl⟩
  | case3 => nofun
  | case4 c rest ih =>
    intro body n h
    obtain ⟨⟨body', n'⟩, hrest, hfound⟩ := Option.map_eq_some_iff.1 h
    obtain ⟨rfl, rfl⟩ := Prod.mk.inj hfound
    obtain ⟨inner, rest', rfl, hwrites, rfl⟩ := ih hrest
    exact ⟨'\\' :: c :: inner, rest', rfl, .escaped c hwrites, rfl⟩
  | case5 c rest hquote hlast hpair ih =>
    intro body n h
    have hbackslash : c ≠ '\\' := by
      rintro rfl
      cases rest with
      | nil => exact hlast rfl rfl
      | cons d rest => exact hpair d rest rfl rfl
    rw [Token.globBody?] at h
    · obtain ⟨⟨body', n'⟩, hrest, hfound⟩ := Option.map_eq_some_iff.1 h
      obtain ⟨rfl, rfl⟩ := Prod.mk.inj hfound
      obtain ⟨inner, rest', rfl, hwrites, rfl⟩ := ih hrest
      exact ⟨c :: inner, rest', rfl, .plain hquote hbackslash hwrites, rfl⟩
    · exact hquote
    · exact hlast
    · exact hpair

/-! ## The front of a text -/

/-- A text starts with a token of this kind, and this is the text of the token. -/
inductive Leads (cs : List Char) : TokenKind → List Char → Prop where
  | glob {inner body : List Char} : Writes inner body → '"' :: inner ++ ['"'] <+: cs →
      Leads cs (.glob body) ('"' :: inner ++ ['"'])
  | number {lexeme : List Char} {value : Binary64} : Shape.IsLongest Shape.number lexeme cs →
      Binary64.ofText? (String.ofList lexeme) = some value → Leads cs (.number value) lexeme
  | word {lexeme : List Char} : Shape.IsLongest Shape.word lexeme cs → Leads cs .word lexeme
  | relation (rel : Relation) : Shape.IsLongest Shape.comparison rel.symbol.toList cs →
      Leads cs (.relation rel) rel.symbol.toList
  | arith (op : Arith) : op.symbol.toList <+: cs → Leads cs (.arith op) op.symbol.toList
  | openParen : ['('] <+: cs → Leads cs .openParen ['(']
  | closeParen : [')'] <+: cs → Leads cs .closeParen [')']
  | percent : ['%'] <+: cs → Leads cs .percent ['%']

/-- Why no token starts where a text starts: a quote that is never closed, or a character that begins no shape. -/
inductive Refused : List Char → LexicalFault → Prop where
  | unterminatedGlob {cs : List Char} : (∀ inner body, Writes inner body → ¬ inner ++ ['"'] <+: cs) →
      Refused ('"' :: cs) .unterminatedGlob
  | unexpectedCharacter {c : Char} {cs : List Char} : c ≠ '"' → Text.isBlank c = false →
      (∀ lexeme ∈ Shape.bare, ¬ lexeme <+: c :: cs) → Refused (c :: cs) (.unexpectedCharacter c)

variable {c : Char} {cs lexeme : List Char} {kind : TokenKind}

theorem Leads.front_of_text (h : Leads cs kind lexeme) : lexeme <+: cs := by
  cases h with
  | number hlongest => exact hlongest.front
  | word hlongest => exact hlongest.front
  | relation rel hlongest => exact hlongest.front
  | glob _ hfront | arith _ hfront | openParen hfront | closeParen hfront | percent hfront => exact hfront

theorem Leads.glob_or_bare (h : Leads cs kind lexeme) :
    (∃ inner body, Writes inner body ∧ kind = .glob body ∧ lexeme = '"' :: inner ++ ['"']) ∨ lexeme ∈ Shape.bare := by
  simp only [Shape.bare, Language.mem_add]
  cases h with
  | glob hwrites => exact .inl ⟨_, _, hwrites, rfl, rfl⟩
  | number hlongest => exact .inr (.inl (.inl (.inl (.inl hlongest.mem))))
  | word hlongest => exact .inr (.inl (.inl (.inl (.inr hlongest.mem))))
  | relation rel hlongest => exact .inr (.inl (.inl (.inr hlongest.mem)))
  | arith op => exact .inr (.inl (.inr ⟨op, rfl⟩))
  | openParen => exact .inr (.inr (.inl rfl))
  | closeParen => exact .inr (.inr (.inr (.inl rfl)))
  | percent => exact .inr (.inr (.inr (.inr rfl)))

theorem front_of_scan? {n : Numeral} {rest : List Char} (h : Numeral.scan? (c :: cs) = some (n, rest)) :
    front c cs = .ok (.number n.value, n.lexeme.length - 1) := by
  obtain ⟨hn, hcs⟩ := Numeral.wellFormed_of_scan? h
  obtain ⟨d, body, hlexeme, hd⟩ := hn.exists_cons
  rw [hlexeme, List.cons_append] at hcs
  obtain ⟨rfl, -⟩ := List.cons.inj hcs
  have hquote : d ≠ '"' := by
    rintro rfl
    exact absurd hd (by decide)
  unfold front
  rw [if_neg hquote, h]

theorem front_of_isWordStart (h : Text.isWordStart c = true) :
    front c cs = .ok (.word, (cs.takeWhile Text.isWordPart).length) := by
  have hquote : c ≠ '"' := by
    rintro rfl
    exact absurd h (by decide)
  have hpoint : c ≠ '.' := by
    rintro rfl
    exact absurd h (by decide)
  unfold front
  rw [if_neg hquote, scan?_eq_none (Text.isDigit_of_isWordStart h) hpoint]
  dsimp only
  rw [if_pos h]

theorem leads_of_scan? {n : Numeral} {rest : List Char} (h : Numeral.scan? cs = some (n, rest)) :
    Leads cs (.number n.value) n.lexeme :=
  .number (Shape.isLongest_number_iff.2 ⟨n, rest, h, rfl⟩)
    (Numeral.ofText?_lexeme (Numeral.wellFormed_of_scan? h).1)

theorem isLongest_comparison {rel : Relation} (hfront : rel.symbol.toList <+: cs)
    (hlongest : ∀ other : Relation, other.symbol.toList <+: cs → other.symbol.toList.length ≤ rel.symbol.toList.length) :
    Shape.IsLongest Shape.comparison rel.symbol.toList cs :=
  ⟨⟨rel, rfl⟩, hfront, fun _ ⟨other, hother⟩ hprefix => by
    subst hother
    exact hlongest other hprefix⟩

/-- A comparison of one character is the longest where no equals sign follows it. -/
theorem leads_relation_one {rel : Relation} {d : Char} (hsymbol : rel.symbol.toList = [d])
    (hnext : ∀ tail, cs = '=' :: tail → False) : Leads (d :: cs) (.relation rel) rel.symbol.toList := by
  refine .relation rel (isLongest_comparison (hsymbol ▸ ⟨cs, rfl⟩) fun other hother => ?_)
  have htwo : ∀ e, ¬ [e, '='] <+: d :: cs := fun e he => by
    obtain ⟨-, tail, htail⟩ := List.cons_prefix_cons.1 he
    exact hnext tail htail.symm
  cases other with
  | lt | gt => rw [hsymbol]; exact Nat.le_refl 1
  | le => exact absurd hother (htwo '<')
  | ge => exact absurd hother (htwo '>')
  | eq => exact absurd hother (htwo '=')

theorem leads_relation_two {rel : Relation} {d : Char} (hsymbol : rel.symbol.toList = [d, '=']) :
    Leads (d :: '=' :: cs) (.relation rel) rel.symbol.toList := by
  refine .relation rel (isLongest_comparison (hsymbol ▸ ⟨cs, rfl⟩) fun other _ => ?_)
  rw [hsymbol]
  show other.symbol.toList.length ≤ 2
  cases other <;> decide

theorem leads_of_symbol? {more : Nat} (h : symbol? c cs = some (kind, more)) :
    ∃ lexeme, Leads (c :: cs) kind lexeme ∧ lexeme.length = more + 1 := by
  unfold symbol? at h
  split at h
  all_goals first | (obtain ⟨rfl, rfl⟩ := Prod.mk.inj (Option.some.inj h)) | cases h
  · exact ⟨_, leads_relation_two rfl, rfl⟩
  · exact ⟨_, leads_relation_two rfl, rfl⟩
  · exact ⟨_, leads_relation_two rfl, rfl⟩
  · rename_i hnext
    exact ⟨_, leads_relation_one rfl hnext, rfl⟩
  · rename_i hnext
    exact ⟨_, leads_relation_one rfl hnext, rfl⟩
  · exact ⟨_, .arith .plus ⟨cs, rfl⟩, rfl⟩
  · exact ⟨_, .arith .minus ⟨cs, rfl⟩, rfl⟩
  · exact ⟨_, .arith .times ⟨cs, rfl⟩, rfl⟩
  · exact ⟨_, .arith .divide ⟨cs, rfl⟩, rfl⟩
  · exact ⟨_, .openParen ⟨cs, rfl⟩, rfl⟩
  · exact ⟨_, .closeParen ⟨cs, rfl⟩, rfl⟩
  · exact ⟨_, .percent ⟨cs, rfl⟩, rfl⟩

theorem leads_of_front {more : Nat} (h : front c cs = .ok (kind, more)) :
    ∃ lexeme, Leads (c :: cs) kind lexeme ∧ lexeme.length = more + 1 := by
  unfold front at h
  split at h
  · rename_i hquote
    subst hquote
    split at h
    · rename_i body n hbody
      obtain ⟨rfl, rfl⟩ := Prod.mk.inj (Except.ok.inj h)
      obtain ⟨inner, rest, rfl, hwrites, rfl⟩ := writes_of_globBody? hbody
      exact ⟨'"' :: inner ++ ['"'], .glob hwrites ⟨rest, by simp⟩, by simp⟩
    · cases h
  · split at h
    · rename_i n rest hscan
      obtain ⟨rfl, rfl⟩ := Prod.mk.inj (Except.ok.inj h)
      obtain ⟨d, body, hlexeme, -⟩ := (Numeral.wellFormed_of_scan? hscan).1.exists_cons
      exact ⟨n.lexeme, leads_of_scan? hscan, by simp [hlexeme]⟩
    · split at h
      · rename_i hword
        obtain ⟨rfl, rfl⟩ := Prod.mk.inj (Except.ok.inj h)
        exact ⟨_, .word (Shape.isLongest_word_iff.2 ⟨hword, rfl⟩), rfl⟩
      · split at h
        · rename_i found hsymbol
          obtain rfl := Except.ok.inj h
          exact leads_of_symbol? hsymbol
        · cases h

theorem of_single {d : Char} (h : [d] <+: c :: cs) : c = d := (List.cons_prefix_cons.1 h).1.symm

theorem of_pair {d e : Char} (h : [d, e] <+: c :: cs) : c = d ∧ ∃ tail, cs = e :: tail := by
  obtain ⟨rfl, tail, rfl⟩ := List.cons_prefix_cons.1 h
  exact ⟨rfl, tail, rfl⟩

theorem symbol?_less (h : ∀ tail, cs ≠ '=' :: tail) : symbol? '<' cs = some (.relation .lt, 0) := by
  unfold symbol?
  split <;> simp_all

theorem symbol?_greater (h : ∀ tail, cs ≠ '=' :: tail) : symbol? '>' cs = some (.relation .gt, 0) := by
  unfold symbol?
  split <;> simp_all

theorem symbol?_of_isLongest {rel : Relation}
    (h : Shape.IsLongest Shape.comparison rel.symbol.toList (c :: cs)) :
    symbol? c cs = some (.relation rel, rel.symbol.toList.length - 1) := by
  have hfront := h.front
  -- a comparison of one character is not the longest where an equals sign follows it
  have hlonger : ∀ longer : Relation, longer.symbol.toList <+: c :: cs →
      longer.symbol.toList.length ≤ rel.symbol.toList.length := fun longer => h.longest _ ⟨longer, rfl⟩
  cases rel with
  | le => obtain ⟨rfl, tail, rfl⟩ := of_pair hfront; rfl
  | eq => obtain ⟨rfl, tail, rfl⟩ := of_pair hfront; rfl
  | ge => obtain ⟨rfl, tail, rfl⟩ := of_pair hfront; rfl
  | lt =>
    obtain rfl : c = '<' := of_single hfront
    refine symbol?_less fun tail htail => ?_
    exact absurd (hlonger .le (htail ▸ ⟨tail, rfl⟩)) (by decide)
  | gt =>
    obtain rfl : c = '>' := of_single hfront
    refine symbol?_greater fun tail htail => ?_
    exact absurd (hlonger .ge (htail ▸ ⟨tail, rfl⟩)) (by decide)

theorem front_of_leads (h : Leads (c :: cs) kind lexeme) : front c cs = .ok (kind, lexeme.length - 1) := by
  cases h with
  | @glob inner body hwrites hfront =>
    obtain ⟨rest, hrest⟩ := hfront
    rw [List.cons_append, List.cons_append, List.append_assoc] at hrest
    obtain ⟨rfl, rfl⟩ := List.cons.inj hrest
    unfold front
    rw [if_pos rfl, List.singleton_append, hwrites.globBody? rest]
    simp
  | number hlongest hvalue =>
    obtain ⟨n, rest, hscan, rfl⟩ := Shape.isLongest_number_iff.1 hlongest
    rw [Numeral.ofText?_lexeme (Numeral.wellFormed_of_scan? hscan).1] at hvalue
    rw [front_of_scan? hscan, Option.some.inj hvalue]
  | word hlongest =>
    obtain ⟨hword, rfl⟩ := Shape.isLongest_word_iff.1 hlongest
    exact front_of_isWordStart hword
  | relation rel hlongest => exact front_of_symbol? (symbol?_of_isLongest hlongest)
  | arith op hfront =>
    cases op with
    | plus => obtain rfl := of_single hfront; exact front_of_symbol? rfl
    | minus => obtain rfl := of_single hfront; exact front_of_symbol? rfl
    | times => obtain rfl := of_single hfront; exact front_of_symbol? rfl
    | divide => obtain rfl := of_single hfront; exact front_of_symbol? rfl
  | openParen hfront => obtain rfl := of_single hfront; exact front_of_symbol? rfl
  | closeParen hfront => obtain rfl := of_single hfront; exact front_of_symbol? rfl
  | percent hfront => obtain rfl := of_single hfront; exact front_of_symbol? rfl

theorem exists_cons_of_leads (h : Leads cs kind lexeme) :
    ∃ d body, lexeme = d :: body ∧ Text.isBlank d = false := by
  have hne : lexeme ≠ [] := by
    cases h with
    | glob => exact List.cons_ne_nil _ _
    | number hlongest =>
      obtain ⟨n, hn, rfl⟩ := Shape.mem_number.1 hlongest.mem
      obtain ⟨d, body, hlexeme, -⟩ := hn.exists_cons
      exact hlexeme ▸ List.cons_ne_nil d body
    | word hlongest =>
      obtain ⟨d, body, rfl, -⟩ := Shape.mem_one_mul_run.1 hlongest.mem
      exact List.cons_ne_nil d body
    | relation rel => cases rel <;> decide
    | arith op => cases op <;> decide
    | openParen | closeParen | percent => exact List.cons_ne_nil _ _
  obtain ⟨d, body, rfl⟩ := List.exists_cons_of_ne_nil hne
  refine ⟨d, body, rfl, ?_⟩
  rcases h.glob_or_bare with ⟨inner, _, -, -, hglob⟩ | hbare
  · rw [(List.cons.inj hglob).1]
    decide
  · exact Shape.isBlank_of_mem hbare List.mem_cons_self

/-- **What is cut off the front of a text is the token that leads it.** -/
theorem front_eq_ok_iff {more : Nat} :
    front c cs = .ok (kind, more) ↔ ∃ lexeme, Leads (c :: cs) kind lexeme ∧ lexeme.length = more + 1 := by
  refine ⟨leads_of_front, ?_⟩
  rintro ⟨lexeme, hleads, hlength⟩
  rw [front_of_leads hleads, hlength, Nat.add_sub_cancel]

theorem exists_longest_comparison (rel : Relation) (h : rel.symbol.toList <+: cs) :
    ∃ longest : Relation, Shape.IsLongest Shape.comparison longest.symbol.toList cs := by
  by_cases htwo : ∃ longer : Relation, longer.symbol.toList <+: cs ∧ longer.symbol.toList.length = 2
  · obtain ⟨longer, hfront, hlength⟩ := htwo
    refine ⟨longer, isLongest_comparison hfront fun other _ => ?_⟩
    rw [hlength]
    cases other <;> decide
  · refine ⟨rel, isLongest_comparison h fun other hother => ?_⟩
    have hone : other.symbol.toList.length ≠ 2 := fun hlength => htwo ⟨other, hother, hlength⟩
    have hsmall : ∀ r : Relation, 1 ≤ r.symbol.toList.length ∧ r.symbol.toList.length ≤ 2 := by
      intro r
      cases r <;> decide
    have := hsmall rel
    have := hsmall other
    omega

theorem exists_front (h : lexeme ∈ Shape.bare) (hfront : lexeme <+: c :: cs) : ∃ found, front c cs = .ok found := by
  simp only [Shape.bare, Language.mem_add] at h
  rcases h with (((hnumber | hword) | ⟨rel, rfl⟩) | ⟨op, rfl⟩) | hsymbol
  · obtain ⟨n, hn, rfl⟩ := Shape.mem_number.1 hnumber
    obtain ⟨rest, hrest⟩ := hfront
    obtain ⟨n', rest', hscan, -⟩ := Numeral.scan?_longest hn rest
    rw [hrest] at hscan
    exact ⟨_, front_of_scan? hscan⟩
  · obtain ⟨d, body, rfl, hd, -⟩ := Shape.mem_one_mul_run.1 hword
    obtain ⟨rfl, -⟩ := List.cons_prefix_cons.1 hfront
    exact ⟨_, front_of_isWordStart hd⟩
  · obtain ⟨longest, hlongest⟩ := exists_longest_comparison rel hfront
    exact ⟨_, front_of_leads (.relation longest hlongest)⟩
  · exact ⟨_, front_of_leads (.arith op hfront)⟩
  · rcases hsymbol with rfl | rfl | rfl
    · exact ⟨_, front_of_leads (.openParen hfront)⟩
    · exact ⟨_, front_of_leads (.closeParen hfront)⟩
    · exact ⟨_, front_of_leads (.percent hfront)⟩

theorem refused_of_front {fault : LexicalFault} (hblank : Text.isBlank c = false)
    (h : front c cs = .error fault) : Refused (c :: cs) fault := by
  by_cases hquote : c = '"'
  · subst hquote
    cases hbody : globBody? cs with
    | some found =>
      simp [front, hbody] at h
    | none =>
      simp only [front, if_true, hbody, Except.error.injEq] at h
      subst h
      refine .unterminatedGlob fun inner body hwrites ⟨rest, hrest⟩ => ?_
      rw [List.append_assoc, List.singleton_append] at hrest
      rw [← hrest, hwrites.globBody? rest] at hbody
      cases hbody
  · have hfault : fault = .unexpectedCharacter c := by
      unfold front at h
      rw [if_neg hquote] at h
      split at h
      · cases h
      · split at h
        · cases h
        · split at h
          · cases h
          · exact (Except.error.inj h).symm
    rw [hfault]
    refine .unexpectedCharacter hquote hblank fun lexeme hmem hfront => ?_
    obtain ⟨found, hfound⟩ := exists_front hmem hfront
    rw [hfound] at h
    cases h

/-- **Nothing is cut off exactly where a quote is never closed or no shape begins.** -/
theorem front_eq_error_iff {fault : LexicalFault} (hblank : Text.isBlank c = false) :
    front c cs = .error fault ↔ Refused (c :: cs) fault := by
  refine ⟨refused_of_front hblank, fun h => ?_⟩
  cases h with
  | unterminatedGlob hopen =>
    have hnone : globBody? cs = none := by
      cases hbody : globBody? cs with
      | none => rfl
      | some found =>
        obtain ⟨inner, rest, rfl, hwrites, -⟩ := writes_of_globBody? hbody
        exact absurd ⟨rest, by simp⟩ (hopen inner found.1 hwrites)
    simp [front, hnone]
  | unexpectedCharacter hquote _ hnone =>
    cases hfront : front c cs with
    | ok found =>
      obtain ⟨lexeme, hleads, -⟩ := leads_of_front hfront
      rcases hleads.glob_or_bare with ⟨inner, body, -, -, rfl⟩ | hbare
      · exact absurd (of_single ((List.prefix_append _ _).trans hleads.front_of_text)) hquote
      · exact absurd hleads.front_of_text (hnone lexeme hbare)
    | error fault =>
      cases refused_of_front hblank hfront with
      | unterminatedGlob => exact absurd rfl hquote
      | unexpectedCharacter => rfl

end Token

end MetricExpr
