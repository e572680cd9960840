import MetricExpr.Proofs.Display.JsonText
/-!
# Quoted text ends where its quote does

What stands between the quotes is read back character by character (`unescape?`): a plain character means itself, and a
backslash says how much belongs to it. So the quote at the end is found whatever comes behind it, and quoted texts with
anything behind them are the same only if the texts are (`quoted_append_inj`).
-/
namespace MetricExpr.Text

/-- The character whose code stands in front as so many hexadecimal digits, and the rest. -/
def readCode? (width : Nat) (cs : List Char) : Option (Char × List Char) :=
  (hexValue? (cs.take width)).map fun n => (Char.ofNat n, cs.drop width)

/-- The first character that is meant between two quotes, and the rest; none at the quote. -/
def unescape? (quote : Char) : List Char → Option (Char × List Char)
  | '\\' :: 'n' :: rest => some ('\n', rest)
  | '\\' :: 'r' :: rest => some ('\r', rest)
  | '\\' :: 't' :: rest => some ('\t', rest)
  | '\\' :: 'x' :: rest => readCode? 2 rest
  | '\\' :: 'u' :: rest => readCode? 4 rest
  | '\\' :: 'U' :: rest => readCode? 8 rest
  | '\\' :: c :: rest => some (c, rest)
  | c :: rest => if c = quote then none else some (c, rest)
  | [] => none

theorem readCode?_hex {width : Nat} (hwidth : 0 < width) {c : Char} (hc : c.toNat < 16 ^ width) (rest : List Char) :
    readCode? width (hex width c.toNat ++ rest) = some (c, rest) := by
  have hlength := length_hex hwidth hc
  rw [readCode?, List.take_left' hlength, List.drop_left' hlength, hexValue?_hex, Option.map_some,
    Char.ofNat_toNat]

theorem unescape?_escapeCode (quote c : Char) (rest : List Char) :
    unescape? quote (escapeCode c.toNat ++ rest) = some (c, rest) := by
  unfold escapeCode
  split
  · rename_i hc
    exact readCode?_hex (by decide) hc rest
  split
  · rename_i hc
    exact readCode?_hex (by decide) hc rest
  · have hvalid : c.toNat < 0xD800 ∨ 0xDFFF < c.toNat ∧ c.toNat < 0x110000 := c.valid
    exact readCode?_hex (by decide) (show c.toNat < 0x100000000 by omega) rest

theorem unescape?_plain {quote c : Char} (hc : c ≠ quote) (hslash : c ≠ '\\') (rest : List Char) :
    unescape? quote (c :: rest) = some (c, rest) := by
  simp [unescape?, hc, hslash]

variable {quote : Char}

/-- An escaped character is read as it was, and nothing behind it. -/
theorem unescape?_escapeChar (hquote : quote = '\'' ∨ quote = '"') (c : Char) (rest : List Char) :
    unescape? quote (escapeChar quote c ++ rest) = some (c, rest) := by
  unfold escapeChar
  split
  · rename_i hc
    obtain rfl | rfl : c = quote ∨ c = '\\' := by simpa using hc
    · obtain rfl | rfl := hquote <;> rfl
    · rfl
  rename_i hplain
  split
  · obtain rfl := eq_of_beq ‹_›
    rfl
  split
  · obtain rfl := eq_of_beq ‹_›
    rfl
  split
  · obtain rfl := eq_of_beq ‹_›
    rfl
  split
  · obtain ⟨hc, hslash⟩ : c ≠ quote ∧ c ≠ '\\' := by simpa using hplain
    exact unescape?_plain hc hslash rest
  · exact unescape?_escapeCode quote c rest

theorem unescape?_quote (hquote : quote = '\'' ∨ quote = '"') (rest : List Char) : unescape? quote (quote :: rest) = none := by
  obtain rfl | rfl := hquote <;> rfl

/-- Two texts that are escaped for the same quote, each up to that quote. -/
theorem escaped_append_inj (hquote : quote = '\'' ∨ quote = '"') : ∀ {cs ds rest rest' : List Char},
    cs.flatMap (escapeChar quote) ++ quote :: rest = ds.flatMap (escapeChar quote) ++ quote :: rest' →
      cs = ds ∧ rest = rest'
  | [], [], _, _, h => ⟨rfl, (List.cons.inj h).2⟩
  | [], d :: ds, rest, rest', h => by
    have hread := congrArg (unescape? quote) h
    rw [List.flatMap_cons, List.append_assoc, unescape?_escapeChar hquote] at hread
    exact absurd ((unescape?_quote hquote rest).symm.trans hread) nofun
  | c :: cs, [], rest, rest', h => by
    have hread := congrArg (unescape? quote) h
    rw [List.flatMap_cons, List.append_assoc, unescape?_escapeChar hquote] at hread
    exact absurd (hread.trans (unescape?_quote hquote rest')) nofun
  | c :: cs, d :: ds, rest, rest', h => by
    have hread := congrArg (unescape? quote) h
    rw [List.flatMap_cons, List.flatMap_cons, List.append_assoc, List.append_assoc, unescape?_escapeChar hquote,
      unescape?_escapeChar hquote] at hread
    obtain ⟨rfl, hrest⟩ := Prod.mk.inj (Option.some.inj hread)
    obtain ⟨rfl, rfl⟩ := escaped_append_inj hquote hrest
    exact ⟨rfl, rfl⟩

theorem quoteOf_eq (cs : List Char) : quoteOf cs = '\'' ∨ quoteOf cs = '"' := by
  unfold quoteOf
  split
  · exact .inr rfl
  · exact .inl rfl

/-- **Quoted texts are told apart whatever stands behind them.** -/
theorem quoted_append_inj {cs ds rest rest' : List Char} (h : quoted cs ++ rest = quoted ds ++ rest') :
    cs = ds ∧ rest = rest' := by
  have hshape : ∀ cs rest : List Char,
      quoted cs ++ rest = quoteOf cs :: (cs.flatMap (escapeChar (quoteOf cs)) ++ quoteOf cs :: rest) := by
    intro cs rest
    simp [quoted]
  rw [hshape, hshape] at h
  obtain ⟨hquote, hbody⟩ := List.cons.inj h
  rw [← hquote] at hbody
  exact escaped_append_inj (quoteOf_eq cs) hbody

end MetricExpr.Text
