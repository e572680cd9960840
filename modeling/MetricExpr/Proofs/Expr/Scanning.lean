import MetricExpr.Proofs.Decimal.Written
import MetricExpr.Expr.Token
/-!
# Printed text is cut into tokens

A piece of printed text is cut into the same tokens whatever stands behind it, as long as that starts with a blank or a
closing parenthesis (`Token.Cut`). Numerals, globs and parenthesised pieces are cut so, and so are two such pieces with an
operator between blanks.
-/
namespace MetricExpr.Token

/-! ## One token -/

/-- What is put behind a printed piece: nothing, a blank or a closing parenthesis. -/
def Breaks (rest : List Char) : Prop := ∀ c ∈ rest.head?, c = ' ' ∨ c = ')'

theorem breaks_nil : Breaks [] := nofun

theorem breaks_blank (cs : List Char) : Breaks (' ' :: cs) := fun _ hc => .inl (Option.some.inj hc).symm

theorem breaks_closing (cs : List Char) : Breaks (')' :: cs) := fun _ hc => .inr (Option.some.inj hc).symm

theorem Breaks.cases {rest : List Char} (h : Breaks rest) :
    rest = [] ∨ (∃ cs, rest = ' ' :: cs) ∨ ∃ cs, rest = ')' :: cs := by
  cases rest with
  | nil => exact .inl rfl
  | cons c cs =>
    rcases h c rfl with rfl | rfl
    · exact .inr (.inl ⟨cs, rfl⟩)
    · exact .inr (.inr ⟨cs, rfl⟩)

theorem Breaks.stops {rest : List Char} (h : Breaks rest) : Numeral.Stops rest := by
  intro c hc
  rcases h c hc with rfl | rfl
  · decide
  · decide

/-- A printed piece is cut into these tokens whatever is put behind it. -/
def Cut (position : Nat) (cs : List Char) (tokens : List Token) : Prop :=
  ∀ rest, Breaks rest → scan position (cs ++ rest) = (scan (position + cs.length) rest).map (tokens ++ ·)

theorem scan_blank (position : Nat) (cs : List Char) : scan position (' ' :: cs) = scan (position + 1) cs := by
  rw [scan]
  exact if_pos (by decide)

theorem scan_token {position : Nat} {c : Char} (body : List Char) {rest : List Char} {kind : TokenKind}
    (hblank : Text.isBlank c = false) (hfront : front c (body ++ rest) = .ok (kind, body.length)) :
    scan position (c :: body ++ rest) =
      (scan (position + (c :: body).length) rest).map ([⟨kind, c :: body, position⟩] ++ ·) := by
  rw [List.cons_append, scan, if_neg (by rw [hblank]; decide), hfront]
  dsimp only
  rw [List.drop_left, List.take_left, List.length_cons, Nat.add_assoc, Nat.add_comm 1]
  rfl

/-! ## Operators and parentheses -/

/-- Nothing else starts with the first character of an operator or a parenthesis. -/
theorem of_symbol? {c : Char} {cs : List Char} {found : TokenKind × Nat} (h : symbol? c cs = some found) :
    Text.isBlank c = false ∧ c ≠ '"' ∧ Text.isDigit c = false ∧ c ≠ '.' ∧ Text.isWordStart c = false := by
  unfold symbol? at h
  split at h
  all_goals first | decide | cases h

theorem scan?_eq_none {c : Char} (hdigit : Text.isDigit c = false) (hpoint : c ≠ '.') (cs : List Char) :
    Numeral.scan? (c :: cs) = none := by
  have hread : Numeral.digits (c :: cs) = ([], c :: cs) := by
    refine Numeral.digits_of_head fun d hd => ?_
    rw [← Option.some.inj hd]
    exact hdigit
  unfold Numeral.scan? Numeral.mantissa?
  rw [hread]
  dsimp only
  split
  · rename_i heq
    exact absurd (List.cons.inj heq).1 hpoint
  · rfl

theorem front_of_symbol? {c : Char} {cs : List Char} {found : TokenKind × Nat} (h : symbol? c cs = some found) :
    front c cs = .ok found := by
  obtain ⟨-, hquote, hdigit, hpoint, hword⟩ := of_symbol? h
  unfold front
  rw [if_neg hquote, scan?_eq_none hdigit hpoint]
  dsimp only
  rw [if_neg (by rw [hword]; decide), h]

theorem scan_symbol {position : Nat} {c : Char} (body : List Char) {rest : List Char} {kind : TokenKind}
    (h : symbol? c (body ++ rest) = some (kind, body.length)) : scan position (c :: body ++ rest) =
      (scan (position + (c :: body).length) rest).map ([⟨kind, c :: body, position⟩] ++ ·) :=
  scan_token body (of_symbol? h).1 (front_of_symbol? h)

/-! ## Operators and parentheses in pieces -/

theorem map_append_map {α ε : Type} (x : Except ε (List α)) (a b : List α) :
    (x.map (b ++ ·)).map (a ++ ·) = x.map ((a ++ b) ++ ·) := by
  cases x with
  | error e => rfl
  | ok l => exact congrArg Except.ok (List.append_assoc a b l).symm

theorem cut_arith (position : Nat) (op : Arith) :
    Cut position op.symbol.toList [⟨.arith op, op.symbol.toList, position⟩] := by
  intro rest _
  cases op <;> exact scan_symbol [] rfl

theorem cut_relation (position : Nat) (rel : Relation) :
    Cut position rel.symbol.toList [⟨.relation rel, rel.symbol.toList, position⟩] := by
  intro rest hrest
  obtain rfl | ⟨cs, rfl⟩ | ⟨cs, rfl⟩ := hrest.cases
  all_goals
    cases rel with
    | lt => exact scan_symbol [] rfl
    | gt => exact scan_symbol [] rfl
    | le => exact scan_symbol ['='] rfl
    | eq => exact scan_symbol ['='] rfl
    | ge => exact scan_symbol ['='] rfl

/-- Two pieces with a blank between them. -/
theorem Cut.append_blank {position : Nat} {a b : List Char} {s t : List Token} (ha : Cut position a s)
    (hb : Cut (position + a.length + 1) b t) : Cut position (a ++ ' ' :: b) (s ++ t) := by
  intro rest hrest
  have hlen : position + (a ++ ' ' :: b).length = position + a.length + 1 + b.length := by
    rw [List.length_append, List.length_cons]
    omega
  rw [List.append_assoc, List.cons_append, ha _ (breaks_blank _), scan_blank, hb rest hrest, map_append_map, hlen]

theorem Cut.scan_eq {position : Nat} {cs : List Char} {tokens : List Token} (h : Cut position cs tokens) :
    scan position cs = .ok tokens := by
  have hcut := h [] breaks_nil
  rw [List.append_nil, scan] at hcut
  rw [hcut]
  exact congrArg Except.ok (List.append_nil tokens)

theorem Cut.parenthesised {position : Nat} {cs : List Char} {tokens : List Token} (h : Cut (position + 1) cs tokens) :
    Cut position ('(' :: cs ++ [')'])
      (⟨.openParen, ['('], position⟩ :: tokens ++ [⟨.closeParen, [')'], position + 1 + cs.length⟩]) := by
  intro rest hrest
  have hopening : scan position ('(' :: (cs ++ ')' :: rest)) =
      (scan (position + 1) (cs ++ ')' :: rest)).map ([⟨.openParen, ['('], position⟩] ++ ·) := scan_symbol [] rfl
  have hclosing : scan (position + 1 + cs.length) (')' :: rest) =
      (scan (position + 1 + cs.length + 1) rest).map ([⟨.closeParen, [')'], position + 1 + cs.length⟩] ++ ·) :=
    scan_symbol [] rfl
  have hlen : position + ('(' :: cs ++ [')']).length = position + 1 + cs.length + 1 := by
    rw [List.length_append, List.length_cons, List.length_singleton]
    omega
  have htext : '(' :: cs ++ [')'] ++ rest = '(' :: (cs ++ ')' :: rest) := by
    rw [List.cons_append, List.cons_append, List.append_assoc, List.singleton_append]
  rw [htext, hopening, h _ (breaks_closing _), hclosing, map_append_map, map_append_map, hlen]
  rfl

/-! ## Numerals -/

theorem of_isDigit {c : Char} (h : c.isDigit = true) : Text.isBlank c = false ∧ c ≠ '"' := by
  refine ⟨Text.isBlank_of_isDigit (Text.isDigit_of_isDigit h), ?_⟩
  rintro rfl
  exact absurd h (by decide)

/-- A numeral is cut as one token. -/
theorem cut_lexeme {n : Numeral} (hn : n.Written) (position : Nat) :
    Cut position n.lexeme [⟨.number n.value, n.lexeme, position⟩] := by
  intro rest hrest
  have hscan := Numeral.scan?_lexeme hn.wellFormed hrest.stops
  obtain ⟨c, body, hlexeme, hdigit⟩ := hn.exists_cons
  have hlen : n.lexeme.length - 1 = body.length := by
    rw [hlexeme]
    rfl
  obtain ⟨hblank, hquote⟩ := of_isDigit hdigit
  rw [hlexeme] at hscan ⊢
  refine scan_token body hblank ?_
  unfold front
  rw [if_neg hquote, ← List.cons_append, hscan]
  dsimp only
  rw [hlen]

/-- A minus is cut off whatever it touches. -/
theorem cut_minus {cs : List Char} {position : Nat} {tokens : List Token} (h : Cut (position + 1) cs tokens) :
    Cut position ('-' :: cs) (⟨.arith .minus, ['-'], position⟩ :: tokens) := by
  intro rest hrest
  have hminus : scan position ('-' :: (cs ++ rest)) =
      (scan (position + 1) (cs ++ rest)).map ([⟨.arith .minus, ['-'], position⟩] ++ ·) := scan_symbol [] rfl
  have hlen : position + ('-' :: cs).length = position + 1 + cs.length := by
    rw [List.length_cons]
    omega
  rw [List.cons_append, hminus, h rest hrest, map_append_map, hlen]
  rfl

/-! ## Globs -/

def escaped (cs : List Char) : List Char := cs.flatMap fun c => if c == '"' || c == '\\' then ['\\', c] else [c]

theorem globBody?_escaped : ∀ (cs rest : List Char),
    globBody? (escaped cs ++ '"' :: rest) = some (cs, (escaped cs).length + 1)
  | [], rest => rfl
  | c :: cs, rest => by
    have ih := globBody?_escaped cs rest
    unfold escaped at ih ⊢
    rw [List.flatMap_cons]
    by_cases hc : (c == '"' || c == '\\') = true
    · rw [if_pos hc, List.append_assoc, List.cons_append, List.cons_append, List.nil_append, globBody?, ih]
      rfl
    · rw [if_neg hc, List.append_assoc, List.cons_append, List.nil_append]
      rw [Bool.or_eq_true, beq_iff_eq, beq_iff_eq, not_or] at hc
      rw [globBody?, ih]
      · rfl
      · exact hc.1
      · exact fun h => absurd h hc.2
      · exact fun _ _ h => absurd h hc.2

theorem cut_literal (cs : List Char) (position : Nat) :
    Cut position (Glob.literal cs) [⟨.glob cs, Glob.literal cs, position⟩] := by
  intro rest _
  have hbody : front '"' (escaped cs ++ ['"'] ++ rest) = .ok (.glob cs, (escaped cs ++ ['"']).length) := by
    unfold front
    rw [if_pos rfl, List.append_assoc, List.singleton_append, globBody?_escaped, List.length_append,
      List.length_singleton]
  exact scan_token (escaped cs ++ ['"']) (by decide) hbody

end MetricExpr.Token
