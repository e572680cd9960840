import MetricExpr.Proofs.Expr.RoundTrip
/-!
# The fewest parentheses

A derivation needs parentheses wherever an operand holds together less than its place asks for (`Sum.groups_le`), and the
printer writes them there and nowhere else. So no text of a node has fewer of them than the printed one. Printed text is
seen as a list of pieces, so that the text without some of its parentheses can still be cut into tokens.
-/
namespace MetricExpr

open Grammar

/-- How many opening parentheses there are among tokens. -/
def Token.opens (tokens : List Token) : Nat := tokens.countP (·.kind == .openParen)

theorem Token.opens_append (s t : List Token) : Token.opens (s ++ t) = Token.opens s + Token.opens t :=
  List.countP_append

theorem Token.opens_cons (t : Token) (tokens : List Token) :
    Token.opens (t :: tokens) = Token.opens tokens + if t.kind = .openParen then 1 else 0 := by
  unfold Token.opens
  rw [List.countP_cons]
  simp

theorem Token.opens_between {t : Token} (h : t.kind ≠ .openParen) (before after : List Token) :
    Token.opens (before ++ t :: after) = Token.opens before + Token.opens after := by
  rw [Token.opens_append, Token.opens_cons, if_neg h, Nat.add_zero]

/-! ## What a derivation needs -/

namespace Expr

/-- How many pairs of parentheses an expression needs. -/
def groups : Expr → Nat
  | const _ => 0
  | var _ => 0
  | binary op l r =>
    (l.groups + if l.strength < op.strength then 1 else 0) + (r.groups + if r.strength < op.strength + 1 then 1 else 0)

/-- How many it needs in a place that asks for an operand of this strength, itself included. -/
def groupsAt (strength : Nat) (e : Expr) : Nat := e.groups + if e.strength < strength then 1 else 0

theorem groups_binary (op : Arith) (l r : Expr) :
    (binary op l r).groups = l.groupsAt op.strength + r.groupsAt (op.strength + 1) := rfl

theorem strength_pos : ∀ e : Expr, 1 ≤ e.strength
  | const _ => (by decide : 1 ≤ 3)
  | var _ => (by decide : 1 ≤ 3)
  | binary op _ _ => by
    show 1 ≤ op.strength
    cases op <;> decide

theorem groupsAt_one (e : Expr) : e.groupsAt 1 = e.groups := by
  unfold groupsAt
  rw [if_neg (Nat.not_lt.2 e.strength_pos)]
  rfl

theorem groupsAt_mono {s t : Nat} (h : s ≤ t) (e : Expr) : e.groupsAt s ≤ e.groupsAt t := by
  unfold groupsAt
  split <;> split <;> omega

theorem groupsAt_le (s : Nat) (e : Expr) : e.groupsAt s ≤ e.groups + 1 := by
  unfold groupsAt
  split <;> omega

theorem groupsAt_binary {op : Arith} {s : Nat} (h : op.strength = s) (l r : Expr) :
    (binary op l r).groupsAt s = l.groupsAt s + r.groupsAt (s + 1) := by
  have hstrength : (binary op l r).strength = s := h
  rw [groupsAt, hstrength, if_neg (Nat.lt_irrefl s), groups_binary, h]
  rfl

end Expr

namespace Grammar

theorem opens_operator {op : Arith} {token : Token} (kind : token.kind = .arith op) (before after : List Token) :
    Token.opens (before ++ token :: after) = Token.opens before + Token.opens after :=
  Token.opens_between (by rw [kind]; nofun) before after

-- Behind a left operand the fold goes on with a larger left operand, so what is needed for that one is carried along.
mutual

/-- **A sum has the parentheses that its expression needs.** -/
theorem Sum.groups_le : ∀ s : Sum, s.expr.groupsAt 1 ≤ Token.opens s.tokens
  | .last operand => (Expr.groupsAt_mono (by decide) operand.expr).trans operand.groups_le
  | .more operand op token kind weak rest => by
    have hoperand := (Expr.groupsAt_mono (by decide : 1 ≤ 2) operand.expr).trans operand.groups_le
    have hrest : (Sum.more operand op token kind weak rest).expr.groupsAt 1 ≤ _ := rest.groups_behind operand.expr weak
    rw [Sum.tokens, opens_operator kind]
    omega

theorem Sum.groups_behind (left : Expr) {op : Arith} (weak : op.strength = 1) : ∀ s : Sum,
    (foldLeft (.binary op left s.operands.1) s.operands.2).groupsAt 1 ≤ left.groupsAt 1 + Token.opens s.tokens
  | .last operand => by
    have hoperand := operand.groups_le
    have hnode : (Expr.binary op left operand.expr).groupsAt 1 = left.groupsAt 1 + operand.expr.groupsAt 2 :=
      Expr.groupsAt_binary weak _ _
    exact hnode.trans_le (Nat.add_le_add_left hoperand _)
  | .more operand op' token kind weak' rest => by
    have hoperand := operand.groups_le
    have hnode : (Expr.binary op left operand.expr).groupsAt 1 = left.groupsAt 1 + operand.expr.groupsAt 2 :=
      Expr.groupsAt_binary weak _ _
    have hrest := rest.groups_behind (.binary op left operand.expr) weak'
    rw [Sum.tokens, opens_operator kind]
    refine Nat.le_trans hrest ?_
    omega

theorem Product.groups_le : ∀ p : Product, p.expr.groupsAt 2 ≤ Token.opens p.tokens
  | .last operand => (Expr.groupsAt_mono (by decide) operand.expr).trans operand.groups_le
  | .more operand op token kind strong rest => by
    have hoperand := (Expr.groupsAt_mono (by decide : 2 ≤ 3) operand.expr).trans operand.groups_le
    have hrest : (Product.more operand op token kind strong rest).expr.groupsAt 2 ≤ _ :=
      rest.groups_behind operand.expr strong
    rw [Product.tokens, opens_operator kind]
    omega

theorem Product.groups_behind (left : Expr) {op : Arith} (strong : op.strength = 2) : ∀ p : Product,
    (foldLeft (.binary op left p.operands.1) p.operands.2).groupsAt 2 ≤ left.groupsAt 2 + Token.opens p.tokens
  | .last operand => by
    have hoperand := operand.groups_le
    have hnode : (Expr.binary op left operand.expr).groupsAt 2 = left.groupsAt 2 + operand.expr.groupsAt 3 :=
      Expr.groupsAt_binary strong _ _
    exact hnode.trans_le (Nat.add_le_add_left hoperand _)
  | .more operand op' token kind strong' rest => by
    have hoperand := operand.groups_le
    have hnode : (Expr.binary op left operand.expr).groupsAt 2 = left.groupsAt 2 + operand.expr.groupsAt 3 :=
      Expr.groupsAt_binary strong _ _
    have hrest := rest.groups_behind (.binary op left operand.expr) strong'
    rw [Product.tokens, opens_operator kind]
    refine Nat.le_trans hrest ?_
    omega

theorem Factor.groups_le : ∀ f : Factor, f.expr.groupsAt 3 ≤ Token.opens f.tokens
  | .glob v token kind => Nat.zero_le _
  | .number l => Nat.zero_le _
  | .group opening inner closing opens closes => by
    have hinner := inner.groups_le
    have houter := Expr.groupsAt_le 3 inner.expr
    rw [Expr.groupsAt_one] at hinner
    rw [Factor.tokens, List.cons_append, Token.opens_cons, Token.opens_append, if_pos opens]
    show inner.expr.groupsAt 3 ≤ _
    omega

end

end Grammar

/-! ## Printed text in pieces -/

/-- A piece of printed text. Atoms are constants, globs and operators. -/
inductive Piece where
  | blank | opening | closing
  | atom (cs : List Char)

/-- The token is a parenthesis. -/
def Token.isParen (t : Token) : Bool := t.kind == .openParen || t.kind == .closeParen

namespace Piece

def chars : Piece → List Char
  | blank => [' ']
  | opening => ['(']
  | closing => [')']
  | atom cs => cs

/-- The text of pieces. -/
def text (ps : List Piece) : List Char := ps.flatMap chars

/-- The piece as a parenthesis, if it is one. -/
def paren (position : Nat) : Piece → List Token
  | opening => [⟨.openParen, ['('], position⟩]
  | closing => [⟨.closeParen, [')'], position⟩]
  | _ => []

/-- The parentheses among pieces that stand at a position. -/
def parens (position : Nat) : List Piece → List Token
  | [] => []
  | p :: ps => p.paren position ++ parens (position + p.chars.length) ps

/-- Behind closing parentheses there is a blank or the end. -/
def Ended : List Piece → Prop
  | [] => True
  | blank :: _ => True
  | closing :: rest => Ended rest
  | _ => False

/-- The text is cut into tokens that are no parentheses. -/
def Plain (cs : List Char) : Prop :=
  ∀ position, ∃ tokens, Token.Cut position cs tokens ∧ ∀ t ∈ tokens, t.isParen = false

/-- Every atom is plain and ends at a blank, up to closing parentheses. -/
def Spaced : List Piece → Prop
  | [] => True
  | atom cs :: rest => Plain cs ∧ Ended rest ∧ Spaced rest
  | _ :: rest => Spaced rest

theorem text_append (xs ys : List Piece) : text (xs ++ ys) = text xs ++ text ys := List.flatMap_append

theorem text_cons (p : Piece) (ps : List Piece) : text (p :: ps) = p.chars ++ text ps := List.flatMap_cons

theorem Ended.breaks : ∀ {ps : List Piece}, Ended ps → Token.Breaks (text ps)
  | [], _ => Token.breaks_nil
  | blank :: ps, _ => Token.breaks_blank (text ps)
  | closing :: ps, _ => Token.breaks_closing (text ps)

/-- **Spaced pieces are cut into tokens, and their parentheses are those among the pieces.** -/
theorem scan_text : ∀ (ps : List Piece) (position : Nat), Spaced ps →
    ∃ tokens, Token.scan position (text ps) = .ok tokens ∧ tokens.filter Token.isParen = parens position ps
  | [], position, _ => ⟨[], by rw [text, List.flatMap_nil, Token.scan], rfl⟩
  | blank :: ps, position, h => by
    obtain ⟨tokens, hscan, hparens⟩ := scan_text ps (position + 1) h
    exact ⟨tokens, (Token.scan_blank position (text ps)).trans hscan, hparens⟩
  | opening :: ps, position, h => by
    obtain ⟨tokens, hscan, hparens⟩ := scan_text ps (position + 1) h
    have hopening := @Token.scan_symbol position '(' [] (text ps) _ rfl
    rw [List.length_singleton, hscan] at hopening
    exact ⟨_, hopening, congrArg (_ :: ·) hparens⟩
  | closing :: ps, position, h => by
    obtain ⟨tokens, hscan, hparens⟩ := scan_text ps (position + 1) h
    have hclosing := @Token.scan_symbol position ')' [] (text ps) _ rfl
    rw [List.length_singleton, hscan] at hclosing
    exact ⟨_, hclosing, congrArg (_ :: ·) hparens⟩
  | atom cs :: ps, position, ⟨hplain, hended, h⟩ => by
    obtain ⟨tokens, hscan, hparens⟩ := scan_text ps (position + cs.length) h
    obtain ⟨atoms, hcut, hatoms⟩ := hplain position
    have hall := hcut (text ps) hended.breaks
    rw [hscan] at hall
    refine ⟨atoms ++ tokens, (congrArg (Token.scan position) (text_cons _ _)).trans hall, ?_⟩
    rw [List.filter_append, List.filter_eq_nil_iff.2 (by simpa using hatoms), hparens]
    rfl

/-! ### Leaving parentheses out -/

/-- How many of the pieces are opening parentheses. -/
def openings : List Piece → Nat
  | [] => 0
  | opening :: ps => openings ps + 1
  | blank :: ps | closing :: ps | atom _ :: ps => openings ps

theorem opens_parens : ∀ (ps : List Piece) (position : Nat), Token.opens (parens position ps) = openings ps
  | [], _ => rfl
  | opening :: ps, position => by
    rw [parens, openings, ← opens_parens ps]
    exact Token.opens_cons _ _
  | closing :: ps, position => by
    rw [parens, openings, ← opens_parens ps]
    exact Token.opens_cons _ _
  | blank :: ps, position => opens_parens ps _
  | atom _ :: ps, position => opens_parens ps _

theorem openings_append : ∀ xs ys : List Piece, openings (xs ++ ys) = openings xs + openings ys
  | [], ys => (Nat.zero_add _).symm
  | opening :: xs, ys => by
    rw [List.cons_append, openings, openings, openings_append xs ys, Nat.add_right_comm]
  | closing :: xs, ys => openings_append xs ys
  | blank :: xs, ys => openings_append xs ys
  | atom _ :: xs, ys => openings_append xs ys

theorem opens_filter (tokens : List Token) : Token.opens (tokens.filter Token.isParen) = Token.opens tokens := by
  unfold Token.opens
  rw [List.countP_filter]
  refine List.countP_congr fun t _ => ?_
  simp only [Token.isParen, Bool.and_eq_true, Bool.or_eq_true, and_iff_left_iff_imp]
  exact .inl

theorem Ended.remove {p : Piece} (hp : p = opening ∨ p = closing) {ys : List Piece} :
    ∀ (xs : List Piece), Ended (xs ++ p :: ys) → Ended (xs ++ ys)
  | [], h => by
    obtain rfl | rfl := hp
    · exact h.elim
    · exact h
  | blank :: xs, h => trivial
  | closing :: xs, h => Ended.remove hp xs h

theorem Spaced.remove {p : Piece} (hp : p = opening ∨ p = closing) {ys : List Piece} :
    ∀ (xs : List Piece), Spaced (xs ++ p :: ys) → Spaced (xs ++ ys)
  | [], h => by
    obtain rfl | rfl := hp
    · exact h
    · exact h
  | atom cs :: xs, ⟨hplain, hended, h⟩ => ⟨hplain, Ended.remove hp xs hended, Spaced.remove hp xs h⟩
  | blank :: xs, h => Spaced.remove hp xs h
  | opening :: xs, h => Spaced.remove hp xs h
  | closing :: xs, h => Spaced.remove hp xs h

theorem parens_append : ∀ (xs ys : List Piece) (position : Nat),
    parens position (xs ++ ys) = parens position xs ++ parens (position + (text xs).length) ys
  | [], ys, position => rfl
  | p :: xs, ys, position => by
    rw [List.cons_append, parens, parens, parens_append xs ys, text_cons, List.length_append, List.append_assoc,
      Nat.add_assoc]

theorem position_lt_of_mem_parens {t : Token} : ∀ {ps : List Piece} {position : Nat}, t ∈ parens position ps →
    t.position < position + (text ps).length
  | p :: ps, position, h => by
    rw [text_cons, List.length_append, ← Nat.add_assoc]
    rcases List.mem_append.1 h with h | h
    · cases p with
      | opening =>
        obtain rfl := List.mem_singleton.1 h
        show position < position + 1 + _
        omega
      | closing =>
        obtain rfl := List.mem_singleton.1 h
        show position < position + 1 + _
        omega
      | blank => cases h
      | atom cs => cases h
    · exact position_lt_of_mem_parens h

/-- A parenthesis among the tokens is one of the pieces. -/
theorem exists_of_mem_parens {t : Token} : ∀ {ps : List Piece} {position : Nat}, t ∈ parens position ps →
    ∃ xs p ys, ps = xs ++ p :: ys ∧ t ∈ p.paren (position + (text xs).length)
  | p :: ps, position, h => by
    rcases List.mem_append.1 h with h | h
    · exact ⟨[], p, ps, rfl, h⟩
    · obtain ⟨xs, q, ys, rfl, hq⟩ := exists_of_mem_parens h
      refine ⟨p :: xs, q, ys, rfl, ?_⟩
      rw [text_cons, List.length_append, ← Nat.add_assoc]
      exact hq

theorem eq_opening {t : Token} {position : Nat} (kind : t.kind = .openParen) : ∀ {p : Piece}, t ∈ p.paren position →
    p = opening
  | opening, _ => rfl
  | closing, h => by
    rw [List.mem_singleton.1 h] at kind
    cases kind

theorem eq_closing {t : Token} {position : Nat} (kind : t.kind = .closeParen) : ∀ {p : Piece}, t ∈ p.paren position →
    p = closing
  | closing, _ => rfl
  | opening, h => by
    rw [List.mem_singleton.1 h] at kind
    cases kind

theorem of_mem_paren {t : Token} {position : Nat} : ∀ {p : Piece}, t ∈ p.paren position →
    t.position = position ∧ p.chars.length = 1
  | opening, h => by
    rw [List.mem_singleton.1 h]
    exact ⟨rfl, rfl⟩
  | closing, h => by
    rw [List.mem_singleton.1 h]
    exact ⟨rfl, rfl⟩

/-- Where a text has a parenthesis among its tokens, its pieces come apart. -/
theorem split_paren {ps : List Piece} {position : Nat} {t : Token} {before after : List Char} {c : Char}
    (htext : text ps = before ++ c :: after) (hmem : t ∈ parens position ps)
    (hposition : t.position = position + before.length) :
    ∃ xs p ys, ps = xs ++ p :: ys ∧ text xs = before ∧ text ys = after ∧ t ∈ p.paren t.position := by
  obtain ⟨xs, p, ys, rfl, hp⟩ := exists_of_mem_parens hmem
  obtain ⟨hat, hlength⟩ := of_mem_paren hp
  have hbefore : (text xs).length = before.length := by omega
  rw [text_append, text_cons] at htext
  obtain ⟨hxs, hrest⟩ := List.append_inj htext hbefore
  obtain ⟨d, hd⟩ := List.length_eq_one_iff.1 hlength
  rw [hd] at hrest
  exact ⟨xs, p, ys, rfl, hxs, (List.cons.inj hrest).2, hat ▸ hp⟩

/-- **A pair of parentheses can be left out of spaced pieces**, and leaves spaced pieces. -/
theorem exists_without {ps : List Piece} (h : Spaced ps) {a b c : List Char}
    (htext : text ps = a ++ '(' :: (b ++ ')' :: c)) (hopening : ⟨.openParen, ['('], a.length⟩ ∈ parens 0 ps)
    (hclosing : ⟨.closeParen, [')'], a.length + 1 + b.length⟩ ∈ parens 0 ps) :
    ∃ qs, Spaced qs ∧ text qs = a ++ (b ++ c) ∧ openings qs < openings ps := by
  obtain ⟨xs, p, ys, rfl, rfl, hys, hp⟩ := split_paren htext hopening (Nat.zero_add _).symm
  obtain rfl := eq_opening rfl hp
  rw [parens_append, List.mem_append] at hclosing
  have hbehind : ⟨.closeParen, [')'], (text xs).length + 1 + b.length⟩ ∈ parens ((text xs).length + 1) ys := by
    rcases hclosing with hclosing | hclosing
    · have hlt := position_lt_of_mem_parens hclosing
      dsimp only at hlt
      omega
    · rw [Nat.zero_add] at hclosing
      rcases List.mem_cons.1 hclosing with hclosing | hclosing
      · cases hclosing
      · exact hclosing
  obtain ⟨zs, q, ws, rfl, rfl, rfl, hq⟩ := split_paren hys hbehind rfl
  obtain rfl := eq_closing rfl hq
  refine ⟨xs ++ (zs ++ ws), ?_, ?_, ?_⟩
  · have hfirst : Spaced (xs ++ zs ++ closing :: ws) := by
      rw [List.append_assoc]
      exact h.remove (.inl rfl)
    rw [← List.append_assoc]
    exact hfirst.remove (.inr rfl)
  · rw [text_append, text_append]
  · simp only [openings_append, openings]
    omega

end Piece

/-! ## The pieces of an expression -/

namespace Piece

/-- Parentheses around pieces if they are needed. -/
def wrap (needed : Bool) (ps : List Piece) : List Piece := if needed then opening :: ps ++ [closing] else ps

theorem text_wrap (needed : Bool) (ps : List Piece) : text (wrap needed ps) = Expr.wrap needed (text ps) := by
  cases needed with
  | true =>
    show text (opening :: (ps ++ [closing])) = '(' :: (text ps ++ [')'])
    rw [text_cons, text_append]
    rfl
  | false => rfl

theorem openings_wrap (needed : Bool) (ps : List Piece) :
    openings (wrap needed ps) = openings ps + if needed then 1 else 0 := by
  cases needed with
  | true =>
    show openings (opening :: (ps ++ [closing])) = _
    rw [openings, openings_append]
    rfl
  | false => rfl

/-- These pieces are spaced wherever they stand in front of what ends an atom. -/
def Fits (ps : List Piece) : Prop := ∀ rest, Ended rest → Spaced rest → Spaced (ps ++ rest)

theorem Fits.wrap {ps : List Piece} (h : Fits ps) : ∀ needed : Bool, Fits (wrap needed ps)
  | false => h
  | true => by
    intro rest hended hrest
    show Spaced (opening :: ps ++ [closing] ++ rest)
    rw [List.append_assoc]
    exact h (closing :: rest) hended hrest

theorem Fits.binary {xs ys : List Piece} (hx : Fits xs) (hy : Fits ys) {symbol : List Char} (h : Plain symbol) :
    Fits (xs ++ blank :: atom symbol :: blank :: ys) := by
  intro rest hended hrest
  rw [List.append_assoc]
  exact hx (blank :: atom symbol :: blank :: (ys ++ rest)) trivial ⟨h, trivial, hy rest hended hrest⟩

theorem Fits.of_plain {cs : List Char} (h : Plain cs) : Fits [atom cs] := fun _ hended hrest => ⟨h, hended, hrest⟩

theorem Fits.spaced {ps : List Piece} (h : Fits ps) : Spaced ps := by
  rw [← List.append_nil ps]
  exact h [] trivial trivial

end Piece

open Piece

theorem Grammar.Literal.isParen_of_mem (l : Literal) {t : Token} (ht : t ∈ l.tokens) : t.isParen = false := by
  have hkind : (∃ op, t.kind = .arith op) ∨ (∃ x, t.kind = .number x) ∨ t.kind = .percent ∨ t.kind = .word := by
    rw [Literal.tokens, List.mem_append, List.mem_cons, Option.mem_toList, Option.mem_toList] at ht
    rcases ht with ht | rfl | ht
    · exact .inl (l.signed.kind t ht)
    · exact .inr (.inl ⟨_, l.number_kind⟩)
    · exact .inr (.inr (l.unit_scales.kind t ht))
  unfold Token.isParen
  rcases hkind with ⟨op, hk⟩ | ⟨x, hk⟩ | hk | hk <;> rw [hk] <;> rfl

theorem Finite.plain_sourceChars (x : Finite) : Plain x.sourceChars := by
  intro position
  obtain ⟨l, hcut, -⟩ := x.exists_literal position
  exact ⟨l.tokens, hcut, fun t => l.isParen_of_mem⟩

theorem plain_literal (cs : List Char) : Plain (Glob.literal cs) :=
  fun position => ⟨_, Token.cut_literal cs position, by simp [Token.isParen]⟩

theorem plain_arith (op : Arith) : Plain op.symbol.toList :=
  fun position => ⟨_, Token.cut_arith position op, by simp [Token.isParen]⟩

theorem plain_relation (rel : Relation) : Plain rel.symbol.toList :=
  fun position => ⟨_, Token.cut_relation position rel, by simp [Token.isParen]⟩

namespace Expr

/-- The pieces of which an expression's text is made. -/
def pieces : Expr → List Piece
  | const x => [.atom x.sourceChars]
  | var v => [.atom (Glob.literal v.text.toList)]
  | binary op l r =>
    Piece.wrap (l.strength < op.strength) l.pieces ++ .blank :: .atom op.symbol.toList :: .blank ::
      Piece.wrap (r.strength ≤ op.strength) r.pieces

theorem text_pieces : ∀ e : Expr, text e.pieces = e.chars
  | const x => List.append_nil _
  | var v => List.append_nil _
  | binary op l r => by
    rw [pieces, chars, text_append, text_wrap, l.text_pieces, List.append_assoc]
    simp only [text_cons, text_wrap, r.text_pieces]
    rfl

theorem fits_pieces : ∀ e : Expr, Fits e.pieces
  | const x => .of_plain x.plain_sourceChars
  | var _ => .of_plain (plain_literal _)
  | binary op l r => (l.fits_pieces.wrap _).binary (r.fits_pieces.wrap _) (plain_arith op)

theorem openings_pieces : ∀ e : Expr, openings e.pieces = e.groups
  | const _ => rfl
  | var _ => rfl
  | binary op l r => by
    rw [pieces, openings_append, openings_wrap, l.openings_pieces, groups]
    simp only [openings, openings_wrap, r.openings_pieces, decide_eq_true_eq, Nat.lt_succ_iff]

theorem groups_of_same {e f : Expr} (h : e.same f = true) : e.strength = f.strength ∧ e.groups = f.groups := by
  induction e generalizing f with
  | const x => cases f <;> first | exact ⟨rfl, rfl⟩ | cases h
  | var v => cases f <;> first | exact ⟨rfl, rfl⟩ | cases h
  | binary op l r ihl ihr =>
    cases f with
    | const => cases h
    | var => cases h
    | binary op' l' r' =>
      simp only [same, Bool.and_eq_true, beq_iff_eq] at h
      obtain ⟨⟨rfl, hl⟩, hr⟩ := h
      obtain ⟨hls, hlg⟩ := ihl hl
      obtain ⟨hrs, hrg⟩ := ihr hr
      exact ⟨rfl, by rw [groups, groups, hls, hlg, hrs, hrg]⟩

end Expr

namespace Node

/-- How many pairs of parentheses a node needs. -/
def groups : Node → Nat
  | expr e => e.groups
  | comparison _ l r => l.groups + r.groups

theorem groups_of_same : ∀ {n m : Node}, n.same m = true → n.groups = m.groups
  | expr _, expr _, h => (Expr.groups_of_same h).2
  | comparison _ l r, comparison _ l' r', h => by
    simp only [same, Bool.and_eq_true] at h
    rw [groups, groups, (Expr.groups_of_same h.1.2).2, (Expr.groups_of_same h.2).2]

/-- Equal nodes need as many parentheses as any tokens of them have. -/
theorem groups_le_opens {form : Form} {tokens : List Token} {m n : Node} (h : Node.ofTokens? form tokens = .ok m)
    (hsame : m.same n = true) : n.groups ≤ Token.opens tokens := by
  obtain ⟨d, hfits, rfl⟩ := sentence_of_ofTokens? h
  rw [Sentence.ofTokens?_tokens hfits] at h
  obtain rfl := Except.ok.inj h
  rw [← groups_of_same hsame]
  cases d with
  | expression e =>
    have he := e.groups_le
    rw [Expr.groupsAt_one] at he
    exact he
  | predicate l rel token kind r =>
    have hl := l.groups_le
    have hr := r.groups_le
    rw [Expr.groupsAt_one] at hl hr
    have hrel : token.kind ≠ .openParen := by
      intro hopen
      rw [kind] at hopen
      cases hopen
    rw [Sentence.tokens, Token.opens_between hrel]
    exact Nat.add_le_add hl hr

/-- The pieces of which a node's text is made. -/
def pieces : Node → List Piece
  | expr e => e.pieces
  | comparison rel l r => l.pieces ++ .blank :: .atom rel.symbol.toList :: .blank :: r.pieces

theorem text_pieces : ∀ n : Node, Piece.text n.pieces = n.chars
  | expr e => e.text_pieces
  | comparison rel l r => by
    rw [pieces, chars, text_append, l.text_pieces, List.append_assoc]
    simp only [text_cons, r.text_pieces]
    rfl

theorem spaced_pieces : ∀ n : Node, Spaced n.pieces
  | expr e => e.fits_pieces.spaced
  | comparison rel l r => (l.fits_pieces.binary r.fits_pieces (plain_relation rel)).spaced

theorem openings_pieces : ∀ n : Node, openings n.pieces = n.groups
  | expr e => e.openings_pieces
  | comparison rel l r => by
    rw [pieces, openings_append, l.openings_pieces]
    simp only [openings, r.openings_pieces]
    rfl

theorem exists_tokens_of_parse {form : Form} {text : String} {n : Node} (h : Node.parse form text = .ok n) :
    ∃ tokens, Token.scan 0 text.toList = .ok tokens ∧ Node.ofTokens? form tokens = .ok n := by
  cases hscan : Token.scan 0 text.toList with
  | error fault =>
    unfold Node.parse at h
    rw [hscan] at h
    cases h
  | ok tokens => exact ⟨tokens, rfl, (Node.parse_iff_ofTokens? hscan form n).1 h⟩

end Node

/-- **A node is printed with the fewest parentheses.** Every text that reads as the node, signs of zeros aside, has at
least as many; and without any pair of them, the printed text does not read as the node. -/
theorem fewest_parentheses (n : Node) : ∃ tokens, Token.scan 0 n.text.toList = .ok tokens ∧
    (∀ text m, Node.parse .either text = .ok m → m.same n = true →
      ∃ others, Token.scan 0 text.toList = .ok others ∧ Token.opens tokens ≤ Token.opens others) ∧
    ∀ a b c : List Char, n.text.toList = a ++ '(' :: (b ++ ')' :: c) → ⟨.openParen, ['('], a.length⟩ ∈ tokens →
      ⟨.closeParen, [')'], a.length + 1 + b.length⟩ ∈ tokens →
        ∀ m, Node.parse .either (String.ofList (a ++ (b ++ c))) = .ok m → m.same n = false := by
  have hchars : n.text.toList = Piece.text n.pieces := by rw [Node.text, String.toList_ofList, n.text_pieces]
  obtain ⟨tokens, hscan, hparens⟩ := scan_text _ 0 n.spaced_pieces
  have hopens : Token.opens tokens = n.groups := by
    rw [← opens_filter, hparens, opens_parens, n.openings_pieces]
  refine ⟨tokens, by rw [hchars, hscan], fun text m hparse hsame => ?_, fun a b c htext hopening hclosing m hparse => ?_⟩
  · obtain ⟨others, hothers, hm⟩ := Node.exists_tokens_of_parse hparse
    exact ⟨others, hothers, hopens.trans_le (Node.groups_le_opens hm hsame)⟩
  · have hparen : ∀ t, t ∈ tokens → t.isParen = true → t ∈ parens 0 n.pieces := by
      intro t ht hp
      rw [← hparens]
      exact List.mem_filter.2 ⟨ht, hp⟩
    obtain ⟨qs, hspaced, hqs, hfewer⟩ := exists_without n.spaced_pieces (hchars.symm.trans htext)
      (hparen _ hopening rfl) (hparen _ hclosing rfl)
    obtain ⟨fewer, hfewerScan, hfewerParens⟩ := scan_text _ 0 hspaced
    obtain ⟨others, hothers, hm⟩ := Node.exists_tokens_of_parse hparse
    rw [String.toList_ofList, ← hqs, hfewerScan] at hothers
    obtain rfl := Except.ok.inj hothers
    by_contra hsame
    have hle := Node.groups_le_opens hm (Bool.eq_true_of_not_eq_false hsame)
    rw [← opens_filter, hfewerParens, opens_parens, ← n.openings_pieces] at hle
    omega

/-- A difference on the right keeps its parentheses; without them it reads as another node. -/
theorem fewest_parentheses_right :
    let a : Expr := .var ⟨⟨"a"⟩, by decide⟩
    let b : Expr := .var ⟨⟨"b"⟩, by decide⟩
    let n : Node := .expr (.binary .minus a (.binary .minus b a))
    let left : Node := .expr (.binary .minus (.binary .minus a b) a)
    Node.parse .either "(\"a\") - ((\"b\" - (\"a\")))" = .ok n ∧ n.same n = true ∧
      (∃ tokens others, Token.scan 0 n.text.toList = .ok tokens ∧
        Token.scan 0 "(\"a\") - ((\"b\" - (\"a\")))".toList = .ok others ∧ Token.opens tokens ≤ Token.opens others) ∧
      n.text = "\"a\" - (\"b\" - \"a\")" ∧ Node.parse .either "\"a\" - \"b\" - \"a\"" = .ok left ∧
        left.same n = false := by
  intro a b n left
  have hparse : Node.parse .either "(\"a\") - ((\"b\" - (\"a\")))" = .ok n := eq_ok_of_toOption (by decide +kernel)
  have hleft : Node.parse .either "\"a\" - \"b\" - \"a\"" = .ok left := eq_ok_of_toOption (by decide +kernel)
  have hsame : n.same n = true := by decide +kernel
  have htext : n.text = "\"a\" - (\"b\" - \"a\")" := by decide +kernel
  have hparens : (Token.scan 0 n.text.toList).toOption.any (fun tokens =>
      tokens.contains ⟨.openParen, ['('], 6⟩ && tokens.contains ⟨.closeParen, [')'], 16⟩) = true := by decide +kernel
  obtain ⟨tokens, hscan, hfewest, hneeded⟩ := fewest_parentheses n
  obtain ⟨others, hothers, hle⟩ := hfewest _ n hparse hsame
  rw [hscan] at hparens
  have hmem : tokens.contains ⟨.openParen, ['('], 6⟩ = true ∧ tokens.contains ⟨.closeParen, [')'], 16⟩ = true :=
    Bool.and_eq_true_iff.1 hparens
  refine ⟨hparse, hsame, ⟨tokens, others, hscan, hothers, hle⟩, htext, hleft, ?_⟩
  exact hneeded "\"a\" - ".toList "\"b\" - \"a\"".toList [] (by rw [htext]; decide +kernel)
    (List.contains_iff_mem.1 hmem.1) (List.contains_iff_mem.1 hmem.2) left hleft

end MetricExpr
