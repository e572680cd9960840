import MetricExpr.Proofs.Expr.Derivation
import MetricExpr.Proofs.Expr.Scanning
/-!
# Printing and parsing

The text of a node is cut into the tokens of a derivation whose node it is (`Expr.printed`), and tokens of a derivation
are read as its node; so the text reads back as the node. The printer puts parentheses where the grammar asks for a
stronger operand: a product to the right of `+` and `-`, a factor to the right of `*` and `/`.
-/
namespace MetricExpr

open Grammar

/-! ## Operands at the end -/

namespace Grammar

/-- A product with one more factor at its end. -/
def Product.snoc (op : Arith) (token : Token) (kind : token.kind = .arith op) (strong : op.strength = 2)
    (f : Factor) : Product → Product
  | .last operand => .more operand op token kind strong (.last f)
  | .more operand op' token' kind' strong' rest =>
    .more operand op' token' kind' strong' (rest.snoc op token kind strong f)

def Sum.snoc (op : Arith) (token : Token) (kind : token.kind = .arith op) (weak : op.strength = 1) (p : Product) :
    Sum → Sum
  | .last operand => .more operand op token kind weak (.last p)
  | .more operand op' token' kind' weak' rest => .more operand op' token' kind' weak' (rest.snoc op token kind weak p)

variable {op : Arith} {token : Token} (kind : token.kind = .arith op)

theorem Product.tokens_snoc (strong : op.strength = 2) (f : Factor) : ∀ p : Product,
    (p.snoc op token kind strong f).tokens = p.tokens ++ token :: f.tokens
  | .last _ => rfl
  | .more operand _ _ _ _ rest => by
    unfold Product.snoc
    simp only [Product.tokens, rest.tokens_snoc strong f, List.append_assoc, List.cons_append]

theorem Product.operands_snoc (strong : op.strength = 2) (f : Factor) : ∀ p : Product,
    (p.snoc op token kind strong f).operands = (p.operands.1, p.operands.2 ++ [(op, f.expr)])
  | .last _ => rfl
  | .more operand _ _ _ _ rest => by
    unfold Product.snoc
    simp only [Product.operands, rest.operands_snoc strong f, List.cons_append]

theorem Sum.tokens_snoc (weak : op.strength = 1) (p : Product) : ∀ s : Sum,
    (s.snoc op token kind weak p).tokens = s.tokens ++ token :: p.tokens
  | .last _ => rfl
  | .more operand _ _ _ _ rest => by
    unfold Sum.snoc
    simp only [Sum.tokens, rest.tokens_snoc weak p, List.append_assoc, List.cons_append]

theorem Sum.operands_snoc (weak : op.strength = 1) (p : Product) : ∀ s : Sum,
    (s.snoc op token kind weak p).operands = (s.operands.1, s.operands.2 ++ [(op, p.expr)])
  | .last _ => rfl
  | .more operand _ _ _ _ rest => by
    unfold Sum.snoc
    simp only [Sum.operands, rest.operands_snoc weak p, List.cons_append]

theorem foldLeft_concat (first : Expr) (later : List (Arith × Expr)) (op : Arith) (e : Expr) :
    foldLeft first (later ++ [(op, e)]) = .binary op (foldLeft first later) e := by
  unfold foldLeft
  rw [List.foldl_append]
  rfl

theorem Product.expr_snoc (strong : op.strength = 2) (p : Product) (f : Factor) :
    (p.snoc op token kind strong f).expr = .binary op p.expr f.expr := by
  unfold Product.expr
  rw [p.operands_snoc kind strong f]
  exact foldLeft_concat _ _ _ _

theorem Sum.expr_snoc (weak : op.strength = 1) (s : Sum) (p : Product) :
    (s.snoc op token kind weak p).expr = .binary op s.expr p.expr := by
  unfold Sum.expr
  rw [s.operands_snoc kind weak p]
  exact foldLeft_concat _ _ _ _

end Grammar

/-! ## Texts of operands -/

/-- The text at a position is cut into the tokens of a factor (of a product, of a sum) that stands for the expression. -/
def PrintsFactor (position : Nat) (cs : List Char) (e : Expr) : Prop :=
  ∃ f : Factor, Token.Cut position cs f.tokens ∧ f.expr = e

def PrintsProduct (position : Nat) (cs : List Char) (e : Expr) : Prop :=
  ∃ p : Product, Token.Cut position cs p.tokens ∧ p.expr = e

def PrintsSum (position : Nat) (cs : List Char) (e : Expr) : Prop :=
  ∃ s : Sum, Token.Cut position cs s.tokens ∧ s.expr = e

section
variable {position : Nat} {cs : List Char} {e : Expr}

theorem PrintsFactor.product : PrintsFactor position cs e → PrintsProduct position cs e
  | ⟨f, hcut, he⟩ => ⟨.last f, hcut, he⟩

theorem PrintsProduct.sum : PrintsProduct position cs e → PrintsSum position cs e
  | ⟨p, hcut, he⟩ => ⟨.last p, hcut, he⟩

theorem PrintsSum.parenthesised : PrintsSum (position + 1) cs e → PrintsFactor position ('(' :: cs ++ [')']) e
  | ⟨s, hcut, he⟩ => ⟨.group ⟨.openParen, ['('], position⟩ s ⟨.closeParen, [')'], position + 1 + cs.length⟩ rfl rfl,
      hcut.parenthesised, he⟩

/-- A sum and a product with an operator between them. -/
theorem PrintsSum.binary {right : List Char} {r : Expr} {op : Arith} (weak : op.strength = 1)
    (hleft : PrintsSum position cs e)
    (hright : PrintsProduct (position + cs.length + 1 + op.symbol.toList.length + 1) right r) :
    PrintsSum position (cs ++ ' ' :: (op.symbol.toList ++ ' ' :: right)) (.binary op e r) := by
  obtain ⟨s, hs, rfl⟩ := hleft
  obtain ⟨p, hp, rfl⟩ := hright
  refine ⟨s.snoc op ⟨.arith op, op.symbol.toList, position + cs.length + 1⟩ rfl weak p, ?_, s.expr_snoc rfl weak p⟩
  rw [s.tokens_snoc rfl weak p]
  exact hs.append_blank ((Token.cut_arith _ op).append_blank hp)

theorem PrintsProduct.binary {right : List Char} {r : Expr} {op : Arith} (strong : op.strength = 2)
    (hleft : PrintsProduct position cs e)
    (hright : PrintsFactor (position + cs.length + 1 + op.symbol.toList.length + 1) right r) :
    PrintsProduct position (cs ++ ' ' :: (op.symbol.toList ++ ' ' :: right)) (.binary op e r) := by
  obtain ⟨p, hp, rfl⟩ := hleft
  obtain ⟨f, hf, rfl⟩ := hright
  refine ⟨p.snoc op ⟨.arith op, op.symbol.toList, position + cs.length + 1⟩ rfl strong f, ?_,
    p.expr_snoc rfl strong f⟩
  rw [p.tokens_snoc rfl strong f]
  exact hp.append_blank ((Token.cut_arith _ op).append_blank hf)

end

/-! ## Texts of expressions -/

theorem Finite.magnitude_of_nonneg {x : Finite} (h : ¬ x.negative = true) : x.magnitude = x := by
  obtain ⟨negative, significand, exponent, canonical⟩ := x
  have hfalse : negative = false := Bool.not_eq_true _ ▸ h
  subst hfalse
  rfl

theorem Finite.neg_magnitude {x : Finite} (h : x.negative = true) : -Binary64.finite x.magnitude = .finite x := by
  obtain ⟨negative, significand, exponent, canonical⟩ := x
  have htrue : negative = true := h
  subst htrue
  rfl

/-- A constant is printed as a literal: its sign touches the number. -/
theorem Finite.exists_literal (x : Finite) (position : Nat) :
    ∃ l : Literal, Token.Cut position x.sourceChars l.tokens ∧ l.value = x := by
  obtain ⟨n, hn, hvalue, htext⟩ := x.exists_numeral
  have hcut := Token.cut_lexeme hn
  rw [hvalue] at hcut
  rw [htext]
  by_cases hneg : x.negative = true
  · rw [if_pos hneg]
    refine ⟨⟨some ⟨.arith .minus, ['-'], position⟩, ⟨.number (.finite x.magnitude), n.lexeme, position + 1⟩,
      none, true, _, none, x, .minus rfl rfl, rfl, .plain, neg_magnitude hneg⟩, ?_, rfl⟩
    exact Token.cut_minus (hcut (position + 1))
  · rw [if_neg hneg]
    refine ⟨⟨none, ⟨.number (.finite x.magnitude), n.lexeme, position⟩, none, false, _, none, x, .unsigned, rfl,
      .plain, congrArg Binary64.finite (magnitude_of_nonneg hneg)⟩, ?_, rfl⟩
    exact hcut position

theorem Finite.printsFactor (x : Finite) (position : Nat) : PrintsFactor position x.sourceChars (.const x) := by
  obtain ⟨l, hcut, rfl⟩ := x.exists_literal position
  exact ⟨.number l, hcut, rfl⟩

theorem Variable.printsFactor (v : Variable) (position : Nat) :
    PrintsFactor position (Glob.literal v.text.toList) (.var v) :=
  ⟨.glob v ⟨.glob v.text.toList, Glob.literal v.text.toList, position⟩ rfl, Token.cut_literal _ position, rfl⟩

/-- Everything that an expression's text is, by its strength. -/
structure Expr.Printed (e : Expr) : Prop where
  sum : ∀ position, PrintsSum position e.chars e
  product : 2 ≤ e.strength → ∀ position, PrintsProduct position e.chars e
  factor : 3 ≤ e.strength → ∀ position, PrintsFactor position e.chars e

namespace Expr

theorem Printed.wrap_factor {e : Expr} (h : e.Printed) (needed : Bool) (hneeded : needed = false → 3 ≤ e.strength)
    (position : Nat) : PrintsFactor position (wrap needed e.chars) e := by
  cases needed with
  | true => exact (h.sum (position + 1)).parenthesised
  | false => exact h.factor (hneeded rfl) position

theorem Printed.wrap_product {e : Expr} (h : e.Printed) (needed : Bool) (hneeded : needed = false → 2 ≤ e.strength)
    (position : Nat) : PrintsProduct position (wrap needed e.chars) e := by
  cases needed with
  | true => exact (h.sum (position + 1)).parenthesised.product
  | false => exact h.product (hneeded rfl) position

theorem Printed.wrap_sum {e : Expr} (h : e.Printed) (needed : Bool) (position : Nat) :
    PrintsSum position (wrap needed e.chars) e := by
  cases needed with
  | true => exact (h.sum (position + 1)).parenthesised.product.sum
  | false => exact h.sum position

theorem printed_of_factor {e : Expr} (h : ∀ position, PrintsFactor position e.chars e) : e.Printed :=
  ⟨fun position => (h position).product.sum, fun _ position => (h position).product, fun _ => h⟩

theorem strength_eq_of_not_strong {op : Arith} (h : op.strength ≠ 2) : op.strength = 1 := by
  cases op with
  | plus => rfl
  | minus => rfl
  | times => exact absurd rfl h
  | divide => exact absurd rfl h

/-- The text of an expression is that of a sum, of a product if its root is strong, and of a factor if it is a leaf. -/
theorem printed : ∀ e : Expr, e.Printed
  | const x => printed_of_factor x.printsFactor
  | var v => printed_of_factor v.printsFactor
  | binary op l r => by
    have hl := l.printed
    have hr := r.printed
    have htext : (binary op l r).chars = wrap (l.strength < op.strength) l.chars ++
        ' ' :: (op.symbol.toList ++ ' ' :: wrap (r.strength ≤ op.strength) r.chars) := by
      rw [chars, List.append_assoc]
      rfl
    by_cases strong : op.strength = 2
    · have hproduct : ∀ position, PrintsProduct position (binary op l r).chars (binary op l r) := by
        intro position
        rw [htext, strong]
        refine (hl.wrap_product _ ?_ position).binary strong (hr.wrap_factor _ ?_ _)
        · intro h
          have := of_decide_eq_false h
          omega
        · intro h
          have := of_decide_eq_false h
          omega
      refine ⟨fun position => (hproduct position).sum, fun _ => hproduct, fun h => ?_⟩
      have hstrength : (binary op l r).strength = 2 := strong
      omega
    · have weak := strength_eq_of_not_strong strong
      have hstrength : (binary op l r).strength = 1 := weak
      refine ⟨fun position => ?_, fun h => by omega, fun h => by omega⟩
      rw [htext, weak]
      refine (hl.wrap_sum _ position).binary weak (hr.wrap_product _ ?_ _)
      intro h
      have := of_decide_eq_false h
      omega

end Expr

/-! ## Texts of nodes -/

/-- The text of a node is cut into the tokens of a sentence that stands for it. -/
theorem Node.exists_sentence : ∀ n : Node, ∃ d : Sentence, Token.scan 0 n.chars = .ok d.tokens ∧ d.node = n
  | expr e => by
    obtain ⟨s, hcut, he⟩ := e.printed.sum 0
    exact ⟨.expression s, hcut.scan_eq, congrArg expr he⟩
  | comparison rel l r => by
    obtain ⟨s, hs, rfl⟩ := l.printed.sum 0
    obtain ⟨t, ht, rfl⟩ := r.printed.sum (0 + s.expr.chars.length + 1 + rel.symbol.toList.length + 1)
    refine ⟨.predicate s rel ⟨.relation rel, rel.symbol.toList, 0 + s.expr.chars.length + 1⟩ rfl t, ?_, rfl⟩
    have hcut := hs.append_blank ((Token.cut_relation _ rel).append_blank ht)
    rw [chars, List.append_assoc]
    exact hcut.scan_eq

theorem Node.parse_of_sentence {form : Form} {n : Node} {d : Sentence} (hscan : Token.scan 0 n.chars = .ok d.tokens)
    (hfits : d.Fits form) : Node.parse form n.text = .ok d.node := by
  have htext : Token.scan 0 n.text.toList = .ok d.tokens := by
    unfold Node.text
    rw [String.toList_ofList, hscan]
  exact (Node.parse_iff_ofTokens? htext form d.node).mpr (Sentence.ofTokens?_tokens hfits)

/-- **A node's text reads back as the node**, signs of zeros included: at the entry point for either kind of node, and at
the entry point for its own kind. -/
theorem parse_text (n : Node) : Node.parse .either n.text = .ok n ∧
    match n with
    | .expr _ => Node.parse .expression n.text = .ok n
    | .comparison .. => Node.parse .predicate n.text = .ok n := by
  obtain ⟨d, hscan, rfl⟩ := n.exists_sentence
  cases d with
  | expression s => exact ⟨Node.parse_of_sentence hscan trivial, Node.parse_of_sentence hscan trivial⟩
  | predicate l rel token kind r =>
    exact ⟨Node.parse_of_sentence hscan trivial, Node.parse_of_sentence hscan trivial⟩

end MetricExpr
