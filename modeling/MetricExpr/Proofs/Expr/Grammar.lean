import MetricExpr.Expr.Parse
/-!
# The grammar of expressions

A derivation is a tree over tokens, by the rules

    sentence → sum | sum relation sum
    sum      → product (('+' | '-') product)*
    product  → factor (('*' | '/') factor)*
    factor   → glob | '(' sum ')' | sign? number unit?

Its leaves carry what makes them leaves: a glob is not empty, a sign touches the number behind it, a word behind a number
is a unit, and the number they make is finite. A derivation has a list of tokens and a node; the node is a fold from the
left over the operands of each rule. No list of tokens has two derivations (`Sentence.tokens_inj`).
-/
namespace MetricExpr

/-! ## Variables and their texts -/

theorem Variable.of?_text (v : Variable) : Variable.of? ⟨String.ofList v.text.toList⟩ = some v := by
  unfold Variable.of?
  simp only [String.ofList_toList]
  exact dif_pos v.nonempty

theorem Variable.text_of? {g : Glob} {v : Variable} (h : Variable.of? g = some v) : v.text = g.text := by
  unfold Variable.of? at h
  split at h
  · rw [← Option.some.inj h]
    rfl
  · cases h

namespace Grammar

/-! ## Numbers with sign and unit -/

/-- The units that are words, in small letters, and their factors. -/
def unitWords : List (List Char × Binary64) := [
  (['k'], .ofInt 1000), (['k', 'b'], .ofInt 1000), (['m'], .ofInt 1000000), (['m', 'b'], .ofInt 1000000),
  (['g'], .ofInt 1000000000), (['g', 'b'], .ofInt 1000000000)]

/-- A number is negative by a minus in front of it. A sign must end where the number starts. -/
inductive SignedBy (number : Token) : Option Token → Bool → Prop where
  | unsigned : SignedBy number none false
  | plus {sign : Token} : sign.kind = .arith .plus → number.position = sign.position + 1 →
      SignedBy number (some sign) false
  | minus {sign : Token} : sign.kind = .arith .minus → number.position = sign.position + 1 →
      SignedBy number (some sign) true

/-- A number is scaled by a per cent sign or by a unit in any letter case. -/
inductive ScaledBy : Option Token → Option Binary64 → Prop where
  | plain : ScaledBy none none
  | percent {unit : Token} : unit.kind = .percent → ScaledBy (some unit) (some percentFactor)
  | word {unit : Token} {factor : Binary64} : unit.kind = .word →
      unitWords.lookup (unit.text.map Char.toLower) = some factor → ScaledBy (some unit) (some factor)

/-- The size of a number with its sign and its unit's factor. -/
def scaled (negative : Bool) (size : Binary64) (factor : Option Binary64) : Binary64 :=
  let x := if negative then -size else size
  factor.elim x (x * ·)

/-- A finite number with its sign and its unit. -/
structure Literal where
  sign : Option Token
  number : Token
  unit : Option Token
  negative : Bool
  size : Binary64
  factor : Option Binary64
  value : Finite
  signed : SignedBy number sign negative
  number_kind : number.kind = .number size
  unit_scales : ScaledBy unit factor
  value_eq : scaled negative size factor = .finite value

/-! ## Derivations -/

mutual

/-- Products with `+` or `-` between them. -/
inductive Sum where
  | last (operand : Product)
  | more (operand : Product) (op : Arith) (token : Token) (kind : token.kind = .arith op) (weak : op.strength = 1)
      (rest : Sum)

/-- Factors with `*` or `/` between them. -/
inductive Product where
  | last (operand : Factor)
  | more (operand : Factor) (op : Arith) (token : Token) (kind : token.kind = .arith op) (strong : op.strength = 2)
      (rest : Product)

/-- A glob, a number or a sum in parentheses. -/
inductive Factor where
  | glob (v : Variable) (token : Token) (kind : token.kind = .glob v.text.toList)
  | number (literal : Literal)
  | group (opening : Token) (inner : Sum) (closing : Token) (opens : opening.kind = .openParen)
      (closes : closing.kind = .closeParen)

end

/-- A sum, or two sums with a comparison between them. -/
inductive Sentence where
  | expression (e : Sum)
  | predicate (left : Sum) (rel : Relation) (token : Token) (kind : token.kind = .relation rel) (right : Sum)

/-- Which sentences an entry point asks for. -/
def Sentence.Fits : Form → Sentence → Prop
  | .expression, .predicate .. | .predicate, .expression _ => False
  | _, _ => True

def Literal.tokens (l : Literal) : List Token := l.sign.toList ++ l.number :: l.unit.toList

mutual

def Sum.tokens : Sum → List Token
  | .last operand => operand.tokens
  | .more operand _ token _ _ rest => operand.tokens ++ token :: rest.tokens

def Product.tokens : Product → List Token
  | .last operand => operand.tokens
  | .more operand _ token _ _ rest => operand.tokens ++ token :: rest.tokens

def Factor.tokens : Factor → List Token
  | .glob _ token _ => [token]
  | .number literal => literal.tokens
  | .group opening inner closing _ _ => opening :: inner.tokens ++ [closing]

end

def Sentence.tokens : Sentence → List Token
  | .expression e => e.tokens
  | .predicate left _ token _ right => left.tokens ++ token :: right.tokens

/-- An operand and the operands behind it, each with the operator in front of it, taken together from the left. -/
def foldLeft (first : Expr) (later : List (Arith × Expr)) : Expr :=
  later.foldl (fun left next => .binary next.1 left next.2) first

mutual

/-- The first operand of a sum, and the others with the operators in front of them. -/
def Sum.operands : Sum → Expr × List (Arith × Expr)
  | .last operand => (foldLeft operand.operands.1 operand.operands.2, [])
  | .more operand op _ _ _ rest =>
    (foldLeft operand.operands.1 operand.operands.2, (op, rest.operands.1) :: rest.operands.2)

def Product.operands : Product → Expr × List (Arith × Expr)
  | .last operand => (operand.expr, [])
  | .more operand op _ _ _ rest => (operand.expr, (op, rest.operands.1) :: rest.operands.2)

def Factor.expr : Factor → Expr
  | .glob v _ _ => .var v
  | .number literal => .const literal.value
  | .group _ inner _ _ _ => foldLeft inner.operands.1 inner.operands.2

end

/-- The expression of a product: its operands folded from the left. -/
def Product.expr (p : Product) : Expr := foldLeft p.operands.1 p.operands.2

def Sum.expr (s : Sum) : Expr := foldLeft s.operands.1 s.operands.2

def Sentence.node : Sentence → Node
  | .expression e => .expr e.expr
  | .predicate left rel _ _ right => .comparison rel left.expr right.expr

/-! ## Unique derivations -/

/-- What may stand behind an operand whose operators have at least this strength: no unit, and no such operator. -/
def Stops (strength : Nat) (rest : List Token) : Prop :=
  ∀ t ∈ rest.head?, t.kind ≠ .percent ∧ t.kind ≠ .word ∧ ∀ op, t.kind = .arith op → op.strength < strength

theorem stops_nil (k : Nat) : Stops k [] := fun _ ht => nomatch ht

theorem stops_arith {k : Nat} {op : Arith} {token : Token} (kind : token.kind = .arith op) (h : op.strength < k)
    (rest : List Token) : Stops k (token :: rest) := by
  intro t ht
  cases ht
  rw [kind]
  refine ⟨nofun, nofun, fun op' hop => ?_⟩
  cases hop
  exact h

theorem stops_closeParen {token : Token} (kind : token.kind = .closeParen) (k : Nat) (rest : List Token) :
    Stops k (token :: rest) := by
  intro t ht
  cases ht
  rw [kind]
  exact ⟨nofun, nofun, nofun⟩

theorem stops_relation {token : Token} {rel : Relation} (kind : token.kind = .relation rel) (k : Nat)
    (rest : List Token) : Stops k (token :: rest) := by
  intro t ht
  cases ht
  rw [kind]
  exact ⟨nofun, nofun, nofun⟩

theorem Stops.mono {k l : Nat} {rest : List Token} (h : Stops k rest) (hkl : k ≤ l) : Stops l rest := by
  intro t ht
  obtain ⟨h1, h2, h3⟩ := h t ht
  exact ⟨h1, h2, fun op hop => Nat.lt_of_lt_of_le (h3 op hop) hkl⟩

theorem Stops.not_arith {k : Nat} {op : Arith} {token : Token} {rest : List Token} (h : Stops k (token :: rest))
    (kind : token.kind = .arith op) (strong : k ≤ op.strength) : False := by
  have hlt := (h token rfl).2.2 op kind
  omega

theorem Stops.of_no_operator {k : Nat} {rest : List Token} (h : Stops (k + 1) rest)
    (hop : ¬ ∃ t more op, rest = t :: more ∧ t.kind = .arith op ∧ op.strength = k) : Stops k rest := by
  intro t ht
  obtain ⟨h1, h2, h3⟩ := h t ht
  refine ⟨h1, h2, fun op kind => ?_⟩
  have hle := h3 op kind
  have hne : op.strength ≠ k := by
    intro hk
    cases rest with
    | nil => cases ht
    | cons t' more =>
      cases ht
      exact hop ⟨t, more, op, rfl, kind, hk⟩
  omega

theorem SignedBy.kind {number : Token} {sign : Option Token} {b : Bool} (h : SignedBy number sign b) :
    ∀ t ∈ sign, ∃ op, t.kind = .arith op := by
  rintro t rfl
  cases h with
  | plus kind _ => exact ⟨_, kind⟩
  | minus kind _ => exact ⟨_, kind⟩

theorem ScaledBy.kind {unit : Option Token} {x : Option Binary64} (h : ScaledBy unit x) :
    ∀ t ∈ unit, t.kind = .percent ∨ t.kind = .word := by
  rintro t rfl
  cases h with
  | percent kind => exact .inl kind
  | word kind _ => exact .inr kind

theorem SignedBy.unique {number : Token} {sign : Option Token} {b b' : Bool} (h : SignedBy number sign b)
    (h' : SignedBy number sign b') : b = b' := by
  cases h with
  | unsigned => cases h'; rfl
  | plus kind _ =>
    cases h' with
    | plus => rfl
    | minus kind' _ => rw [kind] at kind'; cases kind'
  | minus kind _ =>
    cases h' with
    | plus kind' _ => rw [kind] at kind'; cases kind'
    | minus => rfl

theorem ScaledBy.unique {unit : Option Token} {x x' : Option Binary64} (h : ScaledBy unit x) (h' : ScaledBy unit x') :
    x = x' := by
  cases h with
  | plain => cases h'; rfl
  | percent kind =>
    cases h' with
    | percent => rfl
    | word kind' _ => rw [kind] at kind'; cases kind'
  | word kind found =>
    cases h' with
    | percent kind' => rw [kind] at kind'; cases kind'
    | word _ found' => rw [← found, ← found']

theorem Literal.ext_tokens : ∀ {l l' : Literal}, l.sign = l'.sign → l.number = l'.number → l.unit = l'.unit → l = l'
  | ⟨_, _, _, negative, size, factor, value, signed, kind, scales, value_eq⟩,
    ⟨_, _, _, negative', size', factor', value', signed', kind', scales', value_eq'⟩, rfl, rfl, rfl => by
    have hn : negative = negative' := signed.unique signed'
    have hf : factor = factor' := scales.unique scales'
    have hs : size = size' := by
      rw [kind] at kind'
      exact TokenKind.number.inj kind'
    subst hn hf hs
    have hv : value = value' := by
      rw [value_eq] at value_eq'
      exact Binary64.finite.inj value_eq'
    subst hv
    rfl

/-- An optional token of a class is found in front of a rest that does not start with one. -/
theorem optional_inj {p : Token → Prop} : ∀ {o o' : Option Token} {rest rest' : List Token}, (∀ t ∈ o, p t) →
    (∀ t ∈ o', p t) → (∀ t ∈ rest.head?, ¬ p t) → (∀ t ∈ rest'.head?, ¬ p t) →
    o.toList ++ rest = o'.toList ++ rest' → o = o' ∧ rest = rest'
  | none, none, _, _, _, _, _, _, heq => ⟨rfl, heq⟩
  | none, some t, _, _, _, ho', h, _, heq => by
    have hr := heq.symm
    subst hr
    exact absurd (ho' t rfl) (h t rfl)
  | some t, none, _, _, ho, _, _, h', heq => by
    have hr := heq
    subst hr
    exact absurd (ho t rfl) (h' t rfl)
  | some _, some _, _, _, _, _, _, _, heq => by
    obtain ⟨ht, hr⟩ := List.cons.inj heq
    exact ⟨congrArg some ht, hr⟩

theorem Literal.tokens_inj {l l' : Literal} {rest rest' : List Token} (h : Stops 3 rest) (h' : Stops 3 rest')
    (heq : l.tokens ++ rest = l'.tokens ++ rest') : l = l' ∧ rest = rest' := by
  unfold Literal.tokens at heq
  rw [List.append_assoc, List.append_assoc, List.cons_append, List.cons_append] at heq
  have hnumber : ∀ (m : Literal) (u : List Token), ∀ t ∈ (m.number :: u).head?, ¬ ∃ op, t.kind = .arith op := by
    rintro m u t ht ⟨op, hop⟩
    cases ht
    rw [m.number_kind] at hop
    cases hop
  have hunit : ∀ {u : List Token}, Stops 3 u → ∀ t ∈ u.head?, ¬ (t.kind = .percent ∨ t.kind = .word) := by
    intro u hu t ht hk
    exact hk.elim (hu t ht).1 (hu t ht).2.1
  obtain ⟨hs, htail⟩ := optional_inj l.signed.kind l'.signed.kind (hnumber l _) (hnumber l' _) heq
  obtain ⟨hn, htail⟩ := List.cons.inj htail
  obtain ⟨hu, hr⟩ := optional_inj l.unit_scales.kind l'.unit_scales.kind (hunit h) (hunit h') htail
  exact ⟨Literal.ext_tokens hs hn hu, hr⟩

theorem Literal.head_kind (l : Literal) {t : Token} {rest rest' : List Token} (h : l.tokens ++ rest = t :: rest') :
    (∀ body, t.kind ≠ .glob body) ∧ t.kind ≠ .openParen := by
  unfold Literal.tokens at h
  have hs := l.signed.kind
  cases hsign : l.sign with
  | none =>
    rw [hsign] at h
    rw [← (List.cons.inj h).1, l.number_kind]
    exact ⟨fun _ => nofun, nofun⟩
  | some sign =>
    rw [hsign] at h hs
    obtain ⟨op, hop⟩ := hs sign rfl
    rw [← (List.cons.inj h).1, hop]
    exact ⟨fun _ => nofun, nofun⟩

mutual

/-- The first tokens of a sum and what follows it are known. -/
theorem Sum.tokens_inj : ∀ {s s' : Sum} {rest rest' : List Token}, Stops 1 rest → Stops 1 rest' →
    s.tokens ++ rest = s'.tokens ++ rest' → s = s' ∧ rest = rest'
  | .last operand, .last operand', rest, rest', h, h', heq => by
    obtain ⟨rfl, hr⟩ := Product.tokens_inj (h.mono (by decide)) (h'.mono (by decide)) heq
    exact ⟨rfl, hr⟩
  | .last operand, .more operand' op' token' kind' weak' more', rest, rest', h, h', heq => by
    simp only [Sum.tokens, List.append_assoc, List.cons_append] at heq
    obtain ⟨-, hr⟩ := Product.tokens_inj (h.mono (by decide)) (stops_arith kind' (by omega) _) heq
    rw [hr] at h
    exact (h.not_arith kind' (by omega)).elim
  | .more operand op token kind weak more, .last operand', rest, rest', h, h', heq => by
    simp only [Sum.tokens, List.append_assoc, List.cons_append] at heq
    obtain ⟨-, hr⟩ := Product.tokens_inj (stops_arith kind (by omega) _) (h'.mono (by decide)) heq
    rw [← hr] at h'
    exact (h'.not_arith kind (by omega)).elim
  | .more operand op token kind weak more, .more operand' op' token' kind' weak' more', rest, rest', h, h', heq => by
    simp only [Sum.tokens, List.append_assoc, List.cons_append] at heq
    obtain ⟨rfl, hr⟩ := Product.tokens_inj (stops_arith kind (by omega) _) (stops_arith kind' (by omega) _) heq
    obtain ⟨rfl, hmore⟩ := List.cons.inj hr
    obtain ⟨rfl, hrest⟩ := Sum.tokens_inj h h' hmore
    have hop : op = op' := by
      rw [kind] at kind'
      exact TokenKind.arith.inj kind'
    subst hop
    exact ⟨rfl, hrest⟩

theorem Product.tokens_inj : ∀ {p p' : Product} {rest rest' : List Token}, Stops 2 rest → Stops 2 rest' →
    p.tokens ++ rest = p'.tokens ++ rest' → p = p' ∧ rest = rest'
  | .last operand, .last operand', rest, rest', h, h', heq => by
    obtain ⟨rfl, hr⟩ := Factor.tokens_inj (h.mono (by decide)) (h'.mono (by decide)) heq
    exact ⟨rfl, hr⟩
  | .last operand, .more operand' op' token' kind' strong' more', rest, rest', h, h', heq => by
    simp only [Product.tokens, List.append_assoc, List.cons_append] at heq
    obtain ⟨-, hr⟩ := Factor.tokens_inj (h.mono (by decide)) (stops_arith kind' (by omega) _) heq
    rw [hr] at h
    exact (h.not_arith kind' (by omega)).elim
  | .more operand op token kind strong more, .last operand', rest, rest', h, h', heq => by
    simp only [Product.tokens, List.append_assoc, List.cons_append] at heq
    obtain ⟨-, hr⟩ := Factor.tokens_inj (stops_arith kind (by omega) _) (h'.mono (by decide)) heq
    rw [← hr] at h'
    exact (h'.not_arith kind (by omega)).elim
  | .more operand op token kind strong more, .more operand' op' token' kind' strong' more', rest, rest', h, h',
    heq => by
    simp only [Product.tokens, List.append_assoc, List.cons_append] at heq
    obtain ⟨rfl, hr⟩ := Factor.tokens_inj (stops_arith kind (by omega) _) (stops_arith kind' (by omega) _) heq
    obtain ⟨rfl, hmore⟩ := List.cons.inj hr
    obtain ⟨rfl, hrest⟩ := Product.tokens_inj h h' hmore
    have hop : op = op' := by
      rw [kind] at kind'
      exact TokenKind.arith.inj kind'
    subst hop
    exact ⟨rfl, hrest⟩

theorem Factor.tokens_inj : ∀ {f f' : Factor} {rest rest' : List Token}, Stops 3 rest → Stops 3 rest' →
    f.tokens ++ rest = f'.tokens ++ rest' → f = f' ∧ rest = rest'
  | .glob v token kind, .glob v' token' kind', rest, rest', _, _, heq => by
    obtain ⟨rfl, hr⟩ := List.cons.inj heq
    have hv : v = v' := by
      rw [kind] at kind'
      exact Variable.text_inj (String.toList_inj.1 (TokenKind.glob.inj kind'))
    subst hv
    exact ⟨rfl, hr⟩
  | .number l, .number l', rest, rest', h, h', heq => by
    obtain ⟨rfl, hr⟩ := Literal.tokens_inj h h' heq
    exact ⟨rfl, hr⟩
  | .group opening inner closing opens closes, .group opening' inner' closing' opens' closes', rest, rest', _, _,
    heq => by
    simp only [Factor.tokens, List.append_assoc, List.cons_append, List.nil_append] at heq
    obtain ⟨rfl, hinner⟩ := List.cons.inj heq
    obtain ⟨rfl, hclosing⟩ :=
      Sum.tokens_inj (stops_closeParen closes 1 rest) (stops_closeParen closes' 1 rest') hinner
    obtain ⟨rfl, hr⟩ := List.cons.inj hclosing
    exact ⟨rfl, hr⟩
  | .glob _ _ kind, .number l, _, _, _, _, heq => absurd kind ((l.head_kind heq.symm).1 _)
  | .number l, .glob _ _ kind, _, _, _, _, heq => absurd kind ((l.head_kind heq).1 _)
  | .group _ _ _ opens _, .number l, _, _, _, _, heq => by
    simp only [Factor.tokens, List.append_assoc, List.cons_append] at heq
    exact absurd opens (l.head_kind heq.symm).2
  | .number l, .group _ _ _ opens _, _, _, _, _, heq => by
    simp only [Factor.tokens, List.append_assoc, List.cons_append] at heq
    exact absurd opens (l.head_kind heq).2
  | .glob _ _ kind, .group _ _ _ opens _, _, _, _, _, heq => by
    rw [(List.cons.inj heq).1, opens] at kind
    cases kind
  | .group _ _ _ opens _, .glob _ _ kind, _, _, _, _, heq => by
    rw [(List.cons.inj heq).1, kind] at opens
    cases opens

end

/-- **No list of tokens has two derivations.** -/
theorem Sentence.tokens_inj : ∀ {d d' : Sentence}, d.tokens = d'.tokens → d = d'
  | .expression e, .expression e', heq => by
    have h := Sum.tokens_inj (stops_nil 1) (stops_nil 1) (congrArg (· ++ []) heq)
    rw [h.1]
  | .expression e, .predicate l rel token kind r, heq => by
    have h := Sum.tokens_inj (stops_nil 1) (stops_relation kind 1 _) ((List.append_nil _).trans heq)
    cases h.2
  | .predicate l rel token kind r, .expression e, heq => by
    have h := Sum.tokens_inj (stops_relation kind 1 _) (stops_nil 1) (heq.trans (List.append_nil _).symm)
    cases h.2
  | .predicate l rel token kind r, .predicate l' rel' token' kind' r', heq => by
    obtain ⟨rfl, htail⟩ := Sum.tokens_inj (stops_relation kind 1 _) (stops_relation kind' 1 _) heq
    obtain ⟨rfl, hright⟩ := List.cons.inj htail
    obtain ⟨rfl, -⟩ := Sum.tokens_inj (stops_nil 1) (stops_nil 1) (congrArg (· ++ []) hright)
    have hrel : rel = rel' := by
      rw [kind] at kind'
      exact TokenKind.relation.inj kind'
    subst hrel
    rfl

end Grammar

end MetricExpr
