import MetricExpr.Frame
import MetricExpr.Proofs.Text.Quoted
/-!
# Structural forms

The structural form of a node is a constructor's name and the forms of its parts in parentheses, with a comma between
two. Each part ends where it does whatever comes behind it: a constant at the first character that is no numeral's, a
glob at its closing quote, and an operator with its second operand. So the form is read in one way only and is the form of
one node (`structureText_identifies`), and no two nodes name their series alike.
-/
namespace MetricExpr

/-! ## Constants -/

namespace Finite

theorem eq_of_magnitude {x y : Finite} (hsign : x.negative = y.negative) (h : x.magnitude = y.magnitude) : x = y := by
  obtain ⟨negative, significand, exponent, _⟩ := x
  obtain ⟨negative', significand', exponent', _⟩ := y
  obtain ⟨-, rfl, rfl⟩ := Finite.mk.inj h
  obtain rfl : negative = negative' := hsign
  rfl

/-- The text of a double in front of another text is read as its sign and a numeral of its magnitude. -/
theorem sign_scan?_chars (x : Finite) {rest : List Char} (hrest : Numeral.Stops rest) : ∃ n : Numeral,
    n.value = .finite x.magnitude ∧ (Numeral.sign (x.chars ++ rest)).1 = JsonValue.signChars x.negative ∧
      Numeral.scan? (Numeral.sign (x.chars ++ rest)).2 = some (n, rest) := by
  obtain ⟨n, hn, -, hvalue, hchars⟩ := x.exists_json
  have hsign : Numeral.sign (x.chars ++ rest) = (JsonValue.signChars x.negative, n.lexeme ++ rest) := by
    rw [hchars, List.append_assoc]
    exact JsonValue.sign_lexeme hn.wellFormed hn.whole.1 x.negative rest
  refine ⟨n, hvalue, ?_, ?_⟩
  · rw [hsign]
  · rw [hsign]
    exact Numeral.scan?_lexeme hn.wellFormed hrest

/-- **Texts of doubles are told apart whatever stands behind them**, if it is nothing that goes on with a numeral. -/
theorem chars_append_inj {x y : Finite} {rest rest' : List Char} (hrest : Numeral.Stops rest)
    (hrest' : Numeral.Stops rest') (h : x.chars ++ rest = y.chars ++ rest') : x = y ∧ rest = rest' := by
  obtain ⟨n, hx, hxsign, hxscan⟩ := x.sign_scan?_chars hrest
  obtain ⟨m, hy, hysign, hyscan⟩ := y.sign_scan?_chars hrest'
  rw [h] at hxsign hxscan
  obtain ⟨rfl, rfl⟩ := Prod.mk.inj (Option.some.inj (hxscan.symm.trans hyscan))
  have hsign : x.negative = y.negative := by
    have hchars := hxsign.symm.trans hysign
    revert hchars
    cases x.negative <;> cases y.negative <;> simp [JsonValue.signChars]
  exact ⟨eq_of_magnitude hsign (Binary64.finite.inj (hx.symm.trans hy)), rfl⟩

end Finite

/-! ## What opens a form -/

/-- The constructors that a form names. -/
inductive Head where
  | const | var | arith (op : Arith) | relation (rel : Relation)
  deriving DecidableEq

namespace Head

def name : Head → String
  | const => "Const"
  | var => "Var"
  | arith op => op.name
  | relation rel => rel.name

def all : List Head :=
  [const, var] ++ [Arith.plus, .minus, .times, .divide].map arith ++ [Relation.lt, .le, .eq, .ge, .gt].map relation

theorem mem_all (h : Head) : h ∈ all := by
  cases h with
  | const => decide
  | var => decide
  | arith op => cases op <;> decide
  | relation rel => cases rel <;> decide

/-- The names are different, and no parenthesis is in one. -/
theorem name_spec : ∀ h ∈ all, '(' ∉ h.name.toList ∧ ∀ h' ∈ all, h.name = h'.name → h = h' := by decide

/-- The name and the parenthesis in front of a text. -/
def opens (h : Head) (cs : List Char) : List Char := h.name.toList ++ '(' :: cs

theorem opens_append (h : Head) (cs rest : List Char) : h.opens cs ++ rest = h.opens (cs ++ rest) :=
  List.append_assoc ..

theorem opens_inj {h h' : Head} {cs cs' : List Char} (hopens : h.opens cs = h'.opens cs') : h = h' ∧ cs = cs' := by
  obtain ⟨hname, hinj⟩ := name_spec h h.mem_all
  have hname' := (name_spec h' h'.mem_all).1
  -- The first parenthesis is at the same place in both.
  have hplace := congrArg (List.idxOf '(') hopens
  rw [opens, opens, List.idxOf_append_of_notMem hname, List.idxOf_append_of_notMem hname', List.idxOf_cons_self,
    List.idxOf_cons_self] at hplace
  obtain ⟨hnames, hrests⟩ := List.append_inj hopens (by omega)
  exact ⟨hinj h' h'.mem_all (String.toList_inj.1 hnames), (List.cons.inj hrests).2⟩

end Head

/-! ## Expressions -/

namespace Expr

def head : Expr → Head
  | const _ => .const
  | var _ => .var
  | binary op _ _ => .arith op

theorem head_ne_relation (e : Expr) (rel : Relation) : e.head ≠ .relation rel := by
  cases e <;> nofun

/-- Two operands and the parenthesis that closes them. -/
def operands (l r : Expr) : List Char := l.form ++ ", ".toList ++ r.form ++ [')']

/-- What stands behind the first parenthesis of the form. -/
def body : Expr → List Char
  | const x => x.chars ++ [')']
  | var v => Text.quoted v.text.toList ++ [')']
  | binary _ l r => operands l r

theorem form_eq (e : Expr) : e.form = e.head.opens e.body := by
  unfold form
  cases e <;> simp [Head.opens, Head.name, head, body, operands]

theorem form_append_inj {e e' : Expr} {rest rest' : List Char} (h : e.form ++ rest = e'.form ++ rest') :
    e.head = e'.head ∧ e.body ++ rest = e'.body ++ rest' := by
  rw [form_eq, form_eq, Head.opens_append, Head.opens_append] at h
  exact Head.opens_inj h

/-- The form of the expression is found in front of any text, where no other form is. -/
def SelfDelimiting (e : Expr) : Prop :=
  ∀ (e' : Expr) (rest rest' : List Char), e.form ++ rest = e'.form ++ rest' → e = e' ∧ rest = rest'

theorem operands_append_inj {l r l' r' : Expr} (hl : l.SelfDelimiting) (hr : r.SelfDelimiting) {rest rest' : List Char}
    (h : operands l r ++ rest = operands l' r' ++ rest') : l = l' ∧ r = r' ∧ rest = rest' := by
  simp only [operands, List.append_assoc] at h
  obtain ⟨rfl, hright⟩ := hl _ _ _ h
  obtain ⟨rfl, hclosed⟩ := hr _ _ _ (List.append_cancel_left hright)
  exact ⟨rfl, rfl, (List.cons.inj hclosed).2⟩

theorem stops_paren (rest : List Char) : Numeral.Stops ([')'] ++ rest) := by
  intro c hc
  obtain rfl : ')' = c := Option.some.inj hc
  decide

/-- **An expression's form is found in front of any text.** -/
theorem selfDelimiting (e : Expr) : e.SelfDelimiting := by
  induction e with
  | const x =>
    intro e' rest rest' h
    obtain ⟨hhead, hbody⟩ := form_append_inj h
    cases e' with
    | const y =>
      rw [body, body, List.append_assoc, List.append_assoc] at hbody
      obtain ⟨rfl, hclosed⟩ := Finite.chars_append_inj (stops_paren rest) (stops_paren rest') hbody
      exact ⟨rfl, (List.cons.inj hclosed).2⟩
    | var | binary => exact absurd hhead nofun
  | var v =>
    intro e' rest rest' h
    obtain ⟨hhead, hbody⟩ := form_append_inj h
    cases e' with
    | var w =>
      rw [body, body, List.append_assoc, List.append_assoc] at hbody
      obtain ⟨htext, hclosed⟩ := Text.quoted_append_inj hbody
      obtain rfl := Variable.text_inj (String.toList_inj.1 htext)
      exact ⟨rfl, (List.cons.inj hclosed).2⟩
    | const | binary => exact absurd hhead nofun
  | binary op l r hl hr =>
    intro e' rest rest' h
    obtain ⟨hhead, hbody⟩ := form_append_inj h
    cases e' with
    | binary op' l' r' =>
      obtain rfl := Head.arith.inj hhead
      obtain ⟨rfl, rfl, rfl⟩ := operands_append_inj hl hr hbody
      exact ⟨rfl, rfl⟩
    | const | var => exact absurd hhead nofun

theorem same_self (e : Expr) : e.same e = true := by
  induction e with
  | const x => simp [same, Finite.order]
  | var v => simp [same]
  | binary op l r hl hr => simp [same, hl, hr]

end Expr

/-! ## Nodes -/

namespace Node

def head : Node → Head
  | expr e => e.head
  | comparison rel _ _ => .relation rel

def body : Node → List Char
  | expr e => e.body
  | comparison _ l r => Expr.operands l r

theorem form_eq : ∀ n : Node, n.form = n.head.opens n.body
  | expr e => e.form_eq
  | comparison rel l r => by simp [form, Head.opens, Head.name, head, body, Expr.operands]

theorem form_inj : ∀ {a b : Node}, a.form = b.form → a = b
  | expr e, expr e', h => by
    obtain ⟨rfl, -⟩ := e.selfDelimiting e' [] [] (congrArg (· ++ []) h)
    rfl
  | comparison rel l r, comparison rel' l' r', h => by
    rw [form_eq, form_eq] at h
    obtain ⟨hhead, hbody⟩ := Head.opens_inj h
    obtain rfl := Head.relation.inj hhead
    obtain ⟨rfl, rfl, -⟩ := Expr.operands_append_inj l.selfDelimiting r.selfDelimiting (congrArg (· ++ []) hbody)
    rfl
  | expr e, comparison rel l r, h => by
    rw [form_eq, form_eq] at h
    exact absurd (Head.opens_inj h).1 (e.head_ne_relation rel)
  | comparison rel l r, expr e, h => by
    rw [form_eq, form_eq] at h
    exact absurd (Head.opens_inj h).1.symm (e.head_ne_relation rel)

theorem same_self : ∀ n : Node, n.same n = true
  | expr e => e.same_self
  | comparison rel l r => by simp [same, Expr.same_self]

end Node

theorem Frame.name_of_evalNamed {f : Frame} {n : Node} {policy : TieBreak} {name : String} {series : Series}
    (h : f.evalNamed n policy = .ok (some (name, series))) : name = n.structureText := by
  unfold Frame.evalNamed at h
  cases heval : f.eval n policy with
  | error fault => rw [heval] at h; cases h
  | ok found =>
    rw [heval] at h
    cases found with
    | none => cases h
    | some s => cases h; rfl

/-- **A node is known by its structural form**: nodes of the same form are equal, part by part and as `Node.same` compares
them, and so are nodes whose series have the same name, on whatever frames they are evaluated. -/
theorem Node.structureText_identifies (a b : Node) :
    (a.structureText = b.structureText → a = b ∧ a.same b = true) ∧
      ∀ (f g : Frame) (policy policy' : TieBreak) (name : String) (s t : Series),
        f.evalNamed a policy = .ok (some (name, s)) → g.evalNamed b policy' = .ok (some (name, t)) → a = b := by
  have hinj : a.structureText = b.structureText → a = b := fun h => Node.form_inj (String.ofList_injective h)
  refine ⟨fun h => ?_, fun f g policy policy' name s t hf hg => ?_⟩
  · obtain rfl := hinj h
    exact ⟨rfl, a.same_self⟩
  · exact hinj ((Frame.name_of_evalNamed hf).symm.trans (Frame.name_of_evalNamed hg))

/-- A glob with a comma, both quotes, parentheses, a backslash and a line break in it, in two frames. -/
theorem Node.structureText_identifies_escaped :
    let v : Variable := ⟨⟨"a', \"b(\\\n)"⟩, by decide⟩
    let n : Node := .comparison .ge (.binary .minus (.var v) (.const (.zero true))) (.const (.zero false))
    let f : Frame := ⟨[.text "mon", .text "tue"], [⟨v.text, [.real (.ofInt 1), .real (.ofInt (-1))]⟩]⟩
    let g : Frame := ⟨[.text "wed"], [⟨v.text, [.real .nan]⟩]⟩
    let name := "GTE(Minus(Var('a\\', \"b(\\\\\\n)'), Const(-0.0)), Const(0.0))"
    n.structureText = name ∧ f.evalNamed n .first = .ok (some (name, .truths [true, false])) ∧
      g.evalNamed n .last = .ok (some (name, .truths [false])) ∧ n.same n = true ∧ n = n := by
  intro v n f g name
  have hname : n.structureText = name := by decide
  have hf : f.evalNamed n .first = .ok (some (name, .truths [true, false])) := by decide +kernel
  have hg : g.evalNamed n .last = .ok (some (name, .truths [false])) := by decide +kernel
  have h := Node.structureText_identifies n n
  exact ⟨hname, hf, hg, (h.1 rfl).2, h.2 f g .first .last name _ _ hf hg⟩

end MetricExpr
