import MetricExpr.Expr.Build
import MetricExpr.Proofs.Except
import MetricExpr.Proofs.Expr.Lockstep
import MetricExpr.Proofs.Expr.Lossless
/-!
# Descent over the tokens

A sentence can also be read by recursive descent: a token is taken from those that are left, operands are read level by
level, and nodes are built with their own checks. Such a descent might take a token where none is left, take a token for a
number that is none, or build a node that its checks refuse (`Descent.Failure`). On the tokens of a text it does none of
this: it comes to the node of the parser or to its syntax error (`Descent.node_eq`), and that stands at one of the tokens
(`parse_outcome`).
-/
namespace MetricExpr

open Token

theorem Arith.strength_pos (op : Arith) : 0 < op.strength := by cases op <;> decide

namespace Descent

/-- How a descent may fail. Only the first is a syntax error. -/
inductive Failure where
  | malformed (e : ParseError)
  /-- A node's own checks refuse it. -/
  | rejected (fault : BuildFault)
  /-- A token is taken where none is left. -/
  | pastEnd
  /-- A token is taken for a number and is none. -/
  | noNumber

/-- What is left of a list of tokens when at least one has been taken. -/
abbrev Rest (tokens : List Token) := {rest : List Token // rest <:+ tokens ∧ rest.length < tokens.length}

def fail {α : Type} (fault : ParseFault) (token : Option Token) : Except Failure α := .error (.malformed ⟨fault, token⟩)

/-- Take the next token. The end of the text cannot be taken. -/
def take : (tokens : List Token) → Except Failure (Token × Rest tokens)
  | [] => .error .pastEnd
  | t :: rest => .ok (t, ⟨rest, List.suffix_cons t rest, Nat.lt_succ_self _⟩)

def build {α : Type} (node : Except BuildFault α) : Except Failure α := node.mapError .rejected

/-- The factor of the unit in front of the tokens, if there is a unit, and what is left. -/
def unit (tokens : List Token) : Except Failure (Option Binary64 × {rest : List Token // rest <:+ tokens}) :=
  match tokens.head? with
  | some t =>
    match t.kind with
    | .percent => do
      let (_, ⟨rest, hrest, _⟩) ← take tokens
      return (some percentFactor, ⟨rest, hrest⟩)
    | .word =>
      match unitFactor? t.text with
      | some factor => do
        let (_, ⟨rest, hrest, _⟩) ← take tokens
        return (some factor, ⟨rest, hrest⟩)
      | none => fail .unknownUnit (some t)
    | _ => return (none, ⟨tokens, List.suffix_rfl⟩)
  | none => return (none, ⟨tokens, List.suffix_rfl⟩)

def finite (value : Binary64) (number : Token) : Except Failure Expr :=
  if value.isFinite then build (Expr.ofDatum (.real value)) else fail .outOfRange (some number)

/-- A constant: a number and a unit or none. -/
def constant (negative : Bool) (tokens : List Token) : Except Failure (Expr × Rest tokens) := do
  let (number, ⟨rest, hrest, hlt⟩) ← take tokens
  match number.kind with
  | .number size => do
    let value := if negative then -size else size
    let (factor, ⟨more, hmore⟩) ← unit rest
    let e ← finite (factor.elim value (value * ·)) number
    return (e, ⟨more, hmore.trans hrest, Nat.lt_of_le_of_lt hmore.length_le hlt⟩)
  | _ => .error .noNumber

/-- A variable: a quoted glob with a text. -/
def quoted (t : Token) (body : List Char) (tokens : List Token) : Except Failure (Expr × Rest tokens) := do
  let (_, rest) ← take tokens
  if body.isEmpty then fail .emptyGlob (some t)
  else
    let v ← build (Variable.ofText ("\"" ++ String.ofList body ++ "\""))
    return (.var v, rest)

/-- A constant with a sign: the number must touch it. -/
def signed (t : Token) (negative : Bool) (tokens : List Token) : Except Failure (Expr × Rest tokens) :=
  match (tokens[1]? : Option Token) with
  | some ⟨.number _, _, position⟩ =>
    if position = t.position + 1 then do
      let (_, ⟨rest, hrest, hlt⟩) ← take tokens
      let (e, ⟨more, hmore, hless⟩) ← constant negative rest
      return (e, ⟨more, hmore.trans hrest, Nat.lt_trans hless hlt⟩)
    else fail .missingOperand (some t)
  | _ => fail .missingOperand (some t)

def closing (tokens : List Token) : Except Failure (Rest tokens) :=
  match tokens.head?.map Token.kind with
  | some .closeParen => (take tokens).map Prod.snd
  | _ => fail .missingClosing tokens.head?

mutual

/-- An operand of a level: a factor at level 0, at the next levels operands of the one below with operators between them,
products at level 1 and sums at level 2. -/
def operand (level : Nat) (tokens : List Token) : Except Failure (Expr × Rest tokens) :=
  match level with
  | 0 =>
    match tokens.head? with
    | some t =>
      match t.kind with
      | .glob body => quoted t body tokens
      | .openParen => do
        let (_, ⟨inner, hinner, hlt⟩) ← take tokens
        let (e, ⟨rest, hrest, hless⟩) ← operand 2 inner
        let more ← closing rest
        return (e, ⟨more.val, more.2.1.trans (hrest.trans hinner), by have := more.2.2; omega⟩)
      | .arith .plus => signed t false tokens
      | .arith .minus => signed t true tokens
      | .number _ => constant false tokens
      | _ => fail .missingOperand (some t)
    | none => fail .missingOperand none
  | below + 1 => do
    let (e, ⟨rest, hrest, hlt⟩) ← operand below tokens
    let (e, ⟨more, hmore⟩) ← further below e rest
    return (e, ⟨more, hmore.trans hrest, Nat.lt_of_le_of_lt hmore.length_le hlt⟩)
termination_by (tokens.length, level)

/-- More operands of a level behind the first ones, each with its operator in front. -/
def further (below : Nat) (left : Expr) (tokens : List Token) :
    Except Failure (Expr × {rest : List Token // rest <:+ tokens}) :=
  match tokens.head? with
  | some t =>
    match t.kind with
    | .arith op =>
      if op.strength + below = 2 then do
        let (_, ⟨rest, hrest, _⟩) ← take tokens
        let (right, ⟨more, hmore, _⟩) ← operand below rest
        let e ← build (Expr.ofOperands (String.ofList t.text) (.node (.expr left)) (.node (.expr right)))
        let (e, ⟨last, hlast⟩) ← further below e more
        return (e, ⟨last, hlast.trans (hmore.trans hrest)⟩)
      else return (left, ⟨tokens, List.suffix_rfl⟩)
    | _ => return (left, ⟨tokens, List.suffix_rfl⟩)
  | none => return (left, ⟨tokens, List.suffix_rfl⟩)
termination_by (tokens.length, below)

end

def ending (expected : Expectation) (tokens : List Token) : Except Failure Unit :=
  match tokens.head? with
  | some t => fail (.unexpected expected) (some t)
  | none => return ()

def node (form : Form) (tokens : List Token) : Except Failure Node := do
  let (left, ⟨rest, _⟩) ← operand 2 tokens
  match form, rest.head?.map Token.kind with
  | .predicate, some (.relation _) | .either, some (.relation _) =>
    let (t, ⟨more, _⟩) ← take rest
    let (right, ⟨last, _⟩) ← operand 2 more
    ending .arithmeticOrEnd last
    build (Node.ofOperands (String.ofList t.text) (.node (.expr left)) (.node (.expr right)))
  | .predicate, _ => fail .missingComparison rest.head?
  | .expression, _ => do
    ending .arithmeticOrEnd rest
    return .expr left
  | .either, _ => do
    ending .operatorOrEnd rest
    return .expr left

/-! ## Nodes that are built -/

theorem build_variable {body : List Char} {v : Variable} (h : Variable.of? ⟨String.ofList body⟩ = some v) :
    build (Variable.ofText ("\"" ++ String.ofList body ++ "\"")) = .ok v := by
  have hunquoted : Glob.ofText ("\"" ++ String.ofList body ++ "\"") = ⟨String.ofList body⟩ := by
    simp [Glob.ofText, Glob.unquoted]
  unfold Variable.ofText
  rw [hunquoted, h]
  rfl

theorem build_arithmetic {t : Token} {op : Arith} (h : t.text = op.symbol.toList) (l r : Expr) :
    build (Expr.ofOperands (String.ofList t.text) (.node (.expr l)) (.node (.expr r))) = .ok (.binary op l r) := by
  rw [h, String.ofList_toList]
  cases op <;> rfl

theorem build_comparison {t : Token} {rel : Relation} (h : t.text = rel.symbol.toList) (l r : Expr) :
    build (Node.ofOperands (String.ofList t.text) (.node (.expr l)) (.node (.expr r))) = .ok (.comparison rel l r) := by
  rw [h, String.ofList_toList]
  cases rel <;> rfl

/-! ## Factors -/

/-- The parser's outcome as one of a descent. -/
def lift (r : Except ParseError Node) : Except Failure Node := r.mapError .malformed

/-- The parser goes on behind an operand that has been read. -/
def goOn (form : Form) (s : ParseState) {p : List Token → Prop} (found : Expr × {rest : List Token // p rest}) :
    Except Failure Node := lift ((s.done found.1).run form found.2.val)

theorem take_bind {α : Type} (t : Token) (rest : List Token) (f : Token × Rest (t :: rest) → Except Failure α) :
    take (t :: rest) >>= f = f (t, ⟨rest, List.suffix_cons t rest, Nat.lt_succ_self _⟩) := rfl

theorem finite_bind (value : Binary64) (number : Token) (f : Expr → Except ParseError Node) :
    (finite value number >>= fun e => lift (f e)) = lift (ParseState.settle value number >>= f) := by
  cases value <;> rfl

theorem constant_eq {number : Token} {size : Binary64} (hkind : number.kind = .number size) (negative : Bool)
    (rest : List Token) (form : Form) (s : ParseState) : constant negative (number :: rest) >>= goOn form s =
      lift (ParseState.run form { s with phase := .number (if negative then -size else size) number } rest) := by
  have hvalue : constant negative (number :: rest) >>= goOn form s = unit rest >>= fun found =>
      finite (found.1.elim (if negative then -size else size) ((if negative then -size else size) * ·)) number >>=
        fun e => lift ((s.done e).run form found.2.val) := by
    unfold constant
    rw [take_bind]
    dsimp only
    rw [hkind]
    simp only [bind_assoc, pure_bind]
    rfl
  rw [hvalue]
  generalize (if negative then -size else size) = value
  cases rest with
  | nil => exact finite_bind value number _
  | cons t more =>
    rw [ParseState.run_cons]
    show _ = lift (ParseState.readUnit form _ value number t >>= _)
    unfold unit ParseState.readUnit
    dsimp only [List.head?_cons]
    cases hunit : t.kind with
    | percent =>
      dsimp only
      rw [take_bind, bind_assoc]
      exact finite_bind (value * percentFactor) number _
    | word =>
      dsimp only
      cases unitFactor? t.text with
      | none => rfl
      | some factor =>
        dsimp only
        rw [take_bind, bind_assoc]
        exact finite_bind (value * factor) number _
    | number | glob | arith | relation | openParen | closeParen =>
      dsimp only
      rw [pure_bind, bind_assoc]
      simp only [ParseState.run_cons]
      exact finite_bind value number _

/-- No operator of the level or of one below comes next. -/
def Free (level : Nat) (tokens : List Token) : Prop :=
  ∀ t ∈ tokens.head?, ∀ op, t.kind = .arith op → op.strength + level < 3

theorem Free.not_arith {rest : List Token} (h : Free 2 rest) {t : Token} (ht : t ∈ rest.head?) (op : Arith) :
    t.kind ≠ .arith op := by
  intro hkind
  have := h t ht op hkind
  have := op.strength_pos
  omega

section Factors

variable {t : Token} {form : Form} {s : ParseState} (rest : List Token)

theorem quoted_eq {body : List Char} (hkind : t.kind = .glob body) (hs : s.phase = .operand) :
    quoted t body (t :: rest) >>= goOn form s = lift (s.run form (t :: rest)) := by
  have htext : String.ofList body ≠ "" ↔ body ≠ [] := by
    rw [ne_eq, ← String.ofList_nil, String.ofList_inj]
  rw [ParseState.run_cons, ParseState.read_eq_readOperand form hs]
  unfold quoted ParseState.readOperand
  rw [bind_assoc, take_bind, hkind]
  dsimp only
  by_cases hbody : body = []
  · subst hbody
    rfl
  · have hv : Variable.of? ⟨String.ofList body⟩ = some ⟨⟨String.ofList body⟩, htext.2 hbody⟩ := dif_pos (htext.2 hbody)
    rw [if_neg (by simpa using hbody), build_variable hv, hv]
    rfl

theorem signed_eq {negative : Bool} (hread : s.read form t = .ok { s with phase := .sign negative t }) :
    signed t negative (t :: rest) >>= goOn form s = lift (s.run form (t :: rest)) := by
  rw [ParseState.run_of_read hread]
  cases rest with
  | nil => rfl
  | cons u more =>
    obtain ⟨kind, text, position⟩ := u
    rw [ParseState.run_cons]
    unfold ParseState.read
    cases kind with
    | number size =>
      by_cases hplace : position = t.position + 1
      · have hsigned : signed t negative (t :: ⟨.number size, text, position⟩ :: more) >>= goOn form s =
            constant negative (⟨.number size, text, position⟩ :: more) >>= goOn form s := by
          unfold signed
          dsimp only [List.getElem?_cons_succ, List.getElem?_cons_zero]
          rw [if_pos hplace, bind_assoc, take_bind]
          dsimp only
          rw [bind_assoc]
          exact bind_congr fun ⟨e, more, _, _⟩ => rfl
        rw [hsigned, constant_eq rfl]
        dsimp only
        rw [if_pos hplace]
        rfl
      · unfold signed
        dsimp only [List.getElem?_cons_succ, List.getElem?_cons_zero]
        rw [if_neg hplace, if_neg hplace]
        rfl
    | glob | word | arith | relation | openParen | closeParen | percent => rfl

/-- Behind an operand with no operator left, a parenthesis is closed or missing. -/
theorem closing_eq {e : Expr} (hfree : Free 2 rest) :
    (closing rest >>= fun more => lift ((s.done e).run form more.val)) =
      lift (ParseState.run form ⟨s.left, s.level :: s.outer, .empty, .complete e⟩ rest) := by
  cases rest with
  | nil => rfl
  | cons u more =>
    rw [ParseState.run_cons]
    unfold ParseState.read ParseState.readOperator closing
    dsimp only [List.head?_cons, Option.map_some]
    cases hkind : u.kind with
    | closeParen => rfl
    | arith op => exact absurd hkind (hfree.not_arith rfl op)
    | number | glob | word | relation | openParen | percent => rfl

end Factors

/-! ## Levels -/

/-- No operand waits for an operator of the level or of one below. -/
def Awaits : Nat → Level → Prop
  | 0, _ => True
  | 1, level => level.product = none
  | _, level => level = .empty

mutual

theorem free_of_operand : ∀ (level : Nat) (tokens : List Token) {e : Expr} {rest : Rest tokens},
    operand level tokens = .ok (e, rest) → Free level rest.val
  | 0, tokens, e, rest, _ => fun t _ op _ => by cases op <;> decide
  | below + 1, tokens, e, rest, h => by
    rw [operand] at h
    obtain ⟨⟨first, found, hsuffix, hlt⟩, hfirst, h⟩ := bind_eq_ok_iff.1 h
    obtain ⟨⟨whole, last, hlast⟩, hfurther, h⟩ := bind_eq_ok_iff.1 h
    obtain ⟨rfl, rfl⟩ := Prod.mk.inj (Except.ok.inj h)
    exact free_of_further below first found (free_of_operand below tokens hfirst) hfurther
termination_by level tokens => (tokens.length, level)

theorem free_of_further : ∀ (below : Nat) (left : Expr) (tokens : List Token) {e : Expr}
    {rest : {rest : List Token // rest <:+ tokens}}, Free below tokens →
    further below left tokens = .ok (e, rest) → Free (below + 1) rest.val
  | below, left, [], e, rest, _, h => by
    rw [further] at h
    obtain ⟨rfl, rfl⟩ := Prod.mk.inj (Except.ok.inj h)
    exact fun _ hnone => nomatch hnone
  | below, left, t :: behind, e, rest, hfree, h => by
    rw [further] at h
    dsimp only [List.head?_cons] at h
    split at h
    · rename_i op hkind
      split at h
      · obtain ⟨⟨u, found, hsuffix, hlt⟩, htake, h⟩ := bind_eq_ok_iff.1 h
        obtain ⟨⟨right, more, hmore, hless⟩, hright, h⟩ := bind_eq_ok_iff.1 h
        obtain ⟨whole, hbuilt, h⟩ := bind_eq_ok_iff.1 h
        obtain ⟨⟨all, last, hlast⟩, hfurther, h⟩ := bind_eq_ok_iff.1 h
        obtain ⟨rfl, rfl⟩ := Prod.mk.inj (Except.ok.inj h)
        have := Nat.lt_trans hless hlt
        exact free_of_further below whole more (free_of_operand below found hright) hfurther
      · rename_i hother
        obtain ⟨rfl, rfl⟩ := Prod.mk.inj (Except.ok.inj h)
        rintro _ ⟨⟩ op' hkind'
        obtain rfl := TokenKind.arith.inj (hkind.symm.trans hkind')
        have := hfree t rfl op hkind
        omega
    · rename_i hnone
      obtain ⟨rfl, rfl⟩ := Prod.mk.inj (Except.ok.inj h)
      rintro _ ⟨⟩ op hkind
      exact absurd hkind (hnone op)
termination_by below _ tokens => (tokens.length, below)

end

/-- Behind a whole operand the parser reads on alike from levels that close alike and, where an operator of the stronger
kind comes next, have the same operands waiting. -/
theorem run_congr_level (form : Form) (left : Option (Expr × Relation)) (outer : List Level) {level level' : Level}
    {e e' : Expr} {rest : List Token} (hclose : level.close e = level'.close e')
    (hstrong : ∀ t ∈ rest.head?, ∀ op, t.kind = .arith op → op.strength = 2 →
      level.sum = level'.sum ∧ Level.join level.product e = Level.join level'.product e') :
    ParseState.run form ⟨left, outer, level, .complete e⟩ rest =
      ParseState.run form ⟨left, outer, level', .complete e'⟩ rest := by
  cases rest with
  | nil =>
    show ParseState.complete form _ e = ParseState.complete form _ e'
    unfold ParseState.complete
    dsimp only
    rw [hclose]
  | cons t more =>
    have hread : ParseState.readOperator form ⟨left, outer, level, .complete e⟩ e t =
        ParseState.readOperator form ⟨left, outer, level', .complete e'⟩ e' t := by
      unfold ParseState.readOperator
      cases hkind : t.kind with
      | arith op =>
        have hpush : level.push e op = level'.push e' op := by
          by_cases hop : op.strength = 2
          · obtain ⟨hsum, hjoin⟩ := hstrong t rfl op hkind hop
            rw [Level.push_strong _ _ hop, Level.push_strong _ _ hop, hsum, hjoin]
          · have hweak : op.strength = 1 := by cases op <;> first | rfl | exact absurd rfl hop
            rw [Level.push_weak _ _ hweak, Level.push_weak _ _ hweak]
            exact congrArg (fun whole => (⟨some (whole, op), none⟩ : Level)) hclose
        dsimp only
        rw [hpush]
      | closeParen =>
        dsimp only
        rw [hclose]
        cases outer <;> rfl
      | relation rel =>
        dsimp only
        rw [hclose]
        rfl
      | number | glob | word | openParen | percent => rfl
    rw [ParseState.run_cons, ParseState.run_cons]
    exact congrArg (· >>= fun s => s.run form more) hread

theorem Awaits.below : ∀ {below : Nat} {level : Level}, Awaits (below + 1) level → Awaits below level
  | 0, _, _ => trivial
  | 1, _, h => congrArg Level.product h
  | _ + 2, _, h => h

/-- An operator of the level joins what stands on both sides of it. -/
theorem run_push (form : Form) (s : ParseState) {below : Nat} (h : Awaits (below + 1) s.level) (left right : Expr)
    {op : Arith} (hop : op.strength + below = 2) {rest : List Token} (hfree : Free below rest) :
    ParseState.run form ⟨s.left, s.outer, s.level.push left op, .complete right⟩ rest =
      (s.done (.binary op left right)).run form rest := by
  match below, h with
  | 0, h =>
    have hproduct : s.level.product = none := h
    have hstrong : op.strength = 2 := hop
    rw [Level.push_strong _ _ hstrong, hproduct]
    refine run_congr_level form s.left s.outer ?_ fun _ _ _ _ _ => ⟨rfl, ?_⟩
    · unfold Level.close
      rw [hproduct]
      rfl
    · rw [hproduct]
      rfl
  | 1, h =>
    have hempty : s.level = .empty := h
    have hweak : op.strength = 1 := by omega
    rw [Level.push_weak _ _ hweak, hempty]
    refine run_congr_level form s.left s.outer ?_ fun t ht op' hkind hstrong => ?_
    · rw [hempty]
      rfl
    · have := hfree t ht op' hkind
      omega
  | below + 2, _ =>
    have := op.strength_pos
    omega

/-- A token of an operator has the operator's symbol for its text. -/
def Spelled (t : Token) : Prop :=
  (∀ op, t.kind = .arith op → t.text = op.symbol.toList) ∧ ∀ rel, t.kind = .relation rel → t.text = rel.symbol.toList

theorem awaits_push {below : Nat} {level : Level} (h : Awaits (below + 1) level) (left : Expr) {op : Arith}
    (hop : op.strength + below = 2) : Awaits below (level.push left op) := by
  match below with
  | 0 => trivial
  | 1 =>
    have hweak : op.strength = 1 := by omega
    rw [Level.push_weak _ _ hweak]
    rfl
  | below + 2 =>
    have := op.strength_pos
    omega

mutual

/-- **An operand is read as the parser reads it.** -/
theorem operand_eq (form : Form) : ∀ (level : Nat) (tokens : List Token) (s : ParseState), (∀ t ∈ tokens, Spelled t) →
    s.phase = .operand → Awaits level s.level →
    operand level tokens >>= goOn form s = lift (s.run form tokens)
  | 0, [], s, _, hs, _ => by
    rw [operand, ParseState.run_nil]
    unfold ParseState.finish
    rw [hs]
    rfl
  | 0, t :: rest, s, hspelled, hs, _ => by
    obtain ⟨-, hrest⟩ := List.forall_mem_cons.1 hspelled
    have hread := ParseState.read_eq_readOperand form hs t
    unfold ParseState.readOperand at hread
    rw [operand]
    dsimp only [List.head?_cons]
    cases hkind : t.kind with
    | glob body => exact quoted_eq rest hkind hs
    | number size =>
      rw [hkind] at hread
      rw [ParseState.run_of_read hread]
      exact constant_eq hkind false rest form s
    | openParen =>
      rw [hkind] at hread
      dsimp only
      rw [ParseState.run_of_read hread, bind_assoc, take_bind]
      dsimp only
      -- the parser keeps the level outside and starts an empty one
      rw [← operand_eq form 2 rest ⟨s.left, s.level :: s.outer, .empty, .operand⟩ hrest rfl rfl, bind_assoc]
      refine bind_congr_ok fun ⟨e, found, _, _⟩ hinner => ?_
      have hfree := free_of_operand 2 rest hinner
      dsimp only
      rw [bind_assoc]
      exact closing_eq found hfree
    | arith op =>
      rw [hkind] at hread
      cases op with
      | plus => exact signed_eq rest hread
      | minus => exact signed_eq rest hread
      | times | divide =>
        rw [ParseState.run_cons, hread]
        rfl
    | word | relation | closeParen | percent =>
      rw [hkind] at hread
      rw [ParseState.run_cons, hread]
      rfl
  | below + 1, tokens, s, hspelled, hs, hawaits => by
    rw [operand, ← operand_eq form below tokens s hspelled hs hawaits.below, bind_assoc]
    refine bind_congr_ok fun ⟨first, found, hsuffix, hlt⟩ hfirst => ?_
    have hfurther := further_eq form below first found s (fun t ht => hspelled t (hsuffix.subset ht)) hawaits
      (free_of_operand below tokens hfirst)
    dsimp only
    rw [bind_assoc]
    exact hfurther
termination_by level tokens => (tokens.length, level)

theorem further_eq (form : Form) : ∀ (below : Nat) (left : Expr) (tokens : List Token) (s : ParseState),
    (∀ t ∈ tokens, Spelled t) → Awaits (below + 1) s.level → Free below tokens →
    further below left tokens >>= goOn form s = lift ((s.done left).run form tokens)
  | below, left, [], s, _, _, _ => by
    rw [further]
    rfl
  | below, left, t :: behind, s, hspelled, hawaits, hfree => by
    obtain ⟨ht, hbehind⟩ := List.forall_mem_cons.1 hspelled
    rw [further]
    dsimp only [List.head?_cons]
    split
    · rename_i op hkind
      split
      · rename_i hop
        have hread : (s.done left).read form t = .ok { s with level := s.level.push left op, phase := .operand } := by
          show ParseState.readOperator form (s.done left) left t = _
          unfold ParseState.readOperator
          rw [hkind]
          rfl
        rw [ParseState.run_of_read hread, bind_assoc, take_bind]
        dsimp only
        rw [← operand_eq form below behind _ hbehind rfl (awaits_push hawaits left hop), bind_assoc]
        refine bind_congr_ok fun ⟨right, found, hsuffix, hlt⟩ hright => ?_
        have hfound := free_of_operand below behind hright
        have hfurther := further_eq form below (.binary op left right) found s
          (fun u hu => hbehind u (hsuffix.subset hu)) hawaits hfound
        -- the parser has pushed the left operand, and joins it only behind the right one
        have hjoin := run_push form s hawaits left right hop hfound
        have hbuilt := build_arithmetic (ht.1 op hkind) left right
        dsimp only
        rw [hbuilt, bind_assoc]
        refine Eq.trans ?_ (hfurther.trans (congrArg lift hjoin.symm))
        show (further below (.binary op left right) found >>= _) >>= _ = _
        rw [bind_assoc]
        exact bind_congr fun ⟨_, _, _⟩ => rfl
      · rfl
    · rfl
termination_by below _ tokens => (tokens.length, below)

end

/-! ## Sentences -/

/-- Behind the right side of a comparison the text ends. -/
theorem ending_eq (form : Form) {t : Token} {rel : Relation} (ht : t.text = rel.symbol.toList) (left right : Expr)
    {rest : List Token} (hfree : Free 2 rest) : (ending .arithmeticOrEnd rest >>= fun _ =>
      build (Node.ofOperands (String.ofList t.text) (.node (.expr left)) (.node (.expr right)))) =
        lift (ParseState.run form ⟨some (left, rel), [], .empty, .complete right⟩ rest) := by
  rw [build_comparison ht]
  cases rest with
  | nil => rfl
  | cons u more =>
    rw [ParseState.run_cons]
    unfold ParseState.read ParseState.readOperator
    cases hkind : u.kind with
    | arith op => exact absurd hkind (hfree.not_arith rfl op)
    | number | glob | word | relation | openParen | closeParen | percent => rfl

/-- **The descent comes to the node of the parser or to its syntax error**, and to nothing else. -/
theorem node_eq (form : Form) {tokens : List Token} (hspelled : ∀ t ∈ tokens, Spelled t) :
    node form tokens = (Node.ofTokens? form tokens).mapError .malformed := by
  show _ = lift (ParseState.start.run form tokens)
  rw [← operand_eq form 2 tokens .start hspelled rfl rfl]
  unfold node
  refine bind_congr_ok fun ⟨left, rest, hsuffix, _⟩ hleft => ?_
  have hfree := free_of_operand 2 tokens hleft
  have hrest : ∀ t ∈ rest, Spelled t := fun t ht => hspelled t (hsuffix.subset ht)
  show _ = lift ((ParseState.start.done left).run form rest)
  dsimp only
  cases rest with
  | nil => cases form <;> rfl
  | cons t more =>
    obtain ⟨ht, hmore⟩ := List.forall_mem_cons.1 hrest
    dsimp only [List.head?_cons, Option.map_some]
    have hread : (ParseState.start.done left).read form t =
      ParseState.readOperator form (ParseState.start.done left) left t := rfl
    unfold ParseState.readOperator at hread
    cases hkind : t.kind with
    | arith op => exact absurd hkind (hfree.not_arith rfl op)
    | relation rel =>
      have hright : form ≠ .expression → (take (t :: more) >>= fun found => operand 2 found.2.val >>= fun right =>
          ending .arithmeticOrEnd right.2.val >>= fun _ =>
            build (Node.ofOperands (String.ofList found.1.text) (.node (.expr left)) (.node (.expr right.1)))) =
              lift ((ParseState.start.done left).run form (t :: more)) := by
        intro hform
        have hcompare : (ParseState.start.done left).read form t =
            .ok ⟨some (left, rel), [], .empty, .operand⟩ := by
          rw [hread, hkind]
          cases form <;> first | rfl | exact absurd rfl hform
        rw [ParseState.run_of_read hcompare, take_bind,
          ← operand_eq form 2 more ⟨some (left, rel), [], .empty, .operand⟩ hmore rfl rfl]
        refine bind_congr_ok fun ⟨right, last, _, _⟩ hoperand => ?_
        exact ending_eq form (ht.2 rel hkind) left right (free_of_operand 2 more hoperand)
      cases form with
      | expression =>
        rw [hkind] at hread
        rw [ParseState.run_cons, hread]
        rfl
      | predicate => exact hright nofun
      | either => exact hright nofun
    | number | glob | word | openParen | closeParen | percent =>
      rw [hkind] at hread
      rw [ParseState.run_cons, hread]
      cases form <;> rfl

end Descent

/-! ## Texts -/

theorem Token.Leads.spelled {cs : List Char} {t : Token} (h : Leads cs t.kind t.text) : Descent.Spelled t := by
  obtain ⟨kind, text, position⟩ := t
  refine ⟨fun op hop => ?_, fun rel hrel => ?_⟩
  · obtain rfl : kind = .arith op := hop
    cases h
    rfl
  · obtain rfl : kind = .relation rel := hrel
    cases h
    rfl

theorem Token.Leads.value {cs : List Char} {t : Token} (h : Leads cs t.kind t.text) {value : Binary64}
    (hkind : t.kind = .number value) : Binary64.ofText? (String.ofList t.text) = some value := by
  obtain ⟨kind, text, position⟩ := t
  obtain rfl : kind = .number value := hkind
  cases h with
  | number _ hvalue => exact hvalue

/-- A text that cannot be cut into tokens is refused at a place in it. -/
theorem position_ofLexical (text : String) {fault : LexicalFault} {place : Nat}
    (h : scan 0 text.toList = .error (fault, place)) : (SyntaxError.ofLexical text (fault, place)).position = place ∧
      place ≤ text.length := by
  obtain ⟨tokens, rest, hreaches, -⟩ := scan_eq_error_iff.1 h
  have hlast := hreaches.last_eq
  rw [Nat.zero_add, String.length_toList] at hlast
  exact ⟨by cases fault <;> rfl, by omega⟩

theorem startAt_le {text : String} {tokens : List Token} (h : scan 0 text.toList = .ok tokens) (place : Nat) :
    startAt text tokens place ≤ text.length := by
  unfold startAt
  cases ht : tokens[place]? with
  | none => exact Nat.le_refl _
  | some t =>
    have hbounds := (scan_increasing h).2 t (List.mem_of_getElem? ht)
    rw [Nat.zero_add, String.length_toList] at hbounds
    exact Nat.le_of_lt hbounds.2

/-- **A text is a node, or a syntax error stands at a place in it.** Where the text can be cut into tokens, the error
stands at the start of one of them or at the end, and what it says was found is that token. Then each number is the double
that its text writes, and a descent that builds every node with its own checks comes to the same node or the same error:
it takes no token behind the last one and builds no node that is refused. -/
theorem parse_outcome (form : Form) (text : String) :
    (∀ e, Node.parse form text = .error e → 0 ≤ e.position ∧ e.position ≤ text.length) ∧
    ∀ tokens, scan 0 text.toList = .ok tokens →
      (∀ e, Node.parse form text = .error e → ∃ place ≤ tokens.length,
        e.position = startAt text tokens place ∧ e.found = some (describe tokens[place]?)) ∧
      (∀ t ∈ tokens, ∀ value, t.kind = .number value → Binary64.ofText? (String.ofList t.text) = some value) ∧
      Descent.node form tokens = (Node.ofTokens? form tokens).mapError .malformed := by
  have hplace : ∀ tokens, scan 0 text.toList = .ok tokens → ∀ e, Node.parse form text = .error e →
      ∃ place ≤ tokens.length, e.position = startAt text tokens place ∧ e.found = some (describe tokens[place]?) := by
    intro tokens hscan e he
    obtain ⟨cause, hcause, rfl⟩ := Node.error_of_parse hscan he
    obtain ⟨place, hle, htoken⟩ := place_of_ofTokens? hcause
    exact ⟨place, hle, SyntaxError.position_ofParse text htoken, by rw [SyntaxError.found_ofParse, htoken]⟩
  refine ⟨fun e he => ?_, fun tokens hscan => ⟨hplace tokens hscan, fun t ht value hkind => ?_, ?_⟩⟩
  · cases hscan : scan 0 text.toList with
    | ok tokens =>
      obtain ⟨place, -, hposition, -⟩ := hplace tokens hscan e he
      have := startAt_le hscan place
      omega
    | error refused =>
      obtain ⟨fault, place⟩ := refused
      obtain ⟨hposition, hle⟩ := position_ofLexical text hscan
      unfold Node.parse at he
      rw [hscan] at he
      obtain rfl := Except.error.inj he
      omega
  · exact ((scan_eq_ok_iff.1 hscan).leads ht).2.value hkind
  · exact Descent.node_eq form fun t ht => ((scan_eq_ok_iff.1 hscan).leads ht).2.spelled

/-- A text of five tokens that is refused at the unknown unit, its last one. -/
theorem parse_outcome_unknown_unit : ∃ tokens e, scan 0 "2 + (3 q".toList = .ok tokens ∧
    Node.parse .expression "2 + (3 q" = .error e ∧ (0 ≤ e.position ∧ e.position ≤ "2 + (3 q".length) ∧
    (∃ place ≤ tokens.length, e.position = startAt "2 + (3 q" tokens place ∧
      e.found = some (describe tokens[place]?)) ∧
    Descent.node .expression tokens = (Node.ofTokens? .expression tokens).mapError .malformed := by
  have hscanned : (scan 0 "2 + (3 q".toList).toOption.isSome = true := by decide +kernel
  obtain ⟨tokens, hsome⟩ := Option.isSome_iff_exists.1 hscanned
  have hscan := eq_ok_of_toOption hsome
  have hrefused : (Node.parse .expression "2 + (3 q").toOption = none := by decide +kernel
  cases he : Node.parse .expression "2 + (3 q" with
  | ok n =>
    rw [he] at hrefused
    cases hrefused
  | error e =>
    obtain ⟨hplace, htokens⟩ := parse_outcome .expression "2 + (3 q"
    obtain ⟨hfound, -, hdescent⟩ := htokens tokens hscan
    exact ⟨tokens, e, hscan, rfl, hplace e he, hfound e he, hdescent⟩

end MetricExpr
