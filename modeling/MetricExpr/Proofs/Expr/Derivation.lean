import MetricExpr.Proofs.Expr.Grammar
/-!
# The parser accepts the grammar

A run of the parser reads a list of tokens from a state and ends. On the tokens of a factor, a product or a sum it goes
to a state whose level holds that operand's fold (`Factor.run`, `Product.run`, `Sum.run`). Conversely an operand stands
in front of every list of tokens that ends well from a state where an operand must come (`factor_of_run`,
`product_of_run`, `sum_of_run`). Together they give the agreement of parser and grammar.
-/
namespace MetricExpr

open Grammar

/-! ## Runs -/

namespace ParseState

def run (form : Form) (s : ParseState) (tokens : List Token) : Except ParseError Node := do
  (← tokens.foldlM (·.read form) s).finish form

theorem run_nil (form : Form) (s : ParseState) : s.run form [] = s.finish form := rfl

theorem run_cons (form : Form) (s : ParseState) (t : Token) (rest : List Token) :
    s.run form (t :: rest) = s.read form t >>= (·.run form rest) := by
  unfold run
  rw [List.foldlM_cons, bind_assoc]

theorem run_of_read {form : Form} {s s' : ParseState} {t : Token} (h : s.read form t = .ok s') (rest : List Token) :
    s.run form (t :: rest) = s'.run form rest := by
  rw [run_cons, h]
  rfl

theorem read_of_run {form : Form} {s : ParseState} {t : Token} {rest : List Token} {n : Node}
    (h : s.run form (t :: rest) = .ok n) : ∃ s', s.read form t = .ok s' ∧ s'.run form rest = .ok n := by
  rw [run_cons] at h
  cases hr : s.read form t with
  | error e =>
    rw [hr] at h
    cases h
  | ok s' =>
    rw [hr] at h
    exact ⟨s', rfl, h⟩

theorem read_eq_readOperand (form : Form) {s : ParseState} (h : s.phase = .operand) (t : Token) :
    s.read form t = s.readOperand t := by
  unfold ParseState.read
  rw [h]

/-- The phase behind a whole operand, or behind a number that needs no unit to be one. -/
inductive Ends : Phase → Expr → Prop where
  | complete (e : Expr) : Ends (.complete e) e
  | number (x : Finite) (token : Token) : Ends (.number (.finite x) token) (.const x)

/-- Behind an operand, what is no unit is read as an operator. -/
theorem Ends.read {p : Phase} {e : Expr} (h : Ends p e) (form : Form) (s : ParseState) {t : Token}
    (hp : t.kind ≠ .percent) (hw : t.kind ≠ .word) :
    ParseState.read form { s with phase := p } t = s.readOperator form e t := by
  cases h with
  | complete => rfl
  | number x token =>
    change ParseState.readUnit form _ (.finite x) token t = _
    unfold readUnit
    split
    · contradiction
    · contradiction
    · rfl

theorem Ends.finish {p : Phase} {e : Expr} (h : Ends p e) (form : Form) (s : ParseState) :
    ParseState.finish form { s with phase := p } = s.complete form e := by
  cases h <;> rfl

theorem Ends.read_arith {p : Phase} {e : Expr} (h : Ends p e) (form : Form) (s : ParseState) {t : Token} {op : Arith}
    (kind : t.kind = .arith op) : ParseState.read form { s with phase := p } t =
      .ok { s with level := s.level.push e op, phase := .operand } := by
  rw [h.read form s (by rw [kind]; nofun) (by rw [kind]; nofun)]
  unfold readOperator
  rw [kind]

theorem Ends.read_closeParen {p : Phase} {e : Expr} (h : Ends p e) (form : Form) (s : ParseState) {t : Token}
    {level : Level} {outer : List Level} (kind : t.kind = .closeParen) (houter : s.outer = level :: outer) :
    ParseState.read form { s with phase := p } t = .ok ⟨s.left, outer, level, .complete (s.level.close e)⟩ := by
  rw [h.read form s (by rw [kind]; nofun) (by rw [kind]; nofun)]
  unfold readOperator
  rw [kind, houter]

end ParseState

theorem Level.push_strong (level : Level) (e : Expr) {op : Arith} (h : op.strength = 2) :
    level.push e op = { level with product := some (Level.join level.product e, op) } := by
  cases op <;> first | rfl | cases h

theorem Level.push_weak (level : Level) (e : Expr) {op : Arith} (h : op.strength = 1) :
    level.push e op = ⟨some (Level.join level.sum (Level.join level.product e), op), none⟩ := by
  cases op <;> first | rfl | cases h

theorem unitFactor?_eq (word : List Char) : unitFactor? word = unitWords.lookup (word.map Char.toLower) := by
  unfold unitFactor?
  generalize word.map Char.toLower = small
  split
  all_goals first | rfl | skip
  rename_i hk hkb hm hmb hg hgb
  unfold unitWords
  simp only [List.lookup_cons, List.lookup_nil, beq_eq_false_iff_ne.mpr hk, beq_eq_false_iff_ne.mpr hkb,
    beq_eq_false_iff_ne.mpr hm, beq_eq_false_iff_ne.mpr hmb, beq_eq_false_iff_ne.mpr hg, beq_eq_false_iff_ne.mpr hgb]

/-! ## Derivations are read -/

namespace ParseState

theorem settle_finite {value : Binary64} {x : Finite} (h : value = .finite x) (token : Token) :
    settle value token = .ok (.const x) := by
  rw [h]
  rfl

end ParseState

open ParseState

/-- A literal is read behind its number and its sign. -/
theorem Grammar.Literal.run_unit (l : Literal) (form : Form) (s : ParseState) :
    ∃ p, Ends p (.const l.value) ∧ ∀ rest,
      ParseState.run form { s with phase := .number (if l.negative then -l.size else l.size) l.number }
        (l.unit.toList ++ rest) = ParseState.run form { s with phase := p } rest := by
  have hscale := l.unit_scales
  have hvalue := l.value_eq
  unfold scaled at hvalue
  generalize (if l.negative then -l.size else l.size) = x at hvalue
  generalize l.unit = unit, l.factor = factor at hscale hvalue
  cases hscale with
  | plain =>
    have hx : x = .finite l.value := hvalue
    rw [hx]
    exact ⟨_, .number _ _, fun rest => rfl⟩
  | percent kind =>
    refine ⟨_, .complete _, fun rest => run_of_read ?_ rest⟩
    change ParseState.readUnit form _ x l.number _ = _
    unfold readUnit
    rw [kind]
    exact congrArg (· >>= fun e => .ok (s.done e)) (settle_finite hvalue l.number)
  | word kind found =>
    refine ⟨_, .complete _, fun rest => run_of_read ?_ rest⟩
    change ParseState.readUnit form _ x l.number _ = _
    unfold readUnit
    rw [kind]
    dsimp only
    rw [unitFactor?_eq, found]
    exact congrArg (· >>= fun e => .ok (s.done e)) (settle_finite hvalue l.number)

theorem Grammar.Literal.run (l : Literal) (form : Form) (s : ParseState) (hs : s.phase = .operand) :
    ∃ p, Ends p (.const l.value) ∧
      ∀ rest, s.run form (l.tokens ++ rest) = ParseState.run form { s with phase := p } rest := by
  obtain ⟨p, hp, hrun⟩ := l.run_unit form s
  refine ⟨p, hp, fun rest => ?_⟩
  rw [← hrun rest]
  have hsigned := l.signed
  have hnumber := l.number_kind
  unfold Literal.tokens
  generalize l.sign = sign, l.negative = negative at hsigned
  cases hsigned with
  | unsigned =>
    refine run_of_read ?_ _
    rw [read_eq_readOperand form hs]
    unfold readOperand
    rw [hnumber]
    rfl
  | @plus sign kind touches =>
    have hsign : s.read form sign = .ok { s with phase := .sign false sign } := by
      rw [read_eq_readOperand form hs]
      unfold readOperand
      rw [kind]
    refine (run_of_read hsign _).trans (run_of_read ?_ _)
    unfold ParseState.read
    dsimp only
    rw [hnumber]
    exact if_pos touches
  | @minus sign kind touches =>
    have hsign : s.read form sign = .ok { s with phase := .sign true sign } := by
      rw [read_eq_readOperand form hs]
      unfold readOperand
      rw [kind]
    refine (run_of_read hsign _).trans (run_of_read ?_ _)
    unfold ParseState.read
    dsimp only
    rw [hnumber]
    exact if_pos touches

mutual

/-- A factor is read where an operand must come. -/
theorem Grammar.Factor.run : ∀ (f : Factor) (form : Form) (s : ParseState), s.phase = .operand →
    ∃ p, Ends p f.expr ∧ ∀ rest, s.run form (f.tokens ++ rest) = ParseState.run form { s with phase := p } rest
  | .glob v token kind, form, s, hs => by
    refine ⟨_, .complete _, fun rest => run_of_read ?_ rest⟩
    rw [read_eq_readOperand form hs]
    unfold readOperand
    rw [kind]
    dsimp only
    rw [v.of?_text]
    rfl
  | .number l, form, s, hs => l.run form s hs
  | .group opening inner closing opens closes, form, s, hs => by
    have hopen : s.read form opening = .ok ⟨s.left, s.level :: s.outer, .empty, .operand⟩ := by
      rw [read_eq_readOperand form hs]
      unfold readOperand
      rw [opens]
    obtain ⟨p, e, level, hp, hclose, hrun⟩ := inner.run form ⟨s.left, s.level :: s.outer, .empty, .operand⟩ rfl rfl
    have hexpr : level.close e = (Factor.group opening inner closing opens closes).expr := hclose
    refine ⟨_, .complete _, fun rest => ?_⟩
    rw [← hexpr]
    simp only [Factor.tokens, List.append_assoc, List.cons_append, List.nil_append]
    rw [run_of_read hopen, hrun]
    exact run_of_read (hp.read_closeParen form ⟨s.left, s.level :: s.outer, level, p⟩ closes rfl) rest

theorem Grammar.Product.run : ∀ (q : Product) (form : Form) (s : ParseState), s.phase = .operand →
    ∃ p e product, Ends p e ∧
      Level.join product e = foldLeft (Level.join s.level.product q.operands.1) q.operands.2 ∧
      ∀ rest, s.run form (q.tokens ++ rest) =
        ParseState.run form { s with level := { s.level with product := product }, phase := p } rest
  | .last operand, form, s, hs => by
    obtain ⟨p, hp, hrun⟩ := operand.run form s hs
    exact ⟨p, operand.expr, s.level.product, hp, rfl, hrun⟩
  | .more operand op token kind strong more, form, s, hs => by
    obtain ⟨p, hp, hrun⟩ := operand.run form s hs
    have hop := hp.read_arith form s kind
    rw [Level.push_strong _ _ strong] at hop
    obtain ⟨p', e, product, hp', hjoin, hmore⟩ := more.run form
      { s with
        level := { s.level with product := some (Level.join s.level.product operand.expr, op) }, phase := .operand } rfl
    refine ⟨p', e, product, hp', hjoin, fun rest => ?_⟩
    simp only [Product.tokens, List.append_assoc, List.cons_append]
    rw [hrun, run_of_read hop, hmore]

/-- A sum is read where an operand must come and no product waits. -/
theorem Grammar.Sum.run : ∀ (q : Sum) (form : Form) (s : ParseState), s.phase = .operand → s.level.product = none →
    ∃ p e level, Ends p e ∧ level.close e = foldLeft (Level.join s.level.sum q.operands.1) q.operands.2 ∧
      ∀ rest, s.run form (q.tokens ++ rest) = ParseState.run form { s with level := level, phase := p } rest
  | .last operand, form, s, hs, hnone => by
    obtain ⟨p, e, product, hp, hjoin, hrun⟩ := operand.run form s hs
    rw [hnone] at hjoin
    exact ⟨p, e, { s.level with product := product }, hp, congrArg (Level.join s.level.sum) hjoin, hrun⟩
  | .more operand op token kind weak more, form, s, hs, hnone => by
    obtain ⟨p, e, product, hp, hjoin, hrun⟩ := operand.run form s hs
    rw [hnone] at hjoin
    have hop := hp.read_arith form { s with level := { s.level with product := product } } kind
    rw [Level.push_weak _ _ weak, hjoin] at hop
    obtain ⟨p', e', level, hp', hclose, hmore⟩ := more.run form
      { s with level := ⟨some (Level.join s.level.sum operand.expr, op), none⟩, phase := .operand } rfl rfl
    refine ⟨p', e', level, hp', hclose, fun rest => ?_⟩
    simp only [Sum.tokens, List.append_assoc, List.cons_append]
    rw [hrun, run_of_read hop]
    exact hmore rest

end

/-! ## What is read is derived -/

/-- Behind a whole operand, only an operator, a closing parenthesis or a comparison is read. -/
theorem ParseState.readOperator_ok {form : Form} {s s' : ParseState} {e : Expr} {t : Token}
    (h : s.readOperator form e t = .ok s') :
    (∃ op, t.kind = .arith op) ∨
      (t.kind = .closeParen ∧ ∃ level outer, s.outer = level :: outer) ∨
      ∃ rel, t.kind = .relation rel ∧ s.outer = [] ∧ s.left = none ∧ form ≠ .expression := by
  unfold readOperator at h
  split at h
  · rename_i op kind
    exact .inl ⟨op, kind⟩
  · rename_i kind
    split at h
    · rename_i level outer houter
      exact .inr (.inl ⟨kind, level, outer, houter⟩)
    · cases h
  · rename_i rel kind
    split at h
    · rename_i hfree
      simp only [Bool.and_eq_true, List.isEmpty_iff, Option.isNone_iff_eq_none, bne_iff_ne] at hfree
      exact .inr (.inr ⟨rel, kind, hfree.1.1, hfree.1.2, hfree.2⟩)
    · cases h
  · cases h

theorem ParseState.stops_of_readOperator {form : Form} {s s' : ParseState} {e : Expr} {t : Token}
    (h : s.readOperator form e t = .ok s') (rest : List Token) : Stops 3 (t :: rest) := by
  obtain ⟨op, kind⟩ | ⟨kind, -⟩ | ⟨rel, kind, -⟩ := readOperator_ok h
  · exact stops_arith kind (by cases op <;> decide) rest
  · exact stops_closeParen kind 3 rest
  · exact stops_relation kind 3 rest

theorem ParseState.stops_of_run {form : Form} {s : ParseState} {e : Expr} {rest : List Token} {n : Node}
    (hs : s.phase = .complete e) (h : s.run form rest = .ok n) : Stops 3 rest := by
  cases rest with
  | nil => exact stops_nil 3
  | cons t more =>
    obtain ⟨s', hread, -⟩ := read_of_run h
    unfold ParseState.read at hread
    rw [hs] at hread
    exact stops_of_readOperator hread more

theorem ParseState.of_settle {α : Type} {value : Binary64} {token : Token} {next : Expr → Except ParseError α} {a : α}
    (h : settle value token >>= next = .ok a) : ∃ x, value = .finite x ∧ next (.const x) = .ok a := by
  cases value with
  | finite x => exact ⟨x, rfl, h⟩
  | infinity => cases h
  | nan => cases h

/-- Behind a number that is read to a good end stands the rest of its literal. -/
theorem literal_of_run {form : Form} {s : ParseState} {rest : List Token} {n : Node} {sign : Option Token}
    {number : Token} {negative : Bool} {size : Binary64} (signed : SignedBy number sign negative)
    (kind : number.kind = .number size)
    (h : ParseState.run form { s with phase := .number (if negative then -size else size) number } rest = .ok n) :
    ∃ (l : Literal) (more : List Token), l.tokens ++ more = sign.toList ++ number :: rest ∧ Stops 3 more := by
  cases rest with
  | nil =>
    obtain ⟨x, hx, -⟩ := of_settle h
    refine ⟨⟨sign, number, none, negative, size, none, x, signed, kind, .plain, hx⟩, [], ?_, stops_nil 3⟩
    exact List.append_nil _
  | cons t more =>
    obtain ⟨s', hread, hmore⟩ := read_of_run h
    change readUnit form _ (if negative then -size else size) number t = .ok s' at hread
    unfold readUnit at hread
    split at hread
    · rename_i hunit
      obtain ⟨x, hx, hs'⟩ := of_settle hread
      have hphase : s'.phase = .complete (.const x) := by rw [← Except.ok.inj hs']; rfl
      refine ⟨⟨sign, number, some t, negative, size, _, x, signed, kind, .percent hunit, hx⟩, more, ?_,
        stops_of_run hphase hmore⟩
      simp only [Literal.tokens, Option.toList_some, List.append_assoc, List.cons_append, List.nil_append]
    · rename_i hunit
      rw [unitFactor?_eq] at hread
      split at hread
      · rename_i factor found
        obtain ⟨x, hx, hs'⟩ := of_settle hread
        have hphase : s'.phase = .complete (.const x) := by rw [← Except.ok.inj hs']; rfl
        refine ⟨⟨sign, number, some t, negative, size, _, x, signed, kind, .word hunit found, hx⟩, more, ?_,
          stops_of_run hphase hmore⟩
        simp only [Literal.tokens, Option.toList_some, List.append_assoc, List.cons_append, List.nil_append]
      · cases hread
    · obtain ⟨x, hx, hop⟩ := of_settle hread
      refine ⟨⟨sign, number, none, negative, size, none, x, signed, kind, .plain, hx⟩, t :: more, ?_,
        stops_of_readOperator hop more⟩
      simp only [Literal.tokens, Option.toList_none, List.append_assoc, List.cons_append, List.nil_append]

/-- Behind a sign that is read to a good end stands the number that it touches. -/
theorem number_of_run {form : Form} {s : ParseState} {negative : Bool} {sign : Token} {tokens : List Token} {n : Node}
    (h : ParseState.run form { s with phase := .sign negative sign } tokens = .ok n) :
    ∃ number size rest, tokens = number :: rest ∧ number.kind = .number size ∧ number.position = sign.position + 1 ∧
      ParseState.run form { s with phase := .number (if negative then -size else size) number } rest = .ok n := by
  cases tokens with
  | nil => cases h
  | cons number rest =>
    obtain ⟨s', hread, hrest⟩ := read_of_run h
    unfold ParseState.read at hread
    dsimp only at hread
    split at hread
    · rename_i size kind
      split at hread
      · rename_i touches
        obtain rfl := Except.ok.inj hread
        exact ⟨number, size, rest, rfl, kind, touches, hrest⟩
      · cases hread
    · cases hread

/-- Inside parentheses, only the closing one follows a sum. -/
theorem closing_of_run {form : Form} {s : ParseState} {p : Phase} {e : Expr} {level : Level} {outer : List Level}
    {tokens : List Token} {n : Node} (hp : Ends p e) (houter : s.outer = level :: outer) (hstops : Stops 1 tokens)
    (h : ParseState.run form { s with phase := p } tokens = .ok n) :
    ∃ closing rest, tokens = closing :: rest ∧ closing.kind = .closeParen ∧ Stops 3 rest := by
  cases tokens with
  | nil =>
    rw [run_nil, hp.finish form s] at h
    unfold ParseState.complete at h
    rw [houter] at h
    cases h
  | cons t rest =>
    obtain ⟨hpercent, hword, harith⟩ := hstops t rfl
    obtain ⟨s', hread, hrest⟩ := read_of_run h
    have hop := hread
    rw [hp.read form s hpercent hword] at hop
    obtain ⟨op, kind⟩ | ⟨kind, -⟩ | ⟨rel, kind, hnil, -⟩ := readOperator_ok hop
    · have hlt := harith op kind
      cases op <;> cases hlt <;> contradiction
    · rw [hp.read_closeParen form s kind houter] at hread
      obtain rfl := Except.ok.inj hread
      exact ⟨t, rest, rfl, kind, stops_of_run rfl hrest⟩
    · rw [houter] at hnil
      cases hnil

-- The recursion goes to fewer tokens, or on the same tokens from a sum to its first product and from a product to its
-- first factor. What an operand leaves to be read is known from its run, not from the state that is reached.
mutual

/-- A factor stands in front of what is read to a good end where an operand must come. -/
theorem factor_of_run {form : Form} {s : ParseState} {tokens : List Token} {n : Node} (hs : s.phase = .operand)
    (h : s.run form tokens = .ok n) : ∃ (f : Factor) (rest : List Token), tokens = f.tokens ++ rest ∧ Stops 3 rest := by
  match tokens, h with
  | [], h =>
    rw [run_nil] at h
    unfold ParseState.finish at h
    rw [hs] at h
    cases h
  | t :: rest, h =>
    obtain ⟨s', hread, hrest⟩ := read_of_run h
    rw [read_eq_readOperand form hs] at hread
    unfold readOperand at hread
    split at hread
    · rename_i body kind
      split at hread
      · rename_i v hv
        obtain rfl := Except.ok.inj hread
        have hbody : t.kind = .glob v.text.toList := by rw [kind, Variable.text_of? hv, String.toList_ofList]
        exact ⟨.glob v t hbody, rest, rfl, stops_of_run rfl hrest⟩
      · cases hread
    · -- The level inside starts empty, so the run of the inner sum applies to it.
      rename_i opens
      obtain rfl := Except.ok.inj hread
      obtain ⟨inner, more, rfl, hstops⟩ := sum_of_run rfl hrest
      obtain ⟨p, e, level, hp, -, hrun⟩ := inner.run form ⟨s.left, s.level :: s.outer, .empty, .operand⟩ rfl rfl
      rw [hrun] at hrest
      obtain ⟨closing, after, rfl, closes, hafter⟩ :=
        closing_of_run (s := ⟨s.left, s.level :: s.outer, level, p⟩) hp rfl hstops hrest
      refine ⟨.group t inner closing opens closes, after, ?_, hafter⟩
      simp only [Factor.tokens, List.append_assoc, List.cons_append, List.nil_append]
    · rename_i size kind
      obtain rfl := Except.ok.inj hread
      obtain ⟨l, more, htokens, hstops⟩ := literal_of_run .unsigned kind hrest
      exact ⟨.number l, more, htokens.symm, hstops⟩
    · rename_i kind
      obtain rfl := Except.ok.inj hread
      obtain ⟨number, size, after, rfl, hnumber, touches, hafter⟩ := number_of_run hrest
      obtain ⟨l, more, htokens, hstops⟩ := literal_of_run (.plus kind touches) hnumber hafter
      exact ⟨.number l, more, htokens.symm, hstops⟩
    · rename_i kind
      obtain rfl := Except.ok.inj hread
      obtain ⟨number, size, after, rfl, hnumber, touches, hafter⟩ := number_of_run hrest
      obtain ⟨l, more, htokens, hstops⟩ := literal_of_run (.minus kind touches) hnumber hafter
      exact ⟨.number l, more, htokens.symm, hstops⟩
    · cases hread
termination_by (tokens.length, 0)

theorem product_of_run {form : Form} {s : ParseState} {tokens : List Token} {n : Node} (hs : s.phase = .operand)
    (h : s.run form tokens = .ok n) :
    ∃ (q : Product) (rest : List Token), tokens = q.tokens ++ rest ∧ Stops 2 rest := by
  obtain ⟨f, rest, rfl, hstops⟩ := factor_of_run hs h
  obtain ⟨p, hp, hrun⟩ := f.run form s hs
  by_cases hop : ∃ t more op, rest = t :: more ∧ t.kind = .arith op ∧ op.strength = 2
  · obtain ⟨t, more, op, rfl, kind, strong⟩ := hop
    rw [hrun, run_of_read (hp.read_arith form s kind)] at h
    obtain ⟨q, after, rfl, hafter⟩ := product_of_run rfl h
    refine ⟨.more f op t kind strong q, after, ?_, hafter⟩
    simp only [Product.tokens, List.append_assoc, List.cons_append]
  · exact ⟨.last f, rest, rfl, hstops.of_no_operator hop⟩
termination_by (tokens.length, 1)

theorem sum_of_run {form : Form} {s : ParseState} {tokens : List Token} {n : Node} (hs : s.phase = .operand)
    (h : s.run form tokens = .ok n) : ∃ (q : Sum) (rest : List Token), tokens = q.tokens ++ rest ∧ Stops 1 rest := by
  obtain ⟨f, rest, rfl, hstops⟩ := product_of_run hs h
  obtain ⟨p, e, product, hp, -, hrun⟩ := f.run form s hs
  by_cases hop : ∃ t more op, rest = t :: more ∧ t.kind = .arith op ∧ op.strength = 1
  · obtain ⟨t, more, op, rfl, kind, weak⟩ := hop
    have hread := hp.read_arith form { s with level := { s.level with product := product } } kind
    rw [hrun, run_of_read hread] at h
    obtain ⟨q, after, rfl, hafter⟩ := sum_of_run rfl h
    refine ⟨.more f op t kind weak q, after, ?_, hafter⟩
    simp only [Sum.tokens, List.append_assoc, List.cons_append]
  · exact ⟨.last f, rest, rfl, hstops.of_no_operator hop⟩
termination_by (tokens.length, 2)

end

/-! ## Sentences -/

theorem Grammar.Sum.run_start (q : Sum) (form : Form) (left : Option (Expr × Relation)) :
    ∃ p e level, Ends p e ∧ level.close e = q.expr ∧
      ∀ rest, ParseState.run form ⟨left, [], .empty, .operand⟩ (q.tokens ++ rest) =
        ParseState.run form ⟨left, [], level, p⟩ rest :=
  q.run form ⟨left, [], .empty, .operand⟩ rfl rfl

theorem ParseState.Ends.read_relation {p : Phase} {e : Expr} (h : Ends p e) {form : Form} (level : Level) {t : Token}
    {rel : Relation} (kind : t.kind = .relation rel) (hform : form ≠ .expression) :
    ParseState.read form ⟨none, [], level, p⟩ t = .ok ⟨some (level.close e, rel), [], .empty, .operand⟩ := by
  have hread := h.read form ⟨none, [], level, p⟩ (t := t) (by rw [kind]; nofun) (by rw [kind]; nofun)
  refine hread.trans ?_
  unfold readOperator
  rw [kind]
  cases form <;> first | rfl | contradiction

/-- A sentence that fits the entry point is read as its node. -/
theorem Grammar.Sentence.ofTokens?_tokens {form : Form} : ∀ {d : Sentence}, d.Fits form →
    Node.ofTokens? form d.tokens = .ok d.node
  | .expression q, hfits => by
    obtain ⟨p, e, level, hp, hclose, hrun⟩ := q.run_start form none
    have hend := hrun []
    rw [List.append_nil, run_nil, hp.finish form ⟨none, [], level, p⟩] at hend
    refine hend.trans ?_
    dsimp only [Sentence.node]
    rw [← hclose]
    cases form <;> first | rfl | cases hfits
  | .predicate l rel token kind r, hfits => by
    obtain ⟨p, e, level, hp, hclose, hrun⟩ := l.run_start form none
    obtain ⟨p', e', level', hp', hclose', hrun'⟩ := r.run_start form (some (l.expr, rel))
    have hform : form ≠ .expression := by
      rintro rfl
      exact hfits
    have hread := hp.read_relation level kind hform
    rw [hclose] at hread
    have hend := hrun' []
    rw [List.append_nil, run_nil, hp'.finish form ⟨some (l.expr, rel), [], level', p'⟩] at hend
    dsimp only [Sentence.node]
    rw [← hclose']
    exact (hrun _).trans ((run_of_read hread _).trans hend)

/-- Outside parentheses, only a comparison follows a sum, and only the first one. -/
theorem relation_of_run {form : Form} {left : Option (Expr × Relation)} {level : Level} {p : Phase} {e : Expr}
    {tokens : List Token} {n : Node} (hp : Ends p e) (hstops : Stops 1 tokens)
    (h : ParseState.run form ⟨left, [], level, p⟩ tokens = .ok n) :
    tokens = [] ∨ ∃ t rel rest, tokens = t :: rest ∧ t.kind = .relation rel ∧ left = none ∧ form ≠ .expression ∧
      ParseState.run form ⟨some (level.close e, rel), [], .empty, .operand⟩ rest = .ok n := by
  cases tokens with
  | nil => exact .inl rfl
  | cons t rest =>
    obtain ⟨hpercent, hword, -⟩ := hstops t rfl
    obtain ⟨s', hread, hrest⟩ := read_of_run h
    have hop := hread
    rw [hp.read form ⟨left, [], level, p⟩ hpercent hword] at hop
    obtain ⟨op, kind⟩ | ⟨-, lvl, outer, houter⟩ | ⟨rel, kind, -, hleft, hform⟩ := readOperator_ok hop
    · exact (hstops.not_arith kind (by cases op <;> decide)).elim
    · cases houter
    · have hnone : left = none := hleft
      subst hnone
      rw [hp.read_relation level kind hform] at hread
      obtain rfl := Except.ok.inj hread
      exact .inr ⟨t, rel, rest, rfl, kind, rfl, hform, hrest⟩

/-- Tokens that are read are those of a sentence that fits the entry point. -/
theorem sentence_of_ofTokens? {form : Form} {tokens : List Token} {n : Node}
    (h : Node.ofTokens? form tokens = .ok n) : ∃ d : Sentence, d.Fits form ∧ d.tokens = tokens := by
  have h : ParseState.start.run form tokens = .ok n := h
  obtain ⟨l, rest, rfl, hstops⟩ := sum_of_run rfl h
  obtain ⟨p, e, level, hp, -, hrun⟩ := l.run_start form none
  have h : ParseState.run form ⟨none, [], level, p⟩ rest = .ok n := (hrun rest).symm.trans h
  obtain rfl | ⟨t, rel, more, rfl, kind, -, hform, hmore⟩ := relation_of_run hp hstops h
  · refine ⟨.expression l, ?_, (List.append_nil _).symm⟩
    rw [run_nil, hp.finish form ⟨none, [], level, p⟩] at h
    cases form with
    | predicate => cases h
    | either => trivial
    | expression => trivial
  · obtain ⟨r, after, rfl, hafter⟩ := sum_of_run rfl hmore
    obtain ⟨p', e', level', hp', -, hrun'⟩ := r.run_start form (some (level.close e, rel))
    rw [hrun'] at hmore
    obtain rfl | ⟨-, -, -, -, -, hleft, -⟩ := relation_of_run hp' hafter hmore
    · refine ⟨.predicate l rel t kind r, ?_, ?_⟩
      · cases form <;> trivial
      · simp only [Sentence.tokens, List.append_nil]
    · cases hleft

theorem Node.parse_iff_ofTokens? {text : String} {tokens : List Token} (h : Token.scan 0 text.toList = .ok tokens)
    (form : Form) (n : Node) : Node.parse form text = .ok n ↔ Node.ofTokens? form tokens = .ok n := by
  unfold Node.parse
  rw [h]
  dsimp only
  cases Node.ofTokens? form tokens with
  | error e => exact ⟨nofun, nofun⟩
  | ok m => exact ⟨fun hm => congrArg _ (Except.ok.inj hm), fun hm => congrArg _ (Except.ok.inj hm)⟩

theorem eq_ok_of_toOption {ε α : Type} {x : Except ε α} {a : α} (h : x.toOption = some a) : x = .ok a := by
  cases x with
  | error => cases h
  | ok b => exact congrArg _ (Option.some.inj h)

end MetricExpr
