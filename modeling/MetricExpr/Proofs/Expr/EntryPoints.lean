import MetricExpr.Proofs.Expr.Lockstep
/-!
# Entry points

A text is read as either form of node, as an expression, or as a comparison. The three runs of the parser take the same
steps up to the comparison operator, where an expression ends; behind it the other two take the same steps
(`ParseState.ReadsInForms`). So either form is the disjoint union of the other two (`ParseState.agree_run`).
-/
namespace MetricExpr

/-! ## Outcomes -/

/-- What is read as either form, as an expression and as a comparison: a node of one kind, which the other kind refuses;
or faults, those of either form and of a comparison at one place. -/
inductive Node.Agree {ε π : Type} (place : ε → π) : Except ε Node → Except ε Node → Except ε Node → Prop where
  | expression (e : Expr) (fault : ε) : Agree place (.ok (.expr e)) (.ok (.expr e)) (.error fault)
  | comparison (rel : Relation) (l r : Expr) (fault : ε) :
      Agree place (.ok (.comparison rel l r)) (.error fault) (.ok (.comparison rel l r))
  | fault {e e' e'' : ε} : place e'' = place e → Agree place (.error e) (.error e') (.error e'')

theorem Node.Agree.mapError {ε π ε' π' : Type} {place : ε → π} {place' : ε' → π'} {f : ε → ε'}
    (hf : ∀ e e', place e = place e' → place' (f e) = place' (f e')) {x x' x'' : Except ε Node}
    (h : Agree place x x' x'') : Agree place' (x.mapError f) (x'.mapError f) (x''.mapError f) := by
  cases h with
  | expression e fault => exact .expression e (f fault)
  | comparison rel l r fault => exact .comparison rel l r (f fault)
  | fault hplace => exact .fault (hf _ _ hplace)

open Node (Agree)

/-! ## One token -/

namespace ParseState

/-- What a token comes to for either form, for an expression and for a comparison: the same state, with the same left
side; faults, the first and the last at the same place; or the left side of a comparison, where an expression ends. -/
inductive ReadsInForms (left : Option (Expr × Relation)) :
    Except ParseError ParseState → Except ParseError ParseState → Except ParseError ParseState → Prop where
  | next {s : ParseState} : s.left = left → ReadsInForms left (.ok s) (.ok s) (.ok s)
  | fault {e e' e'' : ParseError} : e''.token = e.token → ReadsInForms left (.error e) (.error e') (.error e'')
  | relation {s : ParseState} {e' : ParseError} : left = none → s.left.isSome →
      ReadsInForms left (.ok s) (.error e') (.ok s)

variable {s : ParseState}

theorem readsInForms_refuse (left : Option (Expr × Relation)) (token : Option Token) :
    ReadsInForms left (.error (s.refuse .either token)) (.error (s.refuse .expression token))
      (.error (s.refuse .predicate token)) :=
  .fault (by rw [refuse_token, refuse_token])

theorem readsInForms_readOperand (s : ParseState) (t : Token) :
    ReadsInForms s.left (s.readOperand t) (s.readOperand t) (s.readOperand t) := by
  unfold readOperand
  split
  · split
    · exact .next rfl
    · exact .fault rfl
  · exact .next rfl
  · exact .next rfl
  · exact .next rfl
  · exact .next rfl
  · exact .fault rfl

theorem readsInForms_readOperator (s : ParseState) (e : Expr) (t : Token) :
    ReadsInForms s.left (s.readOperator .either e t) (s.readOperator .expression e t) (s.readOperator .predicate e t) := by
  unfold readOperator
  cases t.kind with
  | arith op => exact .next rfl
  | closeParen =>
    cases s.outer with
    | nil => exact readsInForms_refuse _ _
    | cons level outer => exact .next rfl
  | relation rel =>
    dsimp only
    cases houter : s.outer.isEmpty with
    | false => exact readsInForms_refuse _ _
    | true =>
      cases hleft : s.left with
      | some l => exact readsInForms_refuse _ _
      | none => exact .relation rfl rfl
  | number | glob | word | openParen | percent => exact readsInForms_refuse _ _

/-- A number that does not settle is a fault at the number. -/
theorem readsInForms_settle {left : Option (Expr × Relation)} (value : Binary64) (number : Token)
    {next next' next'' : Expr → Except ParseError ParseState} (h : ∀ e, ReadsInForms left (next e) (next' e) (next'' e)) :
    ReadsInForms left (settle value number >>= next) (settle value number >>= next') (settle value number >>= next'') := by
  cases value with
  | finite x => exact h (.const x)
  | infinity | nan => exact .fault rfl

theorem readsInForms_readUnit (s : ParseState) (value : Binary64) (number t : Token) :
    ReadsInForms s.left (s.readUnit .either value number t) (s.readUnit .expression value number t)
      (s.readUnit .predicate value number t) := by
  have hdone : ∀ e, ReadsInForms s.left (.ok (s.done e)) (.ok (s.done e)) (.ok (s.done e)) := fun _ => .next rfl
  have hoperator : ∀ e, ReadsInForms s.left (s.readOperator .either e t) (s.readOperator .expression e t)
      (s.readOperator .predicate e t) := fun e => readsInForms_readOperator s e t
  unfold readUnit
  cases t.kind with
  | percent => exact readsInForms_settle _ number hdone
  | word =>
    dsimp only
    cases unitFactor? t.text with
    | some factor => exact readsInForms_settle _ number hdone
    | none => exact .fault rfl
  | number | glob | arith | relation | openParen | closeParen => exact readsInForms_settle _ number hoperator

/-- **One token is read alike at the three entry points**, apart from the operator of a comparison. -/
theorem readsInForms_read (s : ParseState) (t : Token) :
    ReadsInForms s.left (s.read .either t) (s.read .expression t) (s.read .predicate t) := by
  obtain ⟨left, outer, level, phase⟩ := s
  cases phase with
  | operand => exact readsInForms_readOperand _ t
  | sign negative sign =>
    unfold ParseState.read
    dsimp only
    split
    · split
      · exact .next rfl
      · exact .fault rfl
    · exact .fault rfl
  | number value number => exact readsInForms_readUnit _ value number t
  | complete e => exact readsInForms_readOperator _ e t

/-! ## Runs -/

/-- What an expression comes to beside a state of the other two: the same as from this state, or a fault once the operator
of a comparison has been read. -/
inductive Beside (s : ParseState) (outcome : Except ParseError Node) : Except ParseError Node → Prop where
  | same : s.left = none → Beside s outcome outcome
  | fault (e : ParseError) : s.left.isSome → Beside s outcome (.error e)

variable {x' : Except ParseError Node}

theorem agree_complete (s : ParseState) (e : Expr) (h : Beside s (s.complete .expression e) x') :
    Agree ParseError.token (s.complete .either e) x' (s.complete .predicate e) := by
  cases h with
  | same hleft =>
    unfold ParseState.complete
    rw [hleft]
    split
    · exact .fault rfl
    · exact .expression _ _
  | fault fault hleft =>
    obtain ⟨⟨l, rel⟩, hleft⟩ := Option.isSome_iff_exists.1 hleft
    unfold ParseState.complete
    rw [hleft]
    split
    · exact .fault rfl
    · exact .comparison _ _ _ _

theorem agree_finish (h : Beside s (s.finish .expression) x') :
    Agree ParseError.token (s.finish .either) x' (s.finish .predicate) := by
  obtain ⟨left, outer, level, phase⟩ := s
  cases phase with
  | operand => cases h <;> exact .fault rfl
  | sign negative sign => cases h <;> exact .fault rfl
  | number value number =>
    cases value with
    | finite x => exact agree_complete _ (.const x) h
    | infinity | nan => cases h <;> exact .fault rfl
  | complete e => exact agree_complete _ e h

/-- **The runs of the three entry points agree** up to the operator of a comparison, and behind it. -/
theorem agree_run : ∀ (tokens : List Token) {s : ParseState} {x' : Except ParseError Node},
    Beside s (s.run .expression tokens) x' → Agree ParseError.token (s.run .either tokens) x' (s.run .predicate tokens)
  | [], s, x', h => agree_finish h
  | t :: rest, s, x', h => by
    rw [run_cons] at h
    rw [run_cons, run_cons]
    have hread := readsInForms_read s t
    generalize s.read .either t = r, s.read .expression t = r', s.read .predicate t = r'' at hread h
    cases hread with
    | next hleft =>
      refine agree_run rest ?_
      cases h with
      | same hnone => exact .same (hleft.trans hnone)
      | fault e hsome => exact .fault e (hleft ▸ hsome)
    | fault htoken => cases h <;> exact .fault htoken
    | relation hnone hsome =>
      cases h with
      | same => exact agree_run rest (.fault _ hsome)
      | fault e hbehind => simp [hnone] at hbehind

end ParseState

/-! ## Texts -/

theorem SyntaxError.position_congr (text : String) {e e' : ParseError} (h : e.token = e'.token) :
    (ofParse text e).position = (ofParse text e').position := by
  unfold ofParse
  rw [h]

theorem Node.agree_parse (text : String) :
    Agree SyntaxError.position (parse .either text) (parse .expression text) (parse .predicate text) := by
  cases hscan : Token.scan 0 text.toList with
  | error fault =>
    unfold parse
    rw [hscan]
    exact .fault rfl
  | ok tokens =>
    rw [parse_of_scan hscan, parse_of_scan hscan, parse_of_scan hscan]
    have hruns : Agree ParseError.token (ofTokens? .either tokens) (ofTokens? .expression tokens)
        (ofTokens? .predicate tokens) := ParseState.agree_run tokens (.same rfl)
    exact hruns.mapError fun e e' => SyntaxError.position_congr text

/-- **The three entry points agree.** Either form is read as the same expression that the text is as an expression, or as
the same comparison that it is as a comparison, and no text is both. Where neither is read, either form fails, and a
comparison fails where it does. -/
theorem entry_points_agree (text : String) :
    (∀ n, (∃ e, n = .expr e) ∧ Node.parse .either text = .ok n ↔ Node.parse .expression text = .ok n) ∧
    (∀ n, (∃ rel l r, n = .comparison rel l r) ∧ Node.parse .either text = .ok n ↔
      Node.parse .predicate text = .ok n) ∧
    (¬ ∃ n m, Node.parse .expression text = .ok n ∧ Node.parse .predicate text = .ok m) ∧
    ((∃ e, Node.parse .either text = .error e) ↔
      (∃ e, Node.parse .expression text = .error e) ∧ ∃ e, Node.parse .predicate text = .error e) ∧
    ∀ e, Node.parse .either text = .error e →
      ∃ e', Node.parse .predicate text = .error e' ∧ e'.position = e.position := by
  have hagree := Node.agree_parse text
  generalize Node.parse .either text = x, Node.parse .expression text = x', Node.parse .predicate text = x'' at hagree
  cases hagree with
  | expression e fault =>
    refine ⟨fun n => ⟨And.right, fun h => ⟨⟨e, (Except.ok.inj h).symm⟩, h⟩⟩, fun n => ⟨?_, nofun⟩, ?_, ?_, nofun⟩
    · rintro ⟨⟨rel, l, r, rfl⟩, h⟩
      cases h
    · rintro ⟨n, m, -, h⟩
      cases h
    · exact ⟨nofun, fun h => nomatch h.1⟩
  | comparison rel l r fault =>
    refine ⟨fun n => ⟨?_, nofun⟩, fun n => ⟨And.right, fun h => ⟨⟨rel, l, r, (Except.ok.inj h).symm⟩, h⟩⟩, ?_, ?_, nofun⟩
    · rintro ⟨⟨e, rfl⟩, h⟩
      cases h
    · rintro ⟨n, m, h, -⟩
      cases h
    · exact ⟨nofun, fun h => nomatch h.2⟩
  | @fault e e' e'' hposition =>
    refine ⟨fun n => ⟨fun h => (nomatch h.2), nofun⟩, fun n => ⟨fun h => (nomatch h.2), nofun⟩, ?_, ?_, ?_⟩
    · rintro ⟨n, m, h, -⟩
      cases h
    · exact ⟨fun _ => ⟨⟨e', rfl⟩, e'', rfl⟩, fun _ => ⟨e, rfl⟩⟩
    · intro fault h
      obtain rfl := Except.error.inj h
      exact ⟨e'', rfl, hposition⟩

/-- A second comparison operator is a fault for either form and for a comparison, while an expression ends at the first. -/
theorem entry_points_agree_chain : ∃ e e', Node.parse .either "1 < \"a\" < 2" = .error e ∧ e.position = 8 ∧
    Node.parse .predicate "1 < \"a\" < 2" = .error e' ∧ e'.position = e.position := by
  have hposition : (match Node.parse .either "1 < \"a\" < 2" with
      | .error e => e.position
      | .ok _ => -1) = 8 := by decide +kernel
  cases he : Node.parse .either "1 < \"a\" < 2" with
  | ok n =>
    rw [he] at hposition
    cases hposition
  | error e =>
    rw [he] at hposition
    obtain ⟨e', he', hsame⟩ := (entry_points_agree "1 < \"a\" < 2").2.2.2.2 e he
    exact ⟨e, e', rfl, hposition, he', hsame⟩

end MetricExpr
