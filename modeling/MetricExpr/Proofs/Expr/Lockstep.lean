import MetricExpr.Proofs.Expr.Viable
/-!
# Runs in step

Two lists of tokens with the same contents, in which the same numbers touch their signs, are read in step: one token takes
both runs to states that differ in the places of tokens only, or to the same fault (`ParseState.InStep.read`). So both
lists are the same node, or the same fault at the same place (`ofTokens?_inStep`).
-/
namespace MetricExpr

open Token

/-- Pairs of tokens, one of each list, that are read in step behind the last pair. -/
inductive Token.InStep : Option (Token × Token) → List (Token × Token) → Prop where
  | nil (last : Option (Token × Token)) : InStep last []
  | cons {last : Option (Token × Token)} {pair : Token × Token} {rest : List (Token × Token)} :
      pair.1.content = pair.2.content →
      (∀ sign ∈ last, sign.1.IsSign → (pair.1.Touches sign.1 ↔ pair.2.Touches sign.2)) → InStep (some pair) rest →
      InStep last (pair :: rest)

theorem Token.exists_of_content {pair : Token × Token} (h : pair.1.content = pair.2.content) :
    ∃ kind text position position', pair = (⟨kind, text, position⟩, ⟨kind, text, position'⟩) := by
  obtain ⟨⟨kind, text, position⟩, u⟩ := pair
  obtain ⟨hkind, htext⟩ := Prod.mk.inj h
  exact ⟨kind, text, position, u.position, by rw [show kind = u.kind from hkind, show text = u.text from htext]⟩

theorem Token.InStep.diagonal : ∀ (tokens : List Token) (last : Option Token),
    InStep (last.map fun t => (t, t)) (tokens.map fun t => (t, t))
  | [], _ => .nil _
  | t :: rest, last => by
    refine .cons rfl (fun sign hsign _ => ?_) (diagonal rest (some t))
    obtain ⟨u, -, rfl⟩ := Option.map_eq_some_iff.1 hsign
    exact Iff.rfl

/-- Phases that differ in the places of tokens only, with no token kept but that of the last pair. -/
inductive Phase.InStep (last : Option (Token × Token)) : Phase → Phase → Prop where
  | operand : InStep last .operand .operand
  | sign (negative : Bool) {sign : Token × Token} : last = some sign → sign.1.IsSign →
      InStep last (.sign negative sign.1) (.sign negative sign.2)
  | number (value : Binary64) {number : Token × Token} : last = some number →
      InStep last (.number value number.1) (.number value number.2)
  | complete (e : Expr) : InStep last (.complete e) (.complete e)

namespace ParseState

def InStep (last : Option (Token × Token)) (s s' : ParseState) : Prop :=
  ∃ p, s.phase.InStep last p ∧ s' = { s with phase := p }

/-- What reading a pair of tokens comes to: states in step behind it, or the same fault at it or at the last pair. -/
inductive ReadsInStep (last : Option (Token × Token)) (pair : Token × Token) :
    Except ParseError ParseState → Except ParseError ParseState → Prop where
  | next {s s' : ParseState} : s.InStep (some pair) s' → ReadsInStep last pair (.ok s) (.ok s')
  | fault (cause : ParseFault) {place : Token × Token} : place = pair ∨ last = some place →
      ReadsInStep last pair (.error ⟨cause, some place.1⟩) (.error ⟨cause, some place.2⟩)

variable {form : Form} {last : Option (Token × Token)} {pair : Token × Token} {s s' : ParseState} {p : Phase}

theorem refuse_eq (form : Form) (s : ParseState) (token : Option Token) :
    s.refuse form token = ⟨(s.refuse form none).fault, token⟩ := by
  unfold refuse
  split
  · rfl
  · split <;> rfl

theorem readsInStep_refuse (form : Form) (s : ParseState) (p : Phase) : ReadsInStep last pair
    (.error (s.refuse form (some pair.1))) (.error (refuse form { s with phase := p } (some pair.2))) := by
  rw [refuse_eq form s, refuse_eq form { s with phase := p }]
  exact .fault _ (.inl rfl)

theorem readsInStep_readOperand (hcontent : pair.1.content = pair.2.content) :
    ReadsInStep last pair (s.readOperand pair.1) (s.readOperand pair.2) := by
  obtain ⟨kind, text, position, position', rfl⟩ := exists_of_content hcontent
  unfold readOperand
  cases kind with
  | glob body =>
    dsimp only
    cases Variable.of? ⟨String.ofList body⟩ with
    | some v => exact .next ⟨_, .complete _, rfl⟩
    | none => exact .fault _ (.inl rfl)
  | openParen => exact .next ⟨_, .operand, rfl⟩
  | number value => exact .next ⟨_, .number value rfl, rfl⟩
  | arith op =>
    cases op with
    | plus => exact .next ⟨_, .sign false rfl (.inl rfl), rfl⟩
    | minus => exact .next ⟨_, .sign true rfl (.inr rfl), rfl⟩
    | times | divide => exact .fault _ (.inl rfl)
  | word | relation | closeParen | percent => exact .fault _ (.inl rfl)

theorem readsInStep_readOperator (form : Form) (s : ParseState) (p : Phase) (e : Expr)
    (hcontent : pair.1.content = pair.2.content) :
    ReadsInStep last pair (s.readOperator form e pair.1) (readOperator form { s with phase := p } e pair.2) := by
  obtain ⟨kind, text, position, position', rfl⟩ := exists_of_content hcontent
  obtain ⟨left, outer, level, phase⟩ := s
  unfold readOperator
  cases kind with
  | arith op => exact .next ⟨_, .operand, rfl⟩
  | closeParen =>
    cases outer with
    | nil => exact readsInStep_refuse form _ p
    | cons inside outer => exact .next ⟨_, .complete _, rfl⟩
  | relation rel =>
    dsimp only
    split
    · exact .next ⟨_, .operand, rfl⟩
    · exact readsInStep_refuse form _ p
  | number | glob | word | openParen | percent => exact readsInStep_refuse form _ p

theorem readsInStep_settle {number : Token × Token} (hlast : last = some number) (value : Binary64)
    {next next' : Expr → Except ParseError ParseState} (h : ∀ e, ReadsInStep last pair (next e) (next' e)) :
    ReadsInStep last pair (settle value number.1 >>= next) (settle value number.2 >>= next') := by
  cases value with
  | finite x => exact h (.const x)
  | infinity | nan => exact .fault _ (.inr hlast)

theorem readsInStep_readUnit (form : Form) (s : ParseState) (p : Phase) {number : Token × Token}
    (hlast : last = some number) (value : Binary64) (hcontent : pair.1.content = pair.2.content) :
    ReadsInStep last pair (s.readUnit form value number.1 pair.1)
      (readUnit form { s with phase := p } value number.2 pair.2) := by
  have hdone : ∀ e, ReadsInStep last pair (.ok (s.done e)) (.ok (done { s with phase := p } e)) := fun e =>
    .next ⟨_, .complete e, rfl⟩
  have hoperator : ∀ e, ReadsInStep last pair (s.readOperator form e pair.1)
      (readOperator form { s with phase := p } e pair.2) := fun e => readsInStep_readOperator form s p e hcontent
  obtain ⟨kind, text, position, position', rfl⟩ := exists_of_content hcontent
  unfold readUnit
  cases kind with
  | percent => exact readsInStep_settle hlast _ hdone
  | word =>
    dsimp only
    cases unitFactor? text with
    | some factor => exact readsInStep_settle hlast _ hdone
    | none => exact .fault _ (.inl rfl)
  | number | glob | arith | relation | openParen | closeParen => exact readsInStep_settle hlast _ hoperator

/-- Behind a sign only a number that touches it is read; in step, both numbers do or neither. -/
theorem readsInStep_sign {sign : Token × Token} (hlast : last = some sign) (negative : Bool)
    (hcontent : pair.1.content = pair.2.content) (htouches : pair.1.Touches sign.1 ↔ pair.2.Touches sign.2) :
    ReadsInStep last pair (ParseState.read form { s with phase := .sign negative sign.1 } pair.1)
      (ParseState.read form { s with phase := .sign negative sign.2 } pair.2) := by
  obtain ⟨kind, text, position, position', rfl⟩ := exists_of_content hcontent
  unfold ParseState.read
  cases kind with
  | number value =>
    have hplaces : position = sign.1.position + 1 ↔ position' = sign.2.position + 1 := by
      simpa [Touches] using htouches
    dsimp only
    by_cases hplace : position = sign.1.position + 1
    · rw [if_pos hplace, if_pos (hplaces.1 hplace)]
      exact .next ⟨_, .number _ rfl, rfl⟩
    · rw [if_neg hplace, if_neg (mt hplaces.2 hplace)]
      exact .fault _ (.inr hlast)
  | word | glob | arith | relation | openParen | closeParen | percent => exact .fault _ (.inr hlast)

/-- **One pair of tokens is read in step.** -/
theorem InStep.read (h : s.InStep last s') (hcontent : pair.1.content = pair.2.content)
    (htouches : ∀ sign ∈ last, sign.1.IsSign → (pair.1.Touches sign.1 ↔ pair.2.Touches sign.2)) :
    ReadsInStep last pair (s.read form pair.1) (s'.read form pair.2) := by
  obtain ⟨left, outer, level, phase⟩ := s
  obtain ⟨p, hp, rfl⟩ := h
  cases hp with
  | operand => exact readsInStep_readOperand hcontent
  | sign negative hlast hsign =>
    exact readsInStep_sign (s := ⟨left, outer, level, .operand⟩) hlast negative hcontent (htouches _ hlast hsign)
  | number value hlast => exact readsInStep_readUnit form _ _ hlast value hcontent
  | complete e => exact readsInStep_readOperator form _ _ e hcontent

/-! ## Runs -/

/-- Two runs over pairs of tokens end in one node, or in one fault at one place; the place behind the last pair is the end
of the text. -/
inductive EndsInStep (pairs : List (Token × Token)) : Except ParseError Node → Except ParseError Node → Prop where
  | node (n : Node) : EndsInStep pairs (.ok n) (.ok n)
  | fault {e e' : ParseError} (place : Nat) : place ≤ pairs.length → e.fault = e'.fault →
      e.token = (pairs.map Prod.fst)[place]? → e'.token = (pairs.map Prod.snd)[place]? →
      EndsInStep pairs (.error e) (.error e')

theorem endsInStep_of_mem {pairs : List (Token × Token)} (cause : ParseFault) (h : pair ∈ pairs) :
    EndsInStep pairs (.error ⟨cause, some pair.1⟩) (.error ⟨cause, some pair.2⟩) := by
  obtain ⟨place, hplace, rfl⟩ := List.mem_iff_getElem.1 h
  exact .fault place (Nat.le_of_lt hplace) rfl (by simp [hplace]) (by simp [hplace])

theorem endsInStep_of_end (pairs : List (Token × Token)) (cause : ParseFault) :
    EndsInStep pairs (.error ⟨cause, none⟩) (.error ⟨cause, none⟩) :=
  .fault pairs.length (Nat.le_refl _) rfl (by simp) (by simp)

theorem endsInStep_complete (form : Form) (s : ParseState) (p : Phase) (e : Expr) (pairs : List (Token × Token)) :
    EndsInStep pairs (s.complete form e) (complete form { s with phase := p } e) := by
  obtain ⟨left, outer, level, phase⟩ := s
  unfold ParseState.complete
  dsimp only
  split
  · exact endsInStep_of_end pairs _
  · split
    · exact .node _
    · split
      · exact endsInStep_of_end pairs _
      · exact .node _

theorem InStep.finish (form : Form) (h : s.InStep last s') :
    EndsInStep last.toList (s.finish form) (s'.finish form) := by
  obtain ⟨left, outer, level, phase⟩ := s
  obtain ⟨p, hp, rfl⟩ := h
  cases hp with
  | operand => exact endsInStep_of_end _ _
  | sign negative hlast =>
    subst hlast
    exact endsInStep_of_mem _ List.mem_cons_self
  | number value hlast =>
    subst hlast
    cases value with
    | finite x => exact endsInStep_complete form _ _ _ _
    | infinity | nan => exact endsInStep_of_mem _ List.mem_cons_self
  | complete e => exact endsInStep_complete form _ _ e _

theorem EndsInStep.cons {pairs : List (Token × Token)} {r r' : Except ParseError Node} (h : EndsInStep pairs r r')
    (pair : Token × Token) : EndsInStep (pair :: pairs) r r' := by
  cases h with
  | node n => exact .node n
  | fault place hplace hcause htoken htoken' =>
    exact .fault (place + 1) (Nat.succ_le_succ hplace) hcause (by simpa using htoken) (by simpa using htoken')

/-- **Runs in step end in step.** -/
theorem InStep.run (form : Form) {pairs : List (Token × Token)} (hpairs : Token.InStep last pairs) :
    ∀ {s s' : ParseState}, s.InStep last s' →
      EndsInStep (last.toList ++ pairs) (s.run form (pairs.map Prod.fst)) (s'.run form (pairs.map Prod.snd)) := by
  induction hpairs with
  | nil last =>
    intro s s' h
    rw [List.append_nil]
    exact h.finish form
  | @cons last pair rest hcontent htouches _ ih =>
    intro s s' h
    have hread : ReadsInStep last pair (s.read form pair.1) (s'.read form pair.2) := h.read hcontent htouches
    rw [List.map_cons, List.map_cons, run_cons, run_cons]
    generalize s.read form pair.1 = r at hread
    generalize s'.read form pair.2 = r' at hread
    cases hread with
    | next hnext =>
      have hrest := ih hnext
      cases last with
      | none => exact hrest
      | some before => exact hrest.cons before
    | fault cause hplace =>
      refine endsInStep_of_mem cause ?_
      rcases hplace with rfl | rfl
      · exact List.mem_append_right _ List.mem_cons_self
      · exact List.mem_append_left _ List.mem_cons_self

end ParseState

open ParseState

/-- Lists in step are the same node, or the same fault at the same place. -/
theorem ofTokens?_inStep (form : Form) {pairs : List (Token × Token)} (h : Token.InStep none pairs) :
    EndsInStep pairs (Node.ofTokens? form (pairs.map Prod.fst)) (Node.ofTokens? form (pairs.map Prod.snd)) :=
  InStep.run form h ⟨_, .operand, rfl⟩

/-- The fault of a list is at one of its tokens or at its end. -/
theorem place_of_ofTokens? {form : Form} {tokens : List Token} {e : ParseError}
    (h : Node.ofTokens? form tokens = .error e) : ∃ place ≤ tokens.length, e.token = tokens[place]? := by
  have hends := ofTokens?_inStep form (InStep.diagonal tokens none)
  have hsame : ∀ f : Token × Token → Token, (∀ t, f (t, t) = t) → (tokens.map fun t => (t, t)).map f = tokens := by
    intro f hf
    rw [List.map_map]
    exact List.map_id'' hf tokens
  rw [hsame _ fun _ => rfl, hsame _ fun _ => rfl, h] at hends
  cases hends with
  | fault place hplace _ htoken _ => exact ⟨place, by simpa using hplace, by rw [htoken, hsame _ fun _ => rfl]⟩

/-! ## Texts -/

theorem Node.parse_of_scan {form : Form} {text : String} {tokens : List Token}
    (h : scan 0 text.toList = .ok tokens) :
    Node.parse form text = (Node.ofTokens? form tokens).mapError (.ofParse text) := by
  unfold Node.parse
  rw [h]
  dsimp only
  cases Node.ofTokens? form tokens <;> rfl

theorem SyntaxError.position_ofParse (text : String) {tokens : List Token} {e : ParseError} {place : Nat}
    (h : e.token = tokens[place]?) : (SyntaxError.ofParse text e).position = startAt text tokens place := by
  unfold SyntaxError.ofParse startAt
  rw [h]
  cases tokens[place]? <;> rfl

theorem SyntaxError.found_ofParse (text : String) (e : ParseError) :
    (SyntaxError.ofParse text e).found = some (describe e.token) := rfl

theorem Token.describe_congr {t u : Option Token} (h : t.map content = u.map content) : describe t = describe u := by
  cases t with
  | none =>
    cases u with
    | none => rfl
    | some u => cases h
  | some t =>
    cases u with
    | none => cases h
    | some u => exact congrArg (fun cs => String.ofList (Text.quoted cs)) (congrArg Prod.snd (Option.some.inj h))

theorem Token.InStep.content {last : Option (Token × Token)} {pairs : List (Token × Token)} (h : InStep last pairs) :
    (pairs.map Prod.snd).map content = (pairs.map Prod.fst).map content := by
  induction h with
  | nil => rfl
  | cons hcontent _ _ ih => simp only [List.map_cons, hcontent, ih]

end MetricExpr
