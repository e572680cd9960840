import MetricExpr.Proofs.Expr.Derivation
/-!
# Where the parser stops

What the parser has read without a fault can be continued to a whole sentence (`ParseState.exists_rest`), and what it
stops at cannot: tokens are read alike wherever they stand (`ParseState.Alike.read`), apart from a number that must touch
its sign. So a syntax error points at the first token that no sentence goes on with (`first_fault`). Numbers that leave
the range are set aside here, since the fault is at the number but its unit decides.
-/
namespace MetricExpr

open Grammar

/-! ## Numbers in range -/

namespace Binary64

theorem isFinite_ofRatio (a b : Bool) (n d : Nat) : (ofRatio a n d).isFinite = (ofRatio b n d).isFinite := by
  have hcanonical : ∀ m e, (ofCanonical a m e).isFinite = (ofCanonical b m e).isFinite := by
    intro m e
    unfold ofCanonical
    split <;> rfl
  unfold ofRatio
  split
  · rfl
  · dsimp only
    split
    · exact hcanonical _ _
    · exact hcanonical _ _

/-- The sign does not matter for whether a product is finite. -/
theorem isFinite_neg_mul (x y : Binary64) : (-x * y).isFinite = (x * y).isFinite := by
  cases x with
  | nan => rfl
  | infinity a =>
    cases y with
    | nan => rfl
    | infinity b => rfl
    | finite y =>
      show (if y.isZero then nan else infinity _).isFinite = (if y.isZero then nan else infinity _).isFinite
      split <;> rfl
  | finite x =>
    cases y with
    | nan => rfl
    | infinity b =>
      show (if x.neg.isZero then nan else infinity _).isFinite = (if x.isZero then nan else infinity _).isFinite
      show (if x.isZero then nan else infinity _).isFinite = (if x.isZero then nan else infinity _).isFinite
      split <;> rfl
    | finite y => exact isFinite_ofRatio _ _ _ _

/-- A finite product has finite factors. -/
theorem isFinite_of_mul {x y : Binary64} (h : (x * y).isFinite = true) : x.isFinite = true := by
  cases x with
  | finite x => rfl
  | nan => cases h
  | infinity a =>
    cases y with
    | finite y =>
      have hmul : (if y.isZero then nan else infinity (a ^^ y.negative)).isFinite = true := h
      split at hmul <;> cases hmul
    | infinity b => cases h
    | nan => cases h

theorem finite_of_isFinite {x : Binary64} (h : x.isFinite = true) : ∃ y, x = .finite y := by
  cases x with
  | finite y => exact ⟨y, rfl⟩
  | infinity a => cases h
  | nan => cases h

end Binary64

/-- The factors of all units. -/
def Grammar.unitFactors : List Binary64 := percentFactor :: unitWords.map (·.2)

/-- The number stays finite whatever unit is put behind it. -/
def Binary64.InRange (x : Binary64) : Prop := ∀ factor ∈ unitFactors, (x * factor).isFinite = true

instance (x : Binary64) : Decidable x.InRange :=
  inferInstanceAs (Decidable (∀ factor ∈ unitFactors, (x * factor).isFinite = true))

/-- The number that a token is. -/
def Token.size? (t : Token) : Option Binary64 :=
  match t.kind with
  | .number size => some size
  | _ => none

/-- A number token stays finite whatever unit is put behind it. -/
def Token.InRange (t : Token) : Prop := ∀ size ∈ t.size?, size.InRange

instance (t : Token) : Decidable t.InRange := inferInstanceAs (Decidable (∀ size ∈ t.size?, size.InRange))

theorem Token.InRange.size {t : Token} (h : t.InRange) {size : Binary64} (kind : t.kind = .number size) :
    size.InRange := by
  refine h size ?_
  unfold Token.size?
  rw [kind]
  rfl

namespace Binary64.InRange

variable {x : Binary64}

theorem isFinite (h : x.InRange) : x.isFinite = true := isFinite_of_mul (h percentFactor List.mem_cons_self)

theorem signed (h : x.InRange) (negative : Bool) : (if negative then -x else x).InRange := by
  cases negative with
  | true => exact fun factor hf => (isFinite_neg_mul x factor).trans (h factor hf)
  | false => exact h

theorem settle (h : x.InRange) (token : Token) : ∃ y, x = .finite y ∧ ParseState.settle x token = .ok (.const y) := by
  obtain ⟨y, rfl⟩ := finite_of_isFinite h.isFinite
  exact ⟨y, rfl, rfl⟩

/-- A unit behind a number in range is read. -/
theorem settle_unit (h : x.InRange) {factor : Binary64} (hfactor : factor ∈ unitFactors) (token : Token) :
    ∃ y, ParseState.settle (x * factor) token = .ok (.const y) := by
  obtain ⟨y, hy⟩ := finite_of_isFinite (h factor hfactor)
  exact ⟨y, ParseState.settle_finite hy token⟩

end Binary64.InRange

theorem mem_unitFactors_of_unitFactor? {word : List Char} {factor : Binary64} (h : unitFactor? word = some factor) :
    factor ∈ unitFactors := by
  rw [unitFactor?_eq] at h
  obtain ⟨before, after, hwords, -⟩ := List.lookup_eq_some_iff.1 h
  refine List.mem_cons_of_mem _ (List.mem_map.2 ⟨(word.map Char.toLower, factor), ?_, rfl⟩)
  rw [hwords]
  exact List.mem_append_right _ List.mem_cons_self

/-! ## One token -/

/-- A sign may open a number. -/
def Token.IsSign (t : Token) : Prop := t.kind = .arith .plus ∨ t.kind = .arith .minus

/-- A number starts where a sign ends. -/
def Token.Touches (t sign : Token) : Prop := (∃ size, t.kind = .number size) ∧ t.position = sign.position + 1

/-- Not between a sign and its number. A number that was just read is in range. -/
inductive Phase.Clear : Phase → Prop where
  | operand : Clear .operand
  | number {value : Binary64} (token : Token) : value.InRange → Clear (.number value token)
  | complete (e : Expr) : Clear (.complete e)

namespace ParseState

/-- What reading a token comes to: a clear state, a sign where an operand must come, or a fault at the token. -/
inductive Reads (s : ParseState) (t : Token) : Except ParseError ParseState → Prop where
  | next {s' : ParseState} : s'.phase.Clear → Reads s t (.ok s')
  | sign {s' : ParseState} : t.IsSign → s.phase = .operand → Reads s t (.ok s')
  | fault (cause : ParseFault) : Reads s t (.error ⟨cause, some t⟩)

theorem refuse_token (form : Form) (s : ParseState) (token : Option Token) : (s.refuse form token).token = token := by
  unfold refuse
  split
  · rfl
  · split <;> rfl

theorem reads_refuse (form : Form) (s : ParseState) (t : Token) : Reads s t (.error (s.refuse form (some t))) := by
  have hfault : s.refuse form (some t) = ⟨(s.refuse form (some t)).fault, some t⟩ :=
    congrArg (ParseError.mk _) (refuse_token form s (some t))
  rw [hfault]
  exact .fault _

theorem reads_readOperand {s : ParseState} {t : Token} (hs : s.phase = .operand) (ht : t.InRange) :
    Reads s t (s.readOperand t) := by
  unfold readOperand
  split
  · split
    · exact .next (.complete _)
    · exact .fault _
  · exact .next .operand
  · rename_i size kind
    exact .next (.number t (ht.size kind))
  · rename_i kind
    exact .sign (.inl kind) hs
  · rename_i kind
    exact .sign (.inr kind) hs
  · exact .fault _

theorem reads_readOperator (form : Form) (s : ParseState) (e : Expr) (t : Token) :
    Reads s t (s.readOperator form e t) := by
  unfold readOperator
  split
  · exact .next .operand
  · split
    · exact .next (.complete _)
    · exact reads_refuse form s t
  · split
    · exact .next .operand
    · exact reads_refuse form s t
  · exact reads_refuse form s t

theorem reads_readUnit (form : Form) (s : ParseState) {value : Binary64} (h : value.InRange) (number t : Token) :
    Reads s t (s.readUnit form value number t) := by
  unfold readUnit
  split
  · obtain ⟨x, hx⟩ := h.settle_unit List.mem_cons_self number
    rw [hx]
    exact .next (.complete _)
  · split
    · rename_i factor found
      obtain ⟨x, hx⟩ := h.settle_unit (mem_unitFactors_of_unitFactor? found) number
      rw [hx]
      exact .next (.complete _)
    · exact .fault _
  · obtain ⟨x, -, hx⟩ := h.settle number
    rw [hx]
    exact reads_readOperator form s (.const x) t

theorem Clear.reads {s : ParseState} (hs : s.phase.Clear) (form : Form) {t : Token} (ht : t.InRange) :
    Reads s t (s.read form t) := by
  obtain ⟨left, outer, level, phase⟩ := s
  cases hs with
  | operand => exact reads_readOperand rfl ht
  | number token hvalue => exact reads_readUnit form _ hvalue token t
  | complete e => exact reads_readOperator form _ e t

/-- Where an operand must come, tokens that are the same sign are read as that sign. -/
theorem read_of_isSign {t : Token} (h : t.IsSign) : ∃ negative, ∀ (u : Token), u.kind = t.kind →
    ∀ (form : Form) (s : ParseState), s.phase = .operand → s.read form u = .ok { s with phase := .sign negative u } := by
  obtain kind | kind := h
  · refine ⟨false, fun u hu form s hs => ?_⟩
    rw [read_eq_readOperand form hs]
    unfold readOperand
    rw [hu, kind]
  · refine ⟨true, fun u hu form s hs => ?_⟩
    rw [read_eq_readOperand form hs]
    unfold readOperand
    rw [hu, kind]

/-! ## Rests -/

/-- A zero, to stand where an operand must come. -/
def zeroToken : Token := ⟨.number (.zero false), ['0'], 0⟩

/-- Behind an operand, the open parentheses can be closed and a missing comparison added. -/
theorem Ends.exists_rest (form : Form) (left : Option (Expr × Relation)) : ∀ (outer : List Level) (level : Level)
    {p : Phase} {e : Expr}, Ends p e → ∃ rest n, run form ⟨left, outer, level, p⟩ rest = .ok n
  | inside :: outer, level, p, e, hp => by
    obtain ⟨rest, n, hrest⟩ := exists_rest form left outer inside (.complete (level.close e))
    have hclose := hp.read_closeParen form ⟨left, inside :: outer, level, p⟩ (t := ⟨.closeParen, [')'], 0⟩) rfl rfl
    exact ⟨_ :: rest, n, (run_of_read hclose rest).trans hrest⟩
  | [], level, p, e, hp => by
    have hend := hp.finish form ⟨left, [], level, p⟩
    match left, form with
    | some (l, rel), _ => exact ⟨[], _, hend⟩
    | none, .either => exact ⟨[], _, hend⟩
    | none, .expression => exact ⟨[], _, hend⟩
    | none, .predicate =>
      have hrel := hp.read_relation level (t := ⟨.relation .lt, ['<'], 0⟩) rfl (nofun : Form.predicate ≠ .expression)
      exact ⟨[_, zeroToken], _, run_of_read hrel _⟩

/-- **What has been read can be continued to a sentence.** -/
theorem exists_rest (form : Form) {s : ParseState} (h : s.phase.Clear) : ∃ rest n, s.run form rest = .ok n := by
  obtain ⟨left, outer, level, phase⟩ := s
  cases h with
  | operand =>
    obtain ⟨rest, n, hrest⟩ := Ends.exists_rest form left outer level (.number (.zero false) zeroToken)
    exact ⟨zeroToken :: rest, n, hrest⟩
  | number token hvalue =>
    obtain ⟨x, rfl, -⟩ := hvalue.settle token
    exact Ends.exists_rest form left outer level (.number x token)
  | complete e => exact Ends.exists_rest form left outer level (.complete e)

end ParseState

/-! ## Alike tokens -/

/-- A token without its place. -/
def Token.content (t : Token) : TokenKind × List Char := (t.kind, t.text)

/-- Phases that differ in the places of tokens only. -/
inductive Phase.Alike : Phase → Phase → Prop where
  | operand : Alike .operand .operand
  | sign (negative : Bool) (t u : Token) : Alike (.sign negative t) (.sign negative u)
  | number (value : Binary64) (t u : Token) : Alike (.number value t) (.number value u)
  | complete (e : Expr) : Alike (.complete e) (.complete e)

theorem Phase.Alike.refl (p : Phase) : p.Alike p := by
  cases p with
  | operand => exact .operand
  | sign negative t => exact .sign negative t t
  | number value t => exact .number value t t
  | complete e => exact .complete e

namespace ParseState

/-- States that differ in the places of tokens only. -/
def Alike (s s' : ParseState) : Prop := ∃ p, s.phase.Alike p ∧ s' = { s with phase := p }

theorem Alike.refl (s : ParseState) : s.Alike s := ⟨s.phase, .refl s.phase, rfl⟩

theorem Alike.eq_of_operand {s s' : ParseState} (h : s.Alike s') (hs : s.phase = .operand) : s' = s := by
  obtain ⟨left, outer, level, phase⟩ := s
  obtain ⟨p, hp, rfl⟩ := h
  dsimp only at hp hs
  subst hs
  cases hp
  rfl

theorem alike_readOperand {s r : ParseState} {t u : Token} (hkind : t.kind = u.kind) (h : s.readOperand u = .ok r) :
    ∃ r', s.readOperand t = .ok r' ∧ r'.Alike r := by
  unfold readOperand at h ⊢
  rw [hkind]
  split at h
  · split at h
    · exact ⟨r, h, .refl r⟩
    · cases h
  · exact ⟨r, h, .refl r⟩
  · rename_i size _
    obtain rfl := Except.ok.inj h
    exact ⟨_, rfl, _, .number size t u, rfl⟩
  · obtain rfl := Except.ok.inj h
    exact ⟨_, rfl, _, .sign false t u, rfl⟩
  · obtain rfl := Except.ok.inj h
    exact ⟨_, rfl, _, .sign true t u, rfl⟩
  · cases h

theorem readOperator_congr {form : Form} {s r : ParseState} {p : Phase} {e : Expr} {t u : Token}
    (hkind : t.kind = u.kind) (h : readOperator form { s with phase := p } e u = .ok r) :
    s.readOperator form e t = .ok r := by
  unfold readOperator at h ⊢
  rw [hkind]
  split at h
  · exact h
  · split at h
    · rename_i level outer houter
      have houter : s.outer = level :: outer := houter
      rw [houter]
      exact h
    · cases h
  · split at h
    · rename_i hfree
      rw [if_pos hfree]
      exact h
    · cases h
  · cases h

theorem readUnit_congr {form : Form} {s r : ParseState} {p : Phase} {value : Binary64} {number number' t u : Token}
    (hcontent : t.content = u.content) (h : readUnit form { s with phase := p } value number' u = .ok r) :
    s.readUnit form value number t = .ok r := by
  obtain ⟨hkind, htext⟩ := Prod.mk.inj hcontent
  unfold readUnit at h ⊢
  rw [hkind, htext]
  split at h
  · obtain ⟨x, hx, hr⟩ := of_settle h
    rw [settle_finite hx]
    exact hr
  · split at h
    · obtain ⟨x, hx, hr⟩ := of_settle h
      rw [settle_finite hx]
      exact hr
    · cases h
  · obtain ⟨x, hx, hr⟩ := of_settle h
    rw [settle_finite hx]
    exact readOperator_congr hkind hr

/-- What is read in one of two alike states is read alike in the other. -/
theorem Alike.read {form : Form} {s s' r : ParseState} {t u : Token} (h : s.Alike s') (hs : s.phase.Clear)
    (hcontent : t.content = u.content) (hread : s'.read form u = .ok r) :
    ∃ r', s.read form t = .ok r' ∧ r'.Alike r := by
  have hkind : t.kind = u.kind := congrArg Prod.fst hcontent
  obtain ⟨left, outer, level, phase⟩ := s
  obtain ⟨p, hp, rfl⟩ := h
  cases hp with
  | operand => exact alike_readOperand hkind hread
  | sign => cases hs
  | number value number number' => exact ⟨r, readUnit_congr hcontent hread, .refl r⟩
  | complete e => exact ⟨r, readOperator_congr hkind hread, .refl r⟩

theorem Alike.finish {form : Form} {s s' : ParseState} {n : Node} (h : s.Alike s') (hend : s'.finish form = .ok n) :
    s.finish form = .ok n := by
  obtain ⟨left, outer, level, phase⟩ := s
  obtain ⟨p, hp, rfl⟩ := h
  cases hp with
  | operand => cases hend
  | sign => cases hend
  | number value number number' =>
    obtain ⟨x, rfl, hx⟩ := of_settle hend
    exact hx
  | complete e => exact hend

end ParseState

/-! ## Beginnings of lists of tokens -/

namespace Token

/-- The tokens of two lists are alike up to a place. The end counts as a token. -/
def AlikeUpTo (place : Nat) (tokens others : List Token) : Prop :=
  ∀ j ≤ place, tokens[j]?.map content = others[j]?.map content

def SignAt (place : Nat) (tokens : List Token) : Prop := ∃ sign ∈ tokens[place]?, sign.IsSign

/-- The token behind a place is a number that touches the token there. -/
def TouchedAt (place : Nat) (tokens : List Token) : Prop :=
  ∃ sign ∈ tokens[place]?, ∃ number ∈ tokens[place + 1]?, number.Touches sign

/-- Two lists begin alike up to a place. If a sign is there, so is the token behind it in both, and it is a number that
touches the sign in both or in neither. -/
structure BeginsAlike (place : Nat) (tokens others : List Token) : Prop where
  upTo : AlikeUpTo place tokens others
  behindSign : SignAt place tokens →
    AlikeUpTo (place + 1) tokens others ∧ (TouchedAt place tokens ↔ TouchedAt place others)

variable {place : Nat} {t : Token} {rest others : List Token}

theorem AlikeUpTo.nil (h : AlikeUpTo place [] others) : others = [] := by
  cases others with
  | nil => rfl
  | cons u more => cases h 0 (Nat.zero_le place)

theorem AlikeUpTo.head (h : AlikeUpTo place (t :: rest) others) :
    ∃ u more, others = u :: more ∧ t.content = u.content := by
  cases others with
  | nil => cases h 0 (Nat.zero_le place)
  | cons u more => exact ⟨u, more, rfl, Option.some.inj (h 0 (Nat.zero_le place))⟩

theorem BeginsAlike.tail (h : BeginsAlike (place + 1) (t :: rest) others) :
    ∃ u more, others = u :: more ∧ t.content = u.content ∧ BeginsAlike place rest more := by
  obtain ⟨u, more, rfl, hcontent⟩ := h.upTo.head
  refine ⟨u, more, rfl, hcontent, fun j hj => h.upTo (j + 1) (Nat.succ_le_succ hj), fun hsign => ?_⟩
  obtain ⟨hnext, htouched⟩ := h.behindSign hsign
  exact ⟨fun j hj => hnext (j + 1) (Nat.succ_le_succ hj), htouched⟩

end Token

open Token

/-! ## The first fault -/

/-- A run from a state stops at a place: what is in front of it can be continued to a sentence, and nothing that begins
alike up to it is read from an alike state. -/
structure ParseState.StopsAt (form : Form) (s : ParseState) (tokens : List Token) (place : Nat) : Prop where
  before : ∃ rest n, s.run form (tokens.take place ++ rest) = .ok n
  here : ∀ s' others n, s.Alike s' → s'.run form others = .ok n → ¬ BeginsAlike place tokens others

namespace ParseState

variable {form : Form} {s s' : ParseState} {t : Token} {rest : List Token} {place : Nat}

theorem stopsAt_end (hs : s.phase.Clear) {e : ParseError} (hend : s.finish form = .error e) :
    s.StopsAt form [] 0 := by
  refine ⟨exists_rest form hs, fun s' others n halike hothers hbegin => ?_⟩
  rw [hbegin.upTo.nil, run_nil] at hothers
  rw [halike.finish hothers] at hend
  cases hend

theorem stopsAt_fault (hs : s.phase.Clear) {e : ParseError} (hread : s.read form t = .error e) :
    s.StopsAt form (t :: rest) 0 := by
  refine ⟨exists_rest form hs, fun s' others n halike hothers hbegin => ?_⟩
  obtain ⟨u, more, rfl, hcontent⟩ := hbegin.upTo.head
  obtain ⟨r, hr, -⟩ := read_of_run hothers
  obtain ⟨r', hr', -⟩ := halike.read hs hcontent hr
  rw [hr'] at hread
  cases hread

/-- Nothing is read behind a sign but a number that touches it. -/
theorem stopsAt_sign (hs : s.phase = .operand) (hsign : t.IsSign) (huntouched : ¬ TouchedAt 0 (t :: rest)) :
    s.StopsAt form (t :: rest) 0 := by
  refine ⟨exists_rest form (hs ▸ .operand), fun s' others n halike hothers hbegin => huntouched ?_⟩
  obtain ⟨negative, hread⟩ := read_of_isSign hsign
  obtain ⟨u, more, rfl, hcontent⟩ := hbegin.upTo.head
  rw [halike.eq_of_operand hs, run_of_read (hread u (congrArg Prod.fst hcontent.symm) form s hs)] at hothers
  obtain ⟨number, size, after, rfl, hkind, hplace, -⟩ := number_of_run hothers
  exact (hbegin.behindSign ⟨t, rfl, hsign⟩).2.2 ⟨u, rfl, number, rfl, ⟨size, hkind⟩, hplace⟩

theorem StopsAt.cons (h : s'.StopsAt form rest place) (hs : s.phase.Clear) (hread : s.read form t = .ok s') :
    s.StopsAt form (t :: rest) (place + 1) := by
  obtain ⟨after, m, hafter⟩ := h.before
  refine ⟨⟨after, m, (run_of_read hread _).trans hafter⟩, fun s'' others n halike hothers hbegin => ?_⟩
  obtain ⟨u, more, rfl, hcontent, htail⟩ := hbegin.tail
  obtain ⟨r, hr, hmore⟩ := read_of_run hothers
  obtain ⟨r', hr', halike'⟩ := halike.read hs hcontent hr
  obtain rfl : r' = s' := Except.ok.inj (hr'.symm.trans hread)
  exact h.here r more n halike' hmore htail

/-- A sign and its number are read together. -/
theorem StopsAt.cons_sign {number : Token} {size : Binary64} {negative : Bool}
    (h : StopsAt form { s with phase := .number (if negative then -size else size) number } rest place)
    (hs : s.phase = .operand) (hsign : ∀ u : Token, u.kind = t.kind → s.read form u =
      .ok { s with phase := .sign negative u }) (hnumber : number.kind = .number size)
    (hread : ParseState.read form { s with phase := .sign negative t } number =
      .ok { s with phase := .number (if negative then -size else size) number }) :
    s.StopsAt form (t :: number :: rest) (place + 2) := by
  obtain ⟨after, m, hafter⟩ := h.before
  refine ⟨⟨after, m, (run_of_read (hsign t rfl) _).trans ((run_of_read hread _).trans hafter)⟩,
    fun s'' others n halike hothers hbegin => ?_⟩
  -- The other sign is touched as well, since its run ends well.
  obtain ⟨u, more, rfl, hcontent, htail⟩ := hbegin.tail
  rw [halike.eq_of_operand hs, run_of_read (hsign u (congrArg Prod.fst hcontent.symm))] at hothers
  obtain ⟨v, size', after', rfl, hkind, -, hrest⟩ := number_of_run hothers
  obtain ⟨w, more, hmore, hcontent', htail'⟩ := htail.tail
  obtain ⟨rfl, rfl⟩ := List.cons.inj hmore
  obtain rfl : size' = size :=
    TokenKind.number.inj (hkind.symm.trans ((congrArg Prod.fst hcontent').symm.trans hnumber))
  exact h.here _ _ n ⟨_, .number _ number v, rfl⟩ hrest htail'

theorem complete_token {x : Expr} {e : ParseError} (h : s.complete form x = .error e) : e.token = none := by
  unfold ParseState.complete at h
  split at h
  · rw [← Except.error.inj h]
  · split at h
    · cases h
    · split at h
      · rw [← Except.error.inj h]
      · cases h

theorem Clear.finish_token {e : ParseError} (hs : s.phase.Clear) (hend : s.finish form = .error e) :
    e.token = none := by
  obtain ⟨left, outer, level, phase⟩ := s
  cases hs with
  | operand => rw [← Except.error.inj hend]
  | number token hvalue =>
    obtain ⟨x, rfl, -⟩ := hvalue.settle token
    exact complete_token hend
  | complete x => exact complete_token hend

/-- Behind a sign stands the number that touches it, or the fault is at the sign. -/
theorem of_run_sign {form : Form} {s : ParseState} {negative : Bool} {sign : Token} {tokens : List Token}
    {e : ParseError} (h : run form { s with phase := .sign negative sign } tokens = .error e) :
    (∃ number after size, tokens = number :: after ∧ number.kind = .number size ∧
      ParseState.read form { s with phase := .sign negative sign } number =
        .ok { s with phase := .number (if negative then -size else size) number } ∧
      run form { s with phase := .number (if negative then -size else size) number } after = .error e) ∨
      (e.token = some sign ∧ ¬ TouchedAt 0 (sign :: tokens)) := by
  cases tokens with
  | nil =>
    obtain rfl := Except.error.inj h
    exact .inr ⟨rfl, fun ⟨_, _, _, hnone, _⟩ => nomatch hnone⟩
  | cons t after =>
    by_cases htouches : t.Touches sign
    · obtain ⟨⟨size, hkind⟩, hplace⟩ := htouches
      have hread : ParseState.read form { s with phase := .sign negative sign } t =
          .ok { s with phase := .number (if negative then -size else size) t } := by
        unfold ParseState.read
        dsimp only
        rw [hkind]
        exact if_pos hplace
      exact .inl ⟨t, after, size, rfl, hkind, hread, (run_of_read hread after).symm.trans h⟩
    · have hread : ParseState.read form { s with phase := .sign negative sign } t =
          .error ⟨.missingOperand, some sign⟩ := by
        unfold ParseState.read
        dsimp only
        split
        · rename_i size hkind
          exact if_neg fun hplace => htouches ⟨⟨size, hkind⟩, hplace⟩
        · rfl
      rw [run_cons, hread] at h
      refine .inr ⟨by rw [← Except.error.inj h], ?_⟩
      rintro ⟨_, hsign, _, ht, htouched⟩
      obtain rfl := Option.some.inj hsign
      obtain rfl := Option.some.inj ht
      exact htouches htouched

/-- A run that ends in a fault stops at the token of the fault. -/
theorem stopsAt_of_run (form : Form) : ∀ (tokens : List Token) {s : ParseState} {e : ParseError}, s.phase.Clear →
    (∀ t ∈ tokens, t.InRange) → s.run form tokens = .error e →
    ∃ place ≤ tokens.length, e.token = tokens[place]? ∧ s.StopsAt form tokens place
  | [], s, e, hs, _, h => ⟨0, Nat.le_refl 0, Clear.finish_token hs h, stopsAt_end hs h⟩
  | t :: rest, s, e, hs, hrange, h => by
    rw [run_cons] at h
    have hreads := Clear.reads hs form (hrange t List.mem_cons_self)
    generalize hread : s.read form t = r at hreads h
    cases hreads with
    | @next s' hs' =>
      obtain ⟨place, hle, htoken, hstop⟩ :=
        stopsAt_of_run form rest hs' (fun u hu => hrange u (List.mem_cons_of_mem t hu)) h
      exact ⟨place + 1, Nat.succ_le_succ hle, htoken, hstop.cons hs hread⟩
    | fault cause =>
      obtain rfl := Except.error.inj h
      exact ⟨0, Nat.zero_le _, rfl, stopsAt_fault hs hread⟩
    | @sign s' hsign hoperand =>
      -- Behind a sign the state is not clear, so its number is read with it: a fault there is the sign's.
      obtain ⟨negative, hsigns⟩ := read_of_isSign hsign
      obtain rfl := Except.ok.inj ((hsigns t rfl form s hoperand).symm.trans hread)
      obtain ⟨number, after, size, rfl, hnumber, hsized, hafter⟩ | ⟨htoken, huntouched⟩ := of_run_sign h
      · have hsize := (hrange number (.tail t (.head after))).size hnumber
        obtain ⟨place, hle, htoken, hstop⟩ := stopsAt_of_run form after (.number number (hsize.signed negative))
          (fun u hu => hrange u (.tail t (.tail number hu))) hafter
        exact ⟨place + 2, Nat.succ_le_succ (Nat.succ_le_succ hle), htoken,
          hstop.cons_sign hoperand (fun u hu => hsigns u hu form s hoperand) hnumber hsized⟩
      · exact ⟨0, Nat.zero_le _, htoken, stopsAt_sign hoperand hsign huntouched⟩
termination_by tokens => tokens.length

end ParseState

/-! ## Places -/

/-- The tokens of a text stand one behind the other. -/
theorem Token.scan_increasing : ∀ {position : Nat} {cs : List Char} {tokens : List Token},
    scan position cs = .ok tokens → tokens.Pairwise (fun t u => t.position < u.position) ∧
      ∀ t ∈ tokens, position ≤ t.position ∧ t.position < position + cs.length := by
  intro position cs
  induction position, cs using scan.induct with
  | case1 position =>
    intro tokens h
    rw [scan] at h
    obtain rfl := Except.ok.inj h
    exact ⟨.nil, fun _ ht => absurd ht List.not_mem_nil⟩
  | case2 position c cs hblank ih =>
    intro tokens h
    rw [scan, if_pos hblank] at h
    obtain ⟨hpairs, hbounds⟩ := ih h
    refine ⟨hpairs, fun t ht => ?_⟩
    have := hbounds t ht
    rw [List.length_cons]
    omega
  | case3 position c cs hblank fault hfront =>
    intro tokens h
    rw [scan, if_neg hblank, hfront] at h
    cases h
  | case4 position c cs hblank kind more hfront ih =>
    intro tokens h
    rw [scan, if_neg hblank, hfront] at h
    dsimp only at h
    cases hrest : scan (position + 1 + more) (cs.drop more) with
    | error fault =>
      rw [hrest] at h
      cases h
    | ok rest =>
      rw [hrest] at h
      obtain rfl := Except.ok.inj h
      obtain ⟨hpairs, hbounds⟩ := ih hrest
      rw [List.length_drop] at hbounds
      refine ⟨.cons (fun t ht => ?_) hpairs, fun t ht => ?_⟩
      · have := hbounds t ht
        dsimp only
        omega
      · rw [List.length_cons]
        obtain rfl | ht := List.mem_cons.1 ht
        · dsimp only
          omega
        · have := hbounds t ht
          omega

/-- Where the token at a place starts; behind the last one, where the text ends. -/
def Token.startAt (text : String) (tokens : List Token) (place : Nat) : Nat :=
  (tokens[place]?.map position).getD text.length

/-- Different places start at different positions. -/
theorem Token.startAt_inj {text : String} {tokens : List Token} (h : scan 0 text.toList = .ok tokens) {i j : Nat}
    (hi : i ≤ tokens.length) (hj : j ≤ tokens.length) (heq : startAt text tokens i = startAt text tokens j) :
    i = j := by
  obtain ⟨hpairs, hbounds⟩ := scan_increasing h
  have hlt : ∀ {a b}, a < b → b ≤ tokens.length → startAt text tokens a < startAt text tokens b := by
    intro a b hab hb
    have ha : a < tokens.length := Nat.lt_of_lt_of_le hab hb
    unfold startAt
    rw [List.getElem?_eq_getElem ha]
    obtain hb | rfl := Nat.lt_or_eq_of_le hb
    · rw [List.getElem?_eq_getElem hb]
      exact List.pairwise_iff_getElem.1 hpairs a b ha hb hab
    · rw [List.getElem?_eq_none (Nat.le_refl _)]
      have := (hbounds _ (List.getElem_mem ha)).2
      rwa [Nat.zero_add, String.length_toList] at this
  obtain hij | hij | hji := Nat.lt_trichotomy i j
  · exact absurd heq (Nat.ne_of_lt (hlt hij hj))
  · exact hij
  · exact absurd heq.symm (Nat.ne_of_lt (hlt hji hi))

/-! ## Texts -/

theorem Node.error_of_parse {form : Form} {text : String} {tokens : List Token} {e : SyntaxError}
    (hscan : Token.scan 0 text.toList = .ok tokens) (h : Node.parse form text = .error e) :
    ∃ cause, Node.ofTokens? form tokens = .error cause ∧ e = .ofParse text cause := by
  unfold Node.parse at h
  rw [hscan] at h
  dsimp only at h
  cases hread : Node.ofTokens? form tokens with
  | error cause =>
    rw [hread] at h
    exact ⟨cause, rfl, (Except.error.inj h).symm⟩
  | ok n =>
    rw [hread] at h
    cases h

/-- **A syntax error points at the first token that no sentence goes on with.** In a text that can be cut into tokens,
with its numbers in range, exactly one token starts where the error is; behind the last token that is the end of the
text. The tokens in front of it begin a list that is read at the same entry point. No list that is read there begins
like them and it, nor, if it is a sign, like them, it and the token behind it. -/
theorem first_fault {form : Form} {text : String} {tokens : List Token} {e : SyntaxError}
    (hscan : Token.scan 0 text.toList = .ok tokens) (hrange : ∀ t ∈ tokens, t.InRange)
    (he : Node.parse form text = .error e) :
    ∃ place ≤ tokens.length, (∀ i ≤ tokens.length, e.position = startAt text tokens i ↔ i = place) ∧
      (∃ more n, Node.ofTokens? form (tokens.take place ++ more) = .ok n) ∧
      ∀ others n, Node.ofTokens? form others = .ok n → ¬ BeginsAlike place tokens others := by
  obtain ⟨cause, hcause, rfl⟩ := Node.error_of_parse hscan he
  obtain ⟨place, hle, htoken, hbefore, hhere⟩ :=
    ParseState.stopsAt_of_run form tokens (s := .start) .operand hrange hcause
  have hposition : (SyntaxError.ofParse text cause).position = startAt text tokens place := by
    unfold SyntaxError.ofParse startAt
    rw [htoken]
    cases tokens[place]? with
    | none => rfl
    | some t => rfl
  refine ⟨place, hle, fun i hi => ⟨fun hat => ?_, fun hat => hat ▸ hposition⟩, hbefore,
    fun others n hothers => hhere .start others n (.refl .start) hothers⟩
  exact startAt_inj hscan hi hle (Int.ofNat.inj (hat.symm.trans hposition))

/-- A sign that its number does not touch is the fault, not the number. -/
theorem first_fault_detached_sign : ∃ tokens e, Token.scan 0 "1 + - 2".toList = .ok tokens ∧
    (∀ t ∈ tokens, t.InRange) ∧ Node.parse .expression "1 + - 2" = .error e ∧ e.position = 4 ∧
    ∃ place ≤ tokens.length, (∀ i ≤ tokens.length, e.position = startAt "1 + - 2" tokens i ↔ i = place) ∧
      (∃ more n, Node.ofTokens? .expression (tokens.take place ++ more) = .ok n) ∧
      ∀ others n, Node.ofTokens? .expression others = .ok n → ¬ BeginsAlike place tokens others := by
  have hchecked : (Token.scan 0 "1 + - 2".toList).toOption.any (fun tokens => ∀ t ∈ tokens, t.InRange) = true := by
    decide +kernel
  obtain ⟨tokens, hsome, hrange⟩ := (Option.any_eq_true _ _).1 hchecked
  have hrange := of_decide_eq_true hrange
  have hscan := eq_ok_of_toOption hsome
  have hposition : (match Node.parse .expression "1 + - 2" with
      | .error e => e.position
      | .ok _ => -1) = 4 := by decide +kernel
  cases he : Node.parse .expression "1 + - 2" with
  | ok n =>
    rw [he] at hposition
    cases hposition
  | error e =>
    rw [he] at hposition
    exact ⟨tokens, e, hscan, hrange, rfl, hposition, first_fault hscan hrange he⟩

end MetricExpr
