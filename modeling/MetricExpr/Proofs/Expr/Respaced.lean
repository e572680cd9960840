import MetricExpr.Proofs.Expr.Lockstep
import MetricExpr.Proofs.Expr.Lossless
/-!
# Blanks do not matter

A text may get other blanks around its tokens (`Token.Respaced`). Each token is cut off as before, since what is longer and
has its shape would have to run on over a gap (`Token.Respaced.leads`), and a number touches its sign as before. So the
tokens are the same and are read in step (`respaced_text`).
-/
namespace MetricExpr

namespace Token

/-- What the blanks in front of a token may be replaced by: behind another token some blanks remain where there are some,
and none come between a sign and a number that touches it. -/
def MayReplace (last : Option Token) (t : Token) (gap gap' : List Char) : Prop :=
  ∀ before ∈ last, (gap ≠ [] → gap' ≠ []) ∧
    (before.IsSign → (∃ value, t.kind = .number value) → gap = [] → gap' = [])

/-- Behind a token, two texts are these tokens with blanks around them, and the blanks of the first may be replaced by
those of the second. -/
inductive Respaced : Option Token → List Token → List Char → List Char → Prop where
  | stop {last : Option Token} {gap gap' : List Char} : IsGap gap → IsGap gap' → Respaced last [] gap gap'
  | token {last : Option Token} {t : Token} {rest : List Token} {gap gap' cs cs' : List Char} : IsGap gap → IsGap gap' →
      MayReplace last t gap gap' → Respaced (some t) rest cs cs' →
      Respaced last (t :: rest) (gap ++ (t.text ++ cs)) (gap' ++ (t.text ++ cs'))

variable {last : Option Token} {tokens : List Token} {cs cs' lexeme : List Char} {t : Token}

/-! ## The longest stays the longest -/

theorem prefix_append_cases {ext a b : List Char} (h : ext <+: a ++ b) :
    ext <+: a ∨ ∃ tail, ext = a ++ tail ∧ tail <+: b := by
  rcases List.prefix_or_prefix_of_prefix h (List.prefix_append a b) with hshort | ⟨tail, rfl⟩
  · exact .inl hshort
  · exact .inr ⟨tail, rfl, (List.prefix_append_right_inj a).1 h⟩

/-- A gap that begins with what is no blank is none. -/
theorem IsGap.eq_nil {gap ext tail : List Char} (h : IsGap gap) (hext : ∀ c ∈ ext, Text.isBlank c = false)
    (hne : ext ≠ []) (hfront : ext <+: gap ++ tail) : gap = [] := by
  obtain ⟨c, ext, rfl⟩ := List.exists_cons_of_ne_nil hne
  cases gap with
  | nil => rfl
  | cons d gap =>
    obtain ⟨rfl, -⟩ := List.cons_prefix_cons.1 hfront
    have hblank := h c List.mem_cons_self
    rw [hext c List.mem_cons_self] at hblank
    cases hblank

/-- What has no blank and stands behind a token with the new blanks, stood there with the old ones. -/
theorem Respaced.front {ext : List Char} (h : Respaced last tokens cs cs') (hlast : last ≠ none)
    (hext : ∀ c ∈ ext, Text.isBlank c = false) (hfront : ext <+: cs') : ext <+: cs := by
  induction h generalizing ext with
  | @stop last gap gap' _ hgap' =>
    by_cases hne : ext = []
    · exact hne ▸ List.nil_prefix
    · rw [← List.append_nil gap'] at hfront
      rw [hgap'.eq_nil hext hne hfront] at hfront
      exact absurd (List.prefix_nil.1 hfront) hne
  | @token last t rest gap gap' cs cs' hgap hgap' hreplace hrest ih =>
    by_cases hne : ext = []
    · exact hne ▸ List.nil_prefix
    · obtain ⟨before, rfl⟩ := Option.ne_none_iff_exists'.1 hlast
      have hgap'nil := hgap'.eq_nil hext hne hfront
      have hgapnil : gap = [] := by
        by_contra hgapne
        exact (hreplace before rfl).1 hgapne hgap'nil
      subst hgap'nil hgapnil
      rw [List.nil_append] at hfront ⊢
      rcases prefix_append_cases hfront with hshort | ⟨tail, rfl, htail⟩
      · exact hshort.trans (List.prefix_append _ _)
      · exact (List.prefix_append_right_inj t.text).2
          (ih (by simp) (fun c hc => hext c (List.mem_append_right _ hc)) htail)

theorem Respaced.isLongest {shape : Language Char} (h : Respaced (some t) tokens cs cs')
    (hshape : ∀ other ∈ shape, other ∈ Shape.bare) (hlongest : Shape.IsLongest shape lexeme (lexeme ++ cs)) :
    Shape.IsLongest shape lexeme (lexeme ++ cs') := by
  refine ⟨hlongest.mem, List.prefix_append _ _, fun other hother hfront => ?_⟩
  refine hlongest.longest other hother ?_
  rcases prefix_append_cases hfront with hshort | ⟨ext, rfl, hext⟩
  · exact hshort.trans (List.prefix_append _ _)
  · refine (List.prefix_append_right_inj lexeme).2 (h.front (by simp) (fun c hc => ?_) hext)
    exact Shape.isBlank_of_mem (hshape _ hother) (List.mem_append_right _ hc)

/-- **With other blanks behind it, the same token is cut off.** -/
theorem Respaced.leads {kind : TokenKind} (h : Respaced (some t) tokens cs cs')
    (hleads : Leads (lexeme ++ cs) kind lexeme) : Leads (lexeme ++ cs') kind lexeme := by
  have hbare : ∀ other : List Char, other ∈ Shape.number ∨ other ∈ Shape.word ∨ other ∈ Shape.comparison →
      other ∈ Shape.bare := by
    intro other hother
    simp only [Shape.bare, Language.mem_add]
    rcases hother with hother | hother | hother <;> simp [hother]
  cases hleads with
  | glob hwrites => exact .glob hwrites (List.prefix_append _ _)
  | number hlongest hvalue => exact .number (h.isLongest (fun other hother => hbare other (.inl hother)) hlongest) hvalue
  | word hlongest => exact .word (h.isLongest (fun other hother => hbare other (.inr (.inl hother))) hlongest)
  | relation rel hlongest =>
    exact .relation rel (h.isLongest (fun other hother => hbare other (.inr (.inr hother))) hlongest)
  | arith op => exact .arith op (List.prefix_append _ _)
  | openParen => exact .openParen (List.prefix_append _ _)
  | closeParen => exact .closeParen (List.prefix_append _ _)
  | percent => exact .percent (List.prefix_append _ _)

/-! ## The tokens of the text with other blanks -/

theorem Reaches.of_cons {position end_ : Nat} {rest : List Char} (h : Reaches position cs (t :: tokens) end_ rest) :
    ∃ gap tail, cs = gap ++ (t.text ++ tail) ∧ IsGap gap ∧ Leads (t.text ++ tail) t.kind t.text ∧
      t.position = position + gap.length ∧ Reaches (t.position + t.text.length) tail tokens end_ rest := by
  cases h with
  | token hgap hleads hrest => exact ⟨_, _, rfl, hgap, hleads, rfl, hrest⟩

theorem IsGap.append_inj {gap gap' a b : List Char} (h : IsGap gap) (h' : IsGap gap')
    (ha : ∀ c ∈ a.head?, Text.isBlank c = false) (hb : ∀ c ∈ b.head?, Text.isBlank c = false)
    (heq : gap ++ a = gap' ++ b) : gap = gap' ∧ a = b := by
  have htake : ∀ {g x : List Char}, IsGap g → (∀ c ∈ x.head?, Text.isBlank c = false) →
      (g ++ x).takeWhile Text.isBlank = g := by
    intro g x hg hx
    rw [List.takeWhile_append_of_pos hg]
    cases x with
    | nil => exact List.append_nil g
    | cons c x => simp [hx c rfl]
  obtain rfl : gap = gap' := by rw [← htake h ha, heq, htake h' hb]
  exact ⟨rfl, List.append_cancel_left heq⟩

theorem Leads.length_of_isSign (h : Leads cs t.kind t.text) (hsign : t.IsSign) : t.text.length = 1 := by
  obtain ⟨kind, text, position⟩ := t
  rcases hsign with hkind | hkind
  · obtain rfl : kind = _ := hkind
    cases h
    rfl
  · obtain rfl : kind = _ := hkind
    cases h
    rfl

/-- A number touches its sign with the new blanks exactly when it did with the old ones. -/
theorem MayReplace.touches {sign : Token × Token} {gap gap' : List Char} {u : Token}
    (h : MayReplace (some sign.1) t gap gap') (hsign : sign.1.IsSign) (hkind : u.kind = t.kind)
    (ht : t.position = sign.1.position + 1 + gap.length) (hu : u.position = sign.2.position + 1 + gap'.length) :
    t.Touches sign.1 ↔ u.Touches sign.2 := by
  obtain ⟨hsome, hnone⟩ := h sign.1 rfl
  unfold Touches
  rw [hkind, ht, hu, Nat.add_eq_left, Nat.add_eq_left, List.length_eq_zero_iff, List.length_eq_zero_iff]
  exact and_congr_right fun hnumber => ⟨hnone hsign hnumber, fun hgap' => by_contra fun hgap => hsome hgap hgap'⟩

/-- **The text with other blanks has the same tokens**, in step with those of the first text. -/
theorem Respaced.reaches (h : Respaced last tokens cs cs') : ∀ {position end_ : Nat} (position' : Nat)
    {pair? : Option (Token × Token)}, Reaches position cs tokens end_ [] → pair?.map Prod.fst = last →
    (∀ before ∈ pair?, before.1.IsSign → before.1.position + 1 = position ∧ before.2.position + 1 = position') →
    ∃ pairs, pairs.map Prod.fst = tokens ∧
      Reaches position' cs' (pairs.map Prod.snd) (position' + cs'.length) [] ∧ Token.InStep pair? pairs := by
  induction h with
  | @stop last gap gap' _ hgap' =>
    intro position end_ position' pair? _ _ _
    have hstop : Reaches position' (gap' ++ []) [] (position' + gap'.length) [] := .stop hgap'
    rw [List.append_nil] at hstop
    exact ⟨[], rfl, hstop, .nil _⟩
  | @token last t rest gap gap' cs cs' hgap hgap' hreplace hrest ih =>
    intro position end_ position' pair? hreaches hpair hsigns
    obtain ⟨found, tail, heq, hfound, hleads, hposition, hmore⟩ := hreaches.of_cons
    obtain ⟨c, body, htext, hc⟩ := exists_cons_of_leads hleads
    have hhead : ∀ x : List Char, ∀ d ∈ (t.text ++ x).head?, Text.isBlank d = false := by
      intro x d hd
      rw [htext] at hd
      exact Option.some.inj hd ▸ hc
    -- the text is cut in one way only, so its gap and its token are the ones that are replaced
    obtain ⟨rfl, htail⟩ := hgap.append_inj hfound (hhead cs) (hhead tail) heq
    obtain rfl := List.append_cancel_left htail
    let u : Token := ⟨t.kind, t.text, position' + gap'.length⟩
    have hnext : ∀ before ∈ some (t, u), before.1.IsSign → before.1.position + 1 = t.position + t.text.length ∧
        before.2.position + 1 = position' + gap'.length + t.text.length := by
      rintro _ ⟨⟩ hsign
      rw [hleads.length_of_isSign hsign]
      exact ⟨rfl, rfl⟩
    obtain ⟨pairs, rfl, hpairs, hstep⟩ := ih (position' + gap'.length + t.text.length)
      hmore rfl hnext
    refine ⟨(t, u) :: pairs, rfl, ?_, .cons rfl ?_ hstep⟩
    · have hend : position' + (gap' ++ (t.text ++ cs')).length =
          position' + gap'.length + t.text.length + cs'.length := by
        rw [List.length_append, List.length_append]
        omega
      rw [hend]
      exact .token hgap' (hrest.leads hleads) hpairs
    · intro sign hsign hissign
      obtain rfl := hsign
      obtain rfl := hpair
      obtain ⟨hplace, hplace'⟩ := hsigns sign rfl hissign
      exact hreplace.touches hissign rfl (hplace ▸ hposition) (by rw [hplace'])

end Token

open Token

/-- **Blanks between tokens do not matter.** When the blanks around the tokens of a text are replaced, so that blanks
remain between two tokens where there are some and none come between a sign and the number that touches it, the new text
has the same tokens but for their places. At each entry point both texts are the same node, or both are refused at the same
token, with the same thing expected and found. -/
theorem respaced_text {text text' : String} {tokens : List Token} (hscan : scan 0 text.toList = .ok tokens)
    (h : Respaced none tokens text.toList text'.toList) :
    ∃ tokens', scan 0 text'.toList = .ok tokens' ∧ tokens'.map content = tokens.map content ∧
      ∀ form, (∃ n, Node.parse form text = .ok n ∧ Node.parse form text' = .ok n) ∨
        ∃ e e' place, Node.parse form text = .error e ∧ Node.parse form text' = .error e' ∧
          place ≤ tokens.length ∧ e.position = startAt text tokens place ∧ e'.position = startAt text' tokens' place ∧
          e.expected = e'.expected ∧ e.found = e'.found := by
  have hnone : (none : Option (Token × Token)).map Prod.fst = none := rfl
  obtain ⟨pairs, rfl, hreaches, hstep⟩ := h.reaches 0 (scan_eq_ok_iff.1 hscan) hnone fun _ h => nomatch h
  have hscan' := scan_eq_ok_iff.2 hreaches
  refine ⟨pairs.map Prod.snd, hscan', hstep.content, fun form => ?_⟩
  have hends := ofTokens?_inStep form hstep
  rw [Node.parse_of_scan hscan, Node.parse_of_scan hscan']
  generalize Node.ofTokens? form (pairs.map Prod.fst) = r at hends
  generalize Node.ofTokens? form (pairs.map Prod.snd) = r' at hends
  cases hends with
  | node n => exact .inl ⟨n, rfl, rfl⟩
  | @fault e e' place hplace hcause htoken htoken' =>
    have hfound : describe e.token = describe e'.token := by
      refine describe_congr ?_
      rw [htoken, htoken', ← List.getElem?_map, ← List.getElem?_map, hstep.content]
    refine .inr ⟨_, _, place, rfl, rfl, by simpa using hplace, SyntaxError.position_ofParse text htoken,
      SyntaxError.position_ofParse text' htoken', ?_, congrArg some hfound⟩
    exact congrArg (fun cause => some cause.expected) hcause

/-- Blanks may come before a minus, but not between it and the number that touches it. -/
theorem respaced_text_minus : ∃ tokens, scan 0 "1-2k".toList = .ok tokens ∧
    Respaced none tokens "1-2k".toList " 1 -2 k".toList ∧
    ∃ tokens', scan 0 " 1 -2 k".toList = .ok tokens' ∧ tokens'.map content = tokens.map content ∧
      ∀ form, (∃ n, Node.parse form "1-2k" = .ok n ∧ Node.parse form " 1 -2 k" = .ok n) ∨
        ∃ e e' place, Node.parse form "1-2k" = .error e ∧ Node.parse form " 1 -2 k" = .error e' ∧
          place ≤ tokens.length ∧ e.position = startAt "1-2k" tokens place ∧
          e'.position = startAt " 1 -2 k" tokens' place ∧ e.expected = e'.expected ∧ e.found = e'.found := by
  let one : Token := ⟨.number (.ofInt 1), ['1'], 0⟩
  let minus : Token := ⟨.arith .minus, ['-'], 1⟩
  let two : Token := ⟨.number (.ofInt 2), ['2'], 2⟩
  let unit : Token := ⟨.word, ['k'], 3⟩
  have hscan : scan 0 "1-2k".toList = .ok [one, minus, two, unit] := eq_ok_of_toOption (by decide +kernel)
  have hword : ¬ ∃ value, unit.kind = .number value := by
    rintro ⟨_, h⟩
    cases h
  have hminus : ¬ ∃ value, minus.kind = .number value := by
    rintro ⟨_, h⟩
    cases h
  have hrespaced : Respaced none [one, minus, two, unit] "1-2k".toList " 1 -2 k".toList := by
    refine @Respaced.token none one _ [] [' '] _ _ isGap_nil (by decide) (fun _ h => nomatch h) ?_
    refine @Respaced.token _ minus _ [] [' '] _ _ isGap_nil (by decide) (fun _ _ => ⟨nofun, fun _ h => absurd h hminus⟩) ?_
    refine @Respaced.token _ two _ [] [] _ _ isGap_nil isGap_nil (fun _ _ => ⟨id, fun _ _ => id⟩) ?_
    refine @Respaced.token _ unit _ [] [' '] [] [] isGap_nil (by decide) (fun _ _ => ⟨nofun, fun _ h => absurd h hword⟩) ?_
    exact .stop isGap_nil isGap_nil
  exact ⟨_, hscan, hrespaced, respaced_text hscan hrespaced⟩

end MetricExpr
