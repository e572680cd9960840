import MetricExpr.Proofs.Expr.Lexemes
import MetricExpr.Proofs.Expr.Viable
/-!
# A text is its tokens and the blanks between them

Cutting a text into tokens loses nothing: the text is gaps of blanks and the texts of its tokens by turns
(`Token.scan_eq_ok_iff`), each token is the one that leads the text at its position, and a text is refused at a place that
is reached this way and where no token starts (`Token.scan_eq_error_iff`). Both are put together in `scan_lossless`.
-/
namespace MetricExpr

namespace Token

def IsGap (cs : List Char) : Prop := ∀ c ∈ cs, Text.isBlank c = true

instance (cs : List Char) : Decidable (IsGap cs) := decidable_of_iff (cs.all Text.isBlank = true) List.all_eq_true

theorem isGap_nil : IsGap [] := nofun

/-- From its position on a text is gaps and tokens by turns, up to another position where the rest of it stands. Each
token leads the text where it stands, and its position is the number of characters in front of it. -/
inductive Reaches : Nat → List Char → List Token → Nat → List Char → Prop where
  | stop {position : Nat} {gap rest : List Char} : IsGap gap →
      Reaches position (gap ++ rest) [] (position + gap.length) rest
  | token {position : Nat} {gap lexeme cs : List Char} {kind : TokenKind} {tokens : List Token} {last : Nat}
      {rest : List Char} : IsGap gap → Leads (lexeme ++ cs) kind lexeme →
      Reaches (position + gap.length + lexeme.length) cs tokens last rest →
      Reaches position (gap ++ (lexeme ++ cs)) (⟨kind, lexeme, position + gap.length⟩ :: tokens) last rest

variable {position last : Nat} {cs rest : List Char} {tokens : List Token}

/-! ## What is reached is read -/

theorem scan_gap {gap : List Char} (h : IsGap gap) (position : Nat) (cs : List Char) :
    scan position (gap ++ cs) = scan (position + gap.length) cs := by
  induction gap generalizing position with
  | nil => rfl
  | cons c gap ih =>
    obtain ⟨hc, hgap⟩ := List.forall_mem_cons.1 h
    rw [List.cons_append, scan, if_pos hc, ih hgap, List.length_cons, Nat.add_assoc, Nat.add_comm 1]

theorem scan_leads {lexeme : List Char} {kind : TokenKind} (h : Leads (lexeme ++ cs) kind lexeme) (position : Nat) :
    scan position (lexeme ++ cs) = (scan (position + lexeme.length) cs).map ([⟨kind, lexeme, position⟩] ++ ·) := by
  obtain ⟨c, body, rfl, hblank⟩ := exists_cons_of_leads h
  exact scan_token body hblank (front_of_leads h)

theorem Reaches.scan_eq (h : Reaches position cs tokens last rest) :
    scan position cs = (scan last rest).map (tokens ++ ·) := by
  induction h with
  | @stop position gap rest hgap =>
    rw [scan_gap hgap]
    cases scan (position + gap.length) rest <;> rfl
  | token hgap hleads _ ih => rw [scan_gap hgap, scan_leads hleads, ih, map_append_map]; rfl

theorem Reaches.last_eq (h : Reaches position cs tokens last rest) : last + rest.length = position + cs.length := by
  induction h with
  | stop => rw [List.length_append]; omega
  | token _ _ _ ih => rw [ih, List.length_append, List.length_append]; omega

theorem Reaches.cons_blank {c : Char} (hc : Text.isBlank c = true) (h : Reaches (position + 1) cs tokens last rest) :
    Reaches position (c :: cs) tokens last rest := by
  have hgap : ∀ {gap}, IsGap gap → IsGap (c :: gap) := fun hgap => List.forall_mem_cons.2 ⟨hc, hgap⟩
  have hlength : ∀ gap : List Char, position + 1 + gap.length = position + (c :: gap).length := by
    intro gap
    rw [List.length_cons]
    omega
  cases h with
  | stop hblank =>
    rw [hlength]
    exact .stop (hgap hblank)
  | token hblank hleads hrest =>
    rw [hlength] at hrest ⊢
    exact .token (hgap hblank) hleads hrest

/-! ## What is read is reached -/

/-- A text is cut up to its end, or up to where no token starts. -/
theorem exists_reaches (position : Nat) (cs : List Char) : ∃ tokens last rest,
    Reaches position cs tokens last rest ∧ (rest = [] ∨ ∃ fault, Refused rest fault) := by
  induction position, cs using scan.induct with
  | case1 position => exact ⟨[], position, [], .stop isGap_nil, .inl rfl⟩
  | case2 position c cs hblank ih =>
    obtain ⟨tokens, last, rest, hreaches, hend⟩ := ih
    exact ⟨tokens, last, rest, hreaches.cons_blank hblank, hend⟩
  | case3 position c cs hblank fault hfront =>
    exact ⟨[], position, c :: cs, .stop isGap_nil, .inr ⟨fault, refused_of_front (by simpa using hblank) hfront⟩⟩
  | case4 position c cs hblank kind more hfront ih =>
    obtain ⟨lexeme, hleads, hlength⟩ := front_eq_ok_iff.1 hfront
    obtain ⟨tail, htail⟩ := hleads.front_of_text
    have hdrop : cs.drop more = tail := by
      have := congrArg (List.drop (more + 1)) htail
      rwa [← hlength, List.drop_left, hlength, List.drop_succ_cons, eq_comm] at this
    rw [← htail] at hleads ⊢
    rw [hdrop, show position + 1 + more = position + ([] : List Char).length + lexeme.length by
      rw [hlength, List.length_nil]; omega] at ih
    obtain ⟨tokens, last, rest, hreaches, hend⟩ := ih
    exact ⟨_, last, rest, .token isGap_nil hleads hreaches, hend⟩

theorem Refused.scan_eq {fault : LexicalFault} (h : Refused rest fault) (position : Nat) :
    scan position rest = .error (fault, position) := by
  obtain ⟨c, cs, rfl, hblank⟩ : ∃ c cs, rest = c :: cs ∧ Text.isBlank c = false := by
    cases h with
    | unterminatedGlob => exact ⟨'"', _, rfl, by decide⟩
    | unexpectedCharacter _ hblank => exact ⟨_, _, rfl, hblank⟩
  rw [scan, if_neg (by simp [hblank]), (front_eq_error_iff hblank).2 h]

/-- **The tokens of a text are reached one behind the other up to its end.** -/
theorem scan_eq_ok_iff : scan position cs = .ok tokens ↔ Reaches position cs tokens (position + cs.length) [] := by
  constructor
  · intro h
    obtain ⟨found, last, rest, hreaches, rfl | ⟨fault, hrefused⟩⟩ := exists_reaches position cs
    · have hread := hreaches.scan_eq
      rw [scan, h] at hread
      obtain rfl : tokens = found := (Except.ok.inj hread).trans (List.append_nil found)
      obtain rfl : last = position + cs.length := hreaches.last_eq
      exact hreaches
    · rw [hreaches.scan_eq, hrefused.scan_eq] at h
      cases h
  · intro h
    rw [h.scan_eq, scan]
    exact congrArg Except.ok (List.append_nil tokens)

/-- **A text is refused exactly where it is reached that no token starts.** -/
theorem scan_eq_error_iff {fault : LexicalFault} : scan position cs = .error (fault, last) ↔
    ∃ tokens rest, Reaches position cs tokens last rest ∧ Refused rest fault := by
  constructor
  · intro h
    obtain ⟨found, place, rest, hreaches, rfl | ⟨cause, hrefused⟩⟩ := exists_reaches position cs
    · rw [hreaches.scan_eq, scan] at h
      cases h
    · have hread := hreaches.scan_eq
      rw [h, hrefused.scan_eq] at hread
      obtain ⟨rfl, rfl⟩ := Prod.mk.inj (Except.error.inj hread)
      exact ⟨found, rest, hreaches, hrefused⟩
  · rintro ⟨found, rest, hreaches, hrefused⟩
    rw [hreaches.scan_eq, hrefused.scan_eq]
    rfl

theorem Reaches.leads (h : Reaches position cs tokens last rest) {t : Token} (ht : t ∈ tokens) :
    position ≤ t.position ∧ Leads (cs.drop (t.position - position)) t.kind t.text := by
  induction h with
  | stop => cases ht
  | @token position gap lexeme cs kind tokens last rest hgap hleads hreaches ih =>
    rcases List.mem_cons.1 ht with rfl | ht
    · refine ⟨Nat.le_add_right _ _, ?_⟩
      rwa [Nat.add_sub_cancel_left, List.drop_left]
    · obtain ⟨hle, hdrop⟩ := ih ht
      refine ⟨by omega, ?_⟩
      obtain ⟨k, hk⟩ := Nat.exists_eq_add_of_le hle
      rw [hk, Nat.add_sub_cancel_left] at hdrop
      rw [hk, ← List.append_assoc, show position + gap.length + lexeme.length + k - position =
        (gap ++ lexeme).length + k by rw [List.length_append]; omega, List.drop_length_add_append]
      exact hdrop

end Token

open Token

/-- **Cutting a text into tokens loses nothing and takes the longest token.** A text is cut into tokens exactly when it is
gaps and these tokens by turns up to its end; they stand one behind the other, with the end of the text behind the last,
and each is the longest of its shape where it stands. A text is refused exactly at a place that is reached so and where a
quote is never closed or no shape begins. -/
theorem scan_lossless (text : String) :
    (∀ tokens, scan 0 text.toList = .ok tokens ↔ Reaches 0 text.toList tokens text.length []) ∧
    (∀ tokens, scan 0 text.toList = .ok tokens → (tokens.map position ++ [text.length]).Pairwise (· < ·) ∧
      ∀ t ∈ tokens, Leads (text.toList.drop t.position) t.kind t.text) ∧
    ∀ fault place, scan 0 text.toList = .error (fault, place) ↔
      ∃ tokens rest, Reaches 0 text.toList tokens place rest ∧ Refused rest fault := by
  have hlength : 0 + text.toList.length = text.length := (Nat.zero_add _).trans String.length_toList
  refine ⟨fun tokens => hlength ▸ scan_eq_ok_iff, fun tokens h => ⟨?_, fun t ht => ?_⟩, fun _ _ => scan_eq_error_iff⟩
  · obtain ⟨hpairs, hbounds⟩ := scan_increasing h
    refine List.pairwise_append.2 ⟨List.pairwise_map.2 hpairs, List.pairwise_singleton _ _, ?_⟩
    rintro _ hp _ hend
    obtain ⟨t, ht, rfl⟩ := List.mem_map.1 hp
    rw [List.mem_singleton.1 hend, ← hlength]
    exact (hbounds t ht).2
  · exact ((scan_eq_ok_iff.1 h).leads ht).2

/-- A second point starts a new number, and an exponent without digits is a word. -/
theorem scan_lossless_points : ∃ tokens, scan 0 "1.2.3e <=".toList = .ok tokens ∧
    tokens.map (fun t => (t.text, t.position)) =
      [(['1', '.', '2'], 0), (['.', '3'], 3), (['e'], 5), (['<', '='], 7)] ∧
    Reaches 0 "1.2.3e <=".toList tokens 9 [] ∧ (tokens.map position ++ [9]).Pairwise (· < ·) ∧
    ∀ t ∈ tokens, Leads ("1.2.3e <=".toList.drop t.position) t.kind t.text := by
  have hchecked : (scan 0 "1.2.3e <=".toList).toOption.any (fun tokens => tokens.map (fun t => (t.text, t.position)) =
      [(['1', '.', '2'], 0), (['.', '3'], 3), (['e'], 5), (['<', '='], 7)]) = true := by decide +kernel
  obtain ⟨tokens, hsome, hplaces⟩ := (Option.any_eq_true _ _).1 hchecked
  have hscan := eq_ok_of_toOption hsome
  obtain ⟨hreaches, htokens, -⟩ := scan_lossless "1.2.3e <="
  exact ⟨tokens, hscan, of_decide_eq_true hplaces, (hreaches tokens).1 hscan, htokens tokens hscan⟩

end MetricExpr
