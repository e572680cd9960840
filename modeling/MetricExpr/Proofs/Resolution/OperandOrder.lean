import MetricExpr.Proofs.Resolution.Monotone
import MetricExpr.SymbolTable
/-!
# Resolution and the order of operands

The two operands of an operator have the same variables in either order, so the resolution has the same outcome
(`Resolution.reason_congr`). What it selects need not be the same (`order_selects`): within one key the scan goes
through the variables in the order of the expression, so where one key opens two groups, the order of the operands
decides which of them comes first. That is the only way in which it matters (`resolution_swap`).
-/
namespace MetricExpr

/-- The first key that one of the variables has these captures from. -/
def opener (vs : List Variable) (keys : List String) (captures : List String) : Option String :=
  keys.find? fun key => vs.any fun v => v.glob.captures? key == some captures

/-- One key opens the groups of both captures, one of them by a variable of the first list and the other by a variable of
the second. -/
def OpenedTogether (vs ws : List Variable) (keys : List String) (captures others : List String) : Prop :=
  ∃ key, opener (vs ++ ws) keys captures = some key ∧ opener (vs ++ ws) keys others = some key ∧
    (∃ v ∈ vs, v.glob.captures? key = some captures) ∧ ∃ w ∈ ws, w.glob.captures? key = some others

/-- The two lists in one order and in the other contest which captures come first. Where the first group is taken, these
captures are those of the list in front, and where the last is taken, those of the list behind. -/
def Contested (policy : TieBreak) (vs ws : List Variable) (keys : List String) (captures others : List String) : Prop :=
  match policy with
  | .first => OpenedTogether vs ws keys captures others
  | .last => OpenedTogether vs ws keys others captures

/-- If what is found first depends on which list is in front, then it is found in that list. -/
theorem mem_of_find?_append {α : Type} {p : α → Bool} {xs ys : List α} {x y : α} (hx : (xs ++ ys).find? p = some x)
    (hy : (ys ++ xs).find? p = some y) (hne : x ≠ y) : x ∈ xs := by
  rw [List.find?_append] at hx hy
  cases hxs : xs.find? p with
  | some z =>
    rw [hxs] at hx
    cases hx
    exact List.mem_of_find?_eq_some hxs
  | none =>
    rw [hxs, Option.none_or] at hx
    rw [hx, Option.some_or] at hy
    exact absurd (Option.some.inj hy) hne

section
variable {α : Type} [BEq α] [LawfulBEq α]

/-- Of two members of a list the one with the earlier place is found first. -/
theorem find?_of_idxOf_le {x y : α} {p : α → Bool} (hp : ∀ z, p z = true ↔ z = x ∨ z = y) :
    ∀ {xs : List α}, x ∈ xs → xs.idxOf x ≤ xs.idxOf y → xs.find? p = some x
  | z :: xs, hx, hle => by
    by_cases hzx : z = x
    · subst hzx
      exact List.find?_cons_of_pos ((hp z).2 (.inl rfl))
    · have hzy : z ≠ y := by
        rintro rfl
        rw [List.idxOf_cons_self, List.idxOf_cons_ne xs hzx] at hle
        omega
      rw [List.idxOf_cons_ne xs hzx, List.idxOf_cons_ne xs hzy] at hle
      have hmem : x ∈ xs := (List.mem_cons.1 hx).resolve_left (Ne.symm hzx)
      rw [List.find?_cons_of_neg fun hz => ((hp z).1 hz).elim hzx hzy]
      exact find?_of_idxOf_le hp hmem (Nat.le_of_succ_le_succ hle)

end

variable {vs ws : List Variable} {keys : List String} {captures others : List String} {policy : TieBreak}

/-! ## The same variables in another order -/

theorem Resolution.unmatched_perm (h : ∀ v, v ∈ vs ↔ v ∈ ws) {globs globs' : List String}
    (hr : Resolution.of vs keys policy = .unmatched globs) (hr' : Resolution.of ws keys policy = .unmatched globs') :
    globs.Perm globs' := by
  have hglobs : ∀ {us : List Variable} {gs : List String}, Resolution.of us keys policy = .unmatched gs →
      gs = distinct ((us.filter fun v => v.Missing keys).map (·.text)) := by
    intro us gs hus
    have hne : us ≠ [] := by
      rintro rfl
      cases hus
    rw [← Survey.unmatched_eq]
    exact ((Resolution.eq_unmatched_iff hne).1 hus).2
  rw [hglobs hr, hglobs hr', List.perm_ext_iff_of_nodup (nodup_distinct _) (nodup_distinct _)]
  intro text
  simp only [mem_distinct, List.mem_map, List.mem_filter, h]

/-- With the same captures every variable has the same key. -/
theorem Selects.perm (h : ∀ v, v ∈ vs ↔ v ∈ ws) {selected selected' : List (Variable × String)}
    (hs : Selects vs keys policy captures selected) (hs' : Selects ws keys policy captures selected') :
    selected.Perm selected' := by
  rw [hs.selected_eq, hs'.selected_eq]
  refine List.Perm.map _ ((List.perm_ext_iff_of_nodup (nodup_distinct vs) (nodup_distinct ws)).2 fun v => ?_)
  rw [mem_distinct, mem_distinct, h]

/-! ## Which of two groups comes first -/

/-- The captures that the scan meets first among some come from the first key that gives any of them, by the first
variable that has any of them there. -/
theorem find?_sightings {p : List String → Bool} (h : (sightings vs keys).find? p = some captures) :
    ∃ key, keys.find? (fun key => vs.any fun v => (v.glob.captures? key).any p) = some key ∧
      ∃ v, vs.find? (fun v => (v.glob.captures? key).any p) = some v ∧ v.glob.captures? key = some captures := by
  unfold sightings at h
  rw [List.find?_flatMap, List.findSome?_eq_some_iff] at h
  obtain ⟨before, key, after, rfl, hkey, hbefore⟩ := h
  simp only [List.find?_filterMap, find?_distinct] at hkey hbefore
  obtain ⟨v, hv, hc⟩ := Option.bind_eq_some_iff.1 hkey
  refine ⟨key, List.find?_eq_some_iff_append.2 ⟨?_, before, after, rfl, fun k hk => ?_⟩, v, hv, hc⟩
  · exact List.any_eq_true.2 ⟨v, List.mem_of_find?_eq_some hv, (List.find?_eq_some_iff_append.1 hv).1⟩
  · -- a variable found there would have captures there
    have hnone : vs.find? (fun v => (v.glob.captures? k).any p) = none := by
      by_contra hne
      obtain ⟨w, hw⟩ := Option.ne_none_iff_exists'.1 hne
      have hb := hbefore k hk
      have hany := (List.find?_eq_some_iff_append.1 hw).1
      rw [hw, Option.bind_some] at hb
      rw [hb] at hany
      cases hany
    rw [Bool.not_eq_true', List.any_eq_false]
    exact List.find?_eq_none.1 hnone

theorem opener_of_find? {p : List String → Bool} {key : String}
    (hfirst : keys.find? (fun key => vs.any fun v => (v.glob.captures? key).any p) = some key)
    (hp : p captures = true) {v : Variable} (hv : v ∈ vs) (hc : v.glob.captures? key = some captures) :
    opener vs keys captures = some key := by
  obtain ⟨-, before, after, rfl, hbefore⟩ := List.find?_eq_some_iff_append.1 hfirst
  refine List.find?_eq_some_iff_append.2 ⟨?_, before, after, rfl, fun k hk => ?_⟩
  · exact List.any_eq_true.2 ⟨v, hv, by rw [hc]; exact beq_self_eq_true _⟩
  · have hnone := hbefore k hk
    rw [Bool.not_eq_true', List.any_eq_false] at hnone ⊢
    intro w hw he
    refine hnone w hw ?_
    rw [eq_of_beq he]
    exact hp

/-- **What comes first by the order of the variables**: if among some captures the scan meets these first in one order of
two lists, and others in the other order, then one key opens the groups of both. -/
theorem openedTogether_of_find? {p : List String → Bool} (hne : captures ≠ others)
    (h : (sightings (vs ++ ws) keys).find? p = some captures)
    (h' : (sightings (ws ++ vs) keys).find? p = some others) : OpenedTogether vs ws keys captures others := by
  obtain ⟨key, hfirst, v, hv, hc⟩ := find?_sightings h
  obtain ⟨key', hfirst', w, hw, hc'⟩ := find?_sightings h'
  have hany : ∀ k, ((ws ++ vs).any fun v => (v.glob.captures? k).any p) =
      ((vs ++ ws).any fun v => (v.glob.captures? k).any p) := by
    intro k
    rw [List.any_append, List.any_append, Bool.or_comm]
  simp only [hany] at hfirst'
  obtain rfl : key = key' := Option.some.inj (hfirst.symm.trans hfirst')
  have hvw : v ≠ w := by
    rintro rfl
    exact hne (Option.some.inj (hc.symm.trans hc'))
  have hv' : v ∈ vs := mem_of_find?_append hv hw hvw
  have hw' : w ∈ ws := mem_of_find?_append hw hv hvw.symm
  have hp : p captures = true := (List.find?_eq_some_iff_append.1 h).1
  have hp' : p others = true := (List.find?_eq_some_iff_append.1 h').1
  exact ⟨key, opener_of_find? hfirst hp (List.mem_append_left ws hv') hc,
    opener_of_find? hfirst hp' (List.mem_append_right vs hw') hc', ⟨v, hv', hc⟩, w, hw', hc'⟩

/-- If the two orders select different captures, one key opens the groups of both. -/
theorem Selects.contested (hvars : vs ++ ws ≠ []) (hne : captures ≠ others)
    {selected selected' : List (Variable × String)} (h : Selects (vs ++ ws) keys policy captures selected)
    (h' : Selects (ws ++ vs) keys policy others selected') : Contested policy vs ws keys captures others := by
  have hcomm : ∀ v, v ∈ vs ++ ws ↔ v ∈ ws ++ vs := fun v => by rw [List.mem_append, List.mem_append, or_comm]
  have hvars' : ws ++ vs ≠ [] := by
    obtain ⟨v, hv⟩ := List.exists_mem_of_ne_nil _ hvars
    exact List.ne_nil_of_mem ((hcomm v).1 hv)
  have hothers : Shared (vs ++ ws) keys others := h'.shared.mono (fun v => (hcomm v).1) (List.Subset.refl keys)
  have hcaptures : Shared (ws ++ vs) keys captures := h.shared.mono (fun v => (hcomm v).2) (List.Subset.refl keys)
  have hplace := h.taken others hothers
  have hplace' := h'.taken captures hcaptures
  have hp : ∀ z, (z == captures || z == others) = true ↔ z = captures ∨ z = others := fun z => by simp
  have hp' : ∀ z, (z == captures || z == others) = true ↔ z = others ∨ z = captures := fun z => by simp [or_comm]
  cases policy with
  | first =>
    exact openedTogether_of_find? hne (find?_of_idxOf_le hp (mem_sightings hvars h.shared) hplace)
      (find?_of_idxOf_le hp' (mem_sightings hvars' h'.shared) hplace')
  | last =>
    exact openedTogether_of_find? hne.symm (find?_of_idxOf_le hp' (mem_sightings hvars hothers) hplace)
      (find?_of_idxOf_le hp (mem_sightings hvars' hcaptures) hplace')

/-! ## Swapped operands -/

/-- **Swapped operands resolve alike up to groups that one key opens.** The outcome is the same, and so are the unmatched
globs but for their order. With the same captures each variable has the same key. Different captures are selected only
where one key opens the groups of both, one of them by a variable of each operand. -/
theorem resolution_swap (op : Arith) (a b : Expr) (keys : List String) (policy : TieBreak) :
    let forth := Resolution.of (Expr.binary op a b).vars keys policy
    let back := Resolution.of (Expr.binary op b a).vars keys policy
    forth.reason = back.reason ∧
    (∀ globs globs', forth = .unmatched globs → back = .unmatched globs' → globs.Perm globs') ∧
    ∀ captures others selected selected', forth = .ok captures selected → back = .ok others selected' →
      (captures = others → selected.Perm selected') ∧
      (captures ≠ others → Contested policy a.vars b.vars keys captures others) := by
  intro forth back
  have hcomm : ∀ v, v ∈ a.vars ++ b.vars ↔ v ∈ b.vars ++ a.vars :=
    fun v => by rw [List.mem_append, List.mem_append, or_comm]
  refine ⟨Resolution.reason_congr hcomm (fun _ => Iff.rfl) policy policy, fun globs globs' h h' => Resolution.unmatched_perm hcomm h h', ?_⟩
  intro captures others selected selected' h h'
  by_cases hvars : a.vars ++ b.vars = []
  · -- without variables both orders select nothing
    have hvars' : b.vars ++ a.vars = [] := by
      rw [List.append_eq_nil_iff] at hvars ⊢
      exact hvars.symm
    have hf : Resolution.of (a.vars ++ b.vars) keys policy = .ok captures selected := h
    have hb : Resolution.of (b.vars ++ a.vars) keys policy = .ok others selected' := h'
    rw [hvars] at hf
    rw [hvars'] at hb
    cases hf
    cases hb
    exact ⟨fun _ => List.Perm.refl _, fun hne => absurd rfl hne⟩
  have hvars' : b.vars ++ a.vars ≠ [] := by
    rw [Ne, List.append_eq_nil_iff, and_comm, ← List.append_eq_nil_iff]
    exact hvars
  have hsel : Selects (a.vars ++ b.vars) keys policy captures selected := (Resolution.eq_ok_iff hvars).1 h
  have hsel' : Selects (b.vars ++ a.vars) keys policy others selected' := (Resolution.eq_ok_iff hvars').1 h'
  refine ⟨?_, fun hne => hsel.contested hvars hne hsel'⟩
  rintro rfl
  exact hsel.perm hcomm hsel'

/-- The key "b.a" opens two groups, which the other two keys complete. The operand in front opens the first. -/
theorem resolution_swap_shared_key :
    let a : Variable := ⟨⟨"*.a"⟩, by decide⟩
    let b : Variable := ⟨⟨"b.*"⟩, by decide⟩
    let keys := ["b.a", "b.b", "a.a"]
    Resolution.of (Expr.binary .plus (.var a) (.var b)).vars keys .first = .ok ["b"] [(a, "b.a"), (b, "b.b")] ∧
      Resolution.of (Expr.binary .plus (.var b) (.var a)).vars keys .first = .ok ["a"] [(b, "b.a"), (a, "a.a")] ∧
      Contested .first [a] [b] keys ["b"] ["a"] := by
  intro a b keys
  have hforth : Resolution.of (Expr.binary .plus (.var a) (.var b)).vars keys .first =
      .ok ["b"] [(a, "b.a"), (b, "b.b")] := by decide
  have hback : Resolution.of (Expr.binary .plus (.var b) (.var a)).vars keys .first =
      .ok ["a"] [(b, "b.a"), (a, "a.a")] := by decide
  have hswap := (resolution_swap .plus (.var a) (.var b) keys .first).2.2 _ _ _ _ hforth hback
  exact ⟨hforth, hback, hswap.2 (by decide)⟩

/-- **The order of the operands can decide**: the sum and the swapped sum resolve, to different keys, and to different
values. -/
theorem order_selects :
    let a : Variable := ⟨⟨"*.a"⟩, by decide⟩
    let b : Variable := ⟨⟨"b.*"⟩, by decide⟩
    let forth : Expr := .binary .plus (.var a) (.var b)
    let back : Expr := .binary .plus (.var b) (.var a)
    let table : SymbolTable := ⟨[("b.a", .ofInt 1), ("b.b", .ofInt 2), ("a.a", .ofInt 3)]⟩
    let value := fun e : Expr => (Node.expr e).evalWith .binary64 ((Resolution.of e.vars table.keys .last).numbers table)
    Resolution.of forth.vars table.keys .last = .ok ["a"] [(a, "a.a"), (b, "b.a")] ∧
      Resolution.of back.vars table.keys .last = .ok ["b"] [(b, "b.b"), (a, "b.a")] ∧
      value forth = some (.number (.ofInt 4)) ∧ value back = some (.number (.ofInt 3)) := by
  refine ⟨by decide, by decide, by decide +kernel, by decide +kernel⟩

end MetricExpr
