import MetricExpr.Proofs.Resolution.Outcome
import MetricExpr.Proofs.Resolution.Presence
/-!
# More keys, fewer variables

Shared captures stay shared when keys are added and when variables are dropped (`Shared.mono`), whatever happens to the
order of either. So a resolution that is ok stays ok, and one that is unmatched was unmatched before
(`resolution_mono`): a node that has a value keeps having one as metrics are added, and all its parts resolve.
-/
namespace MetricExpr

/-- An expression and the expressions that it is made of. -/
def Expr.parts : Expr → List Expr
  | const x => [const x]
  | var v => [var v]
  | binary op l r => binary op l r :: (l.parts ++ r.parts)

/-- The expressions that a node is made of. -/
def Node.parts : Node → List Expr
  | expr e => e.parts
  | comparison _ l r => l.parts ++ r.parts

theorem Expr.vars_of_part {part : Expr} : ∀ {e : Expr}, part ∈ e.parts → part.vars ⊆ e.vars
  | const x, h => by
    obtain rfl := List.mem_singleton.1 h
    exact List.Subset.refl _
  | var v, h => by
    obtain rfl := List.mem_singleton.1 h
    exact List.Subset.refl _
  | binary op l r, h => by
    obtain rfl | h := List.mem_cons.1 h
    · exact List.Subset.refl _
    · rcases List.mem_append.1 h with h | h
      · exact List.Subset.trans (Expr.vars_of_part h) (List.subset_append_left _ _)
      · exact List.Subset.trans (Expr.vars_of_part h) (List.subset_append_right _ _)

theorem Node.vars_of_part {part : Expr} : ∀ {n : Node}, part ∈ n.parts → part.vars ⊆ n.vars
  | expr e, h => Expr.vars_of_part h
  | comparison _ l r, h => by
    rcases List.mem_append.1 h with h | h
    · exact List.Subset.trans (Expr.vars_of_part h) (List.subset_append_left _ _)
    · exact List.Subset.trans (Expr.vars_of_part h) (List.subset_append_right _ _)

variable {vs ws : List Variable} {keys keys' : List String}

/-! ## Resolutions -/

theorem Shared.mono {captures : List String} (h : Shared vs keys captures) (hvars : ws ⊆ vs) (hkeys : keys ⊆ keys') :
    Shared ws keys' captures := by
  intro v hv
  obtain ⟨key, hkey, hc⟩ := h v (hvars hv)
  exact ⟨key, hkeys hkey, hc⟩

theorem Variable.Missing.anti {v : Variable} (h : v.Missing keys') (hkeys : keys ⊆ keys') : v.Missing keys :=
  fun key hkey => h key (hkeys hkey)

namespace Resolution

variable {policy policy' : TieBreak}

/-- **A resolution that is ok stays ok** with more keys and fewer variables, under any tie-break. -/
theorem isOk_mono (hvars : ws ⊆ vs) (hkeys : keys ⊆ keys') (h : (Resolution.of vs keys policy).isOk = true) :
    (Resolution.of ws keys' policy').isOk = true := by
  by_cases hws : ws = []
  · subst hws
    rfl
  obtain ⟨w, hw⟩ := List.exists_mem_of_ne_nil ws hws
  obtain ⟨captures, hshared⟩ := (isOk_iff_shared (List.ne_nil_of_mem (hvars hw))).1 h
  exact (isOk_iff_shared hws).2 ⟨captures, hshared.mono hvars hkeys⟩

/-- **A resolution that is unmatched was unmatched with fewer keys**, by the same globs at least. -/
theorem unmatched_anti (hkeys : keys ⊆ keys') {globs' : List String}
    (h : Resolution.of vs keys' policy' = .unmatched globs') :
    ∃ globs, Resolution.of vs keys policy = .unmatched globs ∧ globs' ⊆ globs := by
  have hvs : vs ≠ [] := by
    rintro rfl
    cases h
  obtain ⟨⟨v, hv, hmissing⟩, rfl⟩ := (eq_unmatched_iff hvs).1 h
  refine ⟨_, (eq_unmatched_iff hvs).2 ⟨⟨v, hv, hmissing.anti hkeys⟩, rfl⟩, ?_⟩
  rw [Survey.unmatched_eq, Survey.unmatched_eq]
  intro text htext
  obtain ⟨w, hw, rfl⟩ := List.mem_map.1 (mem_distinct.1 htext)
  obtain ⟨hw, hmissing'⟩ := List.mem_filter.1 hw
  have hbefore : w.Missing keys := (of_decide_eq_true hmissing').anti hkeys
  exact mem_distinct.2 (List.mem_map_of_mem (List.mem_filter.2 ⟨hw, decide_eq_true hbefore⟩))

/-- **The outcome does not depend on the order** of the variables or of the keys, nor on the tie-break. -/
theorem reason_congr (hvars : ∀ v, v ∈ vs ↔ v ∈ ws) (hkeys : ∀ key, key ∈ keys ↔ key ∈ keys')
    (policy policy' : TieBreak) : (Resolution.of vs keys policy).reason = (Resolution.of ws keys' policy').reason := by
  by_cases hvs : vs = []
  · have hws : ws = [] := List.eq_nil_iff_forall_not_mem.2 fun v hv => by
      rw [← hvars v, hvs] at hv
      exact List.not_mem_nil hv
    rw [hvs, hws]
    rfl
  obtain ⟨v₀, hv₀⟩ := List.exists_mem_of_ne_nil vs hvs
  have hws : ws ≠ [] := List.ne_nil_of_mem ((hvars v₀).1 hv₀)
  rcases of_cases hvs keys policy with ⟨⟨v, hv, hmissing⟩, hr⟩ | ⟨hall, hno, hr⟩ | ⟨c, selected, hsel, hr⟩
  · have hmissing' : v.Missing keys' := hmissing.anti fun key => (hkeys key).2
    rw [hr, (eq_unmatched_iff hws).2 ⟨⟨v, (hvars v).1 hv, hmissing'⟩, rfl⟩]
    rfl
  · have hall' : ∀ w ∈ ws, ¬ w.Missing keys' := fun w hw hmissing =>
      hall w ((hvars w).2 hw) (hmissing.anti fun key => (hkeys key).1)
    have hno' : ¬ ∃ c, Shared ws keys' c := fun ⟨c, hc⟩ =>
      hno c (hc.mono (fun v => (hvars v).1) fun key => (hkeys key).2)
    rw [hr, (eq_inconsistent_iff hws).2 ⟨hall', hno'⟩]
  · have hok : (Resolution.of ws keys' policy').isOk = true :=
      isOk_mono (fun v => (hvars v).2) (fun key => (hkeys key).1) (by rw [hr]; rfl)
    obtain ⟨c', selected', hr'⟩ := isOk_iff.1 hok
    rw [hr, hr']
    rfl

end Resolution

/-! ## Values -/

namespace Node

variable {n : Node} {policy : TieBreak}

theorem value_iff_isOk {table : OrderedMap String Datum} {bindings : Option (Bindings Binary64)}
    (h : (Resolution.of n.vars table.keys policy).bindings table = .ok bindings) :
    n.evalWith .binary64 bindings ≠ none ↔ (Resolution.of n.vars table.keys policy).isOk = true := by
  rw [Ne, evalWith_of_resolution .binary64 (Resolution.isSome_of_bindings h) (Resolution.bindings_of_not_ok h),
    Bool.not_eq_false]

theorem value_iff_isOk_numbers {table : OrderedMap String Binary64} :
    n.evalWith .binary64 ((Resolution.of n.vars table.keys policy).numbers table) ≠ none ↔
      (Resolution.of n.vars table.keys policy).isOk = true := by
  rw [Ne, evalWith_of_resolution .binary64 Resolution.isSome_of_numbers (Resolution.numbers_of_not_ok table),
    Bool.not_eq_false]

/-- The parts of a node resolve where the node does. -/
theorem isOk_of_part {part : Expr} (hpart : part ∈ n.parts) {keys : List String} {policy' : TieBreak}
    (h : (Resolution.of n.vars keys policy).isOk = true) : (Resolution.of part.vars keys policy').isOk = true :=
  Resolution.isOk_mono (vars_of_part hpart) (List.Subset.refl keys) h

end Node

/-- **Resolution is monotone.** Adding keys and dropping variables, in any order and under any tie-breaks, keeps an ok
resolution ok; and what is unmatched with all keys is unmatched with fewer, by more globs if anything. So if a node has a
value, all its parts resolve, and the node has a value in every table with at least these keys. -/
theorem resolution_mono :
    (∀ (vs ws : List Variable) (keys keys' : List String) (policy policy' : TieBreak), ws ⊆ vs → keys ⊆ keys' →
      ((Resolution.of vs keys policy).isOk = true →
        (Resolution.of vs keys' policy').isOk = true ∧ (Resolution.of ws keys policy').isOk = true) ∧
      ∀ globs', Resolution.of vs keys' policy' = .unmatched globs' →
        ∃ globs, Resolution.of vs keys policy = .unmatched globs ∧ globs' ⊆ globs) ∧
    (∀ (n : Node) (table table' : OrderedMap String Binary64) (policy policy' : TieBreak), table.keys ⊆ table'.keys →
      n.evalWith .binary64 ((Resolution.of n.vars table.keys policy).numbers table) ≠ none →
        (∀ part ∈ n.parts, (Resolution.of part.vars table.keys policy').isOk = true) ∧
        n.evalWith .binary64 ((Resolution.of n.vars table'.keys policy').numbers table') ≠ none) ∧
    ∀ (n : Node) (table table' : OrderedMap String Datum) (policy policy' : TieBreak)
      (bindings : Option (Bindings Binary64)), table.keys ⊆ table'.keys →
      (Resolution.of n.vars table.keys policy).bindings table = .ok bindings → n.evalWith .binary64 bindings ≠ none →
        (∀ part ∈ n.parts, (Resolution.of part.vars table.keys policy').isOk = true) ∧
        ∀ bindings', (Resolution.of n.vars table'.keys policy').bindings table' = .ok bindings' →
          n.evalWith .binary64 bindings' ≠ none := by
  refine ⟨fun vs ws keys keys' policy policy' hvars hkeys => ⟨fun h => ⟨?_, ?_⟩, fun globs' h => ?_⟩, ?_, ?_⟩
  · exact Resolution.isOk_mono (List.Subset.refl vs) hkeys h
  · exact Resolution.isOk_mono hvars (List.Subset.refl keys) h
  · exact Resolution.unmatched_anti hkeys h
  · intro n table table' policy policy' hkeys hvalue
    have hok := Node.value_iff_isOk_numbers.1 hvalue
    have hok' : (Resolution.of n.vars table'.keys policy').isOk = true :=
      Resolution.isOk_mono (List.Subset.refl n.vars) hkeys hok
    exact ⟨fun part hpart => Node.isOk_of_part hpart hok, Node.value_iff_isOk_numbers.2 hok'⟩
  · intro n table table' policy policy' bindings hkeys hbind hvalue
    have hok := (Node.value_iff_isOk hbind).1 hvalue
    have hok' : (Resolution.of n.vars table'.keys policy').isOk = true :=
      Resolution.isOk_mono (List.Subset.refl n.vars) hkeys hok
    exact ⟨fun part hpart => Node.isOk_of_part hpart hok, fun bindings' hbind' => (Node.value_iff_isOk hbind').2 hok'⟩

/-- Keys are added in front and between, and the group that is selected changes. -/
theorem resolution_mono_more_keys :
    let used : Variable := ⟨⟨"*.used"⟩, by decide⟩
    let size : Variable := ⟨⟨"*.size"⟩, by decide⟩
    let n : Node := .comparison .lt (.var used) (.binary .times (.var size) (.var used))
    let table : OrderedMap String Binary64 := ⟨[("a.used", .ofInt 3), ("a.size", .ofInt 4)]⟩
    let more := ["b.size", "a.size", "b.used", "c.used", "a.used"]
    ([size] ⊆ [used, size] ∧ table.keys ⊆ more) ∧ (Resolution.of [used, size] table.keys .first).isOk = true ∧
      (Resolution.of [used, size] more .last).isOk = true ∧ (Resolution.of [size] table.keys .last).isOk = true ∧
      (∃ globs, Resolution.of [used, ⟨⟨"cpu"⟩, by decide⟩] [] .last = .unmatched globs ∧ ["cpu"] ⊆ globs) ∧
      n.evalWith .binary64 ((Resolution.of n.vars table.keys .first).numbers table) ≠ none ∧
      (Resolution.of (Expr.binary .times (.var size) (.var used)).vars table.keys .last).isOk = true := by
  intro used size n table more
  have hvars : [size] ⊆ [used, size] := by decide
  have hkeys : table.keys ⊆ more := by decide
  have hok : (Resolution.of [used, size] table.keys .first).isOk = true := by decide
  have hvalue : n.evalWith .binary64 ((Resolution.of n.vars table.keys .first).numbers table) ≠ none := by decide +kernel
  have hmono := resolution_mono.1 [used, size] [size] table.keys more .first .last hvars hkeys
  have hunmatched := (resolution_mono.1 [used, ⟨⟨"cpu"⟩, by decide⟩] [] [] more .last .first (by decide) (by decide)).2
  have hparts := (resolution_mono.2.1 n table table .first .last (List.Subset.refl _) hvalue).1
  exact ⟨⟨hvars, hkeys⟩, hok, (hmono.1 hok).1, (hmono.1 hok).2, hunmatched ["cpu"] (by decide), hvalue,
    hparts _ (by decide)⟩

end MetricExpr
