import MetricExpr.Expr.Build
import MetricExpr.Proofs.Resolution.Outcome
import MetricExpr.Resolution.PathMatcher
import Mathlib.Data.List.SplitBy
/-!
# A path matcher lists what a resolution selects from

A path matcher and a resolution scan the same keys for the same globs, the one with globs as targets and the other with
variables. Renaming targets one to one changes neither which groups qualify nor what their members are
(`qualifying_rename`, `get?_members_rename`). So the matches of a path matcher fall into blocks, one for each candidate
of the resolution, and the tie-break takes a block (`matcher_agrees`).
-/
namespace MetricExpr

/-! ## Renamed targets -/

section Rename

variable {τ σ : Type} {f : τ → σ}

/-- The match for another target. -/
def Match.rename (f : τ → σ) (m : Match τ) : Match σ := ⟨f m.target, m.key, m.captures⟩

theorem findMatches_rename (f : τ → σ) (targets : List (τ × Glob)) (keys : List String) :
    findMatches (targets.map fun (t, g) => (f t, g)) keys = (findMatches targets keys).map (.rename f) := by
  unfold findMatches
  rw [List.map_flatMap]
  congr 1
  funext key
  rw [List.filterMap_map, List.map_filterMap]
  congr 1
  funext (t, g)
  show Option.map _ _ = Option.map _ (Option.map _ _)
  rw [Option.map_map]
  rfl

theorem membersOf_rename (f : τ → σ) (found : List (Match τ)) (captures : List String) :
    membersOf (found.map (.rename f)) captures =
      (membersOf found captures).map fun (t, m) => (f t, m.rename f) := by
  unfold membersOf
  rw [List.filter_map, List.map_map, List.map_map]
  rfl

variable [BEq τ] [LawfulBEq τ] [BEq σ] [LawfulBEq σ]

theorem lookup_rename {α β : Type} {g : α → β} (hf : Function.Injective f) (t : τ) :
    ∀ entries : List (τ × α), (entries.map fun (t, x) => (f t, g x)).lookup (f t) = (entries.lookup t).map g
  | [] => rfl
  | (t', x) :: rest => by
    rw [List.map_cons, List.lookup_cons, List.lookup_cons, lookup_rename hf t rest]
    by_cases h : t = t'
    · subst h
      rw [beq_self_eq_true, beq_self_eq_true]
      rfl
    · rw [beq_false_of_ne h, beq_false_of_ne (hf.ne h)]

/-- **Renaming targets keeps the captures that qualify**, in order. -/
theorem qualifying_rename (hf : Function.Injective f) (found : List (Match τ)) (count : Nat) :
    qualifying (groupByCaptures (found.map (.rename f))) count = qualifying (groupByCaptures found) count := by
  rw [qualifying_groupByCaptures, qualifying_groupByCaptures, List.map_map]
  congr 1
  funext captures
  have htargets : (membersOf (found.map (.rename f)) captures).map (·.1) =
      ((membersOf found captures).map (·.1)).map f := by
    rw [membersOf_rename, List.map_map, List.map_map]
    rfl
  rw [htargets, ← map_distinct fun _ _ h => hf h, List.length_map]

/-- **Renaming targets renames the members of each group.** -/
theorem get?_members_rename (hf : Function.Injective f) (found : List (Match τ)) (captures : List String) (t : τ) :
    ((groupByCaptures (found.map (.rename f))).members captures).get? (f t) =
      (((groupByCaptures found).members captures).get? t).map (.rename f) := by
  rw [members_groupByCaptures, members_groupByCaptures, OrderedMap.get?_ofList, OrderedMap.get?_ofList,
    membersOf_rename, ← List.map_reverse]
  exact lookup_rename hf t _

end Rename

/-! ## Blocks -/

namespace PathMatcher

/-- Matches cut where the captures change. -/
def blocks (found : List (Match Glob)) : List (List (Match Glob)) :=
  found.splitBy fun m m' => m.captures == m'.captures

/-- The matches of a selection, one for each variable. -/
def blockOf (captures : List String) (selected : List (Variable × String)) : List (Match Glob) :=
  selected.map fun (v, key) => ⟨v.glob, key, captures⟩

variable {m : PathMatcher} {vs : List Variable} {paths : List String}

theorem glob_injective : Function.Injective Variable.glob := fun _ _ h => Variable.text_inj (congrArg Glob.text h)

theorem distinct_globs (vs : List Variable) : distinct (vs.map (·.glob)) = (distinct vs).map (·.glob) :=
  (map_distinct (fun _ _ h => glob_injective h) vs).symm

/-- The matcher's matches are the ones of the resolution's scan, with globs as targets. -/
theorem findMatches_targets (hm : m.globs = distinct (vs.map (·.glob))) (paths : List String) :
    findMatches m.targets paths = (Survey.of vs paths).found.map (.rename Variable.glob) := by
  refine Eq.trans (congrArg (findMatches · paths) ?_) (findMatches_rename Variable.glob _ paths)
  rw [targets, hm, distinct_globs, List.map_map, List.map_map]
  rfl

/-- **A path matcher lists the selection of every candidate**, one after another. -/
theorem matchAll_eq (hm : m.globs = distinct (vs.map (·.glob))) (paths : List String) :
    m.matchAll paths =
      (Survey.of vs paths).candidates.flatMap fun captures => blockOf captures ((Survey.of vs paths).keysOf captures) := by
  have hcount : m.globs.length = (Survey.of vs paths).vars.length := by
    rw [hm, distinct_globs, List.length_map]
    rfl
  show (qualifying (groupByCaptures (findMatches m.targets paths)) m.globs.length).flatMap (fun captures =>
    m.globs.filterMap ((groupByCaptures (findMatches m.targets paths)).members captures).get?) = _
  rw [findMatches_targets hm, qualifying_rename glob_injective, hcount]
  show (Survey.of vs paths).candidates.flatMap _ = _
  congr 1
  funext captures
  rw [hm, distinct_globs, List.filterMap_map, blockOf, Survey.keysOf, List.map_filterMap]
  apply List.filterMap_congr
  intro v _
  rw [Function.comp_apply, get?_members_rename glob_injective, Option.map_map]
  show _ = Option.map _ (((groupByCaptures (Survey.of vs paths).found).members captures).get? v)
  cases hget : ((groupByCaptures (Survey.of vs paths).found).members captures).get? v with
  | none => rfl
  | some found =>
    obtain ⟨-, rfl, rfl⟩ := get?_members hget
    rfl

theorem captures_of_mem_blockOf {captures : List String} {selected : List (Variable × String)} {found : Match Glob}
    (h : found ∈ blockOf captures selected) : found.captures = captures := by
  obtain ⟨p, -, rfl⟩ := List.mem_map.1 h
  rfl

theorem blockOf_ne_nil (hvs : vs ≠ []) {captures : List String} (h : captures ∈ (Survey.of vs paths).candidates) :
    blockOf captures ((Survey.of vs paths).keysOf captures) ≠ [] := by
  obtain ⟨v, later, rfl⟩ := List.exists_cons_of_ne_nil hvs
  rw [Survey.keysOf_eq h]
  exact List.cons_ne_nil _ _

/-- **The blocks of all matches are the selections of the candidates**: captures change from one to the next. -/
theorem blocks_matchAll (hvs : vs ≠ []) (hm : m.globs = distinct (vs.map (·.glob))) (paths : List String) :
    blocks (m.matchAll paths) =
      (Survey.of vs paths).candidates.map fun captures => blockOf captures ((Survey.of vs paths).keysOf captures) := by
  rw [matchAll_eq hm, List.flatMap_def]
  refine List.splitBy_flatten ?_ ?_ ?_
  · intro hnil
    obtain ⟨captures, hc, hnil⟩ := List.mem_map.1 hnil
    exact blockOf_ne_nil hvs hc hnil
  · intro block hblock
    obtain ⟨captures, -, rfl⟩ := List.mem_map.1 hblock
    refine List.Pairwise.isChain (List.pairwise_of_forall_mem_list fun a ha b hb => ?_)
    rw [captures_of_mem_blockOf ha, captures_of_mem_blockOf hb, beq_self_eq_true]
  · rw [List.isChain_map]
    refine List.Pairwise.isChain ((Survey.nodup_candidates vs paths).imp_of_mem fun {c d} hc hd hne => ?_)
    refine ⟨blockOf_ne_nil hvs hc, blockOf_ne_nil hvs hd, ?_⟩
    rw [captures_of_mem_blockOf (List.getLast_mem _), captures_of_mem_blockOf (List.head_mem _)]
    exact beq_false_of_ne hne

theorem blockOf_inj {captures captures' : List String} {selected selected' : List (Variable × String)}
    (hne : selected ≠ []) (h : blockOf captures selected = blockOf captures' selected') :
    captures = captures' ∧ selected = selected' := by
  obtain ⟨p, rest, rfl⟩ := List.exists_cons_of_ne_nil hne
  have hc : captures = captures' := by
    have hmem : (⟨p.1.glob, p.2, captures⟩ : Match Glob) ∈ blockOf captures' selected' := h ▸ List.mem_cons_self
    exact captures_of_mem_blockOf hmem
  subst hc
  refine ⟨rfl, List.map_injective_iff.2 (fun p q hpq => ?_) h⟩
  rw [Match.mk.injEq] at hpq
  exact Prod.ext (glob_injective hpq.1) hpq.2.1

end PathMatcher

theorem TieBreak.pick_map {α β : Type} (policy : TieBreak) (f : α → β) (xs : List α) :
    policy.pick (xs.map f) = (policy.pick xs).map f := by
  cases policy with
  | first => exact List.head?_map
  | last => exact List.getLast?_map

namespace Resolution

variable {m : PathMatcher} {vs : List Variable} {paths : List String} {policy : TieBreak}

/-- **A resolution is ok iff the path matcher finds something.** -/
theorem isOk_iff_matchAll (hvs : vs ≠ []) (hm : m.globs = distinct (vs.map (·.glob))) :
    (Resolution.of vs paths policy).isOk = true ↔ m.matchAll paths ≠ [] := by
  rw [isOk_iff_shared hvs, PathMatcher.matchAll_eq hm, Ne, List.flatMap_eq_nil_iff]
  push Not
  refine exists_congr fun captures => ⟨fun h => ?_, fun h => (Survey.mem_candidates_iff hvs).1 h.1⟩
  have hcand := (Survey.mem_candidates_iff hvs).2 h
  exact ⟨hcand, PathMatcher.blockOf_ne_nil hvs hcand⟩

/-- A resolution that is ok takes one of the candidates. -/
theorem eq_ok_iff_pick (hvs : vs ≠ []) {captures : List String} {selected : List (Variable × String)} :
    Resolution.of vs paths policy = .ok captures selected ↔
      policy.pick (Survey.of vs paths).candidates = some captures ∧ selected = (Survey.of vs paths).keysOf captures := by
  constructor
  · intro h
    obtain ⟨hcand, rfl⟩ := candidate_of_ok hvs h
    cases hpick : policy.pick (Survey.of vs paths).candidates with
    | none =>
      rw [(TieBreak.pick_eq_none_iff policy _).1 hpick] at hcand
      cases hcand
    | some picked =>
      rw [(eq_ok_iff hvs).2 (selects_of_pick hvs hpick)] at h
      cases h
      exact ⟨rfl, rfl⟩
  · rintro ⟨hpick, rfl⟩
    exact (eq_ok_iff hvs).2 (selects_of_pick hvs hpick)

/-- **A resolution selects the block that the tie-break takes.** -/
theorem eq_ok_iff_block (hvs : vs ≠ []) (hm : m.globs = distinct (vs.map (·.glob))) {captures : List String}
    {selected : List (Variable × String)} :
    Resolution.of vs paths policy = .ok captures selected ↔
      policy.pick (PathMatcher.blocks (m.matchAll paths)) = some (PathMatcher.blockOf captures selected) := by
  rw [eq_ok_iff_pick hvs, PathMatcher.blocks_matchAll hvs hm, TieBreak.pick_map, Option.map_eq_some_iff]
  constructor
  · rintro ⟨hpick, rfl⟩
    exact ⟨captures, hpick, rfl⟩
  · rintro ⟨picked, hpick, hblock⟩
    have hne : (Survey.of vs paths).keysOf picked ≠ [] := by
      intro hnil
      refine PathMatcher.blockOf_ne_nil hvs (TieBreak.mem_of_pick hpick) ?_
      rw [hnil]
      rfl
    obtain ⟨rfl, rfl⟩ := PathMatcher.blockOf_inj hne hblock
    exact ⟨hpick, rfl⟩

end Resolution

/-! ## Texts -/

/-- Texts with something between their quotes are variables, in order. -/
theorem Variable.mapM_ofText : ∀ {texts : List String}, (∀ s ∈ texts, (Glob.ofText s).text ≠ "") →
    ∃ vs, texts.mapM Variable.ofText = .ok vs ∧ vs.map (·.glob) = texts.map Glob.ofText
  | [], _ => ⟨[], rfl, rfl⟩
  | s :: texts, h => by
    rw [List.forall_mem_cons] at h
    obtain ⟨vs, hvs, hglobs⟩ := Variable.mapM_ofText h.2
    have hv : Variable.ofText s = .ok ⟨Glob.ofText s, h.1⟩ := by
      rw [Variable.ofText, Variable.of?, dif_pos h.1]
      rfl
    refine ⟨⟨Glob.ofText s, h.1⟩ :: vs, ?_, ?_⟩
    · rw [List.mapM_cons, hv, hvs]
      rfl
    · rw [List.map_cons, List.map_cons, hglobs]

/-- **The matcher and the resolution of some glob texts agree.** The texts, which may repeat and may be quoted, are
variables and a matcher of the same distinct globs. The resolution is ok iff the matcher finds something. The matches
fall into blocks, each with one match of every glob as declared and with captures of its own, and the resolution selects
the block that the tie-break takes: the first one or the last one. -/
theorem matcher_agrees (texts : List String) (htexts : texts ≠ []) (hglobs : ∀ s ∈ texts, (Glob.ofText s).text ≠ "") :
    ∃ vs m, texts.mapM Variable.ofText = .ok vs ∧ PathMatcher.ofTexts? texts = some m ∧
      m.globs = distinct (texts.map Glob.ofText) ∧ ∀ paths : List String,
        (∀ policy, (Resolution.of vs paths policy).isOk = true ↔ m.matchAll paths ≠ []) ∧
        (∀ policy captures selected, Resolution.of vs paths policy = .ok captures selected ↔
          policy.pick (PathMatcher.blocks (m.matchAll paths)) = some (PathMatcher.blockOf captures selected)) ∧
        ∀ block ∈ PathMatcher.blocks (m.matchAll paths), ∃ captures,
          block.map (fun found => (found.target, found.captures)) = m.globs.map fun g => (g, captures) := by
  obtain ⟨vs, hvs, hmap⟩ := Variable.mapM_ofText hglobs
  have hne : vs ≠ [] := by
    rintro rfl
    exact htexts (List.map_eq_nil_iff.1 hmap.symm)
  refine ⟨vs, ⟨distinct (texts.map Glob.ofText)⟩, hvs, ?_, rfl,
    fun paths => ⟨fun policy => ?_, fun policy captures selected => ?_, ?_⟩⟩
  · rw [PathMatcher.ofTexts?, if_neg (by simpa using htexts)]
  · exact Resolution.isOk_iff_matchAll hne (by rw [hmap])
  · exact Resolution.eq_ok_iff_block hne (by rw [hmap])
  · intro block hblock
    rw [PathMatcher.blocks_matchAll hne (by rw [hmap])] at hblock
    obtain ⟨captures, hc, rfl⟩ := List.mem_map.1 hblock
    refine ⟨captures, ?_⟩
    rw [Survey.keysOf_eq hc, PathMatcher.blockOf, List.map_map, List.map_map, ← hmap, PathMatcher.distinct_globs,
      List.map_map]
    rfl

/-- One glob is given twice, once in quotes. The path `a.used` comes again after the block of `a` has been opened. -/
theorem matcher_agrees_quoted :
    let texts := ["\"*.used\"", "*.size", "*.used"]
    let paths := ["a.used", "b.used", "b.size", "c.size", "a.size", "a.used"]
    (texts ≠ [] ∧ ∀ s ∈ texts, (Glob.ofText s).text ≠ "") ∧
      ∃ vs m, texts.mapM Variable.ofText = .ok vs ∧ PathMatcher.ofTexts? texts = some m ∧
        (Resolution.of vs paths .first).isOk = true ∧
        (∃ selected, Resolution.of vs paths .first = .ok ["a"] selected ∧ selected.map (·.2) = ["a.used", "a.size"]) ∧
        ∃ selected, Resolution.of vs paths .last = .ok ["b"] selected ∧ selected.map (·.2) = ["b.used", "b.size"] := by
  intro texts paths
  have htexts : texts ≠ [] := List.cons_ne_nil _ _
  have hglobs : ∀ s ∈ texts, (Glob.ofText s).text ≠ "" := by decide
  obtain ⟨vs, m, hvs, hm, hdistinct, hpaths⟩ := matcher_agrees texts htexts hglobs
  have hm' : m = ⟨[⟨"*.used"⟩, ⟨"*.size"⟩]⟩ := by
    obtain ⟨globs⟩ := m
    exact congrArg PathMatcher.mk (hdistinct.trans (by decide))
  obtain ⟨hok, hselect, -⟩ := hpaths paths
  let used : Variable := ⟨⟨"*.used"⟩, by decide⟩
  let size : Variable := ⟨⟨"*.size"⟩, by decide⟩
  refine ⟨⟨htexts, hglobs⟩, vs, m, hvs, hm, (hok .first).2 ?_, ⟨[(used, "a.used"), (size, "a.size")], ?_, rfl⟩,
    [(used, "b.used"), (size, "b.size")], ?_, rfl⟩
  · rw [hm']
    decide
  · exact (hselect .first _ _).2 (by rw [hm']; decide)
  · exact (hselect .last _ _).2 (by rw [hm']; decide)

end MetricExpr
