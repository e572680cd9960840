import MetricExpr.Proofs.Resolution.Soundness
/-!
# What a resolution is

The scan, the groups and the count of their members come to a simple rule (`outcome_iff`). A resolution is unmatched iff
some variable matches no key, inconsistent iff all match but no captures are shared by all, and ok otherwise. The
captures are then those among the shared ones that the scan meets first or last, by where it meets them for the first
time; a group that is completed late keeps its early place.
-/
namespace MetricExpr

/-- No key matches the variable's glob. -/
def Variable.Missing (v : Variable) (keys : List String) : Prop := ∀ key ∈ keys, v.glob.captures? key = none

instance (v : Variable) (keys : List String) : Decidable (v.Missing keys) :=
  inferInstanceAs (Decidable (∀ key ∈ keys, v.glob.captures? key = none))

/-- Captures that every variable has from some key. -/
def Shared (vs : List Variable) (keys : List String) (captures : List String) : Prop :=
  ∀ v ∈ vs, ∃ key ∈ keys, v.glob.captures? key = some captures

/-- The captures that a scan meets: keys in order, and the distinct variables in order for each key. -/
def sightings (vs : List Variable) (keys : List String) : List (List String) :=
  keys.flatMap fun key => (distinct vs).filterMap fun v => v.glob.captures? key

/-- The tie-break would rather take what stands at the first of two places. -/
def TieBreak.Prefers : TieBreak → Nat → Nat → Prop
  | first, i, j => i ≤ j
  | last, i, j => j ≤ i

/-- What a resolution that is ok selects. -/
structure Selects (vs : List Variable) (keys : List String) (policy : TieBreak) (captures : List String)
    (selected : List (Variable × String)) : Prop where
  shared : Shared vs keys captures
  taken : ∀ others, Shared vs keys others →
    policy.Prefers ((sightings vs keys).idxOf captures) ((sightings vs keys).idxOf others)
  vars : selected.map (·.1) = distinct vs
  captured : ∀ p ∈ selected, p.2 ∈ keys ∧ p.1.glob.captures? p.2 = some captures

namespace TieBreak

theorem pick_eq_none_iff {α : Type} (policy : TieBreak) (xs : List α) : policy.pick xs = none ↔ xs = [] := by
  cases policy with
  | first => exact List.head?_eq_none_iff
  | last => exact List.getLast?_eq_none_iff

/-- In a list that stands in the order of some places, the tie-break takes what it prefers. -/
theorem prefers_of_pick {α : Type} {place : α → Nat} {policy : TieBreak} {xs : List α} {x : α}
    (hxs : xs.Pairwise fun y z => place y < place z) (h : policy.pick xs = some x) :
    ∀ y ∈ xs, policy.Prefers (place x) (place y) := by
  intro y hy
  cases policy with
  | first =>
    obtain ⟨rest, rfl⟩ := List.head?_eq_some_iff.1 h
    rcases List.mem_cons.1 hy with rfl | hy
    · exact Nat.le_refl _
    · exact Nat.le_of_lt (List.rel_of_pairwise_cons hxs hy)
  | last =>
    obtain ⟨front, rfl⟩ := List.getLast?_eq_some_iff.1 h
    rcases List.mem_append.1 hy with hy | hy
    · exact Nat.le_of_lt ((List.pairwise_append.1 hxs).2.2 y hy x (List.mem_singleton_self x))
    · rw [List.mem_singleton.1 hy]
      exact Nat.le_refl _

theorem Prefers.antisymm {policy : TieBreak} {i j : Nat} (h : policy.Prefers i j) (h' : policy.Prefers j i) : i = j := by
  cases policy with
  | first => exact Nat.le_antisymm h h'
  | last => exact Nat.le_antisymm h' h

end TieBreak

/-- Variables with one text are one variable, so it does not matter which of the two is listed once. -/
theorem Variable.map_text_distinct (vs : List Variable) : (distinct vs).map (·.text) = distinct (vs.map (·.text)) :=
  map_distinct (fun _ _ => Variable.text_inj) vs

variable {vs : List Variable} {keys : List String} {captures : List String}

theorem mem_sightings (hvs : vs ≠ []) (h : Shared vs keys captures) : captures ∈ sightings vs keys := by
  obtain ⟨v, hv⟩ := List.exists_mem_of_ne_nil vs hvs
  obtain ⟨key, hkey, hc⟩ := h v hv
  exact List.mem_flatMap.2 ⟨key, hkey, List.mem_filterMap.2 ⟨v, mem_distinct.2 hv, hc⟩⟩

namespace Survey

theorem mem_found_iff {m : Match Variable} :
    m ∈ (Survey.of vs keys).found ↔ m.target ∈ vs ∧ m.key ∈ keys ∧ m.target.glob.captures? m.key = some m.captures := by
  refine ⟨mem_found, ?_⟩
  rintro ⟨hv, hkey, hc⟩
  exact mem_findMatches.2 ⟨hkey, m.target.glob, List.mem_map.2 ⟨m.target, mem_distinct.2 hv, rfl⟩, hc⟩

theorem captures_found (vs : List Variable) (keys : List String) :
    (Survey.of vs keys).found.map (·.captures) = sightings vs keys := by
  show (findMatches ((distinct vs).map fun v => (v, v.glob)) keys).map (·.captures) = _
  unfold findMatches sightings
  rw [List.map_flatMap]
  congr 1
  funext key
  rw [List.map_filterMap, List.filterMap_map]
  congr 1
  funext v
  show ((v.glob.captures? key).map _).map _ = _
  rw [Option.map_map]
  exact Option.map_id'

/-- **The group of shared captures is complete**, and a group with as many members as there are variables has all. -/
theorem mem_candidates_iff (hvs : vs ≠ []) : captures ∈ (Survey.of vs keys).candidates ↔ Shared vs keys captures := by
  constructor
  · intro h v hv
    exact ⟨_, captures_fill h hv⟩
  · intro h
    have hmet : captures ∈ (Survey.of vs keys).found.map (·.captures) := by
      rw [captures_found]
      exact mem_sightings hvs h
    have hfound : ∀ m ∈ (Survey.of vs keys).found, m.target ∈ distinct vs := fun m hm => mem_distinct.2 (mem_found hm).1
    refine mem_qualifying.2 ⟨List.mem_map.1 hmet, (length_targets_iff (nodup_distinct vs) hfound).2 fun v hv => ?_⟩
    obtain ⟨key, hkey, hc⟩ := h v (mem_distinct.1 hv)
    exact ⟨⟨v, key, captures⟩, mem_found_iff.2 ⟨mem_distinct.1 hv, hkey, hc⟩, rfl, rfl⟩

/-- Candidates stand in the order in which the scan first meets them. -/
theorem pairwise_candidates (vs : List Variable) (keys : List String) :
    (Survey.of vs keys).candidates.Pairwise fun c d =>
      (sightings vs keys).idxOf c < (sightings vs keys).idxOf d := by
  show (qualifying (groupByCaptures (Survey.of vs keys).found) _).Pairwise _
  rw [qualifying_groupByCaptures, captures_found]
  exact (pairwise_distinct (sightings vs keys)).filter _

theorem nodup_candidates (vs : List Variable) (keys : List String) : (Survey.of vs keys).candidates.Nodup :=
  (pairwise_candidates vs keys).imp fun h he => Nat.ne_of_lt h (congrArg ((sightings vs keys).idxOf ·) he)

/-- **Unmatched are the globs of the variables that match no key**, each once. -/
theorem unmatched_eq (vs : List Variable) (keys : List String) :
    (Survey.of vs keys).unmatched = distinct ((vs.filter fun v => v.Missing keys).map (·.text)) := by
  rw [← Variable.map_text_distinct, ← filter_distinct]
  show ((distinct vs).filter _).map _ = _
  congr 1
  apply List.filter_congr
  intro v hv
  have hany : (Survey.of vs keys).found.any (·.target == v) = true ↔ ¬ v.Missing keys := by
    unfold Variable.Missing
    rw [List.any_eq_true]
    push Not
    constructor
    · rintro ⟨m, hm, he⟩
      obtain ⟨-, hkey, hc⟩ := mem_found hm
      rw [eq_of_beq he] at hc
      exact ⟨m.key, hkey, by rw [hc]; exact Option.some_ne_none _⟩
    · rintro ⟨key, hkey, hc⟩
      obtain ⟨captures, hsome⟩ := Option.ne_none_iff_exists'.1 hc
      exact ⟨⟨v, key, captures⟩, mem_found_iff.2 ⟨mem_distinct.1 hv, hkey, hsome⟩, by simp⟩
  rw [Bool.eq_iff_iff, Bool.not_eq_true', ← Bool.not_eq_true, hany, not_not, decide_eq_true_iff]

theorem unmatched_eq_nil_iff : (Survey.of vs keys).unmatched = [] ↔ ∀ v ∈ vs, ¬ v.Missing keys := by
  rw [unmatched_eq, List.eq_nil_iff_forall_not_mem]
  constructor
  · intro h v hv hmissing
    exact h v.text (mem_distinct.2 (List.mem_map_of_mem (List.mem_filter.2 ⟨hv, decide_eq_true hmissing⟩)))
  · intro h text htext
    obtain ⟨v, hv, rfl⟩ := List.mem_map.1 (mem_distinct.1 htext)
    exact h v (List.mem_filter.1 hv).1 (of_decide_eq_true (List.mem_filter.1 hv).2)

end Survey

theorem Shared.not_missing (h : Shared vs keys captures) : ∀ v ∈ vs, ¬ v.Missing keys := by
  intro v hv hmissing
  obtain ⟨key, hkey, hc⟩ := h v hv
  rw [hmissing key hkey] at hc
  cases hc

namespace Resolution

/-- A resolution that is ok selects what the tie-break prefers. -/
theorem selects_of_pick (hvs : vs ≠ []) {policy : TieBreak}
    (h : policy.pick (Survey.of vs keys).candidates = some captures) :
    Selects vs keys policy captures ((Survey.of vs keys).keysOf captures) := by
  have hcand := TieBreak.mem_of_pick h
  refine ⟨(Survey.mem_candidates_iff hvs).1 hcand, fun others hothers => ?_, ?_, ?_⟩
  · exact TieBreak.prefers_of_pick (Survey.pairwise_candidates vs keys) h others
      ((Survey.mem_candidates_iff hvs).2 hothers)
  · rw [Survey.keysOf_eq hcand, List.map_map]
    exact List.map_id _
  · rw [Survey.keysOf_eq hcand]
    intro p hp
    obtain ⟨v, hv, rfl⟩ := List.mem_map.1 hp
    exact Survey.captures_fill hcand (mem_distinct.1 hv)

/-- The outcomes, each with what the scan shows then. -/
theorem of_cases (hvs : vs ≠ []) (keys : List String) (policy : TieBreak) :
    ((∃ v ∈ vs, v.Missing keys) ∧ Resolution.of vs keys policy = .unmatched (Survey.of vs keys).unmatched) ∨
    ((∀ v ∈ vs, ¬ v.Missing keys) ∧ (∀ captures, ¬ Shared vs keys captures) ∧
      Resolution.of vs keys policy = .inconsistent) ∨
    ∃ captures selected, Selects vs keys policy captures selected ∧
      Resolution.of vs keys policy = .ok captures selected := by
  have hvars : (Survey.of vs keys).vars.isEmpty = false := by
    obtain ⟨v, later, rfl⟩ := List.exists_cons_of_ne_nil hvs
    rfl
  unfold Resolution.of Survey.resolution
  rw [if_neg (by rw [hvars]; exact Bool.false_ne_true)]
  by_cases hall : ∀ v ∈ vs, ¬ v.Missing keys
  · have hnone := Survey.unmatched_eq_nil_iff.2 hall
    rw [if_neg (by rw [hnone]; decide)]
    right
    cases hpick : policy.pick (Survey.of vs keys).candidates with
    | none =>
      have hnil := (TieBreak.pick_eq_none_iff policy _).1 hpick
      refine .inl ⟨hall, fun captures hshared => ?_, rfl⟩
      have hmem := (Survey.mem_candidates_iff hvs).2 hshared
      rw [hnil] at hmem
      exact absurd hmem List.not_mem_nil
    | some captures => exact .inr ⟨captures, _, selects_of_pick hvs hpick, rfl⟩
  · have hsome : (Survey.of vs keys).unmatched ≠ [] := fun h => hall (Survey.unmatched_eq_nil_iff.1 h)
    rw [if_pos (by simpa using hsome)]
    push Not at hall
    exact .inl ⟨hall, rfl⟩

/-- **A resolution is ok iff some captures are shared.** -/
theorem isOk_iff_shared (hvs : vs ≠ []) {policy : TieBreak} :
    (Resolution.of vs keys policy).isOk = true ↔ ∃ captures, Shared vs keys captures := by
  rcases of_cases hvs keys policy with ⟨⟨v, hv, hmissing⟩, hr⟩ | ⟨-, hno, hr⟩ | ⟨captures, selected, hsel, hr⟩
  · rw [hr]
    exact ⟨fun h => Bool.noConfusion h, fun ⟨captures, h⟩ => absurd hmissing (h.not_missing v hv)⟩
  · rw [hr]
    exact ⟨fun h => Bool.noConfusion h, fun ⟨captures, h⟩ => absurd h (hno captures)⟩
  · rw [hr]
    exact ⟨fun _ => ⟨captures, hsel.shared⟩, fun _ => rfl⟩

end Resolution

namespace Selects

variable {policy : TieBreak} {selected : List (Variable × String)}

theorem selected_eq (h : Selects vs keys policy captures selected) :
    selected = (distinct vs).map fun v => (v, v.glob.fill captures) := by
  rw [← h.vars, List.map_map]
  refine (List.map_id selected).symm.trans (List.map_congr_left fun p hp => ?_)
  rw [Function.comp_apply, Glob.fill_captures (h.captured p hp).2]
  rfl

/-- No two selections differ: the place of the first sighting tells captures apart, and captures tell keys apart. -/
theorem unique (hvs : vs ≠ []) {others : List String} {selected' : List (Variable × String)}
    (h : Selects vs keys policy captures selected) (h' : Selects vs keys policy others selected') :
    captures = others ∧ selected = selected' := by
  have hplace := (h.taken others h'.shared).antisymm (h'.taken captures h.shared)
  have hcap : captures = others := (List.idxOf_inj (mem_sightings hvs h.shared)).1 hplace
  subst hcap
  exact ⟨rfl, h.selected_eq.trans h'.selected_eq.symm⟩

/-- The keys are in the order of the globs that a node refers to. -/
theorem globs (h : Selects vs keys policy captures selected) {n : Node} (hn : n.vars = vs) :
    selected.map (·.1.text) = n.globs := by
  rw [Node.globs, hn, ← Variable.map_text_distinct, ← h.vars, List.map_map]
  rfl

end Selects

namespace Resolution

variable {policy : TieBreak}

theorem eq_unmatched_iff (hvs : vs ≠ []) {globs : List String} :
    Resolution.of vs keys policy = .unmatched globs ↔
      (∃ v ∈ vs, v.Missing keys) ∧ globs = (Survey.of vs keys).unmatched := by
  constructor
  · intro h
    rcases of_cases hvs keys policy with ⟨hmissing, hr⟩ | ⟨-, -, hr⟩ | ⟨captures, selected, -, hr⟩
    · rw [hr] at h
      cases h
      exact ⟨hmissing, rfl⟩
    · rw [hr] at h
      cases h
    · rw [hr] at h
      cases h
  · rintro ⟨⟨v, hv, hmissing⟩, rfl⟩
    rcases of_cases hvs keys policy with ⟨-, hr⟩ | ⟨hall, -, -⟩ | ⟨captures, selected, hsel, -⟩
    · exact hr
    · exact absurd hmissing (hall v hv)
    · exact absurd hmissing (hsel.shared.not_missing v hv)

theorem eq_inconsistent_iff (hvs : vs ≠ []) :
    Resolution.of vs keys policy = .inconsistent ↔
      (∀ v ∈ vs, ¬ v.Missing keys) ∧ ¬ ∃ captures, Shared vs keys captures := by
  constructor
  · intro h
    rcases of_cases hvs keys policy with ⟨-, hr⟩ | ⟨hall, hno, -⟩ | ⟨captures, selected, -, hr⟩
    · rw [hr] at h
      cases h
    · exact ⟨hall, fun ⟨captures, hshared⟩ => hno captures hshared⟩
    · rw [hr] at h
      cases h
  · rintro ⟨hall, hno⟩
    rcases of_cases hvs keys policy with ⟨⟨v, hv, hmissing⟩, -⟩ | ⟨-, -, hr⟩ | ⟨captures, selected, hsel, -⟩
    · exact absurd hmissing (hall v hv)
    · exact hr
    · exact absurd ⟨captures, hsel.shared⟩ hno

theorem eq_ok_iff (hvs : vs ≠ []) {selected : List (Variable × String)} :
    Resolution.of vs keys policy = .ok captures selected ↔ Selects vs keys policy captures selected := by
  constructor
  · intro h
    rcases of_cases hvs keys policy with ⟨-, hr⟩ | ⟨-, -, hr⟩ | ⟨taken, selected', hsel, hr⟩
    · rw [hr] at h
      cases h
    · rw [hr] at h
      cases h
    · rw [hr] at h
      cases h
      exact hsel
  · intro h
    rcases of_cases hvs keys policy with ⟨⟨v, hv, hmissing⟩, -⟩ | ⟨-, hno, -⟩ | ⟨taken, selected', hsel, hr⟩
    · exact absurd hmissing (h.shared.not_missing v hv)
    · exact absurd h.shared (hno captures)
    · obtain ⟨rfl, rfl⟩ := h.unique hvs hsel
      exact hr

end Resolution

/-- **What the outcome of a resolution is**, said with the matches of single keys alone. -/
theorem outcome_iff (vs : List Variable) (hvs : vs ≠ []) (keys : List String) (policy : TieBreak) :
    (∀ globs, Resolution.of vs keys policy = .unmatched globs ↔
      (∃ v ∈ vs, v.Missing keys) ∧ globs = distinct ((vs.filter fun v => v.Missing keys).map (·.text))) ∧
    (Resolution.of vs keys policy = .inconsistent ↔
      (∀ v ∈ vs, ¬ v.Missing keys) ∧ ¬ ∃ captures, Shared vs keys captures) ∧
    ((Resolution.of vs keys policy).isOk = true ↔ ∃ captures, Shared vs keys captures) ∧
    (∀ captures selected, Resolution.of vs keys policy = .ok captures selected ↔
      Selects vs keys policy captures selected) ∧
    (∀ captures selected, Resolution.of vs keys policy = .ok captures selected →
      ∀ n : Node, n.vars = vs → selected.map (·.1.text) = n.globs) ∧
    Resolution.choosing vs keys none = .ok (Resolution.of vs keys .last) := by
  refine ⟨fun globs => ?_, Resolution.eq_inconsistent_iff hvs, Resolution.isOk_iff_shared hvs,
    fun captures selected => Resolution.eq_ok_iff hvs, fun captures selected hok n hn => ?_, ?_⟩
  · rw [← Survey.unmatched_eq]
    exact Resolution.eq_unmatched_iff hvs
  · exact ((Resolution.eq_ok_iff hvs).1 hok).globs hn
  · obtain ⟨v, later, rfl⟩ := List.exists_cons_of_ne_nil hvs
    rfl

/-- Three groups qualify. The one that is completed first is met second, and the one that is met first is completed
last. -/
theorem outcome_iff_late_group :
    let used : Variable := ⟨⟨"*.used"⟩, by decide⟩
    let size : Variable := ⟨⟨"*.size"⟩, by decide⟩
    let keys := ["a.used", "b.used", "b.size", "c.size", "c.used", "a.size", "d.used"]
    sightings [used, size] keys = [["a"], ["b"], ["b"], ["c"], ["c"], ["a"], ["d"]] ∧
      Selects [used, size, used] keys .first ["a"] [(used, "a.used"), (size, "a.size")] ∧
      Selects [used, size, used] keys .last ["c"] [(used, "c.used"), (size, "c.size")] ∧
      Resolution.of [used, ⟨⟨"cpu.*"⟩, by decide⟩] keys .last = .unmatched ["cpu.*"] := by
  intro used size keys
  have hvs : [used, size, used] ≠ [] := List.cons_ne_nil _ _
  refine ⟨by decide, ?_, ?_, ?_⟩
  · exact ((outcome_iff [used, size, used] hvs keys .first).2.2.2.1 _ _).1 (by decide)
  · exact ((outcome_iff [used, size, used] hvs keys .last).2.2.2.1 _ _).1 (by decide)
  · exact ((outcome_iff [used, ⟨⟨"cpu.*"⟩, by decide⟩] (List.cons_ne_nil _ _) keys .last).1 _).2 (by decide)

end MetricExpr
