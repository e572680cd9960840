import Mathlib.Data.List.Count
import MetricExpr.Proofs.Resolution.Monotone
/-!
# Which keys matter, and what their order decides

A resolution is settled by its unmatched globs and by the candidate that the tie-break takes (`Resolution.of_congr`).
Keys in another order give the same candidates in some order, each with the same keys, so the order of the keys matters
only through the tie-break (`resolution_of_perm`). Keys without a match whose captures qualify leave the candidates as
they are, in their order, so such keys can be left out (`resolution_of_sublist`).
-/
namespace MetricExpr

instance (vs : List Variable) (keys captures : List String) : Decidable (Shared vs keys captures) :=
  inferInstanceAs (Decidable (∀ v ∈ vs, ∃ key ∈ keys, v.glob.captures? key = some captures))

variable {vs : List Variable} {keys keys' kept : List String} {captures : List String}

namespace Survey

@[simp] theorem candidates_nil (keys : List String) : (Survey.of [] keys).candidates = [] := by
  have hfound : (Survey.of [] keys).found = [] := by simp [Survey.of, findMatches, distinct]
  show qualifying (groupByCaptures (Survey.of [] keys).found) _ = []
  rw [hfound]
  rfl

/-- Candidates are the shared captures, in the order in which the scan first meets them. -/
theorem candidates_eq (hvs : vs ≠ []) (keys : List String) :
    (Survey.of vs keys).candidates = distinct ((sightings vs keys).filter fun captures => Shared vs keys captures) := by
  obtain ⟨p, heq⟩ : ∃ p, (Survey.of vs keys).candidates = (distinct (sightings vs keys)).filter p := by
    rw [← captures_found]
    exact ⟨_, qualifying_groupByCaptures _ _⟩
  rw [← filter_distinct, heq]
  refine List.filter_congr fun captures hmet => ?_
  rw [Bool.eq_iff_iff, decide_eq_true_iff, ← mem_candidates_iff hvs, heq, List.mem_filter, and_iff_right hmet]

theorem unmatched_congr (h : ∀ v ∈ vs, (v.Missing keys ↔ v.Missing keys')) :
    (Survey.of vs keys).unmatched = (Survey.of vs keys').unmatched := by
  rw [unmatched_eq, unmatched_eq, List.filter_congr fun v hv => decide_eq_decide.2 (h v hv)]

end Survey

namespace Resolution

/-- **A resolution is settled by the unmatched globs and by the candidate that is taken.** -/
theorem of_congr {policy policy' : TieBreak}
    (hunmatched : (Survey.of vs keys).unmatched = (Survey.of vs keys').unmatched)
    (hpick : policy.pick (Survey.of vs keys).candidates = policy'.pick (Survey.of vs keys').candidates) :
    Resolution.of vs keys policy = Resolution.of vs keys' policy' := by
  have hvars : (Survey.of vs keys).vars = (Survey.of vs keys').vars := rfl
  unfold Resolution.of Survey.resolution
  rw [hvars, hunmatched, hpick]
  cases htaken : policy'.pick (Survey.of vs keys').candidates with
  | none => rfl
  | some captures =>
    have hmem := TieBreak.mem_of_pick (hpick.trans htaken)
    have hmem' := TieBreak.mem_of_pick htaken
    simp only [Survey.keysOf_eq hmem, Survey.keysOf_eq hmem']

/-- The one candidate is taken under every tie-break. -/
theorem of_single (h : (Survey.of vs keys).candidates = [captures]) (policy : TieBreak) :
    Resolution.of vs keys policy = .ok captures ((Survey.of vs keys).keysOf captures) := by
  have hvs : vs ≠ [] := by
    rintro rfl
    simp at h
  have hshared : Shared vs keys captures := (Survey.mem_candidates_iff hvs).1 (by simp [h])
  have hisOk : (Resolution.of vs keys policy).isOk = true := (isOk_iff_shared hvs).2 ⟨captures, hshared⟩
  obtain ⟨taken, selected, hok⟩ := isOk_iff.1 hisOk
  obtain ⟨hmem, rfl⟩ := candidate_of_ok hvs hok
  obtain rfl : taken = captures := by simpa [h] using hmem
  exact hok

end Resolution

/-! ## Keys in another order -/

theorem Survey.candidates_perm (h : ∀ key, key ∈ keys ↔ key ∈ keys') :
    (Survey.of vs keys).candidates.Perm (Survey.of vs keys').candidates := by
  by_cases hvs : vs = []
  · simp [hvs]
  refine (List.perm_ext_iff_of_nodup (nodup_candidates vs keys) (nodup_candidates vs keys')).2 fun captures => ?_
  rw [mem_candidates_iff hvs, mem_candidates_iff hvs]
  exact ⟨fun hs => hs.mono (List.Subset.refl vs) fun key => (h key).1,
    fun hs => hs.mono (List.Subset.refl vs) fun key => (h key).2⟩

/-- **The order of the keys matters only through the tie-break.** Keys in another order give the same outcome with the
same unmatched globs. The same captures qualify, and each of them selects the same keys. So where one list of captures
qualifies, the resolution is the same in both orders and under both tie-breaks. -/
theorem resolution_of_perm (vs : List Variable) (keys keys' : List String) (h : keys.Perm keys') :
    (∀ policy policy', (Resolution.of vs keys policy).reason = (Resolution.of vs keys' policy').reason ∧
      ∀ globs, Resolution.of vs keys policy = .unmatched globs ↔ Resolution.of vs keys' policy' = .unmatched globs) ∧
    (Survey.of vs keys).candidates.Perm (Survey.of vs keys').candidates ∧
    (∀ captures ∈ (Survey.of vs keys).candidates,
      (Survey.of vs keys).keysOf captures = (Survey.of vs keys').keysOf captures) ∧
    ∀ captures, (Survey.of vs keys).candidates = [captures] → ∀ policy,
      Resolution.of vs keys policy = .ok captures ((Survey.of vs keys).keysOf captures) ∧
        Resolution.of vs keys' policy = .ok captures ((Survey.of vs keys).keysOf captures) := by
  have hkeys : ∀ key, key ∈ keys ↔ key ∈ keys' := fun key => h.mem_iff
  have hperm : (Survey.of vs keys).candidates.Perm (Survey.of vs keys').candidates := Survey.candidates_perm hkeys
  have hselect : ∀ captures ∈ (Survey.of vs keys).candidates,
      (Survey.of vs keys).keysOf captures = (Survey.of vs keys').keysOf captures := fun captures hmem => by
    rw [Survey.keysOf_eq hmem, Survey.keysOf_eq (hperm.mem_iff.1 hmem)]
  refine ⟨fun policy policy' => ⟨Resolution.reason_congr (fun _ => Iff.rfl) hkeys policy policy', fun globs => ?_⟩,
    hperm, hselect, fun captures hone policy => ⟨Resolution.of_single hone policy, ?_⟩⟩
  · by_cases hvs : vs = []
    · subst hvs
      exact ⟨nofun, nofun⟩
    have hmissing : ∀ v : Variable, v.Missing keys ↔ v.Missing keys' := fun v =>
      ⟨fun hv => hv.anti fun key => (hkeys key).2, fun hv => hv.anti fun key => (hkeys key).1⟩
    rw [Resolution.eq_unmatched_iff hvs, Resolution.eq_unmatched_iff hvs,
      Survey.unmatched_congr fun v _ => hmissing v]
    simp only [hmissing]
  · have hone' : (Survey.of vs keys').candidates = [captures] := List.perm_singleton.1 (hone ▸ hperm.symm)
    rw [hselect captures (by simp [hone])]
    exact Resolution.of_single hone' policy

/-- The key "b.a" is met by both variables, with captures that qualify by one of them and not by the other. -/
theorem resolution_of_perm_one_group :
    let a : Variable := ⟨⟨"*.a"⟩, by decide⟩
    let b : Variable := ⟨⟨"b.*"⟩, by decide⟩
    let keys := ["b.a", "c.b", "b.b"]
    let keys' := ["b.b", "b.a", "c.b"]
    keys.Perm keys' ∧ (Survey.of [a, b, a] keys).candidates = [["b"]] ∧
      Resolution.of [a, b, a] keys .first = .ok ["b"] [(a, "b.a"), (b, "b.b")] ∧
      Resolution.of [a, b, a] keys' .last = .ok ["b"] [(a, "b.a"), (b, "b.b")] := by
  intro a b keys keys'
  have hperm : keys.Perm keys' := by decide
  have hone : (Survey.of [a, b, a] keys).candidates = [["b"]] := by decide
  have hresolved := (resolution_of_perm [a, b, a] keys keys' hperm).2.2.2 ["b"] hone
  exact ⟨hperm, hone, (hresolved .first).1.trans (by decide), (hresolved .last).2.trans (by decide)⟩

/-! ## Keys that can be left out -/

/-- Members that a part of a list lacks and that have not the property are not missed among those that have it. -/
theorem filter_eq_of_sublist {α : Type} [DecidableEq α] {p : α → Bool} {xs ys : List α} (h : xs.Sublist ys)
    (hp : ∀ x ∈ ys.diff xs, p x = false) : xs.filter p = ys.filter p := by
  have hperm : (xs ++ ys.diff xs).Perm ys := List.subperm_append_diff_self_of_count_le fun x _ => h.count_le x
  have hnone : (ys.diff xs).filter p = [] := List.filter_eq_nil_iff.2 fun x hx => by simp [hp x hx]
  refine (h.filter p).eq_of_length ?_
  rw [← (hperm.filter p).length_eq, List.filter_append, hnone, List.append_nil]

/-- Of the sightings some captures come from the keys that some variable has such captures from. -/
theorem filter_sightings (vs : List Variable) (p : List String → Bool) (keys : List String) :
    (sightings vs keys).filter p =
      (sightings vs (keys.filter fun key => vs.any fun v => (v.glob.captures? key).any p)).filter p := by
  induction keys with
  | nil => rfl
  | cons key keys ih =>
    have hcons : ∀ rest, sightings vs (key :: rest) =
        ((distinct vs).filterMap fun v => v.glob.captures? key) ++ sightings vs rest := fun rest => List.flatMap_cons
    rw [hcons, List.filter_append, ih, List.filter_cons]
    split
    · rw [hcons, List.filter_append]
    · rename_i hnone
      rw [Bool.not_eq_true, List.any_eq_false] at hnone
      have hblock : ((distinct vs).filterMap fun v => v.glob.captures? key).filter p = [] := by
        refine List.filter_eq_nil_iff.2 fun captures hmet hcaptures => ?_
        obtain ⟨v, hv, hc⟩ := List.mem_filterMap.1 hmet
        exact hnone v (mem_distinct.1 hv) (by simpa [hc] using hcaptures)
      rw [hblock, List.nil_append]

/-- **Keys without a match whose captures qualify leave the candidates as they are**, in their order. -/
theorem Survey.candidates_of_sublist (hsub : kept.Sublist keys)
    (h : ∀ key ∈ keys.diff kept, ∀ v ∈ vs, ∀ captures ∈ (Survey.of vs keys).candidates,
      v.glob.captures? key ≠ some captures) : (Survey.of vs kept).candidates = (Survey.of vs keys).candidates := by
  by_cases hvs : vs = []
  · simp [hvs]
  simp only [mem_candidates_iff hvs] at h
  have hshared : ∀ captures, Shared vs kept captures ↔ Shared vs keys captures := fun captures => by
    refine ⟨fun hs => hs.mono (List.Subset.refl vs) hsub.subset, fun hs v hv => ?_⟩
    obtain ⟨key, hkey, hc⟩ := hs v hv
    -- a key that is left out has no captures that are shared
    by_cases hkept : key ∈ kept
    · exact ⟨key, hkept, hc⟩
    · exact absurd hc (h key (List.mem_diff_of_mem hkey hkept) v hv captures hs)
  simp only [candidates_eq hvs, hshared]
  rw [filter_sightings vs _ kept, filter_sightings vs _ keys, filter_eq_of_sublist hsub]
  intro key hkey
  rw [List.any_eq_false]
  intro v hv hany
  obtain ⟨captures, hc, hs⟩ := (Option.any_eq_true _ _).1 hany
  exact h key hkey v hv captures (of_decide_eq_true hs) hc

/-- **Keys outside the groups that qualify are irrelevant.** A resolution that is ok stays the same when keys are left
out of which no variable has captures that qualify. And any resolution, one that fails too, stays the same when keys are
left out that no variable matches. -/
theorem resolution_of_sublist (vs : List Variable) (keys kept : List String) (hsub : kept.Sublist keys)
    (policy : TieBreak) :
    ((Resolution.of vs keys policy).isOk = true →
      (∀ key ∈ keys.diff kept, ∀ v ∈ vs, ∀ captures ∈ (Survey.of vs keys).candidates,
        v.glob.captures? key ≠ some captures) →
      Resolution.of vs kept policy = Resolution.of vs keys policy) ∧
    ((∀ key ∈ keys.diff kept, ∀ v ∈ vs, v.glob.captures? key = none) →
      Resolution.of vs kept policy = Resolution.of vs keys policy) := by
  constructor
  · intro hok h
    by_cases hvs : vs = []
    · subst hvs
      rfl
    have hcandidates := Survey.candidates_of_sublist hsub h
    obtain ⟨captures, hshared⟩ := (Resolution.isOk_iff_shared hvs).1 hok
    have hshared' : Shared vs kept captures := by
      rwa [← Survey.mem_candidates_iff hvs, hcandidates, Survey.mem_candidates_iff hvs]
    refine Resolution.of_congr ?_ (by rw [hcandidates])
    rw [Survey.unmatched_eq_nil_iff.2 hshared.not_missing, Survey.unmatched_eq_nil_iff.2 hshared'.not_missing]
  · intro h
    have hmissing : ∀ v ∈ vs, (v.Missing kept ↔ v.Missing keys) := by
      refine fun v hv => ⟨fun hv' key hkey => ?_, fun hv' => hv'.anti hsub.subset⟩
      by_cases hkept : key ∈ kept
      · exact hv' key hkept
      · exact h key (List.mem_diff_of_mem hkey hkept) v hv
    have hnone : ∀ key ∈ keys.diff kept, ∀ v ∈ vs, ∀ captures ∈ (Survey.of vs keys).candidates,
        v.glob.captures? key ≠ some captures := fun key hkey v hv captures _ => by simp [h key hkey v hv]
    exact Resolution.of_congr (Survey.unmatched_congr hmissing) (by rw [Survey.candidates_of_sublist hsub hnone])

/-- The key "c.a" is left out, whose group is not complete, and keys that nothing matches. The key "b.a" stays: it is in
a complete group by one variable, and in one that is not complete by the other. -/
theorem resolution_of_sublist_dropped :
    let a : Variable := ⟨⟨"*.a"⟩, by decide⟩
    let b : Variable := ⟨⟨"b.*"⟩, by decide⟩
    let cpu : Variable := ⟨⟨"cpu"⟩, by decide⟩
    let keys := ["c.a", "b.a", "a.c", "b.b"]
    let kept := ["b.a", "b.b"]
    kept.Sublist keys ∧ keys.diff kept = ["c.a", "a.c"] ∧
      Resolution.of [a, b] keys .first = .ok ["b"] [(a, "b.a"), (b, "b.b")] ∧
      Resolution.of [a, b] kept .first = .ok ["b"] [(a, "b.a"), (b, "b.b")] ∧
      ["c.a", "b.a"].Sublist keys ∧ Resolution.of [a, cpu] ["c.a", "b.a"] .last = .unmatched ["cpu"] := by
  intro a b cpu keys kept
  have hsub : kept.Sublist keys := by decide
  have hsub' : ["c.a", "b.a"].Sublist keys := by decide
  have hok : Resolution.of [a, b] keys .first = .ok ["b"] [(a, "b.a"), (b, "b.b")] := by decide
  have hkept := (resolution_of_sublist [a, b] keys kept hsub .first).1 (by decide) (by decide)
  have hfails := (resolution_of_sublist [a, cpu] keys ["c.a", "b.a"] hsub' .last).2 (by decide)
  exact ⟨hsub, by decide, hok, hkept.trans hok, hsub', hfails.trans (by decide)⟩

end MetricExpr
