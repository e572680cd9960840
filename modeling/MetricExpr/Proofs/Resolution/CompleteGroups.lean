import MetricExpr.Proofs.Glob.Filling
import MetricExpr.Proofs.Resolution.Groups
import MetricExpr.Resolution.PathMatcher
import Mathlib.Data.List.Nodup
/-!
# A path matcher lists the complete groups

A group is complete if every glob has a match in it. Since a glob and captures are matched by one path only, a complete
group is one match for each glob (`matchAll_eq_blocks`), and since a glob and a path have one list of captures, no pair
of them is listed twice (`matchAll_groups`). Duplicate globs count once, so the number of members tells whether a group
is complete.
-/
namespace MetricExpr

namespace PathMatcher

variable {m : PathMatcher} {paths : List String} {captures : List String}

/-- The captures that a scan meets: paths in order, and globs as declared for each path. -/
def appearances (m : PathMatcher) (paths : List String) : List (List String) :=
  paths.flatMap fun path => m.globs.filterMap (·.captures? path)

/-- Every glob matches some path with these captures. -/
def Complete (m : PathMatcher) (paths : List String) (captures : List String) : Prop :=
  ∀ g ∈ m.globs, ∃ path ∈ paths, g.captures? path = some captures

instance (m : PathMatcher) (paths captures : List String) : Decidable (m.Complete paths captures) :=
  inferInstanceAs (Decidable (∀ g ∈ m.globs, ∃ path ∈ paths, g.captures? path = some captures))

/-- The captures of the complete groups, each once, by first appearance. -/
def completeCaptures (m : PathMatcher) (paths : List String) : List (List String) :=
  (distinct (m.appearances paths)).filter fun captures => m.Complete paths captures

/-- One match for each glob as declared: the path that the glob becomes with these captures. -/
def block (m : PathMatcher) (captures : List String) : List (Match Glob) :=
  m.globs.map fun g => ⟨g, g.fill captures, captures⟩

theorem mem_found {found : Match Glob} :
    found ∈ findMatches m.targets paths ↔
      found.target ∈ m.globs ∧ found.key ∈ paths ∧ found.target.captures? found.key = some found.captures := by
  rw [mem_findMatches]
  constructor
  · rintro ⟨hpath, g, hg, hc⟩
    obtain ⟨g', hg', he⟩ := List.mem_map.1 hg
    obtain ⟨rfl, rfl⟩ := Prod.mk.inj he
    exact ⟨hg', hpath, hc⟩
  · rintro ⟨hg, hpath, hc⟩
    exact ⟨hpath, _, List.mem_map_of_mem hg, hc⟩

theorem captures_found (m : PathMatcher) (paths : List String) :
    (findMatches m.targets paths).map (·.captures) = m.appearances paths := by
  unfold findMatches appearances targets
  simp [List.map_flatMap, List.map_filterMap, List.filterMap_map, Function.comp_def]

/-- The groups with as many members as there are globs are the complete ones. -/
theorem qualifying_eq (hm : m.globs.Nodup) (paths : List String) :
    qualifying (groupByCaptures (findMatches m.targets paths)) m.globs.length = m.completeCaptures paths := by
  rw [qualifying_groupByCaptures, captures_found]
  refine List.filter_congr fun captures _ => ?_
  rw [Bool.eq_iff_iff, beq_iff_eq, decide_eq_true_iff, length_targets_iff hm fun found hf => (mem_found.1 hf).1]
  constructor
  · intro h g hg
    obtain ⟨found, hf, rfl, rfl⟩ := h g hg
    exact ⟨found.key, (mem_found.1 hf).2⟩
  · intro h g hg
    obtain ⟨path, hpath, hc⟩ := h g hg
    exact ⟨⟨g, path, captures⟩, mem_found.2 ⟨hg, hpath, hc⟩, rfl, rfl⟩

theorem Complete.fill (h : m.Complete paths captures) {g : Glob} (hg : g ∈ m.globs) :
    g.fill captures ∈ paths ∧ g.captures? (g.fill captures) = some captures := by
  obtain ⟨path, hpath, hc⟩ := h g hg
  rw [Glob.fill_captures hc]
  exact ⟨hpath, hc⟩

theorem mem_completeCaptures (hm : m.globs ≠ []) :
    captures ∈ m.completeCaptures paths ↔ m.Complete paths captures := by
  simp only [completeCaptures, List.mem_filter, mem_distinct, decide_eq_true_eq, and_iff_right_iff_imp]
  intro h
  obtain ⟨g, hg⟩ := List.exists_mem_of_ne_nil _ hm
  obtain ⟨path, hpath, hc⟩ := h g hg
  exact List.mem_flatMap.2 ⟨path, hpath, List.mem_filterMap.2 ⟨g, hg, hc⟩⟩

/-- In a complete group every glob has a member, and no other path than the filled glob. -/
theorem get?_members_of_complete (h : m.Complete paths captures) {g : Glob} (hg : g ∈ m.globs) :
    ((groupByCaptures (findMatches m.targets paths)).members captures).get? g =
      some ⟨g, g.fill captures, captures⟩ := by
  obtain ⟨hpath, hc⟩ := h.fill hg
  obtain ⟨found, hfound⟩ := exists_get?_members_iff.2
    ⟨⟨g, g.fill captures, captures⟩, mem_found.2 ⟨hg, hpath, hc⟩, rfl, rfl⟩
  obtain ⟨hf, rfl, rfl⟩ := get?_members hfound
  rw [hfound, Glob.fill_captures (mem_found.1 hf).2.2]

/-- **All matches are the blocks of the complete groups**, one behind the other. -/
theorem matchAll_eq_blocks (hm : m.globs.Nodup) (paths : List String) :
    m.matchAll paths = (m.completeCaptures paths).flatMap m.block := by
  show (qualifying (groupByCaptures (findMatches m.targets paths)) m.globs.length).flatMap (fun captures =>
    m.globs.filterMap ((groupByCaptures (findMatches m.targets paths)).members captures).get?) = _
  rw [qualifying_eq hm]
  refine List.flatMap_congr fun captures hc => ?_
  have hcomplete : m.Complete paths captures := by simpa using (List.mem_filter.1 hc).2
  rw [block, ← List.filterMap_eq_map]
  exact List.filterMap_congr fun g hg => get?_members_of_complete hcomplete hg

/-- The globs and paths that are listed. -/
theorem mem_pairs (hm : m.globs.Nodup) (hne : m.globs ≠ []) {g : Glob} {path : String} :
    (g, path) ∈ (m.matchAll paths).map (fun found => (found.target, found.key)) ↔
      g ∈ m.globs ∧ ∃ captures, g.captures? path = some captures ∧ m.Complete paths captures := by
  rw [matchAll_eq_blocks hm]
  simp only [block, List.map_flatMap, List.map_map, List.mem_flatMap, List.mem_map, mem_completeCaptures hne,
    Function.comp_apply, Prod.mk.injEq]
  constructor
  · rintro ⟨captures, hc, g, hg, rfl, rfl⟩
    exact ⟨hg, captures, (hc.fill hg).2, hc⟩
  · rintro ⟨hg, captures, hc, hcomplete⟩
    exact ⟨captures, hcomplete, g, hg, rfl, Glob.fill_captures hc⟩

/-- No glob is listed twice with one path: in one block the globs differ, and in two blocks the captures. -/
theorem nodup_pairs (hm : m.globs.Nodup) (paths : List String) :
    ((m.matchAll paths).map fun found => (found.target, found.key)).Nodup := by
  rw [matchAll_eq_blocks hm, List.map_flatMap, List.nodup_flatMap]
  constructor
  · intro captures _
    refine List.Nodup.of_map Prod.fst ?_
    simpa [block, Function.comp_def] using hm
  · refine ((nodup_distinct _).filter _).imp_of_mem fun {c d} hc hd hne => List.disjoint_left.2 ?_
    rintro ⟨g, path⟩ hleft hright
    simp only [block, List.map_map, List.mem_map, Function.comp_apply, Prod.mk.injEq] at hleft hright
    obtain ⟨_, hg, rfl, rfl⟩ := hleft
    obtain ⟨_, _, rfl, hpath⟩ := hright
    have hc : m.Complete paths c := by simpa using (List.mem_filter.1 hc).2
    have hd : m.Complete paths d := by simpa using (List.mem_filter.1 hd).2
    have hcaptures := (hc.fill hg).2
    rw [← hpath, (hd.fill hg).2] at hcaptures
    exact hne (Option.some.inj hcaptures).symm

end PathMatcher

/-- **A path matcher lists every complete group and nothing else.** The matches of some glob texts, which may repeat and
may be quoted, are one block for each complete group, by first appearance. A block has, for each distinct glob as
declared, the one path that it matches with the captures of the group. A glob and a path are listed iff their captures
are those of a complete group, and then once, even when paths repeat. -/
theorem matchAll_groups (texts : List String) (htexts : texts ≠ []) :
    ∃ m, PathMatcher.ofTexts? texts = some m ∧ m.globs = distinct (texts.map Glob.ofText) ∧ ∀ paths,
      m.matchAll paths = (m.completeCaptures paths).flatMap m.block ∧
      (∀ captures ∈ m.completeCaptures paths, ∀ g ∈ m.globs,
        g.fill captures ∈ paths ∧ ∀ path, g.captures? path = some captures ↔ path = g.fill captures) ∧
      ((m.matchAll paths).map fun found => (found.target, found.key)).Nodup ∧
      ∀ g path, (g, path) ∈ (m.matchAll paths).map (fun found => (found.target, found.key)) ↔
        g ∈ m.globs ∧ path ∈ paths ∧ ∃ captures, g.captures? path = some captures ∧ m.Complete paths captures := by
  let m : PathMatcher := ⟨distinct (texts.map Glob.ofText)⟩
  have hm : m.globs.Nodup := nodup_distinct _
  have hne : m.globs ≠ [] := by
    obtain ⟨s, later, rfl⟩ := List.exists_cons_of_ne_nil htexts
    exact List.cons_ne_nil _ _
  refine ⟨m, if_neg (by simpa using htexts), rfl, fun paths => ⟨PathMatcher.matchAll_eq_blocks hm paths,
    fun captures hc g hg => ?_, PathMatcher.nodup_pairs hm paths, fun g path => ?_⟩⟩
  · have hfill := ((PathMatcher.mem_completeCaptures hne).1 hc).fill hg
    exact ⟨hfill.1, fun path => ⟨fun h => (Glob.fill_captures h).symm, fun h => h ▸ hfill.2⟩⟩
  · rw [PathMatcher.mem_pairs hm hne]
    refine and_congr_right fun hg => ⟨?_, And.right⟩
    rintro ⟨captures, hc, hcomplete⟩
    refine ⟨?_, captures, hc, hcomplete⟩
    rw [← Glob.fill_captures hc]
    exact (hcomplete.fill hg).1

/-- One glob is given twice, once in quotes. The group of `a` appears first and is complete last, the one of `c` is not
complete, and two paths repeat. -/
theorem matchAll_groups_quoted :
    let texts := ["\"*.used\"", "*.size", "*.used"]
    let paths := ["a.used", "b.used", "b.size", "b.used", "c.size", "a.size", "a.used"]
    let used : Glob := ⟨"*.used"⟩
    let size : Glob := ⟨"*.size"⟩
    texts ≠ [] ∧ ∃ m, PathMatcher.ofTexts? texts = some m ∧ m.globs = [used, size] ∧
      m.matchAll paths = [⟨used, "a.used", ["a"]⟩, ⟨size, "a.size", ["a"]⟩, ⟨used, "b.used", ["b"]⟩,
        ⟨size, "b.size", ["b"]⟩] ∧
      (size, "c.size") ∉ (m.matchAll paths).map fun found => (found.target, found.key) := by
  intro texts paths used size
  have htexts : texts ≠ [] := List.cons_ne_nil _ _
  obtain ⟨m, hm, hglobs, hpaths⟩ := matchAll_groups texts htexts
  have hglobs' : m.globs = [used, size] := hglobs.trans (by decide)
  obtain rfl : m = ⟨[used, size]⟩ := congrArg PathMatcher.mk hglobs'
  obtain ⟨hblocks, -, -, hpairs⟩ := hpaths paths
  refine ⟨htexts, _, hm, rfl, hblocks.trans (by decide), fun hlisted => ?_⟩
  obtain ⟨-, -, captures, hc, hcomplete⟩ := (hpairs size "c.size").1 hlisted
  obtain rfl : captures = ["c"] := Option.some.inj (hc.symm.trans (by decide))
  exact absurd hcomplete (by decide)

end MetricExpr
