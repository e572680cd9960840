import MetricExpr.Proofs.OrderedMap
import MetricExpr.Resolution.Grouping
/-!
# What grouping keeps

Groups stand in the order in which their captures first appear (`keys_groupByCaptures`). The members of a group are the
matches with its captures, inserted in order (`members_groupByCaptures`), so a target keeps its last match
(`get?_members_eq`). A group qualifies iff its captures occur with the wanted number of distinct targets
(`mem_qualifying`). All of it together says what grouping does to any list of matches (`groupByCaptures_keeps_last`).
-/
namespace MetricExpr

variable {τ : Type}

theorem mem_findMatches {targets : List (τ × Glob)} {keys : List String} {m : Match τ} :
    m ∈ findMatches targets keys ↔
      m.key ∈ keys ∧ ∃ g, (m.target, g) ∈ targets ∧ g.captures? m.key = some m.captures := by
  unfold findMatches
  simp only [List.mem_flatMap, List.mem_filterMap, Prod.exists, Option.map_eq_some_iff]
  constructor
  · rintro ⟨key, hkey, t, g, ht, captures, hc, rfl⟩
    exact ⟨hkey, g, ht, hc⟩
  · rintro ⟨hkey, g, ht, hc⟩
    exact ⟨m.key, hkey, m.target, g, ht, m.captures, hc, rfl⟩

variable [BEq τ]

/-- The matches of a list that have these captures, with their targets. -/
def membersOf (found : List (Match τ)) (captures : List String) : List (τ × Match τ) :=
  (found.filter fun m => m.captures == captures).map fun m => (m.target, m)

omit [BEq τ] in
theorem mem_membersOf {found : List (Match τ)} {captures : List String} {t : τ} {m : Match τ} :
    (t, m) ∈ membersOf found captures ↔ m ∈ found ∧ m.captures = captures ∧ m.target = t := by
  unfold membersOf
  rw [List.mem_map]
  constructor
  · rintro ⟨m', hm, he⟩
    cases he
    exact ⟨(List.mem_filter.1 hm).1, by simpa using (List.mem_filter.1 hm).2, rfl⟩
  · rintro ⟨hm, rfl, rfl⟩
    exact ⟨m, List.mem_filter.2 ⟨hm, by simp⟩, rfl⟩

omit [BEq τ] in
theorem targets_membersOf (found : List (Match τ)) (captures : List String) :
    (membersOf found captures).map (·.1) = (found.filter (·.captures == captures)).map (·.target) := by
  rw [membersOf, List.map_map]
  rfl

namespace Groups

/-- The members of the group with these captures; there are none where there is no group. -/
def members (groups : Groups τ) (captures : List String) : OrderedMap τ (Match τ) :=
  (groups.get? captures).getD .empty

theorem members_add_self (groups : Groups τ) (m : Match τ) :
    (groups.add m).members m.captures = (groups.members m.captures).insert m.target m := by
  unfold add members OrderedMap.alter
  rw [OrderedMap.get?_insert_self, Option.getD_some]

theorem members_add_of_ne (groups : Groups τ) (m : Match τ) {captures : List String} (h : captures ≠ m.captures) :
    (groups.add m).members captures = groups.members captures := by
  unfold add members OrderedMap.alter
  rw [OrderedMap.get?_insert_of_ne _ h]

/-- One match after another: a group takes in the matches with its captures and no others. -/
theorem members_foldl (captures : List String) : ∀ (found : List (Match τ)) (groups : Groups τ),
    (found.foldl add groups).members captures = (groups.members captures).insertAll (membersOf found captures)
  | [], _ => rfl
  | m :: found, groups => by
    rw [List.foldl_cons, members_foldl captures found (groups.add m)]
    by_cases h : m.captures = captures
    · subst h
      rw [members_add_self, membersOf, membersOf, List.filter_cons_of_pos (by simp)]
      rfl
    · rw [members_add_of_ne groups m (Ne.symm h), membersOf, membersOf, List.filter_cons_of_neg (by simpa using h)]

theorem keys_foldl : ∀ (found : List (Match τ)) (groups : Groups τ) (seen : OrderedMap (List String) Unit),
    groups.keys = seen.keys →
      (found.foldl add groups).keys = (seen.insertAll (found.map fun m => (m.captures, ()))).keys
  | [], _, _, h => h
  | m :: found, groups, seen, h => by
    refine keys_foldl found (groups.add m) (seen.insert m.captures ()) ?_
    have hc : groups.contains m.captures = seen.contains m.captures := by
      rw [Bool.eq_iff_iff, OrderedMap.contains_iff, OrderedMap.contains_iff, h]
    show (groups.insert m.captures _).keys = _
    rw [OrderedMap.keys_insert, OrderedMap.keys_insert, hc, h]

end Groups

/-- **Groups stand in the order in which their captures first appear.** -/
theorem keys_groupByCaptures (found : List (Match τ)) :
    (groupByCaptures found).keys = distinct (found.map (·.captures)) := by
  rw [groupByCaptures, Groups.keys_foldl found .empty .empty rfl, ← OrderedMap.ofList, OrderedMap.keys_ofList,
    List.map_map]
  rfl

/-- **A group's members are the matches with its captures, inserted in order.** -/
theorem members_groupByCaptures (found : List (Match τ)) (captures : List String) :
    (groupByCaptures found).members captures = .ofList (membersOf found captures) := by
  rw [groupByCaptures, Groups.members_foldl]
  rfl

/-- There is a group for the captures of every match. -/
theorem get?_groupByCaptures {found : List (Match τ)} {captures : List String}
    (h : captures ∈ found.map (·.captures)) :
    (groupByCaptures found).get? captures = some ((groupByCaptures found).members captures) := by
  have hkey : captures ∈ (groupByCaptures found).keys := by rwa [keys_groupByCaptures, mem_distinct]
  obtain ⟨group, hgroup⟩ := Option.isSome_iff_exists.1 ((OrderedMap.get?_isSome_iff _ _).2 hkey)
  rw [Groups.members, hgroup, Option.getD_some]

/-- The last match of a target with these captures. -/
def lastMatch? (found : List (Match τ)) (captures : List String) (t : τ) : Option (Match τ) :=
  (found.filter fun m => m.captures == captures && m.target == t).getLast?

variable [LawfulBEq τ]

/-- **In a group each target has its last match.** -/
theorem get?_members_eq (found : List (Match τ)) (captures : List String) (t : τ) :
    ((groupByCaptures found).members captures).get? t = lastMatch? found captures t := by
  rw [members_groupByCaptures, OrderedMap.get?_ofList, membersOf, lookup_reverse_keyed fun m => m, Option.map_id_fun', id,
    List.filter_filter, lastMatch?]
  congr 1
  exact List.filter_congr fun m _ => Bool.and_comm _ _

theorem get?_members {found : List (Match τ)} {captures : List String} {t : τ} {m : Match τ}
    (h : ((groupByCaptures found).members captures).get? t = some m) :
    m ∈ found ∧ m.captures = captures ∧ m.target = t := by
  rw [get?_members_eq] at h
  simpa using List.mem_filter.1 (List.mem_of_getLast? h)

theorem mem_keys_members {found : List (Match τ)} {captures : List String} {t : τ} :
    t ∈ ((groupByCaptures found).members captures).keys ↔
      ∃ m ∈ found, m.captures = captures ∧ m.target = t := by
  rw [members_groupByCaptures, OrderedMap.keys_ofList, mem_distinct, List.mem_map]
  constructor
  · rintro ⟨⟨t', m⟩, hm, rfl⟩
    exact ⟨m, mem_membersOf.1 hm⟩
  · rintro ⟨m, hm⟩
    exact ⟨(t, m), mem_membersOf.2 hm, rfl⟩

/-- A group has a member for a target iff the target has a match with its captures. -/
theorem exists_get?_members_iff {found : List (Match τ)} {captures : List String} {t : τ} :
    (∃ m, ((groupByCaptures found).members captures).get? t = some m) ↔
      ∃ m ∈ found, m.captures = captures ∧ m.target = t := by
  rw [← Option.isSome_iff_exists, OrderedMap.get?_isSome_iff, mem_keys_members]

/-- The captures that qualify, in order: those that occur with exactly this many distinct targets. -/
theorem qualifying_groupByCaptures (found : List (Match τ)) (count : Nat) :
    qualifying (groupByCaptures found) count =
      (distinct (found.map (·.captures))).filter fun captures =>
        (distinct ((membersOf found captures).map (·.1))).length == count := by
  have hnodup : (groupByCaptures found).keys.Nodup := by
    rw [keys_groupByCaptures]
    exact nodup_distinct _
  have hsize : ∀ captures, ((groupByCaptures found).members captures).size =
      (distinct ((membersOf found captures).map (·.1))).length := by
    intro captures
    rw [← OrderedMap.keys_ofList, ← members_groupByCaptures, OrderedMap.keys, List.length_map]
    rfl
  unfold qualifying
  rw [OrderedMap.entries_eq _ hnodup .empty, List.filter_map, List.map_map, keys_groupByCaptures]
  simp only [Function.comp_def, List.map_id']
  apply List.filter_congr
  intro captures _
  rw [← hsize captures]
  rfl

/-- **A group with as many targets as there are has all of them.** -/
theorem length_targets_iff {targets : List τ} (hnodup : targets.Nodup) {found : List (Match τ)}
    (hfound : ∀ m ∈ found, m.target ∈ targets) {captures : List String} :
    (distinct ((membersOf found captures).map (·.1))).length = targets.length ↔
      ∀ t ∈ targets, ∃ m ∈ found, m.captures = captures ∧ m.target = t := by
  have hmem : ∀ t, t ∈ (membersOf found captures).map (·.1) ↔ ∃ m ∈ found, m.captures = captures ∧ m.target = t := by
    intro t
    simp [mem_membersOf]
  have hsub : ∀ t ∈ (membersOf found captures).map (·.1), t ∈ targets := by
    intro t ht
    obtain ⟨m, hm, -, rfl⟩ := (hmem t).1 ht
    exact hfound m hm
  constructor
  · intro hlen t ht
    exact (hmem t).1 (mem_of_length_distinct hsub hlen ht)
  · intro h
    refine ((List.perm_ext_iff_of_nodup (nodup_distinct _) hnodup).2 fun t => ?_).length_eq
    rw [mem_distinct]
    exact ⟨hsub t, fun ht => (hmem t).2 (h t ht)⟩

theorem mem_qualifying {found : List (Match τ)} {count : Nat} {captures : List String} :
    captures ∈ qualifying (groupByCaptures found) count ↔
      (∃ m ∈ found, m.captures = captures) ∧
        (distinct ((membersOf found captures).map (·.1))).length = count := by
  rw [qualifying_groupByCaptures, List.mem_filter, mem_distinct, List.mem_map, beq_iff_eq]

/-- **Grouping keeps the last match of each target.** There is one group for each list of captures that occurs, by first
occurrence. Its members are the distinct targets that match with these captures, by first occurrence among those matches,
each with the last of them. The captures with a given number of such targets qualify, in the same order. -/
theorem groupByCaptures_keeps_last (found : List (Match τ)) :
    (groupByCaptures found).keys = distinct (found.map (·.captures)) ∧
    (∀ captures ∈ found.map (·.captures), ∃ group, (groupByCaptures found).get? captures = some group ∧
      group.keys = distinct ((found.filter (·.captures == captures)).map (·.target)) ∧
      ∀ t, group.get? t = lastMatch? found captures t) ∧
    ∀ count, qualifying (groupByCaptures found) count =
      (distinct (found.map (·.captures))).filter fun captures =>
        (distinct ((found.filter (·.captures == captures)).map (·.target))).length == count := by
  refine ⟨keys_groupByCaptures found, fun captures h => ?_, fun count => ?_⟩
  · refine ⟨_, get?_groupByCaptures h, ?_, get?_members_eq found captures⟩
    rw [members_groupByCaptures, OrderedMap.keys_ofList, targets_membersOf]
  · rw [qualifying_groupByCaptures]
    exact List.filter_congr fun captures _ => by rw [targets_membersOf]

/-- Both targets match twice with `bar`: the one that is met first there is also matched last. -/
theorem groupByCaptures_keeps_last_repeated :
    let found : List (Match String) := [⟨"used", "a.bar", ["bar"]⟩, ⟨"size", "a.foo", ["foo"]⟩,
      ⟨"size", "b.bar", ["bar"]⟩, ⟨"size", "c.bar", ["bar"]⟩, ⟨"used", "d.bar", ["bar"]⟩, ⟨"used", "b.foo", ["foo"]⟩,
      ⟨"used", "e", []⟩]
    (groupByCaptures found).keys = [["bar"], ["foo"], []] ∧
      (∃ group, (groupByCaptures found).get? ["bar"] = some group ∧ group.keys = ["used", "size"] ∧
        group.get? "used" = some ⟨"used", "d.bar", ["bar"]⟩ ∧ group.get? "size" = some ⟨"size", "c.bar", ["bar"]⟩) ∧
      qualifying (groupByCaptures found) 2 = [["bar"], ["foo"]] ∧ qualifying (groupByCaptures found) 1 = [[]] := by
  intro found
  obtain ⟨hkeys, hgroups, hqualifying⟩ := groupByCaptures_keeps_last found
  obtain ⟨group, hgroup, htargets, hlast⟩ := hgroups ["bar"] (by decide)
  have hmembers : group.keys = ["used", "size"] := htargets.trans (by decide)
  have hused : group.get? "used" = some ⟨"used", "d.bar", ["bar"]⟩ := (hlast "used").trans (by decide)
  have hsize : group.get? "size" = some ⟨"size", "c.bar", ["bar"]⟩ := (hlast "size").trans (by decide)
  exact ⟨hkeys.trans (by decide), ⟨group, hgroup, hmembers, hused, hsize⟩, (hqualifying 2).trans (by decide),
    (hqualifying 1).trans (by decide)⟩

end MetricExpr
