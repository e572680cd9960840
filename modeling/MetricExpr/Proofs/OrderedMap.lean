import MetricExpr.OrderedMap
import Mathlib.Data.List.Nodup
import Mathlib.Data.List.Perm.Subperm
/-!
# What a run of insertions leaves in an ordered map

Inserting pairs from left to right keeps the first place of each key (`keys_ofList`) and the last of its values
(`get?_ofList`). A map without repeated keys is its keys with their values (`entries_eq`).
-/
namespace MetricExpr

section Distinct

variable {α : Type} [BEq α] [LawfulBEq α]

@[simp] theorem mem_distinct {x : α} : ∀ {xs : List α}, x ∈ distinct xs ↔ x ∈ xs
  | [] => Iff.rfl
  | y :: ys => by
    rw [distinct, List.mem_cons, List.mem_cons, List.mem_filter, mem_distinct]
    constructor
    · rintro (rfl | ⟨h, -⟩)
      · exact .inl rfl
      · exact .inr h
    · rintro (rfl | h)
      · exact .inl rfl
      · by_cases hy : x = y
        · exact .inl hy
        · exact .inr ⟨h, by simpa using fun he => hy (Eq.symm he)⟩

theorem nodup_distinct : ∀ xs : List α, (distinct xs).Nodup
  | [] => List.nodup_nil
  | y :: ys => by
    rw [distinct, List.nodup_cons]
    exact ⟨by simp [List.mem_filter], (nodup_distinct ys).filter _⟩

theorem distinct_of_nodup : ∀ {xs : List α}, xs.Nodup → distinct xs = xs
  | [], _ => rfl
  | x :: xs, h => by
    obtain ⟨hx, hxs⟩ := List.nodup_cons.1 h
    rw [distinct, distinct_of_nodup hxs]
    refine congrArg (x :: ·) (List.filter_eq_self.2 fun y hy => ?_)
    have hne : x ≠ y := fun he => hx (he ▸ hy)
    simpa using hne

theorem filter_distinct (p : α → Bool) : ∀ xs : List α, (distinct xs).filter p = distinct (xs.filter p)
  | [] => rfl
  | x :: xs => by
    have ih := filter_distinct p xs
    rw [distinct, List.filter_cons, List.filter_cons, List.filter_filter]
    by_cases hp : p x = true
    · rw [if_pos hp, if_pos hp, distinct, ← ih, List.filter_filter]
      congr 1
      exact List.filter_congr fun y _ => Bool.and_comm _ _
    · rw [if_neg hp, if_neg hp, ← ih]
      apply List.filter_congr
      intro y _
      by_cases hy : x = y
      · subst hy
        simp [hp]
      · simp [hy]

theorem find?_distinct (p : α → Bool) (xs : List α) : (distinct xs).find? p = xs.find? p := by
  rw [← List.head?_filter, ← List.head?_filter, filter_distinct]
  cases xs.filter p <;> rfl

theorem map_distinct {β : Type} [BEq β] [LawfulBEq β] {f : α → β} (hf : ∀ x y, f x = f y → x = y) :
    ∀ xs : List α, (distinct xs).map f = distinct (xs.map f)
  | [] => rfl
  | x :: xs => by
    rw [distinct, List.map_cons, List.map_cons, distinct, ← map_distinct hf xs, List.filter_map]
    congr 2
    apply List.filter_congr
    intro y _
    by_cases hy : x = y
    · subst hy
      simp
    · have hne : f x ≠ f y := fun he => hy (hf x y he)
      simp [hy, hne]

/-- **Distinct members stand in the order of their first places.** -/
theorem pairwise_distinct : ∀ xs : List α, (distinct xs).Pairwise fun x y => xs.idxOf x < xs.idxOf y
  | [] => List.Pairwise.nil
  | x :: xs => by
    rw [distinct, List.pairwise_cons]
    have hlater : ∀ y ∈ (distinct xs).filter (!x == ·), (x :: xs).idxOf y = xs.idxOf y + 1 := by
      intro y hy
      have hne : x ≠ y := by simpa using (List.mem_filter.1 hy).2
      exact List.idxOf_cons_ne xs hne
    constructor
    · intro y hy
      rw [hlater y hy, List.idxOf_cons_self]
      exact Nat.succ_pos _
    · refine ((pairwise_distinct xs).filter _).imp_of_mem fun hy hz hlt => ?_
      rw [hlater _ hy, hlater _ hz]
      exact Nat.succ_lt_succ hlt

/-- A list of members that is as long as a list without repetitions holds all of it. -/
theorem mem_of_length_distinct {xs ys : List α} (hsub : ∀ x ∈ xs, x ∈ ys)
    (hlen : (distinct xs).length = ys.length) {y : α} (hy : y ∈ ys) : y ∈ xs := by
  have hsp : (distinct xs).Subperm ys :=
    List.subperm_of_subset (nodup_distinct xs) fun x hx => hsub x (mem_distinct.1 hx)
  have hperm := hsp.perm_of_length_le (Nat.le_of_eq hlen.symm)
  exact mem_distinct.1 (hperm.mem_iff.2 hy)

end Distinct

section Lookup

variable {α β κ : Type} [BEq κ] [LawfulBEq κ] {key : α → κ} {f : α → β}

/-- A pair made from a member is found under the member's key if no other member has that key. -/
theorem lookup_map {x : α} : ∀ {xs : List α}, (∀ y ∈ xs, key y = key x → y = x) → x ∈ xs →
    (xs.map fun y => (key y, f y)).lookup (key x) = some (f x)
  | y :: ys, hkey, hx => by
    rw [List.map_cons, List.lookup_cons]
    by_cases he : key y = key x
    · rw [← he, beq_self_eq_true, hkey y List.mem_cons_self he]
    · rw [beq_false_of_ne (Ne.symm he)]
      have hne : x ≠ y := fun h => he (h ▸ rfl)
      exact lookup_map (fun z hz => hkey z (List.mem_cons_of_mem _ hz)) ((List.mem_cons.1 hx).resolve_left hne)

theorem lookup_map_self {f : κ → β} {x : κ} {xs : List κ} (hx : x ∈ xs) :
    (xs.map fun y => (y, f y)).lookup x = some (f x) :=
  @lookup_map κ β κ _ _ id f x xs (fun _ _ h => h) hx

theorem lookup_keyed (f : α → β) (k : κ) : ∀ xs : List α,
    (xs.map fun x => (key x, f x)).lookup k = (xs.find? (key · == k)).map f
  | [] => rfl
  | x :: xs => by
    rw [List.map_cons, List.lookup_cons, List.find?_cons, lookup_keyed f k xs, BEq.comm]
    cases key x == k <;> rfl

/-- From behind, the last member with a key is found. -/
theorem lookup_reverse_keyed (f : α → β) (k : κ) (xs : List α) :
    (xs.map fun x => (key x, f x)).reverse.lookup k = ((xs.filter (key · == k)).getLast?).map f := by
  rw [← List.map_reverse, lookup_keyed, ← List.head?_filter, List.filter_reverse, List.head?_reverse]

theorem find?_of_nodup {x : α} {xs : List α} (h : (xs.map key).Nodup) (hx : x ∈ xs) :
    xs.find? (key · == key x) = some x := by
  cases hfind : xs.find? (key · == key x) with
  | none => simpa using List.find?_eq_none.1 hfind x hx
  | some y =>
    have hkey : key y = key x := by simpa using List.find?_some hfind
    rw [List.inj_on_of_nodup_map h (List.mem_of_find?_eq_some hfind) hx hkey]

end Lookup

namespace OrderedMap

variable {κ ν : Type} [BEq κ] [LawfulBEq κ]

theorem contains_iff (m : OrderedMap κ ν) (k : κ) : m.contains k = true ↔ k ∈ m.keys := by
  unfold contains keys
  rw [List.any_eq_true, List.mem_map]
  constructor
  · rintro ⟨entry, hm, hk⟩
    exact ⟨entry, hm, (eq_of_beq hk).symm⟩
  · rintro ⟨entry, hm, rfl⟩
    exact ⟨entry, hm, by simp⟩

theorem mem_keys_insert {m : OrderedMap κ ν} {k key : κ} {v : ν} : key ∈ (m.insert k v).keys ↔ key ∈ m.keys ∨ key = k := by
  rw [keys_insert]
  split
  · rename_i hk
    exact ⟨.inl, fun h => h.elim id fun he => he ▸ (contains_iff m k).1 hk⟩
  · rw [List.mem_append, List.mem_singleton]

theorem nodup_keys_insert (m : OrderedMap κ ν) (k : κ) (v : ν) (h : m.keys.Nodup) : (m.insert k v).keys.Nodup := by
  rw [keys_insert]
  split
  · exact h
  · rename_i hc
    rw [contains_iff] at hc
    refine List.nodup_append.2 ⟨h, by simp, ?_⟩
    intro a ha b hb hab
    exact hc (List.mem_singleton.1 hb ▸ hab ▸ ha)

theorem nodup_keys_insertAll : ∀ (pairs : List (κ × ν)) (m : OrderedMap κ ν), m.keys.Nodup →
    (m.insertAll pairs).keys.Nodup
  | [], _, h => h
  | (k, v) :: pairs, m, h => nodup_keys_insertAll pairs (m.insert k v) (nodup_keys_insert m k v h)

theorem nodup_keys_ofList (pairs : List (κ × ν)) : (ofList pairs).keys.Nodup := nodup_keys_insertAll pairs empty List.nodup_nil

theorem keys_insertAll : ∀ (pairs : List (κ × ν)) (m : OrderedMap κ ν),
    (m.insertAll pairs).keys = m.keys ++ (distinct (pairs.map (·.1))).filter fun k => !m.contains k
  | [], m => by simp [insertAll, distinct]
  | (k, v) :: pairs, m => by
    have ih := keys_insertAll pairs (m.insert k v)
    have hc : ∀ k', (m.insert k v).contains k' = (m.contains k' || k == k') := by
      intro k'
      rw [Bool.eq_iff_iff, Bool.or_eq_true, contains_iff, contains_iff, keys_insert, beq_iff_eq]
      split
      · rename_i hk
        rw [contains_iff] at hk
        exact ⟨.inl, fun h => h.elim id fun he => he ▸ hk⟩
      · rw [List.mem_append, List.mem_singleton, eq_comm (a := k)]
    show ((m.insert k v).insertAll pairs).keys = _
    rw [ih, keys_insert, List.map_cons, distinct, List.filter_cons, List.filter_filter]
    by_cases hk : m.contains k = true
    · rw [if_pos hk, if_neg (by simp [hk])]
      congr 1
      apply List.filter_congr
      intro x _
      rw [hc, Bool.not_or]
    · rw [if_neg hk, if_pos (by simp [hk]), List.append_assoc, List.singleton_append]
      congr 2
      apply List.filter_congr
      intro x _
      rw [hc, Bool.not_or]

/-- **Keys stand in order of first insertion**, each once. -/
theorem keys_ofList (pairs : List (κ × ν)) : (ofList pairs).keys = distinct (pairs.map (·.1)) := by
  rw [ofList, keys_insertAll]
  exact List.filter_eq_self.2 fun x _ => rfl

theorem get?_insertAll : ∀ (pairs : List (κ × ν)) (m : OrderedMap κ ν) (k : κ),
    (m.insertAll pairs).get? k = (pairs.reverse.lookup k).or (m.get? k)
  | [], _, _ => rfl
  | (k', v) :: pairs, m, k => by
    show ((m.insert k' v).insertAll pairs).get? k = _
    rw [get?_insertAll pairs, List.reverse_cons, List.lookup_append, Option.or_assoc]
    congr 1
    by_cases hk : k = k'
    · subst hk
      rw [get?_insert_self, List.lookup_cons_self]
      rfl
    · rw [get?_insert_of_ne m hk, List.lookup_cons, beq_false_of_ne hk]
      rfl

/-- **Each key has the value that was inserted last.** -/
theorem get?_ofList (pairs : List (κ × ν)) (k : κ) : (ofList pairs).get? k = pairs.reverse.lookup k := by
  rw [ofList, get?_insertAll]
  exact Option.or_none

theorem mem_put {k : κ} {v : ν} {entry : κ × ν} : ∀ {entries : List (κ × ν)}, entry ∈ put k v entries →
    entry = (k, v) ∨ entry ∈ entries
  | [], h => .inl (List.mem_singleton.1 h)
  | (k', v') :: rest, h => by
    rw [put] at h
    split at h
    · rename_i hk
      rw [← eq_of_beq hk] at h
      exact (List.mem_cons.1 h).imp_right (List.mem_cons_of_mem _)
    · obtain rfl | h := List.mem_cons.1 h
      · exact .inr List.mem_cons_self
      · exact (mem_put h).imp_right (List.mem_cons_of_mem _)

theorem mem_insertAll {entry : κ × ν} : ∀ {pairs : List (κ × ν)} {m : OrderedMap κ ν}, entry ∈ (m.insertAll pairs).entries →
    entry ∈ pairs ∨ entry ∈ m.entries
  | [], _, h => .inr h
  | (k, v) :: pairs, m, h => by
    obtain h | h := mem_insertAll (m := m.insert k v) h
    · exact .inl (List.mem_cons_of_mem _ h)
    · obtain rfl | h := mem_put h
      · exact .inl List.mem_cons_self
      · exact .inr h

/-- Nothing is in a map but what was inserted. -/
theorem mem_of_mem_ofList {pairs : List (κ × ν)} {entry : κ × ν} (h : entry ∈ (ofList pairs).entries) : entry ∈ pairs :=
  (mem_insertAll h).resolve_right List.not_mem_nil

theorem get?_eq_none_iff (m : OrderedMap κ ν) (k : κ) : m.get? k = none ↔ k ∉ m.keys := by
  unfold get? keys
  rw [List.lookup_eq_none_iff, List.mem_map]
  constructor
  · rintro h ⟨entry, hm, rfl⟩
    exact absurd (h entry hm) (by simp)
  · intro h entry hm
    rw [bne_iff_ne]
    rintro rfl
    exact h ⟨entry, hm, rfl⟩

theorem get?_isSome_iff (m : OrderedMap κ ν) (k : κ) : (m.get? k).isSome = true ↔ k ∈ m.keys := by
  rw [← not_iff_not, ← get?_eq_none_iff, Option.not_isSome_iff_eq_none]

omit [LawfulBEq κ] in
theorem get?_mapValues {ν' : Type} (f : ν → ν') (m : OrderedMap κ ν) (k : κ) :
    (m.mapValues f).get? k = (m.get? k).map f := by
  obtain ⟨entries⟩ := m
  unfold get? mapValues
  induction entries with
  | nil => rfl
  | cons entry rest ih =>
    rw [List.map_cons, List.lookup_cons, List.lookup_cons, ih]
    split <;> rfl

theorem entries_eq (m : OrderedMap κ ν) (h : m.keys.Nodup) (default : ν) :
    m.entries = m.keys.map fun k => (k, (m.get? k).getD default) := by
  obtain ⟨entries⟩ := m
  unfold keys get? at *
  induction entries with
  | nil => rfl
  | cons entry rest ih =>
    obtain ⟨k, v⟩ := entry
    simp only [List.map_cons, List.nodup_cons] at h ⊢
    rw [List.lookup_cons_self, Option.getD_some]
    congr 1
    refine (ih h.2).trans ?_
    apply List.map_congr_left
    intro k' hk'
    have hne : (k' == k) = false := beq_false_of_ne fun he => h.1 (he ▸ hk')
    rw [List.lookup_cons, hne]

/-- Where keys are not repeated, it does not matter from which end one is looked up. -/
theorem lookup_reverse {k : κ} : ∀ {entries : List (κ × ν)}, (entries.map (·.1)).Nodup →
    entries.reverse.lookup k = entries.lookup k
  | [], _ => rfl
  | (k', v) :: entries, h => by
    obtain ⟨hk', hentries⟩ := List.nodup_cons.1 h
    rw [List.reverse_cons, List.lookup_append, lookup_reverse hentries, List.lookup_cons, List.lookup_cons]
    by_cases hk : k = k'
    · subst hk
      have hnone : entries.lookup k = none := (get?_eq_none_iff ⟨entries⟩ k).2 hk'
      rw [hnone, beq_self_eq_true]
      rfl
    · rw [beq_false_of_ne hk]
      exact Option.or_none

/-- A map is its keys in order and their values. -/
theorem ext_get? {m m' : OrderedMap κ ν} (h : m.keys.Nodup) (hkeys : m.keys = m'.keys) (hget : ∀ k, m.get? k = m'.get? k) :
    m = m' := by
  have hentries : m.entries = m'.entries := by
    cases hm : m.entries with
    | nil =>
      have hnil : m'.keys = [] := by rw [← hkeys, keys, hm, List.map_nil]
      exact (List.map_eq_nil_iff.1 hnil).symm
    | cons entry rest =>
      rw [← hm, entries_eq m h entry.2, entries_eq m' (hkeys ▸ h) entry.2, hkeys, funext hget]
  obtain ⟨entries⟩ := m
  exact congrArg mk hentries

omit [LawfulBEq κ] in
theorem insertAll_append (m : OrderedMap κ ν) (pairs more : List (κ × ν)) :
    m.insertAll (pairs ++ more) = (m.insertAll pairs).insertAll more := List.foldl_append

/-- A map without repeated keys is made from its own entries. -/
theorem ofList_entries (m : OrderedMap κ ν) (h : m.keys.Nodup) : ofList m.entries = m := by
  refine (ext_get? h ?_ fun k => ?_).symm
  · exact (distinct_of_nodup h).symm.trans (keys_ofList _).symm
  · rw [get?_ofList, lookup_reverse h]
    rfl

/-- Inserting the entries of a map is inserting the pairs that it was made from. -/
theorem insertAll_entries (m : OrderedMap κ ν) (h : m.keys.Nodup) (pairs : List (κ × ν)) :
    m.insertAll (ofList pairs).entries = m.insertAll pairs := by
  have hself := ofList_entries (ofList pairs) (nodup_keys_ofList pairs)
  refine ext_get? (nodup_keys_insertAll _ m h) ?_ fun k => ?_
  · have hkeys : (ofList pairs).entries.map (·.1) = distinct (pairs.map (·.1)) := keys_ofList pairs
    rw [keys_insertAll, keys_insertAll, hkeys, distinct_of_nodup (nodup_distinct _)]
  · rw [get?_insertAll, get?_insertAll, ← get?_ofList, ← get?_ofList, hself]

section Keys

variable {κ' : Type} [BEq κ'] [LawfulBEq κ'] {f : κ → κ'}

/-- The map with every key replaced by another. -/
def mapKeys (f : κ → κ') (m : OrderedMap κ ν) : OrderedMap κ' ν := ⟨m.entries.map fun (k, v) => (f k, v)⟩

theorem put_mapKeys (hf : Function.Injective f) (k : κ) (v : ν) : ∀ entries : List (κ × ν),
    put (f k) v (entries.map fun (k, v) => (f k, v)) = (put k v entries).map fun (k, v) => (f k, v)
  | [] => rfl
  | (k', v') :: rest => by
    rw [List.map_cons, put, put, put_mapKeys hf k v rest]
    by_cases h : k = k' <;> simp [h, hf.eq_iff]

/-- **Keys may be replaced before they are inserted**, as long as different ones stay different. -/
theorem insertAll_mapKeys (hf : Function.Injective f) : ∀ (pairs : List (κ × ν)) (m : OrderedMap κ ν),
    (m.mapKeys f).insertAll (pairs.map fun (k, v) => (f k, v)) = (m.insertAll pairs).mapKeys f
  | [], _ => rfl
  | (k, v) :: pairs, m => by
    have hinsert : (m.mapKeys f).insert (f k) v = (m.insert k v).mapKeys f :=
      congrArg mk (put_mapKeys hf k v m.entries)
    show ((m.mapKeys f).insert (f k) v).insertAll _ = ((m.insert k v).insertAll pairs).mapKeys f
    rw [hinsert, insertAll_mapKeys hf pairs]

end Keys

end OrderedMap
end MetricExpr
