import MetricExpr.Proofs.Glob.Filling
import MetricExpr.Proofs.Resolution.Groups
import MetricExpr.Resolution.Basic
/-!
# Resolution is sound

A resolution that is ok has one list of captures for all its variables. Every variable's key is its glob filled with
these captures, and its value is the number that the table has under that key (`resolution_sound`). So variables with
different numbers of wildcards never resolve together.
-/
namespace MetricExpr

theorem TieBreak.mem_of_pick {α : Type} {policy : TieBreak} {xs : List α} {x : α} (h : policy.pick xs = some x) :
    x ∈ xs := by
  cases policy with
  | first => exact List.mem_of_mem_head? h
  | last => exact List.mem_of_getLast? h

namespace Survey

theorem mem_found {vs : List Variable} {keys : List String} {m : Match Variable} (h : m ∈ (Survey.of vs keys).found) :
    m.target ∈ vs ∧ m.key ∈ keys ∧ m.target.glob.captures? m.key = some m.captures := by
  obtain ⟨hkey, g, hg, hc⟩ := mem_findMatches.1 h
  obtain ⟨v, hv, he⟩ := List.mem_map.1 hg
  rw [Prod.mk.injEq] at he
  obtain ⟨rfl, rfl⟩ := he
  exact ⟨mem_distinct.1 hv, hkey, hc⟩

/-- Every variable has a match in a group that qualifies: the group has as many members as there are variables. -/
theorem exists_member {vs : List Variable} {keys : List String} {captures : List String}
    (h : captures ∈ (Survey.of vs keys).candidates) {v : Variable} (hv : v ∈ vs) :
    ∃ m, ((Survey.of vs keys).groups.members captures).get? v = some m := by
  have hfound : ∀ m ∈ (Survey.of vs keys).found, m.target ∈ distinct vs := fun m hm => mem_distinct.2 (mem_found hm).1
  have hall := (length_targets_iff (nodup_distinct vs) hfound).1 (mem_qualifying.1 h).2
  exact exists_get?_members_iff.2 (hall v (mem_distinct.2 hv))

/-- **Each variable's key is its glob filled with the captures of the group.** -/
theorem keysOf_eq {vs : List Variable} {keys : List String} {captures : List String}
    (h : captures ∈ (Survey.of vs keys).candidates) :
    (Survey.of vs keys).keysOf captures = (distinct vs).map fun v => (v, v.glob.fill captures) := by
  unfold keysOf
  refine (List.filterMap_congr fun v hv => ?_).trans (congrFun (List.filterMap_eq_map (f := _)) _)
  obtain ⟨m, hm⟩ := exists_member h (mem_distinct.1 hv)
  obtain ⟨hf, rfl, rfl⟩ := get?_members hm
  have hfill := Glob.fill_captures (mem_found hf).2.2
  show (((Survey.of vs keys).groups.members m.captures).get? m.target).map _ = _
  rw [hm, Option.map_some, Function.comp_apply, hfill]

theorem captures_fill {vs : List Variable} {keys : List String} {captures : List String}
    (h : captures ∈ (Survey.of vs keys).candidates) {v : Variable} (hv : v ∈ vs) :
    v.glob.fill captures ∈ keys ∧ v.glob.captures? (v.glob.fill captures) = some captures := by
  obtain ⟨m, hm⟩ := exists_member h hv
  obtain ⟨hf, rfl, rfl⟩ := get?_members hm
  obtain ⟨-, hkey, hc⟩ := mem_found hf
  rw [Glob.fill_captures hc]
  exact ⟨hkey, hc⟩

end Survey

namespace Resolution

theorem isOk_iff {r : Resolution} : r.isOk = true ↔ ∃ captures keys, r = .ok captures keys := by
  cases r <;> simp [isOk]

/-- A resolution of some variables that is ok comes from a group that qualifies. -/
theorem candidate_of_ok {vs : List Variable} {keys : List String} {policy : TieBreak} {captures : List String}
    {selected : List (Variable × String)} (hvs : vs ≠ []) (h : Resolution.of vs keys policy = .ok captures selected) :
    captures ∈ (Survey.of vs keys).candidates ∧ selected = (Survey.of vs keys).keysOf captures := by
  unfold Resolution.of Survey.resolution at h
  split at h
  · rename_i hempty
    cases vs with
    | nil => exact absurd rfl hvs
    | cons v vs => cases hempty
  split at h
  · cases h
  split at h
  · cases h
  · rename_i picked hpick
    cases h
    exact ⟨TieBreak.mem_of_pick hpick, rfl⟩

theorem keys_of_ok {vs : List Variable} {keys : List String} {policy : TieBreak} {captures : List String}
    {selected : List (Variable × String)} (h : Resolution.of vs keys policy = .ok captures selected) :
    (∀ p ∈ selected, p.2 ∈ keys) ∧ ∀ v ∈ vs, ∃ key ∈ keys, selected.lookup v = some key := by
  by_cases hvs : vs = []
  · subst hvs
    cases h
    exact ⟨fun p hp => absurd hp List.not_mem_nil, fun v hv => absurd hv List.not_mem_nil⟩
  obtain ⟨hcand, rfl⟩ := candidate_of_ok hvs h
  rw [Survey.keysOf_eq hcand]
  constructor
  · intro p hp
    obtain ⟨v, hv, rfl⟩ := List.mem_map.1 hp
    exact (Survey.captures_fill hcand (mem_distinct.1 hv)).1
  · intro v hv
    exact ⟨_, (Survey.captures_fill hcand hv).1, lookup_map_self (mem_distinct.2 hv)⟩

theorem vars_of_ok {vs : List Variable} {keys : List String} {policy : TieBreak} {captures : List String}
    {selected : List (Variable × String)} (h : Resolution.of vs keys policy = .ok captures selected) :
    selected.map (·.1) = distinct vs := by
  by_cases hvs : vs = []
  · subst hvs
    cases h
    rfl
  obtain ⟨hcand, rfl⟩ := candidate_of_ok hvs h
  rw [Survey.keysOf_eq hcand, List.map_map]
  exact List.map_id _

theorem lookup_bindEach {table : OrderedMap String Datum} : ∀ {keys : List (Variable × String)}
    {entries : List (Variable × Binary64)}, bindEach table keys = .ok entries → ∀ {v : Variable} {key : String},
      keys.lookup v = some key →
        ∃ x, ((table.get? key).getD .null).toBinary64 = .ok x ∧ entries.lookup v = some x
  | (v', key') :: rest, entries, h, v, key, hv => by
    simp only [bindEach, bind, Except.bind, pure, Except.pure] at h
    split at h
    · cases h
    rename_i x hx
    split at h
    · cases h
    rename_i later hlater
    cases h
    by_cases he : v = v'
    · subst he
      rw [List.lookup_cons_self] at hv ⊢
      cases hv
      exact ⟨x, hx, rfl⟩
    · rw [List.lookup_cons, beq_false_of_ne he] at hv ⊢
      exact lookup_bindEach hlater hv

theorem bindEach_total {table : OrderedMap String Datum} : ∀ {keys : List (Variable × String)},
    (∀ p ∈ keys, ∃ x, ((table.get? p.2).getD .null).toBinary64 = .ok x) → ∃ entries, bindEach table keys = .ok entries
  | [], _ => ⟨[], rfl⟩
  | (v, key) :: rest, h => by
    rw [List.forall_mem_cons] at h
    obtain ⟨⟨x, hx⟩, hrest⟩ := h
    obtain ⟨entries, he⟩ := bindEach_total hrest
    refine ⟨(v, x) :: entries, ?_⟩
    rw [bindEach, hx, he]
    rfl

theorem bindEach_of_bindings {table : OrderedMap String Datum} {captures : List String}
    {keys : List (Variable × String)} {b : Bindings Binary64}
    (h : (Resolution.ok captures keys).bindings table = .ok (some b)) : bindEach table keys = .ok b.entries := by
  rw [bindings] at h
  cases hall : bindEach table keys with
  | error fault => rw [hall] at h; cases h
  | ok entries => rw [hall] at h; cases h; rfl

end Resolution

/-- What a resolution says about one of its variables: the captures fill its glob, the key is the filled glob, and the
value is the number of that key. -/
structure BoundBy (table : OrderedMap String Datum) (captures : List String) (keys : List (Variable × String))
    (bindings : Bindings Binary64) (v : Variable) : Prop where
  length_captures : captures.length = v.wildcards
  captures_key : v.glob.captures? (v.glob.fill captures) = some captures
  lookup_key : keys.lookup v = some (v.glob.fill captures)
  mem_table : v.glob.fill captures ∈ table.keys
  value : ∃ d x, table.get? (v.glob.fill captures) = some d ∧ d.toBinary64 = .ok x ∧ bindings.get? v = some x

/-- **Resolution is sound**: all variables are bound by the same captures; and variables with different numbers of
wildcards do not resolve, whatever the table holds. -/
theorem resolution_sound (vs : List Variable) (table : OrderedMap String Datum) (policy : TieBreak) :
    (∀ captures keys bindings, Resolution.of vs table.keys policy = .ok captures keys →
      (Resolution.ok captures keys).bindings table = .ok (some bindings) →
        ∀ v ∈ vs, BoundBy table captures keys bindings v) ∧
    ((∃ v ∈ vs, ∃ w ∈ vs, v.wildcards ≠ w.wildcards) → (Resolution.of vs table.keys policy).isOk = false) := by
  constructor
  · intro captures keys bindings hok hbind v hv
    obtain ⟨hcand, rfl⟩ := Resolution.candidate_of_ok (List.ne_nil_of_mem hv) hok
    obtain ⟨hmem, hcap⟩ := Survey.captures_fill hcand hv
    have hkey : ((Survey.of vs table.keys).keysOf captures).lookup v = some (v.glob.fill captures) := by
      rw [Survey.keysOf_eq hcand]
      exact lookup_map_self (mem_distinct.2 hv)
    obtain ⟨d, hd⟩ := Option.isSome_iff_exists.1 ((OrderedMap.get?_isSome_iff table _).2 hmem)
    obtain ⟨x, hx, hlook⟩ := Resolution.lookup_bindEach (Resolution.bindEach_of_bindings hbind) hkey
    rw [hd, Option.getD_some] at hx
    exact ⟨Glob.length_captures hcap, hcap, hkey, hmem, d, x, hd, hx, hlook⟩
  · rintro ⟨v, hv, w, hw, hne⟩
    cases hr : Resolution.of vs table.keys policy with
    | unmatched globs => rfl
    | inconsistent => rfl
    | ok captures keys =>
      obtain ⟨hcand, -⟩ := Resolution.candidate_of_ok (List.ne_nil_of_mem hv) hr
      have hlv := Glob.length_captures (Survey.captures_fill hcand hv).2
      have hlw := Glob.length_captures (Survey.captures_fill hcand hw).2
      exact absurd (hlv.symm.trans hlw) hne

/-- Two globs with two wildcards each, over keys of which only some share their captures. -/
theorem resolution_sound_two_wildcards :
    let free : Variable := ⟨⟨"disk.*.*.free"⟩, by decide⟩
    let size : Variable := ⟨⟨"*:*"⟩, by decide⟩
    let table : OrderedMap String Datum :=
      ⟨[("a:c", .integer 8), ("disk.a.b.free", .integer 2), ("a:b", .text " 4 "), ("disk.c.a.free", .null)]⟩
    let keys := [(free, "disk.a.b.free"), (size, "a:b")]
    Resolution.of [free, size, free] table.keys .first = .ok ["a", "b"] keys ∧
      BoundBy table ["a", "b"] keys ⟨[(free, Binary64.ofInt 2), (size, Binary64.ofInt 4)]⟩ size ∧
      (Resolution.of [free, ⟨⟨"a:b"⟩, by decide⟩] table.keys .last).isOk = false := by
  intro free size table keys
  have hok : Resolution.of [free, size, free] table.keys .first = .ok ["a", "b"] keys := by decide
  have hbound := (resolution_sound [free, size, free] table .first).1 ["a", "b"] keys
    ⟨[(free, Binary64.ofInt 2), (size, Binary64.ofInt 4)]⟩ hok (by rfl)
  have hmixed := (resolution_sound [free, ⟨⟨"a:b"⟩, by decide⟩] table .last).2
  exact ⟨hok, hbound size (by decide),
    hmixed ⟨free, by decide, _, List.mem_cons_of_mem _ List.mem_cons_self, by decide⟩⟩

end MetricExpr
