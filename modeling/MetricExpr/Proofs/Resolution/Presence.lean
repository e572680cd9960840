import MetricExpr.Proofs.Expr.Evaluation
import MetricExpr.Proofs.Resolution.Soundness
/-!
# A value is there iff the node resolves

A node lacks a value only where one of its variables is unbound, and a resolution that is ok binds them all. So under
the bindings of its own resolution a node has a value iff that resolution is ok (`value_iff_bound`).
-/
namespace MetricExpr

namespace Bindings

variable {α : Type}

/-- What a variable is worth among entries that may lack a value, if there are entries at all. -/
def worth (entries : Option (OrderedMap Variable (Option α))) (v : Variable) : Option α :=
  entries.bind fun m => (m.get? v).join

theorem worth_eq_none_iff {entries : Option (OrderedMap Variable (Option α))} {v : Variable} :
    worth entries v = none ↔ entries = none ∨ ∃ m ∈ entries, m.get? v = none ∨ m.get? v = some none := by
  cases entries with
  | none => exact ⟨fun _ => .inl rfl, fun _ => rfl⟩
  | some m =>
    rw [worth, Option.bind_some, Option.join_eq_none_iff]
    constructor
    · exact fun h => .inr ⟨m, rfl, h⟩
    · rintro (h | ⟨m', hm, h⟩)
      · cases h
      · cases hm
        exact h

theorem lookup_present (v : Variable) : ∀ {entries : List (Variable × Option α)}, (entries.map (·.1)).Nodup →
    (Bindings.present ⟨entries⟩).entries.lookup v = (entries.lookup v).join
  | [], _ => rfl
  | (w, x) :: rest, h => by
    rw [List.map_cons, List.nodup_cons] at h
    have ih := lookup_present v h.2
    have hcons : (Bindings.present ⟨(w, x) :: rest⟩).entries =
        (x.map (w, ·)).toList ++ (Bindings.present ⟨rest⟩).entries := by
      cases x <;> rfl
    rw [hcons]
    by_cases hv : v = w
    · subst hv
      cases x with
      | some x => simp
      | none =>
        -- the map does not hold the variable again behind the entry without a value
        have hrest : rest.lookup v = none := by
          rw [List.lookup_eq_none_iff]
          intro entry hentry
          have hne : v ≠ entry.1 := fun he => h.1 (List.mem_map.2 ⟨entry, hentry, he.symm⟩)
          simpa using hne
        simp [ih, hrest]
    · have hne : (v == w) = false := beq_false_of_ne hv
      cases x <;> simp [List.lookup_cons, hne, ih]

theorem get?_present {m : OrderedMap Variable (Option α)} (h : m.keys.Nodup) (v : Variable) :
    (Bindings.present m).get? v = (m.get? v).join :=
  lookup_present v h

end Bindings

namespace Node

variable {α : Type} (K : Carrier α) (n : Node)

theorem evalWith_present {entries : Option (OrderedMap Variable (Option α))} (h : ∀ m ∈ entries, m.keys.Nodup) :
    n.evalWith K (entries.map Bindings.present) = n.eval K (Bindings.worth entries) := by
  refine Node.eval_congr K n fun v _ => ?_
  cases entries with
  | none => rfl
  | some m => exact Bindings.get?_present (h m rfl) v

variable {n}

/-- **Under the bindings of its resolution a node has a value iff the resolution is ok**, once these bindings hold all
variables if it is, and are none if it is not. -/
theorem evalWith_of_resolution {keys : List String} {policy : TieBreak} {bindings : Option (Bindings α)}
    (hok : (Resolution.of n.vars keys policy).isOk = true → ∀ v ∈ n.vars, (bindings.bind (·.get? v)).isSome = true)
    (hnot : (Resolution.of n.vars keys policy).isOk = false → bindings = none) :
    n.evalWith K bindings = none ↔ (Resolution.of n.vars keys policy).isOk = false := by
  rw [Node.evalWith, Node.eval_eq_none_iff]
  constructor
  · rintro ⟨v, hv, hnone⟩
    rw [← Bool.not_eq_true]
    intro h
    have hsome := hok h v hv
    rw [hnone] at hsome
    cases hsome
  · intro h
    have hvars : n.vars ≠ [] := by
      intro hnil
      rw [hnil] at h
      cases h
    obtain ⟨v, hv⟩ := List.exists_mem_of_ne_nil _ hvars
    exact ⟨v, hv, by rw [hnot h]; rfl⟩

end Node

namespace Resolution

variable {vs : List Variable} {policy : TieBreak}

theorem isSome_of_bindings {table : OrderedMap String Datum} {bindings : Option (Bindings Binary64)}
    (h : (Resolution.of vs table.keys policy).bindings table = .ok bindings)
    (hok : (Resolution.of vs table.keys policy).isOk = true) :
    ∀ v ∈ vs, (bindings.bind (·.get? v)).isSome = true := by
  intro v hv
  obtain ⟨captures, selected, hr⟩ := isOk_iff.1 hok
  obtain ⟨key, -, hkey⟩ := (keys_of_ok hr).2 v hv
  rw [hr] at h
  cases bindings with
  | none =>
    rw [Resolution.bindings] at h
    cases hall : bindEach table selected <;> rw [hall] at h <;> cases h
  | some b =>
    obtain ⟨x, -, hx⟩ := lookup_bindEach (bindEach_of_bindings h) hkey
    show (b.entries.lookup v).isSome = true
    rw [hx]
    rfl

theorem bindings_of_not_ok {r : Resolution} {table : OrderedMap String Datum} {bindings : Option (Bindings Binary64)}
    (h : r.bindings table = .ok bindings) (hr : r.isOk = false) : bindings = none := by
  cases r with
  | ok captures keys => cases hr
  | unmatched globs => exact (Except.ok.inj h).symm
  | inconsistent => exact (Except.ok.inj h).symm

/-- There are bindings if every key has a number. -/
theorem exists_bindings {table : OrderedMap String Datum}
    (h : ∀ key ∈ table.keys, ∃ d x, table.get? key = some d ∧ d.toBinary64 = .ok x) :
    ∃ bindings, (Resolution.of vs table.keys policy).bindings table = .ok bindings := by
  cases hr : Resolution.of vs table.keys policy with
  | unmatched globs => exact ⟨none, rfl⟩
  | inconsistent => exact ⟨none, rfl⟩
  | ok captures selected =>
    have hnumber : ∀ p ∈ selected, ∃ x, ((table.get? p.2).getD .null).toBinary64 = .ok x := by
      intro p hp
      obtain ⟨d, x, hd, hx⟩ := h p.2 ((keys_of_ok hr).1 p hp)
      exact ⟨x, by rw [hd]; exact hx⟩
    obtain ⟨entries, he⟩ := bindEach_total hnumber
    exact ⟨some ⟨entries⟩, by rw [bindings, he]; rfl⟩

theorem isSome_of_numbers {table : OrderedMap String Binary64} (hok : (Resolution.of vs table.keys policy).isOk = true) :
    ∀ v ∈ vs, (((Resolution.of vs table.keys policy).numbers table).bind (·.get? v)).isSome = true := by
  intro v hv
  obtain ⟨captures, selected, hr⟩ := isOk_iff.1 hok
  obtain ⟨key, -, hkey⟩ := (keys_of_ok hr).2 v hv
  rw [hr]
  show ((OrderedMap.mapValues (fun key => (table.get? key).getD .nan) ⟨selected⟩).get? v).isSome = true
  rw [OrderedMap.get?_mapValues, Option.isSome_map, OrderedMap.get?, hkey]
  rfl

theorem numbers_of_not_ok {r : Resolution} (table : OrderedMap String Binary64) (hr : r.isOk = false) : r.numbers table = none := by
  cases r with
  | ok captures keys => cases hr
  | unmatched globs => rfl
  | inconsistent => rfl

end Resolution

/-- **A value is there iff every variable is bound**, and it is what the operators give from the leaves up. It depends
on the entries of the node's own variables only. So a node has a value under the bindings of its own resolution iff that
resolution is ok, and a node without variables has one under any bindings and none. -/
theorem value_iff_bound {α : Type} (K : Carrier α) (n : Node) :
    (∀ entries : Option (OrderedMap Variable (Option α)), (∀ m ∈ entries, m.keys.Nodup) →
      (n.evalWith K (entries.map .present) = none ↔
        ∃ v ∈ n.vars, entries = none ∨ ∃ m ∈ entries, m.get? v = none ∨ m.get? v = some none) ∧
      (∀ x, n.evalWith K (entries.map .present) = some x ↔ n.Yields K (Bindings.worth entries) x) ∧
      ∀ others : Option (OrderedMap Variable (Option α)), (∀ m ∈ others, m.keys.Nodup) →
        (∀ v ∈ n.vars, Bindings.worth others v = Bindings.worth entries v) →
          n.evalWith K (others.map .present) = n.evalWith K (entries.map .present)) ∧
    (∀ (table : OrderedMap String Datum) (policy : TieBreak),
      ((∀ key ∈ table.keys, ∃ d x, table.get? key = some d ∧ d.toBinary64 = .ok x) →
        ∃ bindings, (Resolution.of n.vars table.keys policy).bindings table = .ok bindings) ∧
      ∀ bindings, (Resolution.of n.vars table.keys policy).bindings table = .ok bindings →
        (n.evalWith .binary64 bindings = none ↔ (Resolution.of n.vars table.keys policy).isOk = false)) ∧
    (∀ (table : OrderedMap String Binary64) (policy : TieBreak),
      n.evalWith .binary64 ((Resolution.of n.vars table.keys policy).numbers table) = none ↔
        (Resolution.of n.vars table.keys policy).isOk = false) ∧
    (n.vars = [] → (∀ bindings, (n.evalWith K bindings).isSome = true) ∧
      ∀ (table : OrderedMap String Datum) (policy : TieBreak), ∃ bindings,
        (Resolution.of n.vars table.keys policy).bindings table = .ok bindings ∧
          (n.evalWith .binary64 bindings).isSome = true) := by
  refine ⟨fun entries hentries => ⟨?_, fun x => ?_, fun others hothers hagree => ?_⟩, fun table policy => ⟨?_, ?_⟩, ?_, ?_⟩
  · rw [Node.evalWith_present K n hentries, Node.eval_eq_none_iff]
    exact exists_congr fun v => and_congr_right fun _ => Bindings.worth_eq_none_iff
  · rw [Node.evalWith_present K n hentries, Node.yields_iff]
  · rw [Node.evalWith_present K n hentries, Node.evalWith_present K n hothers]
    exact Node.eval_congr K n hagree
  · exact Resolution.exists_bindings
  · intro bindings h
    exact Node.evalWith_of_resolution .binary64 (Resolution.isSome_of_bindings h) (Resolution.bindings_of_not_ok h)
  · intro table policy
    exact Node.evalWith_of_resolution .binary64 Resolution.isSome_of_numbers (Resolution.numbers_of_not_ok table)
  · intro hvars
    have hall : ∀ {β : Type} (L : Carrier β) (bindings : Option (Bindings β)), (n.evalWith L bindings).isSome = true := by
      intro β L bindings
      refine (Node.eval_isSome_iff L _ n).2 fun v hv => ?_
      rw [hvars] at hv
      exact absurd hv List.not_mem_nil
    refine ⟨hall K, fun table policy => ⟨some ⟨[]⟩, ?_, hall .binary64 _⟩⟩
    rw [hvars]
    rfl

/-- A size that is listed without a value, and one that is read from a text. -/
theorem value_iff_bound_missing :
    let used : Variable := ⟨⟨"*.used"⟩, by decide⟩
    let size : Variable := ⟨⟨"*.size"⟩, by decide⟩
    let n : Node := .expr (.binary .divide (.var used) (.var size))
    let entries : OrderedMap Variable (Option Binary64) := ⟨[(size, none), (used, some (.ofInt 3))]⟩
    let table : OrderedMap String Datum := ⟨[("a.used", .integer 3), ("a.size", .text " 4 ")]⟩
    let bindings : Bindings Binary64 := ⟨[(used, .ofInt 3), (size, .ofInt 4)]⟩
    entries.keys.Nodup ∧ n.evalWith .binary64 (some (.present entries)) = none ∧
      (Resolution.of n.vars table.keys .first).bindings table = .ok (some bindings) ∧
      n.evalWith .binary64 (some bindings) ≠ none := by
  intro used size n entries table bindings
  have hkeys : entries.keys.Nodup := by decide
  have hok : Resolution.of n.vars table.keys .first = .ok ["a"] [(used, "a.used"), (size, "a.size")] := by decide
  have hbind : (Resolution.of n.vars table.keys .first).bindings table = .ok (some bindings) := by
    rw [hok]
    rfl
  obtain ⟨hentries, htable, -, -⟩ := value_iff_bound .binary64 n
  have hnone := (hentries (some entries) (fun m hm => Option.some.inj hm ▸ hkeys)).1
  refine ⟨hkeys, hnone.2 ⟨size, by decide, .inr ⟨entries, rfl, .inr (by decide)⟩⟩, hbind, fun h => ?_⟩
  have hnot := ((htable table .first).2 _ hbind).1 h
  rw [hok] at hnot
  cases hnot

end MetricExpr
