import MetricExpr.Proofs.Glob.Greedy
import MetricExpr.Proofs.Resolution.Outcome
/-!
# When a consistent choice is found

Runs are a consistent choice if every glob filled with them is a key. A resolution looks only at the runs that a match
captures, which are one of many choices for a key. So it is ok iff some consistent choice is captured throughout
(`ok_iff_consistent`), and it finds every consistent choice where no key can be split in two ways, such as for globs
with one wildcard. With two wildcards it can miss one (`consistent_unresolved`).
-/
namespace MetricExpr

/-- Every variable's glob filled with these runs is a key. -/
def Consistent (vs : List Variable) (keys : List String) (runs : List String) : Prop :=
  ∀ v ∈ vs, runs.length = v.wildcards ∧ v.glob.fill runs ∈ keys

instance (vs : List Variable) (keys runs : List String) : Decidable (Consistent vs keys runs) :=
  inferInstanceAs (Decidable (∀ v ∈ vs, runs.length = v.wildcards ∧ v.glob.fill runs ∈ keys))

namespace Glob

/-- A key that the glob can be split over in one way at most. -/
def Unambiguous (g : Glob) (key : String) : Prop :=
  ∀ runs runs', g.Spells runs key → g.Spells runs' key → runs = runs'

variable {g : Glob} {key : String}

theorem Unambiguous.captures_eq (h : g.Unambiguous key) {runs : List String} (hruns : g.Spells runs key) :
    g.captures? key = some runs := by
  obtain ⟨captures, hc⟩ := Option.isSome_iff_exists.1 (captures_isSome hruns)
  rw [hc, h captures runs (spells_captures hc) hruns]

theorem fillTails_inj : ∀ {tails runs runs' : List (List Char)}, tails.length ≤ 1 → runs.length = tails.length →
    runs'.length = tails.length → fillTails tails runs = fillTails tails runs' → runs = runs'
  | [], runs, runs', _, h, h', _ => by
    rw [List.length_eq_zero_iff.1 h, List.length_eq_zero_iff.1 h']
  | [lit], runs, runs', _, h, h', heq => by
    obtain ⟨run, rfl⟩ := List.length_eq_one_iff.1 h
    obtain ⟨run', rfl⟩ := List.length_eq_one_iff.1 h'
    simp only [fillTails, List.append_assoc] at heq
    rw [List.append_cancel_right heq]
  | _ :: _ :: _, _, _, hle, _, _, _ => absurd hle (by simp)

/-- One wildcard takes all that the literals leave. -/
theorem unambiguous_of_wildcards (h : g.wildcards ≤ 1) (key : String) : g.Unambiguous key := by
  intro runs runs' hruns hruns'
  unfold Spells at hruns hruns'
  rw [splitOn_wildcard, spelled_iff] at hruns hruns'
  have hle : (split g.text.toList).2.length ≤ 1 := Nat.le_trans (Nat.le_of_eq (length_split g.text.toList)) h
  have hfill := List.append_cancel_left (hruns.2.trans hruns'.2.symm)
  have hmap := fillTails_inj hle hruns.1 hruns'.1 hfill
  exact List.map_injective_iff.2 (fun _ _ => String.toList_inj.1) hmap

end Glob

variable {vs : List Variable} {keys runs : List String}

theorem shared_iff_consistent :
    Shared vs keys runs ↔ Consistent vs keys runs ∧ ∀ v ∈ vs, v.glob.captures? (v.glob.fill runs) = some runs := by
  constructor
  · intro h
    refine ⟨fun v hv => ?_, fun v hv => ?_⟩
    · obtain ⟨key, hkey, hc⟩ := h v hv
      rw [Glob.fill_captures hc]
      exact ⟨Glob.length_captures hc, hkey⟩
    · obtain ⟨key, hkey, hc⟩ := h v hv
      rw [Glob.fill_captures hc]
      exact hc
  · rintro ⟨h, hc⟩ v hv
    exact ⟨_, (h v hv).2, hc v hv⟩

theorem Consistent.shared (h : Consistent vs keys runs) (hone : ∀ v ∈ vs, ∀ key ∈ keys, v.glob.Unambiguous key) :
    Shared vs keys runs := by
  refine shared_iff_consistent.2 ⟨h, fun v hv => ?_⟩
  obtain ⟨hlen, hkey⟩ := h v hv
  exact (hone v hv _ hkey).captures_eq (Glob.spells_iff.2 ⟨hlen, rfl⟩)

theorem Resolution.isOk_iff_consistent (hvs : vs ≠ []) {policy : TieBreak}
    (hone : ∀ v ∈ vs, ∀ key ∈ keys, v.glob.Unambiguous key) :
    (Resolution.of vs keys policy).isOk = true ↔ ∃ runs, Consistent vs keys runs := by
  rw [Resolution.isOk_iff_shared hvs]
  exact exists_congr fun runs => ⟨fun h => (shared_iff_consistent.1 h).1, fun h => h.shared hone⟩

/-- **A resolution is ok iff some consistent choice is captured by every variable.** Where every key splits in one way
only, and for variables with one wildcard at most, it is ok iff there is any consistent choice. -/
theorem ok_iff_consistent (vs : List Variable) (hvs : vs ≠ []) (table : OrderedMap String Datum) (policy : TieBreak) :
    ((Resolution.of vs table.keys policy).isOk = true ↔
      ∃ runs, Consistent vs table.keys runs ∧ ∀ v ∈ vs, v.glob.captures? (v.glob.fill runs) = some runs) ∧
    ((∀ v ∈ vs, ∀ key ∈ table.keys, v.glob.Unambiguous key) →
      ((Resolution.of vs table.keys policy).isOk = true ↔ ∃ runs, Consistent vs table.keys runs)) ∧
    ((∀ v ∈ vs, v.wildcards ≤ 1) →
      ((Resolution.of vs table.keys policy).isOk = true ↔ ∃ runs, Consistent vs table.keys runs)) := by
  refine ⟨?_, Resolution.isOk_iff_consistent hvs, fun hone => ?_⟩
  · rw [Resolution.isOk_iff_shared hvs]
    exact exists_congr fun runs => shared_iff_consistent
  · exact Resolution.isOk_iff_consistent hvs fun v hv key _ => Glob.unambiguous_of_wildcards (hone v hv) key

/-- Keys of which one alone has the runs of the other glob. -/
theorem ok_iff_consistent_used :
    let used : Variable := ⟨⟨"*.used"⟩, by decide⟩
    let disk : Variable := ⟨⟨"disk.*"⟩, by decide⟩
    let table : OrderedMap String Datum := ⟨[("disk.a", .integer 1), ("a.used", .integer 2), ("disk.b", .null)]⟩
    Consistent [used, disk] table.keys ["a"] ∧ (Resolution.of [used, disk] table.keys .first).isOk = true := by
  intro used disk table
  have hconsistent : Consistent [used, disk] table.keys ["a"] := by decide
  have hiff := (ok_iff_consistent [used, disk] (List.cons_ne_nil _ _) table .first).2.2 (by decide)
  exact ⟨hconsistent, hiff.2 ⟨_, hconsistent⟩⟩

/-- **A consistent choice can be missed.** The first key is captured as `eu.q` and `orders`, and in no other way. -/
theorem consistent_unresolved :
    let queued : Variable := ⟨⟨"*.q.*"⟩, by decide⟩
    let limit : Variable := ⟨⟨"*.limit.*"⟩, by decide⟩
    let table : OrderedMap String Datum :=
      ⟨[("eu.q.q.orders", .real (.ofInt 1)), ("eu.limit.q.orders", .real (.ofInt 5))]⟩
    Consistent [queued, limit] table.keys ["eu", "q.orders"] ∧
      Resolution.of [queued, limit] table.keys .first = .inconsistent ∧
      Resolution.of [queued, limit] table.keys .last = .inconsistent := by
  decide

end MetricExpr
