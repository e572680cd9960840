import Mathlib.Data.List.Nodup
import MetricExpr.Frame
import MetricExpr.Proofs.Expr.Evaluation
import MetricExpr.Proofs.Resolution.Soundness
/-!
# A frame is evaluated row by row

A node is resolved once against the labels of a frame and evaluated on whole columns. On a frame of doubles this gives,
in each row, the value of the node under the symbol table of that row (`eval_eq_rows`): which keys are selected depends
on the labels only, and the columns of an expression hold in each row what the expression is worth there
(`evalColumns_rows`).
-/
namespace MetricExpr

namespace Frame

/-- The frames of doubles: pairwise distinct labels, and in each column one double for each row. -/
structure OfDoubles (f : Frame) : Prop where
  nodup_labels : f.labels.Nodup
  doubles : ∀ c ∈ f.columns, ∃ xs : List Binary64, xs.length = f.rows.length ∧ c.cells = xs.map .real

/-- The symbol table of a row: every label with its cell there, in the order of the columns. -/
def row (f : Frame) (i : Nat) : OrderedMap String Datum :=
  ⟨f.columns.map fun c => (c.label, c.cells.getD i .null)⟩

@[simp] theorem keys_row (f : Frame) (i : Nat) : (f.row i).keys = f.labels := by
  unfold row OrderedMap.keys labels
  rw [List.map_map]
  rfl

variable {f : Frame}

theorem label_inj (hf : f.labels.Nodup) {c c' : Column} (hc : c ∈ f.columns) (hc' : c' ∈ f.columns)
    (h : c.label = c'.label) : c = c' :=
  List.inj_on_of_nodup_map hf hc hc' h

theorem column?_of_mem (hf : f.labels.Nodup) {c : Column} (hc : c ∈ f.columns) : f.column? c.label = some c := by
  refine find?_of_nodup ?_ (List.mem_reverse.2 hc)
  rw [List.map_reverse]
  exact List.nodup_reverse.2 hf

theorem get?_row (hf : f.labels.Nodup) {c : Column} (hc : c ∈ f.columns) (i : Nat) :
    (f.row i).get? c.label = some (c.cells.getD i .null) :=
  lookup_map (fun _ hc' h => label_inj hf hc' hc h) hc

theorem repeated?_eq_none (hf : f.labels.Nodup) (keys : List String) : f.repeated? keys = none := by
  unfold repeated?
  rw [List.find?_eq_none]
  intro key _
  have hcount := List.nodup_iff_count_le_one.1 hf key
  simpa using hcount

end Frame

theorem Column.numbers_of_doubles {c : Column} {xs : List Binary64} (h : c.cells = xs.map .real) :
    c.numbers = .ok xs := by
  unfold Column.numbers
  rw [h]
  clear h
  induction xs with
  | nil => rfl
  | cons x xs ih =>
    rw [List.map_cons, List.mapM_cons, ih]
    rfl

namespace Frame

variable {f : Frame}

/-- What a variable's label holds, as a column and in the symbol table of each row. -/
theorem OfDoubles.cells_of_label (hf : f.OfDoubles) {key : String} (hkey : key ∈ f.labels) :
    ∃ xs, (f.column? key).map Column.numbers = some (.ok xs) ∧ xs.length = f.rows.length ∧
      ∀ i < f.rows.length, ∃ x, xs[i]? = some x ∧ (f.row i).get? key = some (.real x) := by
  obtain ⟨c, hc, rfl⟩ := List.mem_map.1 hkey
  obtain ⟨xs, hlen, hcells⟩ := hf.doubles c hc
  refine ⟨xs, ?_, hlen, fun i hi => ?_⟩
  · rw [column?_of_mem hf.nodup_labels hc, Option.map_some, Column.numbers_of_doubles hcells]
  · have hi' : i < xs.length := hlen ▸ hi
    refine ⟨xs[i], List.getElem?_eq_getElem hi', ?_⟩
    rw [get?_row hf.nodup_labels hc, hcells]
    simp [List.getD_eq_getElem?_getD, hi']

/-- Every row binds all variables that the labels resolve. -/
theorem OfDoubles.exists_bindings (hf : f.OfDoubles) {captures : List String} {selected : List (Variable × String)}
    (hsel : ∀ p ∈ selected, p.2 ∈ f.labels) {i : Nat} (hi : i < f.rows.length) :
    ∃ b, (Resolution.ok captures selected).bindings (f.row i) = .ok (some b) ∧
      Resolution.bindEach (f.row i) selected = .ok b.entries := by
  have hnumber : ∀ p ∈ selected, ∃ x, (((f.row i).get? p.2).getD .null).toBinary64 = .ok x := by
    intro p hp
    obtain ⟨xs, -, -, hrow⟩ := hf.cells_of_label (hsel p hp)
    obtain ⟨x, -, hx⟩ := hrow i hi
    exact ⟨x, by rw [hx]; rfl⟩
  obtain ⟨entries, he⟩ := Resolution.bindEach_total hnumber
  exact ⟨⟨entries⟩, by rw [Resolution.bindings, he]; rfl, he⟩

/-- A column holds in each row the value that something has there. -/
def HoldsRows {α : Type} (f : Frame) (column : Except FrameFault (List α)) (value : Nat → Option α) : Prop :=
  ∃ xs, column = .ok xs ∧ xs.length = f.rows.length ∧ ∀ i < f.rows.length, xs[i]? = value i

theorem holdsRows_const {α : Type} (f : Frame) (x : α) : f.HoldsRows (.ok (f.rows.map fun _ => x)) fun _ => some x := by
  refine ⟨_, rfl, List.length_map _, fun i hi => ?_⟩
  rw [List.getElem?_map, List.getElem?_eq_getElem hi, Option.map_some]

/-- Two columns taken together hold in each row what their values give together. -/
theorem HoldsRows.zipWith {α β γ : Type} (g : α → β → γ) {left : Except FrameFault (List α)}
    {right : Except FrameFault (List β)} {x : Nat → Option α} {y : Nat → Option β} (hl : f.HoldsRows left x)
    (hr : f.HoldsRows right y) :
    f.HoldsRows (do let xs ← left; let ys ← right; return List.zipWith g xs ys)
      fun i => (x i).bind fun a => (y i).map (g a) := by
  obtain ⟨xs, rfl, hlx, hx⟩ := hl
  obtain ⟨ys, rfl, hly, hy⟩ := hr
  refine ⟨List.zipWith g xs ys, rfl, ?_, fun i hi => ?_⟩
  · rw [List.length_zipWith, hlx, hly, Nat.min_self]
  · have hix : i < xs.length := hlx ▸ hi
    have hiy : i < ys.length := hly ▸ hi
    show _ = (x i).bind fun a => (y i).map (g a)
    rw [← hx i hi, ← hy i hi, List.getElem?_zipWith, List.getElem?_eq_getElem hix, List.getElem?_eq_getElem hiy]
    rfl

theorem HoldsRows.map {α β : Type} (g : α → β) {column : Except FrameFault (List α)} {x : Nat → Option α}
    (h : f.HoldsRows column x) : f.HoldsRows (column.map (List.map g)) fun i => (x i).map g := by
  obtain ⟨xs, rfl, hlen, hx⟩ := h
  refine ⟨xs.map g, rfl, by rw [List.length_map, hlen], fun i hi => ?_⟩
  rw [List.getElem?_map, hx i hi]

section Columns

variable (keys : OrderedMap Variable String) (env : Nat → Variable → Option Binary64)

/-- **The columns of an expression hold in each row what the expression is worth there**, once those of its variables
do. -/
theorem evalColumns_rows : ∀ e : Expr, (∀ v ∈ e.vars, f.HoldsRows (f.variableColumn keys v) fun i => env i v) →
    f.HoldsRows (f.evalColumns keys e) fun i => e.eval .binary64 (env i)
  | .const x, _ => holdsRows_const f _
  | .var v, h => h v List.mem_cons_self
  | .binary op l r, h => by
    rw [Expr.vars, List.forall_mem_append] at h
    have hz := (evalColumns_rows l h.1).zipWith op.apply (evalColumns_rows r h.2)
    simp only [Expr.eval_binary]
    exact hz

theorem evalSeries_rows (n : Node) (h : ∀ v ∈ n.vars, f.HoldsRows (f.variableColumn keys v) fun i => env i v) :
    f.HoldsRows ((f.evalSeries keys n).map Series.values) fun i => n.eval .binary64 (env i) := by
  cases n with
  | expr e =>
    have hs : (f.evalSeries keys (.expr e)).map Series.values = (f.evalColumns keys e).map (List.map .number) := by
      rw [evalSeries]
      cases f.evalColumns keys e <;> rfl
    rw [hs]
    exact (evalColumns_rows keys env e h).map Outcome.number
  | comparison rel l r =>
    rw [Node.vars, List.forall_mem_append] at h
    have hz := (evalColumns_rows keys env l h.1).zipWith rel.apply (evalColumns_rows keys env r h.2)
    have hs : (f.evalSeries keys (.comparison rel l r)).map Series.values =
        (do let xs ← f.evalColumns keys l; let ys ← f.evalColumns keys r; return List.zipWith rel.apply xs ys :
          Except FrameFault _).map (List.map .truth) := by
      rw [evalSeries]
      cases f.evalColumns keys l <;> cases f.evalColumns keys r <;> rfl
    have hv : ∀ i, (Node.comparison rel l r).eval .binary64 (env i) =
        ((l.eval .binary64 (env i)).bind fun x => (r.eval .binary64 (env i)).map (rel.apply x)).map .truth := by
      intro i
      rw [Node.eval_comparison]
      cases l.eval .binary64 (env i) <;> cases r.eval .binary64 (env i) <;> rfl
    simp only [hs, hv]
    exact hz.map Outcome.truth

end Columns

/-- A frame whose labels resolve has the series that holds in each row the value under the symbol table of the row. -/
theorem OfDoubles.series_of_ok (hf : f.OfDoubles) {n : Node} {policy : TieBreak} {captures : List String}
    {selected : List (Variable × String)} (hok : Resolution.of n.vars f.labels policy = .ok captures selected) :
    ∃ s, f.eval n policy = .ok (some s) ∧ s.values.length = f.rows.length ∧
      ∀ i < f.rows.length, ∃ b, (Resolution.ok captures selected).bindings (f.row i) = .ok (some b) ∧
        s.values[i]? = n.evalWith .binary64 (some b) := by
  obtain ⟨hsel, hvars⟩ := Resolution.keys_of_ok hok
  -- what a variable is worth in a row, read off the bindings of that row
  let env (i : Nat) (v : Variable) : Option Binary64 :=
    ((selected.lookup v).bind (f.row i).get?).bind fun d => d.toBinary64.toOption
  have henv : ∀ v ∈ n.vars, f.HoldsRows (f.variableColumn ⟨selected⟩ v) fun i => env i v := by
    intro v hv
    obtain ⟨key, hkey, hlook⟩ := hvars v hv
    obtain ⟨xs, hcol, hlen, hrow⟩ := hf.cells_of_label hkey
    obtain ⟨c, hc, hnum⟩ := Option.map_eq_some_iff.1 hcol
    refine ⟨xs, ?_, hlen, fun i hi => ?_⟩
    · unfold variableColumn OrderedMap.get?
      rw [hlook, Option.bind_some, hc]
      exact hnum
    · obtain ⟨x, hx, hget⟩ := hrow i hi
      show _ = ((selected.lookup v).bind (f.row i).get?).bind _
      rw [hx, hlook, Option.bind_some, hget]
      rfl
  obtain ⟨values, hvalues, hlen, hrows⟩ := evalSeries_rows ⟨selected⟩ env n henv
  cases hs : f.evalSeries ⟨selected⟩ n with
  | error fault => rw [hs] at hvalues; cases hvalues
  | ok s =>
    rw [hs] at hvalues
    cases hvalues
    refine ⟨s, ?_, hlen, fun i hi => ?_⟩
    · unfold eval
      rw [hok, evalResolved, repeated?_eq_none hf.nodup_labels, hs]
      rfl
    · obtain ⟨b, hb, hentries⟩ := hf.exists_bindings hsel hi
      refine ⟨b, hb, (hrows i hi).trans (Node.eval_congr _ n fun v hv => ?_)⟩
      obtain ⟨key, -, hlook⟩ := hvars v hv
      obtain ⟨x, hx, hbound⟩ := Resolution.lookup_bindEach hentries hlook
      show ((selected.lookup v).bind (f.row i).get?).bind _ = b.entries.lookup v
      rw [hbound, hlook, Option.bind_some]
      cases hget : (f.row i).get? key with
      | none => rw [hget] at hx; cases hx
      | some d =>
        rw [hget, Option.getD_some] at hx
        rw [Option.bind_some, hx]
        rfl

theorem eval_eq_none {n : Node} {policy : TieBreak} (h : (Resolution.of n.vars f.labels policy).isOk = false) :
    f.eval n policy = .ok none := by
  unfold eval
  cases hr : Resolution.of n.vars f.labels policy with
  | ok captures selected => rw [hr] at h; cases h
  | unmatched globs => rfl
  | inconsistent => rfl

end Frame

/-- **A frame of doubles is evaluated row by row.** There is no series exactly when a table with the frame's labels as
keys does not resolve; otherwise each row holds the value of the node under the bindings of the row's own table. A node
without variables has its one value in every row. -/
theorem frame_eval_rows (f : Frame) (hf : f.OfDoubles) (n : Node) (policy : TieBreak) :
    (∀ table : OrderedMap String Datum, table.keys = f.labels →
      (f.eval n policy = .ok none ↔ (Resolution.of n.vars table.keys policy).isOk = false)) ∧
    ((Resolution.of n.vars f.labels policy).isOk = true →
      ∃ s, f.eval n policy = .ok (some s) ∧ s.values.length = f.rows.length ∧
        ∀ i < f.rows.length, ∃ b x,
          (Resolution.of n.vars (f.row i).keys policy).bindings (f.row i) = .ok (some b) ∧
            n.evalWith .binary64 (some b) = some x ∧ s.values[i]? = some x) ∧
    (n.vars = [] → ∃ x, n.evalWith .binary64 none = some x ∧
      ∃ s, f.eval n policy = .ok (some s) ∧ s.values = List.replicate f.rows.length x) := by
  refine ⟨fun table htable => ?_, fun hok => ?_, fun hvars => ?_⟩
  · rw [htable]
    refine ⟨fun hnone => ?_, Frame.eval_eq_none⟩
    rw [← Bool.not_eq_true]
    intro hok
    obtain ⟨captures, selected, hr⟩ := Resolution.isOk_iff.1 hok
    obtain ⟨s, hs, -⟩ := hf.series_of_ok hr
    rw [hs] at hnone
    cases hnone
  · obtain ⟨captures, selected, hr⟩ := Resolution.isOk_iff.1 hok
    obtain ⟨s, hs, hlen, hrows⟩ := hf.series_of_ok hr
    refine ⟨s, hs, hlen, fun i hi => ?_⟩
    obtain ⟨b, hb, hvalue⟩ := hrows i hi
    have hi' : i < s.values.length := hlen.symm ▸ hi
    rw [List.getElem?_eq_getElem hi'] at hvalue ⊢
    refine ⟨b, s.values[i], ?_, hvalue.symm, rfl⟩
    rw [Frame.keys_row, hr]
    exact hb
  · have hnone : ∀ env : Variable → Option Binary64, n.eval .binary64 env = n.evalWith .binary64 none := by
      intro env
      refine Node.eval_congr _ n fun v hv => ?_
      rw [hvars] at hv
      exact absurd hv List.not_mem_nil
    have hsome : (n.evalWith .binary64 none).isSome = true := by
      refine (Node.eval_isSome_iff _ _ n).2 fun v hv => ?_
      rw [hvars] at hv
      exact absurd hv List.not_mem_nil
    obtain ⟨x, hx⟩ := Option.isSome_iff_exists.1 hsome
    have hr : Resolution.of n.vars f.labels policy = .ok [] [] := by rw [hvars]; rfl
    obtain ⟨s, hs, hlen, hrows⟩ := hf.series_of_ok hr
    refine ⟨x, hx, s, hs, List.eq_replicate_iff.2 ⟨hlen, fun y hy => ?_⟩⟩
    obtain ⟨i, hi, rfl⟩ := List.getElem_of_mem hy
    obtain ⟨b, -, hvalue⟩ := hrows i (hlen ▸ hi)
    rw [List.getElem?_eq_getElem hi, Node.evalWith, hnone, hx] at hvalue
    exact Option.some.inj hvalue

/-- Two rows with an infinite quotient and a missing sample; the last label takes no part. -/
theorem frame_eval_rows_quotient :
    let used : Variable := ⟨⟨"disk.*.used"⟩, by decide⟩
    let size : Variable := ⟨⟨"*:size"⟩, by decide⟩
    let n : Node := .comparison .gt (.binary .divide (.var used) (.var size)) (.const (.zero false))
    let f : Frame := ⟨[.text "mon", .text "tue"],
      [⟨"a:size", [.real (.zero false), .real (.ofInt 4)]⟩, ⟨"disk.a.used", [.real (.ofInt 3), .real .nan]⟩,
        ⟨"disk.b.used", [.real .nan, .real (.infinity true)]⟩]⟩
    f.OfDoubles ∧ f.eval n .first = .ok (some (.truths [true, false])) ∧
      ∃ s, f.eval n .first = .ok (some s) ∧ s.values.length = 2 ∧
        ∀ i < 2, ∃ b x, (Resolution.of n.vars (f.row i).keys .first).bindings (f.row i) = .ok (some b) ∧
          n.evalWith .binary64 (some b) = some x ∧ s.values[i]? = some x := by
  intro used size n f
  have hf : f.OfDoubles := by
    refine ⟨by decide, fun c hc => ?_⟩
    simp only [f, List.mem_cons, List.not_mem_nil, or_false] at hc
    obtain rfl | rfl | rfl := hc
    · exact ⟨[.zero false, .ofInt 4], rfl, rfl⟩
    · exact ⟨[.ofInt 3, .nan], rfl, rfl⟩
    · exact ⟨[.nan, .infinity true], rfl, rfl⟩
  exact ⟨hf, by decide, (frame_eval_rows f hf n .first).2.1 (by decide)⟩

end MetricExpr
