import Mathlib.Data.List.Forall2
import MetricExpr.Proofs.Except
import MetricExpr.Proofs.Frame.Rows
/-!
# Faults of frames are faults of selected columns

A node is resolved against the labels of a frame, then the selected labels are looked for in more than one column, and
only then are cells read, column by column in the order of the leaves. The fault of a frame is the first that this comes
to (`frame_faults`). The cells of other columns are never read, so they make no difference (`AgreeOn.eval_eq`).
-/
namespace MetricExpr

/-- What a frame of samples has in its cells. -/
def Datum.isSample : Datum → Bool
  | .real _ | .flag _ | .null | .text _ | .list _ => true
  | _ => false

/-- Why a cell has no double: a list has none, and a text has none unless it is a numeral. A missing cell is NaN. -/
def Datum.cellFault? : Datum → Option CellFault
  | .list _ => some .sequence
  | .text s => if (Binary64.ofText? s).isNone then some (.conversion (.malformed s)) else none
  | _ => none

/-- The labels that a resolution selects. -/
def Resolution.labels : Resolution → List String
  | ok _ keys => keys.map (·.2)
  | _ => []

/-- Where at most one member has a property, it is found from either end. -/
theorem find?_reverse {α : Type} {p : α → Bool} : ∀ {xs : List α}, xs.countP p ≤ 1 → xs.reverse.find? p = xs.find? p
  | [], _ => rfl
  | x :: xs, h => by
    rw [List.reverse_cons, List.find?_append, List.find?_cons, List.find?_cons]
    by_cases hx : p x = true
    · rw [List.countP_cons_of_pos hx] at h
      have hnone : xs.reverse.find? p = none := by
        rw [List.find?_eq_none]
        intro y hy
        exact List.countP_eq_zero.1 (by omega) y (List.mem_reverse.1 hy)
      simp [hx, hnone]
    · rw [List.countP_cons_of_neg hx] at h
      simp [hx, find?_reverse h]

namespace Column

/-- What is wrong with the first cell that has no double. -/
def fault? (c : Column) : Option CellFault := c.cells.findSome? Datum.cellFault?

theorem faultOf_number (label : String) {d : Datum} (hd : d.isSample = true) :
    faultOf (number label d) = d.cellFault?.map (.notNumeric label) := by
  cases d with
  | text s => cases h : Binary64.ofText? s <;> simp [number, Datum.toBinary64, Datum.cellFault?, faultOf, h]
  | null | flag | real | list => rfl
  | integer | date | mapping | other | cycle => cases hd

theorem faultOf_numbers {c : Column} (hc : ∀ d ∈ c.cells, d.isSample = true) :
    faultOf c.numbers = c.fault?.map (.notNumeric c.label) := by
  rw [numbers, fault?, List.map_findSome?]
  exact faultOf_mapM fun d hd => faultOf_number c.label (hc d hd)

end Column

namespace Frame

/-- A frame of samples: doubles, flags, texts, lists and missing cells. Labels may repeat. -/
def OfSamples (f : Frame) : Prop := ∀ c ∈ f.columns, ∀ d ∈ c.cells, d.isSample = true

/-- What is wrong with the column that a variable is resolved to, with its label. -/
def selectedFault? (f : Frame) (selected : List (Variable × String)) (v : Variable) : Option (String × CellFault) :=
  (selected.lookup v).bind fun label => (f.columns.find? (·.label == label)).bind fun c => c.fault?.map (label, ·)

variable {f g : Frame}

/-! ## The first fault -/

section Columns

variable (f) (keys : OrderedMap Variable String)

/-- **Columns are read in the order of the leaves**, up to the first that has a fault. -/
theorem faultOf_evalColumns : ∀ e : Expr,
    faultOf (f.evalColumns keys e) = e.vars.findSome? fun v => faultOf (f.variableColumn keys v)
  | .const _ => rfl
  | .var v => by simp [evalColumns, Expr.vars]
  | .binary op l r => by
    rw [evalColumns, faultOf_both, faultOf_evalColumns l, faultOf_evalColumns r, Expr.vars, List.findSome?_append]

theorem faultOf_evalSeries (n : Node) :
    faultOf (f.evalSeries keys n) = n.vars.findSome? fun v => faultOf (f.variableColumn keys v) := by
  cases n with
  | expr e => rw [evalSeries, faultOf_map, faultOf_evalColumns, Node.vars]
  | comparison rel l r =>
    rw [evalSeries, faultOf_both (fun xs ys => Series.truths (List.zipWith rel.apply xs ys)), faultOf_evalColumns,
      faultOf_evalColumns, Node.vars, List.findSome?_append]

end Columns

/-- Where no selected label is repeated, the fault of a variable is that of the column of its label. -/
theorem faultOf_variableColumn (hf : f.OfSamples) {selected : List (Variable × String)}
    (hunique : ∀ p ∈ selected, f.labels.count p.2 ≤ 1) (v : Variable) :
    faultOf (f.variableColumn ⟨selected⟩ v) =
      (f.selectedFault? selected v).map fun fault => .notNumeric fault.1 fault.2 := by
  unfold variableColumn selectedFault? OrderedMap.get?
  cases hlook : selected.lookup v with
  | none => rfl
  | some label =>
    obtain ⟨before, after, hsplit, -⟩ := List.lookup_eq_some_iff.1 hlook
    have hcount : f.columns.countP (·.label == label) ≤ 1 := by
      have hlabel := hunique (v, label) (by simp [hsplit])
      rwa [labels, List.count, List.countP_map] at hlabel
    rw [Option.bind_some, Option.bind_some, column?, find?_reverse hcount]
    cases hfind : f.columns.find? (·.label == label) with
    | none => rfl
    | some c =>
      have hlabel : c.label = label := by simpa using List.find?_some hfind
      have hc := Column.faultOf_numbers (hf c (List.mem_of_find?_eq_some hfind))
      rw [Option.bind_some, Option.map_map]
      show faultOf c.numbers = _
      rw [hc, hlabel]
      rfl

/-- **The fault of a resolved frame without repeated labels** is that of the first leaf with a faulty column. -/
theorem faultOf_evalSeries_selected (hf : f.OfSamples) {selected : List (Variable × String)}
    (hunique : ∀ p ∈ selected, f.labels.count p.2 ≤ 1) (n : Node) :
    faultOf (f.evalSeries ⟨selected⟩ n) =
      (n.vars.findSome? (f.selectedFault? selected)).map fun fault => .notNumeric fault.1 fault.2 := by
  rw [faultOf_evalSeries, List.map_findSome?]
  congr 1
  funext v
  exact faultOf_variableColumn hf hunique v

/-- What a frame comes to once its labels are resolved. -/
theorem eval_of_ok {n : Node} {policy : TieBreak} {captures : List String} {selected : List (Variable × String)}
    (hr : Resolution.of n.vars f.labels policy = .ok captures selected) :
    f.eval n policy =
      match selected.find? fun p => 1 < f.labels.count p.2 with
      | some p => .error (.notUnique p.2)
      | none => (f.evalSeries ⟨selected⟩ n).map some := by
  have hrepeated : f.repeated? (distinct (selected.map (·.2))) =
      (selected.find? fun p => 1 < f.labels.count p.2).map (·.2) := by
    rw [repeated?, find?_distinct, List.find?_map]
    rfl
  rw [eval, hr, evalResolved, hrepeated]
  cases selected.find? fun p => 1 < f.labels.count p.2 <;> rfl

theorem eval_eq_none_iff {n : Node} {policy : TieBreak} :
    f.eval n policy = .ok none ↔ (Resolution.of n.vars f.labels policy).isOk = false := by
  refine ⟨fun hnone => ?_, eval_eq_none⟩
  rw [← Bool.not_eq_true]
  intro hok
  obtain ⟨captures, selected, hr⟩ := Resolution.isOk_iff.1 hok
  rw [eval_of_ok hr] at hnone
  split at hnone
  · cases hnone
  · obtain ⟨s, -, hs⟩ := map_eq_ok_iff.1 hnone
    cases hs

/-! ## Columns that are not selected -/

/-- Two frames of the same rows and labels that agree on the cells of some columns. -/
structure AgreeOn (selected : List String) (f g : Frame) : Prop where
  rows : f.rows = g.rows
  columns : List.Forall₂ (fun c d => c.label = d.label ∧ (c.label ∈ selected → c.cells = d.cells)) f.columns g.columns

namespace AgreeOn

variable {f g : Frame} {selected : List String}

theorem labels_eq (h : AgreeOn selected f g) : f.labels = g.labels := by
  obtain ⟨-, hcolumns⟩ := h
  unfold labels
  generalize f.columns = cs at hcolumns
  generalize g.columns = ds at hcolumns
  induction hcolumns with
  | nil => rfl
  | cons hcolumn _ ih => rw [List.map_cons, List.map_cons, hcolumn.1, ih]

theorem column?_eq (h : AgreeOn selected f g) {label : String} (hlabel : label ∈ selected) :
    f.column? label = g.column? label := by
  have hcolumns := List.forall₂_reverse_iff.2 h.columns
  unfold column?
  generalize f.columns.reverse = cs at hcolumns
  generalize g.columns.reverse = ds at hcolumns
  induction hcolumns with
  | nil => rfl
  | @cons c d _ _ hcolumn _ ih =>
    obtain ⟨hname, hcells⟩ := hcolumn
    rw [List.find?_cons, List.find?_cons, ih, ← hname]
    by_cases hc : c.label = label
    · have hcd : c = d := by
        cases c
        cases d
        exact congrArg₂ Column.mk hname (hcells (hc ▸ hlabel))
      rw [hcd]
    · rw [beq_false_of_ne hc]

theorem evalColumns_eq (h : AgreeOn selected f g) {keys : OrderedMap Variable String}
    (hkeys : ∀ v label, keys.get? v = some label → label ∈ selected) :
    ∀ e : Expr, f.evalColumns keys e = g.evalColumns keys e
  | .const x => by rw [evalColumns, evalColumns, h.rows]
  | .var v => by
    rw [evalColumns, evalColumns, variableColumn, variableColumn, h.rows]
    cases hv : keys.get? v with
    | none => rfl
    | some label => rw [Option.bind_some, Option.bind_some, h.column?_eq (hkeys v label hv)]
  | .binary op l r => by rw [evalColumns, evalColumns, h.evalColumns_eq hkeys l, h.evalColumns_eq hkeys r]

/-- **Cells of columns that are not selected make no difference.** -/
theorem eval_eq {n : Node} {policy : TieBreak} (h : AgreeOn (Resolution.of n.vars f.labels policy).labels f g) :
    f.eval n policy = g.eval n policy := by
  unfold eval
  rw [← h.labels_eq]
  cases hr : Resolution.of n.vars f.labels policy with
  | unmatched globs => rfl
  | inconsistent => rfl
  | ok captures selected =>
    rw [hr] at h
    have hkeys : ∀ v label, OrderedMap.get? ⟨selected⟩ v = some label →
        label ∈ (Resolution.ok captures selected).labels := by
      intro v label hv
      obtain ⟨before, after, rfl, -⟩ := List.lookup_eq_some_iff.1 hv
      simp [Resolution.labels]
    have hseries : f.evalSeries ⟨selected⟩ n = g.evalSeries ⟨selected⟩ n := by
      cases n <;> simp only [evalSeries, h.evalColumns_eq hkeys]
    rw [evalResolved, evalResolved, repeated?, repeated?, h.labels_eq, hseries]

end AgreeOn

end Frame

/-- **The faults of a frame are faults of selected columns.** A frame of samples has no series iff the labels do not
resolve. Otherwise the fault is the first selected key, by the order of the distinct variables, that labels more than one
column; or else it is the fault of the first column, by the order of the leaves, that has a cell without a double; or
else there is a series. Frames that agree on the selected columns have the same outcome. -/
theorem frame_faults (f : Frame) (hf : f.OfSamples) (n : Node) (policy : TieBreak) :
    (f.eval n policy = .ok none ↔ (Resolution.of n.vars f.labels policy).isOk = false) ∧
    (∀ captures selected, Resolution.of n.vars f.labels policy = .ok captures selected →
      selected.map (·.1) = distinct n.vars ∧
      (∀ v label, selected.find? (fun p => 1 < f.labels.count p.2) = some (v, label) →
        f.eval n policy = .error (.notUnique label)) ∧
      (selected.find? (fun p => 1 < f.labels.count p.2) = none →
        (∀ label cause, n.vars.findSome? (f.selectedFault? selected) = some (label, cause) →
          f.eval n policy = .error (.notNumeric label cause)) ∧
        (n.vars.findSome? (f.selectedFault? selected) = none → ∃ s, f.eval n policy = .ok (some s)))) ∧
    ∀ g, Frame.AgreeOn (Resolution.of n.vars f.labels policy).labels f g → g.eval n policy = f.eval n policy := by
  refine ⟨Frame.eval_eq_none_iff, fun captures selected hr => ?_, fun g h => h.eval_eq.symm⟩
  rw [Frame.eval_of_ok hr]
  refine ⟨Resolution.vars_of_ok hr, fun v label hfind => by rw [hfind], fun hfind => ?_⟩
  have hunique : ∀ p ∈ selected, f.labels.count p.2 ≤ 1 := by simpa using hfind
  have hfault := Frame.faultOf_evalSeries_selected hf hunique n
  rw [hfind]
  refine ⟨fun label cause h => ?_, fun h => ?_⟩
  · rw [h] at hfault
    exact map_eq_error_iff.2 (faultOf_eq_some_iff.1 hfault)
  · rw [h] at hfault
    obtain ⟨s, hs⟩ := faultOf_eq_none_iff.1 hfault
    exact ⟨s, map_eq_ok_iff.2 ⟨s, hs, rfl⟩⟩

/-- Two selected columns have faults, and the fault is that of the leaf in front. The label that is repeated and the cells
under it take no part until it is selected. -/
theorem frame_faults_list :
    let used : Variable := ⟨⟨"disk.*.used"⟩, by decide⟩
    let size : Variable := ⟨⟨"*:size"⟩, by decide⟩
    let n : Node := .expr (.binary .divide (.var size) (.binary .plus (.var used) (.var size)))
    let a : List Column := [⟨"disk.a.used", [.flag true, .text "full"]⟩, ⟨"a:size", [.null, .list [.null]]⟩]
    let b : List Column := [⟨"disk.b.used", [.text "1e2", .null]⟩, ⟨"disk.b.used", [.null, .null]⟩]
    let b' : List Column := [⟨"disk.b.used", [.text "?", .null]⟩, ⟨"disk.b.used", [.list [], .null]⟩]
    let f : Frame := ⟨[.integer 0, .integer 1], a ++ b⟩
    let g : Frame := ⟨[.integer 0, .integer 1], a ++ b'⟩
    f.OfSamples ∧ f.eval n .first = .error (.notNumeric "a:size" .sequence) ∧
      f.eval (.expr (.var used)) .last = .error (.notUnique "disk.b.used") ∧
      Frame.AgreeOn ["a:size", "disk.a.used"] f g ∧ g.eval n .first = .error (.notNumeric "a:size" .sequence) := by
  intro used size n a b b' f g
  have hf : f.OfSamples := by
    unfold Frame.OfSamples
    decide
  have hr : Resolution.of n.vars f.labels .first = .ok ["a"] [(size, "a:size"), (used, "disk.a.used")] := by decide
  have hr' : Resolution.of [used] f.labels .last = .ok ["b"] [(used, "disk.b.used")] := by decide
  have hagree : Frame.AgreeOn (Resolution.of n.vars f.labels .first).labels f g := by
    rw [hr]
    exact ⟨rfl, .cons ⟨rfl, fun _ => rfl⟩ (.cons ⟨rfl, fun _ => rfl⟩ (.cons ⟨rfl, fun h => absurd h (by decide)⟩
      (.cons ⟨rfl, fun h => absurd h (by decide)⟩ .nil)))⟩
  have hfault := ((frame_faults f hf n .first).2.1 _ _ hr).2.2 (by decide) |>.1 "a:size" .sequence (by decide)
  have hrepeated := ((frame_faults f hf (.expr (.var used)) .last).2.1 _ _ hr').2.1 used "disk.b.used" (by decide)
  have hsame := (frame_faults f hf n .first).2.2 g hagree
  rw [hr] at hagree
  exact ⟨hf, hfault, hrepeated, hagree, hsame.trans hfault⟩

end MetricExpr
