import MetricExpr.Frame.Samples
import MetricExpr.Proofs.Csv.Tables
import MetricExpr.Proofs.Frame.Faults
import MetricExpr.Proofs.Text.Encoding
/-!
# Frames that sheets give

However its header repeats itself, a sheet gives a frame with distinct labels and with a cell in every column for each row
(`Samples.ofCells_ofSheet`). So a series has a value for each row (`Frame.OfCells.length_eval`), and only a cell that is no
number keeps a frame from having a series once its labels resolve (`Frame.OfCells.eval_eq_error`).
-/
namespace MetricExpr

open Csv

namespace Frame

/-- Distinct labels, and in each column one cell of a sheet for each row. -/
structure OfCells (f : Frame) : Prop where
  nodup_labels : f.labels.Nodup
  length : ∀ c ∈ f.columns, c.cells.length = f.rows.length
  cells : ∀ c ∈ f.columns, ∀ d ∈ c.cells, IsCell d

variable {f : Frame} {keys : OrderedMap Variable String}

/-- A variable's numbers are those of a column, or NaN in each row. -/
theorem variableColumn_cases (keys : OrderedMap Variable String) (v : Variable) :
    (∃ c ∈ f.columns, f.variableColumn keys v = c.numbers) ∨ f.variableColumn keys v = .ok (f.rows.map fun _ => .nan) := by
  unfold variableColumn
  cases hfind : (keys.get? v).bind f.column? with
  | none => exact .inr rfl
  | some c =>
    obtain ⟨key, -, hc⟩ := Option.bind_eq_some_iff.1 hfind
    exact .inl ⟨c, List.mem_reverse.1 (List.mem_of_find?_eq_some hc), rfl⟩

/-! ## One value for each row -/

theorem OfCells.length_variableColumn (hf : f.OfCells) {v : Variable} {xs : List Binary64}
    (h : f.variableColumn keys v = .ok xs) : xs.length = f.rows.length := by
  obtain ⟨c, hc, hv⟩ | hv := f.variableColumn_cases keys v
  · rw [← hf.length c hc]
    exact (mapM_eq_ok_iff.1 (hv.symm.trans h)).length_eq.symm
  · obtain rfl := Except.ok.inj (hv.symm.trans h)
    exact List.length_map _

theorem OfCells.length_evalColumns (hf : f.OfCells) : ∀ {e : Expr} {xs : List Binary64},
    f.evalColumns keys e = .ok xs → xs.length = f.rows.length
  | .const x, xs, h => by
    obtain rfl := Except.ok.inj h
    exact List.length_map _
  | .var v, xs, h => hf.length_variableColumn h
  | .binary op l r, xs, h => by
    obtain ⟨ls, hl, h⟩ := bind_eq_ok_iff.1 h
    obtain ⟨rs, hr, h⟩ := bind_eq_ok_iff.1 h
    obtain rfl := Except.ok.inj h
    simp [hf.length_evalColumns hl, hf.length_evalColumns hr]

theorem OfCells.length_evalSeries (hf : f.OfCells) {n : Node} {s : Series} (h : f.evalSeries keys n = .ok s) :
    s.values.length = f.rows.length := by
  cases n with
  | expr e =>
    obtain ⟨xs, hxs, rfl⟩ := map_eq_ok_iff.1 h
    simp [Series.values, hf.length_evalColumns hxs]
  | comparison rel l r =>
    obtain ⟨ls, hl, h⟩ := bind_eq_ok_iff.1 h
    obtain ⟨rs, hr, h⟩ := bind_eq_ok_iff.1 h
    obtain rfl := Except.ok.inj h
    simp [Series.values, hf.length_evalColumns hl, hf.length_evalColumns hr]

theorem OfCells.eval_of_ok (hf : f.OfCells) {n : Node} {policy : TieBreak} {captures : List String}
    {selected : List (Variable × String)} (hr : Resolution.of n.vars f.labels policy = .ok captures selected) :
    f.eval n policy = (f.evalSeries ⟨selected⟩ n).map some := by
  rw [eval, hr, evalResolved, repeated?_eq_none hf.nodup_labels]

/-- **A series has a value for each row.** -/
theorem OfCells.length_eval (hf : f.OfCells) {n : Node} {policy : TieBreak} {s : Series}
    (h : f.eval n policy = .ok (some s)) : s.values.length = f.rows.length := by
  have hok : (Resolution.of n.vars f.labels policy).isOk = true := by
    rw [← Bool.not_eq_false]
    intro hno
    cases h.symm.trans (eval_eq_none hno)
  obtain ⟨captures, selected, hr⟩ := Resolution.isOk_iff.1 hok
  rw [hf.eval_of_ok hr] at h
  obtain ⟨s', hs, hsame⟩ := map_eq_ok_iff.1 h
  obtain rfl := Option.some.inj hsame
  exact hf.length_evalSeries hs

/-! ## Faults -/

/-- A cell of a sheet is never an integer that is too large. -/
theorem number_eq_error {label : String} {d : Datum} {fault : FrameFault} (hd : IsCell d)
    (h : Column.number label d = .error fault) : ∃ cause, fault = .notNumeric label cause := by
  cases hd with
  | integer hn =>
    simp [Column.number, Datum.toBinary64, Binary64.ofInt?_of_lt hn] at h
  | real | flag => cases h
  | text s =>
    cases hs : Binary64.ofText? s with
    | none =>
      simp only [Column.number, Datum.toBinary64, hs, Option.elim] at h
      exact ⟨_, (Except.error.inj h).symm⟩
    | some x =>
      simp only [Column.number, Datum.toBinary64, hs, Option.elim] at h
      cases h

theorem OfCells.variableColumn_eq_error (hf : f.OfCells) {v : Variable} {fault : FrameFault}
    (h : f.variableColumn keys v = .error fault) : ∃ label cause, fault = .notNumeric label cause := by
  obtain ⟨c, hc, hv⟩ | hv := f.variableColumn_cases keys v
  · obtain ⟨d, hd, hnumber⟩ := error_of_mapM (hv.symm.trans h)
    exact ⟨c.label, number_eq_error (hf.cells c hc d hd) hnumber⟩
  · cases hv.symm.trans h

/-- **The only fault is a cell that is no number.** -/
theorem OfCells.eval_eq_error (hf : f.OfCells) {n : Node} {policy : TieBreak} {fault : FrameFault}
    (h : f.eval n policy = .error fault) : ∃ label cause, fault = .notNumeric label cause := by
  cases hok : (Resolution.of n.vars f.labels policy).isOk with
  | false => cases h.symm.trans (eval_eq_none hok)
  | true =>
    obtain ⟨captures, selected, hr⟩ := Resolution.isOk_iff.1 hok
    rw [hf.eval_of_ok hr, map_eq_error_iff] at h
    have hfault := faultOf_eq_some_iff.2 h
    rw [faultOf_evalSeries] at hfault
    obtain ⟨v, -, hv⟩ := List.exists_of_findSome?_eq_some hfault
    exact hf.variableColumn_eq_error (faultOf_eq_some_iff.1 hv)

end Frame

/-! ## Sheets -/

namespace Samples

variable {index : Option String} {sheet : Sheet} {samples : Samples} {header : List (List Char)}
  {rows : List (List (List Char))}

theorem content_eq_ok_iff {files : Files} {path : String} {bytes : List UInt8} :
    content files path = .ok bytes ↔ files.look path = .found (.ok bytes) := by
  unfold content
  split <;> simp_all

theorem load_eq_ok_iff {files : Files} {path : String} :
    load files path index = .ok samples ↔
      ∃ text : String, files.look path = .found (.ok text.toUTF8.toList) ∧ ofText index text = .ok samples := by
  unfold load
  simp only [bind_eq_ok_iff, mapError_eq_ok_iff, content_eq_ok_iff, Text.decode_eq_ok_iff]
  constructor
  · rintro ⟨_, hlook, text, rfl, hsamples⟩
    exact ⟨text, hlook, hsamples⟩
  · rintro ⟨text, hlook, hsamples⟩
    exact ⟨_, hlook, text, rfl, hsamples⟩

theorem ofText_of_table {text : String} (htable : IsTable text header rows) :
    ofText index text = ofSheet index (.ofRows header rows) := by
  rw [ofText, ofText_eq_ok_iff.2 ⟨header, rows, htable, rfl⟩]
  rfl

theorem ofSheet_of_load {files : Files} {path text : String} (hread : files.read? path = some text.toUTF8.toList)
    (htable : IsTable text header rows) (h : load files path index = .ok samples) :
    ofSheet index (.ofRows header rows) = .ok samples := by
  obtain ⟨found, hlook, hsamples⟩ := load_eq_ok_iff.1 h
  obtain rfl : text = found := Text.toUTF8_injective (Option.some.inj (hread.symm.trans (Files.read?_of_look hlook)))
  rwa [ofText_of_table htable] at hsamples

/-- What is read off the sheet of a table is read off its samples. -/
theorem exists_load {α : Type} {files : Files} {path text : String} (index : Option String) (f : Samples → α) (a : α)
    (hlook : files.look path = .found (.ok text.toUTF8.toList)) (htable : IsTable text header rows)
    (h : (ofSheet index (.ofRows header rows)).toOption.map f = some a) :
    ∃ samples, load files path index = .ok samples ∧ f samples = a := by
  obtain ⟨samples, hsamples, hsame⟩ := Option.map_eq_some_iff.1 h
  exact ⟨samples, load_eq_ok_iff.2 ⟨text, hlook, (ofText_of_table htable).trans (toOption_eq_some_iff.1 hsamples)⟩, hsame⟩

/-- The rows are labelled by the column that is asked for, which is none of the columns then. -/
theorem ofSheet_cases (h : ofSheet index sheet = .ok samples) :
    samples.frame.columns = (sheet.columns.map fun c => Column.mk c.name c.cells).filter (some ·.label != index) ∧
      (index = none ∧ samples.frame.rows = rowLabels sheet ∨
        ∃ name c, index = some name ∧ sheet.column? name = some c ∧ samples.frame.rows = labelsOf c.cells) := by
  unfold ofSheet at h
  dsimp only at h
  split at h
  · obtain rfl := Except.ok.inj h
    exact ⟨(List.filter_eq_self.2 fun _ _ => rfl).symm, .inl ⟨rfl, rfl⟩⟩
  · split at h
    · rename_i c _ hc
      obtain rfl := Except.ok.inj h
      exact ⟨List.filter_congr fun _ _ => rfl, .inr ⟨_, c, rfl, hc, rfl⟩⟩
    · cases h

/-- **The labels are the names of the columns**, without the one that labels the rows. -/
theorem labels_ofSheet (h : ofSheet index (.ofRows header rows) = .ok samples) :
    samples.frame.labels = (columnNames header).filter (some · != index) := by
  rw [Frame.labels, (ofSheet_cases h).1, ← names_ofRows, Sheet.names, List.filter_map, List.filter_map, List.map_map]
  rfl

theorem length_labelsOf (cells : List Datum) : (labelsOf cells).length = cells.length := by
  unfold labelsOf
  dsimp only
  split
  · rfl
  · exact List.length_map _

example : labelsOf [.flag true, .real .nan, .flag false] = [.real (.ofInt 1), .real .nan, .real (.ofInt 0)] := by rfl

theorem length_rowLabels : (rowLabels (.ofRows header rows)).length = rows.length := by
  unfold rowLabels
  dsimp only
  split
  · simp [Sheet.ofRows]
  · rename_i labels hlabels
    exact length_of_mem_labels (hlabels ▸ List.mem_cons_self)
  · simp [Sheet.ofRows]

theorem length_rows_ofSheet (h : ofSheet index (.ofRows header rows) = .ok samples) :
    samples.frame.rows.length = rows.length := by
  obtain ⟨-, ⟨-, hrows⟩ | ⟨name, c, -, hc, hrows⟩⟩ := ofSheet_cases h
  · rw [hrows, length_rowLabels]
  · rw [hrows, length_labelsOf]
    exact length_of_mem_columns (List.mem_of_find?_eq_some hc)

/-- **A sheet gives distinct labels and full columns.** -/
theorem ofCells_ofSheet (h : ofSheet index (.ofRows header rows) = .ok samples) : samples.frame.OfCells := by
  have hcolumn : ∀ c ∈ samples.frame.columns, ∃ c' ∈ (Sheet.ofRows header rows).columns, c.cells = c'.cells := by
    intro c hc
    rw [(ofSheet_cases h).1] at hc
    obtain ⟨c', hc', rfl⟩ := List.mem_map.1 (List.mem_of_mem_filter hc)
    exact ⟨c', hc', rfl⟩
  refine ⟨?_, fun c hc => ?_, fun c hc => ?_⟩
  · rw [labels_ofSheet h]
    exact (nodup_columnNames header).filter _
  · obtain ⟨c', hc', hcells⟩ := hcolumn c hc
    rw [hcells, length_rows_ofSheet h, length_of_mem_columns hc']
  · obtain ⟨c', hc', hcells⟩ := hcolumn c hc
    obtain ⟨i, hi, rfl⟩ := List.mem_mapIdx.1 hc'
    rw [hcells]
    exact isCell_of_mem_column

theorem ofCells_load {files : Files} {path : String} (h : load files path index = .ok samples) : samples.frame.OfCells := by
  obtain ⟨text, -, htext⟩ := load_eq_ok_iff.1 h
  obtain ⟨sheet, hsheet, hsamples⟩ := bind_eq_ok_iff.1 htext
  obtain ⟨header, rows, -, rfl⟩ := ofText_eq_ok_iff.1 hsheet
  exact ofCells_ofSheet hsamples

/-- **A label of the header labels the first column that has it.** -/
theorem column?_ofSheet {name : String} (h : ofSheet index (.ofRows header rows) = .ok samples)
    (hname : name.toList ∈ header) (hne : name ≠ "") (hindex : index ≠ some name) :
    samples.frame.column? name = some ⟨name, column (fieldsNamed header rows name)⟩ := by
  have hsheet : ⟨name, true, column (fieldsNamed header rows name)⟩ ∈ (Sheet.ofRows header rows).columns :=
    List.mem_of_find?_eq_some (column?_ofRows hname hne)
  refine Frame.column?_of_mem (c := ⟨name, _⟩) (ofCells_ofSheet h).nodup_labels ?_
  rw [(ofSheet_cases h).1]
  exact List.mem_filter.2 ⟨List.mem_map_of_mem hsheet, by simpa using Ne.symm hindex⟩

end Samples
end MetricExpr
