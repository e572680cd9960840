import MetricExpr.Proofs.Csv.Columns
import MetricExpr.Proofs.Csv.Names
/-!
# Tables and their sheets

The sheet of a text has the columns of its records (`ofText_eq_ok_iff`), all of one height, and the fields below the first
field of a header are the column of that name (`column?_ofRows`).
-/
namespace MetricExpr.Csv

/-- The text is a table with this header and these rows below it, filled up to one width. -/
def IsTable (text : String) (header : List (List Char)) (rows : List (List (List Char))) : Prop :=
  ∃ short, records (Sheet.withoutMark text.toList) = .ok (header :: short) ∧ shape header.length short = .ok rows

section Rows

variable (header : List (List Char)) (rows : List (List (List Char)))

/-- How many columns the rows have beyond the header. -/
def extra : Nat := (rows.head?.map List.length).getD header.length - header.length

/-- The fields below a place of the header. The columns beyond the header come before it. -/
def fieldsBelow (i : Nat) : List (List Char) := rows.map fun row => row.getD (extra header rows + i) []

/-- The fields below the first field of the header that has a text. -/
def fieldsNamed (name : String) : List (List Char) := fieldsBelow header rows (header.idxOf name.toList)

/-- The sheet of a table. -/
def Sheet.ofRows : Sheet where
  height := rows.length
  labels := (List.range (extra header rows)).map fun i => column (rows.map fun row => row.getD i [])
  columns := (columnNames header).mapIdx fun i name =>
    ⟨name, !(header.getD i []).isEmpty, column (fieldsBelow header rows i)⟩

end Rows

variable {text : String} {sheet : Sheet} {header : List (List Char)} {rows : List (List (List Char))}

theorem ofText_eq_ok_iff :
    Sheet.ofText text = .ok sheet ↔ ∃ header rows, IsTable text header rows ∧ sheet = .ofRows header rows := by
  unfold Sheet.ofText IsTable
  rw [bind_eq_ok_iff]
  constructor
  · rintro ⟨found, hfound, h⟩
    cases found with
    | nil => cases h
    | cons header short =>
      obtain ⟨rows, hrows, h⟩ := bind_eq_ok_iff.1 h
      exact ⟨header, rows, ⟨short, hfound, hrows⟩, (Except.ok.inj h).symm⟩
  · rintro ⟨header, rows, ⟨short, hfound, hrows⟩, rfl⟩
    exact ⟨_, hfound, bind_eq_ok_iff.2 ⟨rows, hrows, rfl⟩⟩

theorem names_ofRows : (Sheet.ofRows header rows).names = columnNames header := by
  refine List.ext_getElem? fun i => ?_
  simp [Sheet.names, Sheet.ofRows, Function.comp_def]

theorem length_of_mem_columns {c : SheetColumn} (h : c ∈ (Sheet.ofRows header rows).columns) :
    c.cells.length = rows.length := by
  obtain ⟨i, -, rfl⟩ := List.mem_mapIdx.1 h
  simp [fieldsBelow]

theorem length_of_mem_labels {labels : List Datum} (h : labels ∈ (Sheet.ofRows header rows).labels) :
    labels.length = rows.length := by
  obtain ⟨i, -, rfl⟩ := List.mem_map.1 h
  simp

/-- **A column is found under the first field of the header that has its name.** -/
theorem column?_ofRows {name : String} (hname : name.toList ∈ header) (hne : name ≠ "") :
    (Sheet.ofRows header rows).column? name = some ⟨name, true, column (fieldsNamed header rows name)⟩ := by
  have hne : name.toList ≠ [] := fun h => hne (String.toList_eq_nil_iff.1 h)
  have hfield := List.getElem?_idxOf hname
  have hgiven := columnNames_idxOf hname hne
  rw [String.ofList_toList] at hgiven
  have hat : (Sheet.ofRows header rows).columns[header.idxOf name.toList]? =
      some ⟨name, true, column (fieldsNamed header rows name)⟩ := by
    simp [Sheet.ofRows, hgiven, hfield, hne, fieldsNamed]
  have hnodup : ((Sheet.ofRows header rows).columns.map (·.name)).Nodup := by
    show (Sheet.ofRows header rows).names.Nodup
    rw [names_ofRows]
    exact nodup_columnNames header
  exact find?_of_nodup hnodup (List.mem_of_getElem? hat)

end MetricExpr.Csv
