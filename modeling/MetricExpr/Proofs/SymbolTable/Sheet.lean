import MetricExpr.Proofs.Csv.Tables
import MetricExpr.Proofs.SymbolTable.Load
/-!
# Keys of a sheet

A sheet's symbol table has the texts of its path cells as keys, and these are not always the fields of the path column as
they are written (`sheet_keys`): a path is what its cell shows, and what a cell shows depends on the whole column. One path
that is a word keeps all others as they are written; among paths that all look like numbers, two can become one
(`sheet_merges_paths`).
-/
namespace MetricExpr

open Csv

namespace SymbolTable

/-- The cells are numbers, with these doubles. -/
def HaveDoubles (ds : List Datum) (xs : List Binary64) : Prop :=
  List.Forall₂ (fun d x => d.toBinary64 = .ok x ∧ (∀ path, number path d = .ok x) ∧ x.isNaN = false) ds xs

/-- Rows whose values are numbers are inserted one after another. -/
theorem insertRows_eq_ok {ds : List Datum} {xs : List Binary64} (h : HaveDoubles ds xs) :
    ∀ (paths : List Datum) (table : SymbolTable),
      insertRows table (paths.zip ds) = .ok (table.insertAll ((paths.map Datum.toText).zip xs)) := by
  induction h with
  | nil =>
    intro paths table
    rw [List.zip_nil_right, List.zip_nil_right]
    rfl
  | @cons d x ds xs hrow _ ih =>
    intro paths table
    cases paths with
    | nil => rfl
    | cons path paths =>
      obtain ⟨-, hnumber, hnan⟩ := hrow
      rw [List.map_cons, List.zip_cons_cons, List.zip_cons_cons, insertRows, hnumber]
      dsimp only
      rw [hnan]
      exact ih paths _

/-- The doubles of a column of numbers. -/
theorem exists_doubles {fields : List (List Char)} (h : AreNumbers fields) :
    ∃ xs, HaveDoubles (column fields) xs := by
  have hcases := h.cases
  generalize column fields = ds at hcases
  induction ds with
  | nil => exact ⟨[], .nil⟩
  | cons d ds ih =>
    obtain ⟨hd, hds⟩ := List.forall_mem_cons.1 hcases
    obtain ⟨xs, hxs⟩ := ih hds
    obtain ⟨n, rfl, hn⟩ | ⟨x, rfl, hx⟩ := hd
    · have hfinite := Binary64.isFinite_ofInt_iff.2 (Binary64.lt_integerBound hn)
      refine ⟨.ofInt n :: xs, .cons ⟨?_, fun path => ?_, Binary64.isNaN_of_isFinite hfinite⟩ hxs⟩
      · simp [Datum.toBinary64, Binary64.ofInt?_of_lt hn]
      · simp [number, Binary64.ofInt?_of_lt hn]
    · exact ⟨x :: xs, .cons ⟨rfl, fun _ => rfl, hx⟩ hxs⟩

/-- A file that is a table of records has the table of the sheet that these make. -/
theorem load_sheet {files : Files} {path text : String} {header : List (List Char)} {rows : List (List (List Char))}
    (hsheet : IsSheet path) (hlook : files.look path = .found (.ok text.toUTF8.toList)) (htable : IsTable text header rows) :
    load files path = (ofSheet (.ofRows header rows)).mapError .table := by
  have hread : Readers.own.sheet text.toUTF8.toList = .ok (.ofRows header rows) := by
    rw [sheet_of_text rfl, ofText_eq_ok_iff.2 ⟨header, rows, htable, rfl⟩]
    rfl
  rw [load, loadFrom_sheet hlook hsheet]
  show ((Readers.own.sheet text.toUTF8.toList).mapError (LoadFault.ofRead .malformedRecords)).bind _ = _
  rw [hread]
  rfl

/-- A sheet whose values are numbers has the pairs of its rows inserted in order. -/
theorem ofSheet_eq {header : List (List Char)} {rows : List (List (List Char))}
    (hpath : "path".toList ∈ header) (hvalue : "value".toList ∈ header)
    (hnumbers : AreNumbers (fieldsNamed header rows "value")) :
    ∃ xs : List Binary64,
      (column (fieldsNamed header rows "value")).map Datum.toBinary64 = xs.map .ok ∧
      ofSheet (.ofRows header rows) = .ok (.ofList ((shown (fieldsNamed header rows "path")).zip xs)) := by
  obtain ⟨xs, hxs⟩ := exists_doubles hnumbers
  refine ⟨xs, ?_, ?_⟩
  · rw [← List.forall₂_eq_eq_eq, List.forall₂_map_left_iff, List.forall₂_map_right_iff]
    exact hxs.imp fun _ _ h => h.1
  · unfold ofSheet
    rw [column?_ofRows hpath (by decide), column?_ofRows hvalue (by decide)]
    exact insertRows_eq_ok hxs _ .empty

end SymbolTable

open SymbolTable in
/-- **A sheet is keyed by what its path cells show**, in order of first occurrence, each with the value of its last row. If
the fields of the path column are texts, a cell shows its field as it is written, or `nan` where the field marks a missing
cell. So where no field does and one of them is a word, the keys are the path fields as they are written. They are that, too,
where the fields mix integers that take all 64 bits with negative ones or with missing cells. -/
theorem sheet_keys {files : Files} {path text : String} (hsheet : IsSheet path)
    (hlook : files.look path = .found (.ok text.toUTF8.toList)) {header : List (List Char)} {rows : List (List (List Char))}
    (htable : IsTable text header rows) (hpath : "path".toList ∈ header) (hvalue : "value".toList ∈ header)
    (hnumbers : AreNumbers (fieldsNamed header rows "value")) :
    let paths := fieldsNamed header rows "path"
    ∃ (xs : List Binary64) (table : SymbolTable), SymbolTable.load files path = .ok table ∧
      (column (fieldsNamed header rows "value")).map Datum.toBinary64 = xs.map .ok ∧
      (table.keys = distinct (shown paths) ∧ ∀ key, table.get? key = ((shown paths).zip xs).reverse.lookup key) ∧
      (KeepsTexts paths → shown paths = paths.map fun cs => if (present? cs).isSome then String.ofList cs else "nan") ∧
      ((∀ cs ∈ paths, present? cs ≠ none) ∧ (∃ cs ∈ paths, IsWord cs) ∨ isMixed (paths.map present?) = true →
        table.keys = distinct (paths.map String.ofList) ∧
          ∀ key, table.get? key = ((paths.map String.ofList).zip xs).reverse.lookup key) := by
  intro paths
  obtain ⟨xs, hxs, hsheets⟩ := ofSheet_eq hpath hvalue hnumbers
  have hlength : (shown paths).length = xs.length := by
    have h := congrArg List.length hxs
    simpa [shown, fieldsNamed, fieldsBelow, paths] using h
  have hkeys : ∀ keys : List String, keys.length = xs.length → (keys.zip xs).map (·.1) = keys :=
    fun keys h => List.map_fst_zip (Nat.le_of_eq h)
  refine ⟨xs, _, ?_, hxs, ⟨?_, OrderedMap.get?_ofList _⟩, shown_of_keepsTexts, fun hwritten => ?_⟩
  · rw [load_sheet hsheet hlook htable, hsheets]
    rfl
  · rw [OrderedMap.keys_ofList, hkeys _ hlength]
  · have hshown : shown paths = paths.map String.ofList := by
      obtain ⟨hpresent, cs, hcs, hword⟩ | hmixed := hwritten
      · rw [shown_of_keepsTexts (keepsTexts_of_word hcs hword)]
        exact List.map_congr_left fun cs hcs => if_pos (Option.ne_none_iff_isSome.1 (hpresent cs hcs))
      · exact shown_of_isMixed hmixed
    rw [← hshown]
    exact ⟨by rw [OrderedMap.keys_ofList, hkeys _ hlength], OrderedMap.get?_ofList _⟩

/-- A path that looks like a number is kept by another that is a word. It comes twice. -/
theorem sheet_keys_word :
    let text := "path,value\n1.10,5\ncpu,2.5\n1.10,7\n"
    let files := Files.empty.writeText "m.csv" text
    let header := ["path".toList, "value".toList]
    let rows := [["1.10".toList, "5".toList], ["cpu".toList, "2.5".toList], ["1.10".toList, "7".toList]]
    (SymbolTable.IsSheet "m.csv" ∧ files.look "m.csv" = .found (.ok text.toUTF8.toList) ∧ IsTable text header rows ∧
      "path".toList ∈ header ∧ "value".toList ∈ header ∧ AreNumbers (fieldsNamed header rows "value")) ∧
    ∃ table, SymbolTable.load files "m.csv" = .ok table ∧ table.keys = ["1.10", "cpu"] ∧
      table.get? "1.10" = some (.ofInt 7) := by
  intro text files header rows
  have hsheet : SymbolTable.sheetSuffixes.contains (Text.lower (suffixOf "m.csv")) = true := by decide +kernel
  have hlook : files.look "m.csv" = .found (.ok text.toUTF8.toList) :=
    Files.look_writeText .empty "m.csv" text (by decide +kernel)
  have htable : IsTable text header rows := ⟨rows, by decide +kernel, by decide +kernel⟩
  have hpath : "path".toList ∈ header := List.mem_cons_self
  have hvalue : "value".toList ∈ header := List.mem_cons_of_mem _ List.mem_cons_self
  have hnumbers : AreNumbers (fieldsNamed header rows "value") := by
    refine areNumbers_of_numerals fun cs hcs => ?_
    have hfields : fieldsNamed header rows "value" = ["5".toList, "2.5".toList, "7".toList] := by decide
    rw [hfields] at hcs
    simp only [List.mem_cons, List.not_mem_nil, or_false] at hcs
    obtain rfl | rfl | rfl := hcs <;> exact ⟨by decide +kernel, by decide +kernel, by decide +kernel⟩
  obtain ⟨xs, table, hload, hxs, -, -, hkept⟩ := sheet_keys hsheet hlook htable hpath hvalue hnumbers
  have hword : IsWord "cpu".toList :=
    ⟨by decide +kernel, by decide +kernel, by decide +kernel, by decide +kernel, by decide +kernel⟩
  obtain ⟨hkeys, hget⟩ := hkept (.inl ⟨by decide +kernel, _, by decide +kernel, hword⟩)
  have hdoubles : xs = [.ofInt 5, .ofDecimal false 25 (-1), .ofInt 7] :=
    List.map_injective_iff.2 (fun _ _ => Except.ok.inj) (hxs.symm.trans (by decide +kernel))
  refine ⟨⟨hsheet, hlook, htable, hpath, hvalue, hnumbers⟩, table, hload, hkeys.trans (by decide +kernel), ?_⟩
  rw [hget, hdoubles]
  decide +kernel

/-- **Two paths can become one.** Where all paths look like numbers, their column holds numbers. -/
theorem sheet_merges_paths :
    let text := "path,value\n1.10,5\n1.1,7\n"
    IsTable text ["path".toList, "value".toList] [["1.10".toList, "5".toList], ["1.1".toList, "7".toList]] ∧
      SymbolTable.load (Files.empty.writeText "m.csv" text) "m.csv" = .ok ⟨[("1.1", .ofInt 7)]⟩ := by
  intro text
  let header := ["path".toList, "value".toList]
  let rows := [["1.10".toList, "5".toList], ["1.1".toList, "7".toList]]
  have htable : IsTable text header rows := ⟨rows, by decide +kernel, by decide +kernel⟩
  have hsheet : SymbolTable.sheetSuffixes.contains (Text.lower (suffixOf "m.csv")) = true := by decide +kernel
  have hkeys : SymbolTable.ofSheet (.ofRows header rows) = .ok ⟨[("1.1", .ofInt 7)]⟩ := by decide +kernel
  refine ⟨htable, ?_⟩
  rw [SymbolTable.load_sheet hsheet (Files.look_writeText .empty "m.csv" text (by decide +kernel)) htable, hkeys]
  rfl

end MetricExpr
