import MetricExpr.Proofs.Csv.Cells
import MetricExpr.Proofs.SymbolTable.Walk
import MetricExpr.Proofs.Text.Encoding
import MetricExpr.SymbolTable.Load
/-!
# How loading a symbol table can end

Whatever the system says about a path and whatever the readers make of the bytes, loading gives a map from texts to numbers,
or a fault that is reported as one of the source, or it breaks off. It does the last exactly where the system refuses the
path or the bytes, where a reader breaks off, or where the first fault of what is read is an integer that is too large or a
mapping inside itself (`load_outcome`). A path of the map can only be empty in a sheet. The reader of sheets here breaks off
only at bytes that are no text (`sheet_readingBreaks_iff`).
-/
namespace MetricExpr

namespace SymbolTable

/-! ## Sheets -/

/-- The rows of a sheet that has both columns: the cell of the path and the cell of the value. -/
def rows? (sheet : Csv.Sheet) : Option (List (Datum × Datum)) := do
  let paths ← sheet.column? "path"
  let values ← sheet.column? "value"
  return paths.cells.zip values.cells

/-- A row as a leaf under its path. -/
def rowSite (row : Datum × Datum) : Site := .leaf row.1.toText row.2

theorem ofSheet_of_rows {sheet : Csv.Sheet} {rows : List (Datum × Datum)} (h : rows? sheet = some rows) :
    ofSheet sheet = insertRows .empty rows := by
  obtain ⟨paths, hpaths, h⟩ := Option.bind_eq_some_iff.1 h
  obtain ⟨values, hvalues, h⟩ := Option.bind_eq_some_iff.1 h
  rw [ofSheet, hpaths, hvalues]
  exact congrArg _ (Option.some.inj h)

theorem ofSheet_of_none {sheet : Csv.Sheet} (h : rows? sheet = none) :
    ∃ names, ofSheet sheet = .error (.missingColumns names) := by
  unfold ofSheet
  split
  · rename_i paths values hpaths hvalues
    rw [rows?, hpaths, hvalues] at h
    cases h
  · exact ⟨_, rfl⟩

theorem insertRows_eq_error_iff {fault : TableFault} : ∀ {rows : List (Datum × Datum)} {table : SymbolTable},
    insertRows table rows = .error fault ↔ pairsOf (rows.map rowSite) = .error fault
  | [], _ => ⟨nofun, nofun⟩
  | (path, value) :: rows, table => by
    rw [insertRows, List.map_cons, pairsOf, rowSite, Site.pairs]
    cases number path.toText value with
    | error fault => simp [Except.map, bind, Except.bind]
    | ok x =>
      dsimp only
      rw [insertRows_eq_error_iff, bind_eq_error_iff]
      simp [Except.map, bind_eq_error_iff, pure, Except.pure]

/-- A value is left out iff it is NaN itself. -/
theorem isNaN_of_number {path : String} {d : Datum} {x : Binary64} (h : number path d = .ok x) :
    x.isNaN = true ↔ d = .real .nan := by
  cases d with
  | real y =>
    obtain rfl := Except.ok.inj h
    cases y <;> simp [Binary64.isNaN]
  | integer n =>
    have hn := elim_eq_ok_iff.1 h
    unfold Binary64.ofInt? at hn
    obtain ⟨hfinite, hx⟩ := Option.ite_none_right_eq_some.1 hn
    obtain rfl := Option.some.inj hx
    simp [Binary64.isNaN_of_isFinite hfinite]
  | null | flag | text | date | list | mapping | other | cycle => cases h

theorem keys_insertRows : ∀ {rows : List (Datum × Datum)} {table result : SymbolTable}, insertRows table rows = .ok result →
    table.keys.Nodup →
    result.keys.Nodup ∧
      ∀ key, key ∈ result.keys ↔ key ∈ table.keys ∨ ∃ row ∈ rows, row.1.toText = key ∧ row.2 ≠ .real .nan
  | [], table, result, h, hnodup => by
    obtain rfl := Except.ok.inj h
    exact ⟨hnodup, fun key => by simp⟩
  | (path, value) :: rows, table, result, h, hnodup => by
    rw [insertRows] at h
    cases hnumber : number path.toText value with
    | error fault => rw [hnumber] at h; cases h
    | ok x =>
      rw [hnumber] at h
      dsimp only at h
      have hnan := isNaN_of_number hnumber
      split at h
      · rename_i hx
        obtain ⟨hnodup, hkeys⟩ := keys_insertRows h hnodup
        refine ⟨hnodup, fun key => ?_⟩
        simp [hkeys key, hnan.1 hx]
      · rename_i hx
        obtain ⟨hnodup, hkeys⟩ := keys_insertRows h (OrderedMap.nodup_keys_insert table path.toText x hnodup)
        refine ⟨hnodup, fun key => ?_⟩
        rw [hkeys key, OrderedMap.mem_keys_insert, List.exists_mem_cons_iff, or_assoc]
        simp [mt hnan.2 hx, eq_comm]

/-! ## Readers -/

/-- A document breaks loading off: its first fault does, or it is a mapping inside itself as a whole. -/
def DocumentBreaks (d : Datum) : Prop :=
  d = .cycle ∨ ∃ entries, d = .mapping entries ∧ BreaksFirst (sitesOf "" entries)

/-- A sheet breaks loading off: its first row with a fault does. -/
def SheetBreaks (sheet : Csv.Sheet) : Prop := ∃ rows, rows? sheet = some rows ∧ BreaksFirst (rows.map rowSite)

/-- A reader breaks off, other than by saying that the bytes are not in its format, or what it makes of them breaks loading
off. -/
def ReadingBreaks {α : Type} (breaks : α → Prop) (reading : Except ReadFault α) : Prop :=
  (∃ fault, reading = .error fault ∧ fault ≠ .malformed) ∨ ∃ x, reading = .ok x ∧ breaks x

theorem documentBreaks_iff {d : Datum} :
    DocumentBreaks d ↔ ∃ fault, ofDocument d = .error fault ∧ fault.isReported = false := by
  unfold DocumentBreaks
  cases d with
  | mapping entries => simp [ofDocument, breaksFirst_iff, flatten_eq, map_eq_error_iff]
  | cycle => exact iff_of_true (.inl rfl) ⟨.endless, rfl, rfl⟩
  | null | flag | integer | real | text | date | list | other => simp [ofDocument, TableFault.isReported]

theorem sheetBreaks_iff {sheet : Csv.Sheet} :
    SheetBreaks sheet ↔ ∃ fault, ofSheet sheet = .error fault ∧ fault.isReported = false := by
  unfold SheetBreaks
  cases hrows : rows? sheet with
  | none =>
    obtain ⟨names, hsheet⟩ := ofSheet_of_none hrows
    simp [hsheet, TableFault.isReported]
  | some rows =>
    simp [ofSheet_of_rows hrows, insertRows_eq_error_iff, breaksFirst_iff]

variable {α : Type} {malformed : TableFault} {read : List UInt8 → Except ReadFault α}
  {table : α → Except TableFault SymbolTable} {content : Except AccessFault (List UInt8)}

theorem readWith_eq_ok_iff {result : SymbolTable} : readWith malformed read table content = .ok result ↔
    ∃ bytes x, content = .ok bytes ∧ read bytes = .ok x ∧ table x = .ok result := by
  simp only [readWith, bind_eq_ok_iff, mapError_eq_ok_iff]
  constructor
  · rintro ⟨bytes, hcontent, x, hx, hresult⟩
    exact ⟨bytes, x, hcontent, hx, hresult⟩
  · rintro ⟨bytes, x, hcontent, hx, hresult⟩
    exact ⟨bytes, hcontent, x, hx, hresult⟩

/-- Reading breaks off at the bytes, at the reader, or at the table. -/
theorem readWith_breaks_iff (hmalformed : malformed.isReported = true) {breaks : α → Prop}
    (hbreaks : ∀ x, breaks x ↔ ∃ fault, table x = .error fault ∧ fault.isReported = false) :
    (∃ fault, readWith malformed read table content = .error fault ∧ fault.isReported = false) ↔
      (∃ fault, content = .error fault) ∨ ∃ bytes, content = .ok bytes ∧ ReadingBreaks breaks (read bytes) := by
  unfold readWith ReadingBreaks
  cases content with
  | error fault => exact iff_of_true ⟨.access fault, rfl, rfl⟩ (.inl ⟨fault, rfl⟩)
  | ok bytes =>
    cases hread : read bytes with
    | error fault =>
      cases fault <;> simp [hread, bind, Except.bind, Except.mapError, LoadFault.ofRead, LoadFault.isReported, hmalformed]
    | ok x =>
      cases htable : table x <;>
        simp [hread, htable, hbreaks, bind, Except.bind, Except.mapError, LoadFault.isReported]

/-! ## The readers here -/

theorem text_eq_ok_iff {bytes : List UInt8} {s : String} : Readers.text bytes = .ok s ↔ s.toUTF8.toList = bytes := by
  rw [Readers.text, mapError_eq_ok_iff, Text.decode_eq_ok_iff]

theorem document_of_error {bytes : List UInt8} {fault : Text.DecodeFault} (h : Text.decode bytes = .error fault) :
    Readers.own.document bytes = .error (.bytes fault) := by
  simp only [Readers.own, Readers.text, h]
  rfl

theorem sheet_of_text {bytes : List UInt8} {s : String} (h : s.toUTF8.toList = bytes) :
    Readers.own.sheet bytes = (Csv.Sheet.ofText s).mapError fun _ => .malformed := by
  simp only [Readers.own, text_eq_ok_iff.2 h]
  rfl

theorem sheet_of_error {bytes : List UInt8} {fault : Text.DecodeFault} (h : Text.decode bytes = .error fault) :
    Readers.own.sheet bytes = .error (.bytes fault) := by
  simp only [Readers.own, Readers.text, h]
  rfl

/-- Bytes that are no text break both readers off. -/
theorem readingBreaks_of_bytes {bytes : List UInt8} (h : ∀ s : String, s.toUTF8.toList ≠ bytes) :
    ReadingBreaks DocumentBreaks (Readers.own.document bytes) ∧ ReadingBreaks SheetBreaks (Readers.own.sheet bytes) := by
  cases hdecode : Text.decode bytes with
  | ok s => exact absurd (Text.decode_eq_ok_iff.1 hdecode) (h s)
  | error fault => exact ⟨.inl ⟨_, document_of_error hdecode, nofun⟩, .inl ⟨_, sheet_of_error hdecode, nofun⟩⟩

theorem not_breaks_of_cell {path : String} {d : Datum} (hd : Csv.IsCell d) : ¬ (Site.leaf path d).Breaks := by
  cases hd with
  | integer hn => exact Nat.not_le.2 (Binary64.lt_integerBound hn)
  | real | flag | text => exact id

/-- **A sheet that is read here breaks nothing off**: its integers have 64 bits. -/
theorem sheet_readingBreaks_iff {bytes : List UInt8} :
    ReadingBreaks SheetBreaks (Readers.own.sheet bytes) ↔ ∀ s : String, s.toUTF8.toList ≠ bytes := by
  refine ⟨fun h s hs => ?_, fun h => (readingBreaks_of_bytes h).2⟩
  rw [sheet_of_text hs] at h
  obtain ⟨fault, hfault, hne⟩ | ⟨sheet, hsheet, rows, hrows, before, site, after, hsites, -, hsite⟩ := h
  · obtain ⟨-, -, rfl⟩ := mapError_eq_error_iff.1 hfault
    exact hne rfl
  · have hcells := Csv.isCell_of_sheet (mapError_eq_ok_iff.1 hsheet)
    obtain ⟨row, hrow, rfl⟩ := List.mem_map.1 (hsites ▸ List.mem_append_right before List.mem_cons_self)
    obtain ⟨paths, -, hrows⟩ := Option.bind_eq_some_iff.1 hrows
    obtain ⟨values, hvalues, hrows⟩ := Option.bind_eq_some_iff.1 hrows
    obtain rfl := Option.some.inj hrows
    exact not_breaks_of_cell (hcells values (List.mem_of_find?_eq_some hvalues) row.2 (List.of_mem_zip hrow).2) hsite

/-! ## Files -/

def IsDocument (path : String) : Prop := documentSuffixes.contains (Text.lower (suffixOf path)) = true

def IsSheet (path : String) : Prop := sheetSuffixes.contains (Text.lower (suffixOf path)) = true

theorem not_isDocument_of_isSheet {path : String} (h : IsSheet path) : ¬ IsDocument path := by
  have hsuffix : Text.lower (suffixOf path) = ".csv" := by simpa [IsSheet, sheetSuffixes] using h
  rw [IsDocument, hsuffix]
  decide

section Load

variable (look : String → Access) (readers : Readers) (path : String)

/-- How a file breaks loading off. -/
inductive BreaksOff : Prop where
  /-- The system does not say whether something is there. -/
  | refused {fault : AccessFault} (hlook : look path = .refused fault)
  /-- What is there cannot be read, such as a directory. -/
  | unreadable (hsuffix : IsDocument path ∨ IsSheet path) {fault : AccessFault} (hlook : look path = .found (.error fault))
  | document (hsuffix : IsDocument path) {bytes : List UInt8} (hlook : look path = .found (.ok bytes))
    (hbreaks : ReadingBreaks DocumentBreaks (readers.document bytes))
  | sheet (hsuffix : IsSheet path) {bytes : List UInt8} (hlook : look path = .found (.ok bytes))
    (hbreaks : ReadingBreaks SheetBreaks (readers.sheet bytes))

/-- The file is a sheet with a row that has a value and whose path is the empty text. -/
def EmptyPath : Prop :=
  IsSheet path ∧ ∃ bytes sheet rows, look path = .found (.ok bytes) ∧ readers.sheet bytes = .ok sheet ∧
    rows? sheet = some rows ∧ ∃ row ∈ rows, row.1.toText = "" ∧ row.2 ≠ .real .nan

end Load

variable {look : String → Access} {readers : Readers} {path : String}

theorem loadFrom_document (hlook : look path = .found content) (hsuffix : IsDocument path) :
    loadFrom look readers path = readWith .malformedDocument readers.document ofDocument content := by
  unfold loadFrom
  rw [hlook]
  exact if_pos hsuffix

theorem loadFrom_sheet (hlook : look path = .found content) (hsuffix : IsSheet path) :
    loadFrom look readers path = readWith .malformedRecords readers.sheet ofSheet content := by
  unfold loadFrom
  rw [hlook]
  exact (if_neg (not_isDocument_of_isSheet hsuffix)).trans (if_pos hsuffix)

variable (readers) in
theorem loadFrom_unsupported (hlook : look path = .found content) (hdocument : ¬ IsDocument path) (hsheet : ¬ IsSheet path) :
    ∃ suffix supported, loadFrom look readers path = .error (.table (.unsupported suffix supported)) := by
  unfold loadFrom
  rw [hlook]
  exact ⟨_, _, (if_neg hdocument).trans (if_neg hsheet)⟩

/-- **Loading breaks off** at a fault that is not reported as one of the source. -/
theorem breaksOff_iff :
    BreaksOff look readers path ↔ ∃ fault, loadFrom look readers path = .error fault ∧ fault.isReported = false := by
  cases hlook : look path with
  | missing =>
    rw [loadFrom, hlook]
    refine iff_of_false ?_ ?_
    · rintro (h | ⟨-, h⟩ | ⟨-, h⟩ | ⟨-, h⟩) <;> cases hlook.symm.trans h
    · rintro ⟨_, ⟨rfl⟩, ⟨⟩⟩
  | refused fault =>
    rw [loadFrom, hlook]
    exact iff_of_true (.refused hlook) ⟨.access fault, rfl, rfl⟩
  | found content =>
    by_cases hdocument : IsDocument path
    case pos =>
      rw [loadFrom_document hlook hdocument, readWith_breaks_iff rfl fun _ => documentBreaks_iff]
      constructor
      · rintro (h | ⟨-, h⟩ | ⟨-, h, hbreaks⟩ | ⟨hsheet, -⟩)
        · cases hlook.symm.trans h
        · exact .inl ⟨_, Access.found.inj (hlook.symm.trans h)⟩
        · exact .inr ⟨_, Access.found.inj (hlook.symm.trans h), hbreaks⟩
        · exact absurd hdocument (not_isDocument_of_isSheet hsheet)
      · rintro (⟨fault, rfl⟩ | ⟨bytes, rfl, hbreaks⟩)
        · exact .unreadable (.inl hdocument) hlook
        · exact .document hdocument hlook hbreaks
    by_cases hsheet : IsSheet path
    case pos =>
      rw [loadFrom_sheet hlook hsheet, readWith_breaks_iff rfl fun _ => sheetBreaks_iff]
      constructor
      · rintro (h | ⟨-, h⟩ | ⟨h, -⟩ | ⟨-, h, hbreaks⟩)
        · cases hlook.symm.trans h
        · exact .inl ⟨_, Access.found.inj (hlook.symm.trans h)⟩
        · exact absurd h hdocument
        · exact .inr ⟨_, Access.found.inj (hlook.symm.trans h), hbreaks⟩
      · rintro (⟨fault, rfl⟩ | ⟨bytes, rfl, hbreaks⟩)
        · exact .unreadable (.inr hsheet) hlook
        · exact .sheet hsheet hlook hbreaks
    · obtain ⟨suffix, supported, hload⟩ := loadFrom_unsupported readers hlook hdocument hsheet
      rw [hload]
      refine iff_of_false ?_ ?_
      · rintro (h | ⟨h, -⟩ | ⟨h, -⟩ | ⟨h, -⟩)
        · cases hlook.symm.trans h
        · exact h.elim hdocument hsheet
        · exact hdocument h
        · exact hsheet h
      · rintro ⟨_, ⟨rfl⟩, ⟨⟩⟩

theorem flat_of_document {d : Datum} {result : SymbolTable} (h : ofDocument d = .ok result) : result.Flat := by
  cases d with
  | null =>
    obtain rfl := Except.ok.inj h
    exact ⟨List.nodup_nil, List.not_mem_nil⟩
  | mapping entries => exact flat_of_flatten h
  | flag | integer | real | text | date | list | other | cycle => cases h

/-- **A table that is loaded has each path once**, and the empty text is one of them only in a sheet. -/
theorem keys_of_loadFrom {result : SymbolTable} (h : loadFrom look readers path = .ok result) :
    result.keys.Nodup ∧ ("" ∈ result.keys ↔ EmptyPath look readers path) := by
  cases hlook : look path with
  | missing | refused => rw [loadFrom, hlook] at h; cases h
  | found content =>
    by_cases hdocument : IsDocument path
    case pos =>
      rw [loadFrom_document hlook hdocument, readWith_eq_ok_iff] at h
      obtain ⟨-, d, -, -, hd⟩ := h
      obtain ⟨hnodup, hempty⟩ := flat_of_document hd
      exact ⟨hnodup, iff_of_false hempty fun h => not_isDocument_of_isSheet h.1 hdocument⟩
    by_cases hsheet : IsSheet path
    case neg =>
      obtain ⟨suffix, supported, hload⟩ := loadFrom_unsupported readers hlook hdocument hsheet
      cases h.symm.trans hload
    rw [loadFrom_sheet hlook hsheet, readWith_eq_ok_iff] at h
    obtain ⟨bytes, sheet, rfl, hread, hresult⟩ := h
    cases hrows : rows? sheet with
    | none =>
      obtain ⟨names, hnames⟩ := ofSheet_of_none hrows
      cases hresult.symm.trans hnames
    | some rows =>
      rw [ofSheet_of_rows hrows] at hresult
      obtain ⟨hnodup, hkeys⟩ := keys_insertRows hresult List.nodup_nil
      refine ⟨hnodup, (hkeys "").trans ⟨fun h => ?_, ?_⟩⟩
      · exact ⟨hsheet, bytes, sheet, rows, hlook, hread, hrows, h.resolve_left List.not_mem_nil⟩
      · rintro ⟨-, bytes', sheet', rows', hlook', hread', hrows', hrow⟩
        obtain rfl : bytes = bytes' := Except.ok.inj (Access.found.inj (hlook.symm.trans hlook'))
        obtain rfl : sheet = sheet' := Except.ok.inj (hread.symm.trans hread')
        obtain rfl : rows = rows' := Option.some.inj (hrows.symm.trans hrows')
        exact .inr hrow

end SymbolTable

open SymbolTable in
/-- **Loading a file gives a map from texts to numbers, or a fault** that is reported as one of the source unless the file is
one of those that break loading off. The texts are paths that are not empty, but for a row of a sheet whose path is. -/
theorem load_outcome (look : String → Access) (readers : Readers) (path : String) :
    match SymbolTable.loadFrom look readers path with
    | .ok table => table.keys.Nodup ∧ ("" ∈ table.keys ↔ EmptyPath look readers path) ∧ ¬ BreaksOff look readers path
    | .error fault => fault.isReported = false ↔ BreaksOff look readers path := by
  rw [breaksOff_iff]
  cases hload : SymbolTable.loadFrom look readers path with
  | ok table =>
    obtain ⟨hnodup, hempty⟩ := keys_of_loadFrom hload
    exact ⟨hnodup, hempty, fun ⟨_, h, _⟩ => nomatch h⟩
  | error fault => simp

/-- A document of one byte that starts no character is not reported as a fault of the source. -/
theorem load_breaks_off_bytes :
    SymbolTable.load (Files.empty.write "m.yaml" [0xFF]) "m.yaml" = .error (.bytes ⟨[0xFF], 0, .start⟩) ∧
      (LoadFault.bytes ⟨[0xFF], 0, .start⟩).isReported = false := by
  have hlook : (Files.empty.write "m.yaml" [0xFF]).look "m.yaml" = .found (.ok [0xFF]) :=
    Files.look_of_read? (by decide +kernel) (by decide +kernel)
  have hsuffix : SymbolTable.IsDocument "m.yaml" := by
    unfold SymbolTable.IsDocument
    decide +kernel
  have hread : Readers.own.document [0xFF] = .error (.bytes ⟨[0xFF], 0, .start⟩) :=
    SymbolTable.document_of_error (by decide +kernel)
  refine ⟨?_, rfl⟩
  rw [SymbolTable.load, SymbolTable.loadFrom_document hlook hsuffix]
  show ((Readers.own.document [0xFF]).mapError (LoadFault.ofRead .malformedDocument)).bind _ = _
  rw [hread]
  rfl

end MetricExpr
