import MetricExpr.Proofs.Command.Presentation
import MetricExpr.Proofs.Frame.Samples
/-!
# Reports about frames

A frame has a value for each row, but its JSON has an entry for each label of a row, and rows may share a label: the last of
them is reported (`frame_json_labels`). Columns never share a label, since the names of a header that repeats itself are
numbered before anything is resolved (`frame_repeated_names`).
-/
namespace MetricExpr.Command

open Csv

variable {files : Files} {settings : Settings} {r : FrameRequest} {n : Node} {samples : Samples}

theorem frameReport_of_load (hparse : Node.parse r.form r.source = .ok n)
    (hsamples : Samples.load files r.sheet r.index = .ok samples) :
    frameReport files settings r = frameNode settings r n samples := by
  unfold frameReport withNode
  rw [hparse]
  dsimp only
  rw [hsamples]

theorem frameNode_of_error {fault : FrameFault}
    (h : samples.frame.eval n (r.tieBreak.getD settings.tieBreak) = .error fault) :
    ∃ report, frameNode settings r n samples = .ok report ∧ report.exit = .failure ∧ report.output = "" ∧
      report.errors = Display.errorLine fault.message := by
  unfold frameNode
  unfold Frame.eval at h
  dsimp only
  rw [h]
  exact ⟨_, rfl, rfl, rfl, rfl⟩

theorem frameNode_of_ok {series : Option Series}
    (h : samples.frame.eval n (r.tieBreak.getD settings.tieBreak) = .ok series)
    (hmarkup : markupFault? r samples series = none) :
    ∃ report, frameNode settings r n samples = .ok report ∧ report.exit = exitOf series ∧
      (r.format = .json → report.output = jsonOutput (frameJson samples.frame.rows series)) := by
  unfold frameNode
  unfold Frame.eval at h
  dsimp only
  rw [h]
  dsimp only
  rw [hmarkup]
  refine ⟨_, rfl, rfl, fun hformat => ?_⟩
  rw [hformat]

theorem markupFault?_of_json (h : r.format = .json) (samples : Samples) (series : Option Series) :
    markupFault? r samples series = none := by
  unfold markupFault?
  rw [h]

/-! ## Rows with one label -/

/-- The texts of the rows' labels with the values there. -/
def labelledValues (rows : List Datum) (series : Series) : List (String × JsonValue) :=
  (rows.map Datum.toText).zip (series.values.map fun value => .ofOutcome (some value))

theorem keys_labelledValues {rows : List Datum} {series : Series} (h : series.values.length = rows.length) :
    (labelledValues rows series).map (·.1) = rows.map Datum.toText := List.map_fst_zip (by simp [h])

theorem seriesJson_eq (rows : List Datum) (series : Series) :
    seriesJson rows series = .object (OrderedMap.ofList (labelledValues rows series)).entries := by
  rw [seriesJson, labelledValues, List.zip_map, ← List.map_uncurry_zip_eq_zipWith]
  rfl

theorem frameReport_json (settings : Settings) (hformat : r.format = .json) (hparse : Node.parse r.form r.source = .ok n)
    (hsamples : Samples.load files r.sheet r.index = .ok samples) {series : Series}
    (hseries : samples.frame.eval n (r.tieBreak.getD settings.tieBreak) = .ok (some series)) :
    ∃ report, frameReport files settings r = .ok report ∧ report.exit = .success ∧
      report.output = jsonOutput (.object [("status", .text "ok"),
        ("values", .object (OrderedMap.ofList (labelledValues samples.frame.rows series)).entries)]) := by
  obtain ⟨report, hreport, hexit, houtput⟩ := frameNode_of_ok hseries (markupFault?_of_json hformat samples _)
  refine ⟨report, (frameReport_of_load hparse hsamples).trans hreport, hexit, ?_⟩
  rw [houtput hformat, frameJson, Option.elim, seriesJson_eq]
  rfl

/-- **No column is ambiguous.** The names of a header that come again are numbered, so the labels of a frame are distinct; a
name stands for the first of its columns, and no frame has the fault that a label is not unique. Where the variables resolve
over the names that the header itself has, the command ends with a series, or with a cell that is no number. -/
theorem frame_repeated_names (settings : Settings) {text : String} {header : List (List Char)}
    {rows : List (List (List Char))}
    (hread : files.read? r.sheet = some text.toUTF8.toList) (htable : IsTable text header rows)
    (hparse : Node.parse r.form r.source = .ok n) (hsamples : Samples.load files r.sheet r.index = .ok samples) :
    let policy := r.tieBreak.getD settings.tieBreak
    (samples.frame.labels = (columnNames header).filter (some · != r.index) ∧ samples.frame.labels.Nodup) ∧
    (∀ label ∈ samples.frame.labels, ∃ name ∈ fieldNames header, label = name ∨ ∃ k, label = numbered name k) ∧
    (∀ name, name.toList ∈ header → name ≠ "" → r.index ≠ some name →
      samples.frame.column? name = some ⟨name, column (fieldsNamed header rows name)⟩) ∧
    (∀ label, samples.frame.eval n policy ≠ .error (.notUnique label)) ∧
    ((Resolution.of n.vars ((fieldNames header).filter (some · != r.index)) policy).isOk = true →
      (∃ series, samples.frame.eval n policy = .ok (some series) ∧
        (markupFault? r samples (some series) = none →
          ∃ report, frameReport files settings r = .ok report ∧ report.exit = .success)) ∨
      ∃ label cause report, samples.frame.eval n policy = .error (.notNumeric label cause) ∧
        frameReport files settings r = .ok report ∧ report.exit = .failure ∧
        report.errors = Display.errorLine (FrameFault.notNumeric label cause).message) := by
  intro policy
  have hsheet := Samples.ofSheet_of_load hread htable hsamples
  have hcells := Samples.ofCells_ofSheet hsheet
  have hlabels := Samples.labels_ofSheet hsheet
  refine ⟨⟨hlabels, hcells.nodup_labels⟩, fun label hlabel => ?_, fun name => Samples.column?_ofSheet hsheet,
    fun label h => ?_, fun hok => ?_⟩
  · rw [hlabels] at hlabel
    exact mem_columnNames (List.mem_of_mem_filter hlabel)
  · obtain ⟨label', cause, hfault⟩ := hcells.eval_eq_error h
    cases hfault
  · rw [frameReport_of_load hparse hsamples]
    have hresolved : (Resolution.of n.vars samples.frame.labels policy).isOk = true := by
      refine Resolution.isOk_mono (List.Subset.refl _) ?_ hok
      rw [hlabels]
      exact List.filter_subset _ (fieldNames_subset header)
    cases heval : samples.frame.eval n policy with
    | error fault =>
      obtain ⟨label, cause, rfl⟩ := hcells.eval_eq_error heval
      obtain ⟨report, hreport, hexit, -, herrors⟩ := frameNode_of_error heval
      exact .inr ⟨label, cause, report, rfl, hreport, hexit, herrors⟩
    | ok series =>
      cases series with
      | none =>
        rw [Frame.eval_eq_none_iff, hresolved] at heval
        cases heval
      | some series =>
        refine .inl ⟨series, rfl, fun hmarkup => ?_⟩
        obtain ⟨report, hreport, hexit, -⟩ := frameNode_of_ok heval hmarkup
        exact ⟨report, hreport, hexit⟩

/-- A name that comes again is numbered, matches the glob and is selected. -/
theorem frame_repeated_names_numbered :
    let text := "cpu,cpu,t\n1,2,mon\n"
    let files := Files.empty.writeText "s.csv" text
    let header := ["cpu".toList, "cpu".toList, "t".toList]
    let rows := [["1".toList, "2".toList, "mon".toList]]
    let r : FrameRequest := ⟨"\"cpu*\"", .either, "s.csv", some "t", none, .text⟩
    let n : Node := .expr (.var ⟨⟨"cpu*"⟩, by decide⟩)
    ∃ samples, (files.read? "s.csv" = some text.toUTF8.toList ∧ IsTable text header rows ∧
      Node.parse .either "\"cpu*\"" = .ok n ∧ Samples.load files "s.csv" (some "t") = .ok samples ∧
      (Resolution.of n.vars ((fieldNames header).filter (some · != some "t")) .last).isOk = true) ∧
    samples.frame.labels = ["cpu", "cpu.1"] ∧
    samples.frame.column? "cpu" = some ⟨"cpu", column ["1".toList]⟩ ∧
    samples.frame.eval n .last = .ok (some (.numbers [.ofInt 2])) ∧
    ∃ report, frameReport files ⟨.warning, "", .last, 6⟩ r = .ok report ∧ report.exit = .success := by
  intro text files header rows r n
  have hread := Files.read?_writeText .empty "s.csv" text
  have htable : IsTable text header rows := ⟨rows, by decide +kernel, by decide +kernel⟩
  have hparse : Node.parse .either "\"cpu*\"" = .ok n := by decide +kernel
  have hok : (Resolution.of n.vars ((fieldNames header).filter (some · != some "t")) .last).isOk = true := by
    decide +kernel
  obtain ⟨samples, hsamples, hsame⟩ := Samples.exists_load (some "t")
    (fun samples => (samples.indexName, samples.frame.eval n .last)) (some "t", .ok (some (.numbers [.ofInt 2])))
    (Files.look_writeText .empty "s.csv" text (by decide +kernel)) htable (by decide +kernel)
  obtain ⟨hname, heval⟩ := Prod.mk.inj hsame
  obtain ⟨⟨hlabels, -⟩, -, hcolumn, -, hends⟩ :=
    frame_repeated_names ⟨.warning, "", .last, 6⟩ (r := r) hread htable hparse hsamples
  refine ⟨samples, ⟨hread, htable, hparse, hsamples, hok⟩, hlabels.trans (by decide +kernel),
    hcolumn "cpu" (by decide) (by decide) (by decide), heval, ?_⟩
  obtain ⟨series, hseries, hreport⟩ | ⟨label, cause, report, hfault, -⟩ := hends hok
  · refine hreport ?_
    show samples.indexName.bind Markup.fault? = none
    rw [hname]
    decide +kernel
  · cases heval.symm.trans hfault

/-- **A name that repeats is no error.** The header selects `a`, which it has twice; the value is that of the first. -/
theorem frame_repeated_names_accepted :
    let text := "a,a\n1,2\n"
    let files := Files.empty.writeText "s.csv" text
    let header := ["a".toList, "a".toList]
    let a : Variable := ⟨⟨"a"⟩, by decide⟩
    IsTable text header [["1".toList, "2".toList]] ∧
    Resolution.of [a] (fieldNames header) .last = .ok [] [(a, "a")] ∧
    ∃ report, frameReport files ⟨.warning, "", .last, 6⟩ ⟨"\"a\"", .either, "s.csv", none, none, .json⟩ = .ok report ∧
      report.exit = .success ∧
      report.output = jsonOutput (.object [("status", .text "ok"),
        ("values", .object [("0", .ofOutcome (some (.number (.ofInt 1))))])]) := by
  intro text files header a
  let rows := [["1".toList, "2".toList]]
  have htable : IsTable text header rows := ⟨rows, by decide +kernel, by decide +kernel⟩
  let n : Node := .expr (.var a)
  let series : Series := .numbers [.ofInt 1]
  let r : FrameRequest := ⟨"\"a\"", .either, "s.csv", none, none, .json⟩
  have hparse : Node.parse .either "\"a\"" = .ok n := by decide +kernel
  obtain ⟨samples, hsamples, hsame⟩ := Samples.exists_load none
    (fun samples => (samples.frame.rows.map Datum.toText, samples.frame.eval n .last)) (["0"], .ok (some series))
    (Files.look_writeText .empty "s.csv" text (by decide +kernel)) htable (by decide +kernel)
  obtain ⟨hlabels, hseries⟩ := Prod.mk.inj hsame
  obtain ⟨report, hreport, hexit, houtput⟩ :=
    frameReport_json ⟨.warning, "", .last, 6⟩ (r := r) rfl hparse hsamples hseries
  refine ⟨htable, by decide +kernel, report, hreport, hexit, ?_⟩
  rw [houtput, labelledValues, hlabels]
  rfl

end MetricExpr.Command
