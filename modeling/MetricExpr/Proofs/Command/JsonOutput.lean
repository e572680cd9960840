import MetricExpr.Proofs.Command.FrameReport
import MetricExpr.Proofs.Display.JsonText
/-!
# Commands that print JSON

A command that is asked for JSON prints one text of the strict grammar, and nothing only if its input has no result to print
(`run_json`). Results are numbers only if they are finite (`JsonValue.Scalar`).
-/
namespace MetricExpr

/-- How a result is written: null if there is none, a finite number as itself, and all other numbers by name. -/
inductive JsonValue.Scalar : Option (Outcome Binary64) → JsonValue → Prop
  | undefined : Scalar none .null
  | truth (b : Bool) : Scalar (some (.truth b)) (.flag b)
  | finite (x : Finite) : Scalar (some (.number (.finite x))) (.real x)
  | infinity : Scalar (some (.number (.infinity false))) (.text "inf")
  | negativeInfinity : Scalar (some (.number (.infinity true))) (.text "-inf")
  | nan : Scalar (some (.number .nan)) (.text "nan")

theorem JsonValue.scalar_ofOutcome : ∀ value : Option (Outcome Binary64), Scalar value (ofOutcome value)
  | none => .undefined
  | some (.truth b) => .truth b
  | some (.number (.finite x)) => .finite x
  | some (.number (.infinity false)) => .infinity
  | some (.number (.infinity true)) => .negativeInfinity
  | some (.number .nan) => .nan

namespace Command

open JsonValue Csv

/-- The format that a task is asked to write its result in. -/
def Task.format? : Task → Option OutputFormat
  | .parse r => some r.format
  | .eval r => some r.format
  | .matching r => some r.format
  | .frame r => some r.format
  | .config => none

/-- A match with its key's number. -/
def IsMatch (table : SymbolTable) (m : Match Glob) (item : JsonValue) : Prop :=
  ∃ value, Scalar (some (.number (numberAt table m.key))) value ∧
    item = .object [("glob", .text m.target.text), ("key", .text m.key), ("captures", .texts m.captures), ("value", value)]

/-- A row's label with the value there. -/
def IsRow (rows : List Datum) (series : Series) (field : String × JsonValue) : Prop :=
  ∃ p ∈ rows.zip series.values, field.1 = p.1.toText ∧ Scalar (some p.2) field.2

/-- What a task can print. -/
inductive Payload (files : Files) (settings : Settings) : Task → JsonValue → Prop
  | unparsed {r : ParseRequest} {e : SyntaxError} (hparse : Node.parse r.form r.source = .error e) :
    Payload files settings (.parse r) (syntaxErrorJson e)
  | parsed {r : ParseRequest} {n : Node} (hparse : Node.parse r.form r.source = .ok n) :
    Payload files settings (.parse r) (nodeJson n)
  | evaluated {r : EvalRequest} {n : Node} {table : SymbolTable} {resolution : Resolution}
    {result : Option (Outcome Binary64)} {value : JsonValue} (hparse : Node.parse r.form r.source = .ok n)
    (hload : SymbolTable.load files r.table = .ok table)
    (hresolution : resolution = .of n.vars table.keys (r.tieBreak.getD settings.tieBreak))
    (hresult : result = n.evalWith .binary64 (resolution.numbers table)) (hvalue : Scalar result value) :
    Payload files settings (.eval r)
      (.object [("status", .text (statusOf result)), ("value", value), ("resolution", resolution.toJson)])
  | matched {r : MatchRequest} {m : PathMatcher} {table : SymbolTable} {items : List JsonValue}
    (hglobs : PathMatcher.ofTexts? r.globs = some m) (hload : SymbolTable.load files r.table = .ok table)
    (hitems : List.Forall₂ (IsMatch table) (m.matchAll table.keys) items) :
    Payload files settings (.matching r)
      (.object [("globs", .texts (m.globs.map (·.text))), ("matches", .array items)])
  | unresolved {r : FrameRequest} {n : Node} {samples : Samples} (hparse : Node.parse r.form r.source = .ok n)
    (hload : Samples.load files r.sheet r.index = .ok samples)
    (heval : samples.frame.eval n (r.tieBreak.getD settings.tieBreak) = .ok none) :
    Payload files settings (.frame r) (.object [("status", .text Display.undefined), ("values", .null)])
  | framed {r : FrameRequest} {n : Node} {samples : Samples} {series : Series} {fields : List (String × JsonValue)}
    (hparse : Node.parse r.form r.source = .ok n) (hload : Samples.load files r.sheet r.index = .ok samples)
    (heval : samples.frame.eval n (r.tieBreak.getD settings.tieBreak) = .ok (some series))
    (hlabels : fields.map (·.1) = distinct (samples.frame.rows.map Datum.toText))
    (hfields : ∀ field ∈ fields, IsRow samples.frame.rows series field) :
    Payload files settings (.frame r) (.object [("status", .text "ok"), ("values", .object fields)])

/-- What is printed when some values can be: one of them as a line of JSON, or nothing if there is none of them. Only a
source that cannot be loaded breaks a command off. -/
inductive Prints (allowed : JsonValue → Prop) : Except Break String → Prop
  | json {text : String} {x : JsonValue} (hx : allowed x) (h : Denotes text.toList x) : Prints allowed (.ok (text ++ "\n"))
  | nothing (hno : ∀ x, ¬ allowed x) : Prints allowed (.ok "")
  | breaks {source : String} {fault : LoadFault} (hno : ∀ x, ¬ allowed x) : Prints allowed (.error (.load source fault))

theorem prints_jsonOutput {allowed : JsonValue → Prop} {x : JsonValue} (hx : allowed x) :
    Prints allowed (.ok (jsonOutput x)) := .json hx (denotes_writeAt 0 x)

variable {files : Files} {settings : Settings}

theorem prints_parseReport {r : ParseRequest} (hformat : r.format = .json) :
    Prints (Payload files settings (.parse r)) (.ok (parseReport r).output) := by
  unfold parseReport
  cases hparse : Node.parse r.form r.source with
  | error e =>
    rw [hformat]
    exact prints_jsonOutput (.unparsed hparse)
  | ok n =>
    rw [hformat]
    exact prints_jsonOutput (.parsed hparse)

/-- Without a table nothing is printed. -/
theorem prints_withTable {path : String} {next : SymbolTable → Report} {allowed : JsonValue → Prop}
    (hallowed : ∀ x, allowed x → ∃ table, SymbolTable.load files path = .ok table)
    (hnext : ∀ table, SymbolTable.load files path = .ok table → Prints allowed (.ok (next table).output)) :
    Prints allowed ((withTable files path next).map (·.output)) := by
  unfold withTable
  cases hload : SymbolTable.load files path with
  | ok table => exact hnext table hload
  | error fault =>
    have hno : ∀ x, ¬ allowed x := by
      intro x hx
      obtain ⟨table, htable⟩ := hallowed x hx
      cases hload.symm.trans htable
    dsimp only
    split
    · exact .nothing hno
    · exact .breaks hno

theorem prints_evalReport {r : EvalRequest} (hformat : r.format = .json) :
    Prints (Payload files settings (.eval r)) ((evalReport files settings r).map (·.output)) := by
  unfold evalReport withNode
  cases hparse : Node.parse r.form r.source with
  | error e =>
    refine .nothing fun x hx => ?_
    cases hx with
    | evaluated hparse' => cases hparse.symm.trans hparse'
  | ok n =>
    refine prints_withTable (fun x hx => ?_) fun table hload => ?_
    · cases hx with
      | evaluated _ hload => exact ⟨_, hload⟩
    · unfold evalNode
      dsimp only
      rw [hformat]
      exact prints_jsonOutput (.evaluated hparse hload rfl rfl (scalar_ofOutcome _))

theorem isMatch_matchJson (table : SymbolTable) (m : Match Glob) : IsMatch table m (matchJson table m) :=
  ⟨_, scalar_ofOutcome _, rfl⟩

theorem prints_matchReport {r : MatchRequest} (hformat : r.format = .json) :
    Prints (Payload files settings (.matching r)) ((matchReport files settings r).map (·.output)) := by
  refine prints_withTable (fun x hx => ?_) fun table hload => ?_
  · cases hx with
    | matched _ hload => exact ⟨_, hload⟩
  · unfold matchKeys
    cases hglobs : PathMatcher.ofTexts? r.globs with
    | none =>
      refine .nothing fun x hx => ?_
      cases hx with
      | matched hglobs' => cases hglobs.symm.trans hglobs'
    | some m =>
      dsimp only
      rw [hformat]
      refine prints_jsonOutput (.matched hglobs hload ?_)
      exact List.forall₂_map_right_iff.2 (List.forall₂_same.2 fun m _ => isMatch_matchJson table m)

theorem isRow_of_mem {rows : List Datum} {series : Series} {field : String × JsonValue}
    (h : field ∈ (OrderedMap.ofList (labelledValues rows series)).entries) : IsRow rows series field := by
  have hpair := OrderedMap.mem_of_mem_ofList h
  rw [labelledValues, List.zip_map] at hpair
  obtain ⟨p, hp, rfl⟩ := List.mem_map.1 hpair
  exact ⟨p, hp, rfl, scalar_ofOutcome _⟩

theorem Payload.eval_frame {r : FrameRequest} {x : JsonValue} (h : Payload files settings (.frame r) x) :
    ∃ n samples series, Node.parse r.form r.source = .ok n ∧ Samples.load files r.sheet r.index = .ok samples ∧
      samples.frame.eval n (r.tieBreak.getD settings.tieBreak) = .ok series := by
  cases h with
  | unresolved hparse hload heval => exact ⟨_, _, _, hparse, hload, heval⟩
  | framed hparse hload heval => exact ⟨_, _, _, hparse, hload, heval⟩

theorem prints_frameReport {r : FrameRequest} (hformat : r.format = .json) :
    Prints (Payload files settings (.frame r)) ((frameReport files settings r).map (·.output)) := by
  cases hparse : Node.parse r.form r.source with
  | error e =>
    unfold frameReport withNode
    rw [hparse]
    refine .nothing fun x hx => ?_
    obtain ⟨n, samples, series, hparse', -⟩ := hx.eval_frame
    cases hparse.symm.trans hparse'
  | ok n =>
    cases hload : Samples.load files r.sheet r.index with
    | error fault =>
      unfold frameReport withNode
      rw [hparse]
      dsimp only
      rw [hload]
      refine .nothing fun x hx => ?_
      obtain ⟨n, samples, series, -, hload', -⟩ := hx.eval_frame
      cases hload.symm.trans hload'
    | ok samples =>
      rw [frameReport_of_load hparse hload]
      cases heval : samples.frame.eval n (r.tieBreak.getD settings.tieBreak) with
      | error fault =>
        obtain ⟨report, hreport, -, houtput, -⟩ := frameNode_of_error heval
        rw [hreport, Except.map, houtput]
        refine .nothing fun x hx => ?_
        obtain ⟨n', samples', series, hparse', hload', heval'⟩ := hx.eval_frame
        obtain rfl := Except.ok.inj (hparse.symm.trans hparse')
        obtain rfl := Except.ok.inj (hload.symm.trans hload')
        cases heval.symm.trans heval'
      | ok series =>
        obtain ⟨report, hreport, -, houtput⟩ := frameNode_of_ok heval (markupFault?_of_json hformat samples series)
        rw [hreport, Except.map, houtput hformat]
        cases series with
        | none => exact prints_jsonOutput (.unresolved hparse hload heval)
        | some series =>
          rw [frameJson, Option.elim, seriesJson_eq]
          refine prints_jsonOutput (.framed hparse hload heval ?_ fun _ => isRow_of_mem)
          rw [← keys_labelledValues ((Samples.ofCells_load hload).length_eval heval)]
          exact OrderedMap.keys_ofList _

theorem prints_report {task : Task} (hjson : task.format? = some .json) :
    Prints (Payload files settings task) ((task.report files settings).map (·.output)) := by
  cases task with
  | parse r => exact prints_parseReport (Option.some.inj hjson)
  | eval r => exact prints_evalReport (Option.some.inj hjson)
  | matching r => exact prints_matchReport (Option.some.inj hjson)
  | frame r => exact prints_frameReport (Option.some.inj hjson)
  | config => cases hjson

/-- **A command that is asked for JSON prints strict JSON.** What it prints means a payload of its task, in which every
number is finite and infinite results and NaN stand as texts; JSON itself has no names for these. Nothing is printed only if
the task has no payload, and only a source that cannot be loaded breaks it off. -/
theorem run_json {words : List String} {severity : Option Severity} {task : Task}
    (hwords : Request.ofWords words = .ok ⟨severity, some task⟩) (hjson : task.format? = some .json) {s : Session}
    (hsettings : s.Loads settings) :
    Prints (Payload (s.files.opened settings.logDirectory) settings task) ((run words s).1.map (·.output)) ∧
      ∀ x, ¬ Denotes "NaN".toList x ∧ ¬ Denotes "Infinity".toList x ∧ ¬ Denotes "-Infinity".toList x := by
  refine ⟨?_, not_denotes_nonfinite⟩
  obtain ⟨shown, hrun⟩ := run_eq hwords hsettings
  have houtput : (run words s).1.map (·.output) =
      (task.report (s.files.opened settings.logDirectory) settings).map (·.output) := by
    rw [hrun]
    show Except.map _ (Except.map _ (task.report _ settings)) = _
    cases task.report (s.files.opened settings.logDirectory) settings <;> rfl
  rw [houtput]
  exact prints_report hjson

/-- An infinite sample and one that is missing. -/
theorem run_json_infinite :
    let text := "a\ninf\nNA\n"
    let files := Files.empty.writeText "s.csv" text
    let s := Session.start files
    let settings : Settings := ⟨.warning, "", .last, 6⟩
    let words := ["frame", "\"a\"", "--csv", "s.csv", "--json"]
    let task : Task := .frame ⟨"\"a\"", .either, "s.csv", none, none, .json⟩
    let payload : JsonValue :=
      .object [("status", .text "ok"), ("values", .object [("0", .text "inf"), ("1", .text "nan")])]
    (Request.ofWords words = .ok ⟨none, some task⟩ ∧ task.format? = some .json ∧ s.Loads settings) ∧
      Payload files settings task payload ∧
      ∃ text x, (run words s).1.map (·.output) = .ok (text ++ "\n") ∧ Denotes text.toList x ∧
        Payload files settings task x := by
  intro text files s settings words task payload
  have hwords : Request.ofWords words = .ok ⟨none, some task⟩ := by decide +kernel
  have hsettings : s.Loads settings := ⟨0, by decide +kernel⟩
  let n : Node := .expr (.var ⟨⟨"a"⟩, by decide⟩)
  let series : Series := .numbers [.infinity false, .nan]
  have hparse : Node.parse .either "\"a\"" = .ok n := by decide +kernel
  have htable : IsTable text ["a".toList] [["inf".toList], ["NA".toList]] :=
    ⟨[["inf".toList], ["NA".toList]], by decide +kernel, by decide +kernel⟩
  obtain ⟨samples, hsamples, hsame⟩ := Samples.exists_load none
    (fun samples => (samples.frame.rows.map Datum.toText, samples.frame.eval n .last)) (["0", "1"], .ok (some series))
    (Files.look_writeText .empty "s.csv" text (by decide +kernel)) htable (by decide +kernel)
  obtain ⟨hlabels, heval⟩ := Prod.mk.inj hsame
  have hfields : (OrderedMap.ofList (labelledValues samples.frame.rows series)).entries =
      [("0", .text "inf"), ("1", .text "nan")] := by
    rw [labelledValues, hlabels]
    rfl
  have hpayload : Payload files settings task payload :=
    .framed hparse hsamples heval (hlabels ▸ rfl) fun field hfield => isRow_of_mem (hfields ▸ hfield)
  refine ⟨⟨hwords, rfl, hsettings⟩, hpayload, ?_⟩
  have hprints := (run_json hwords rfl hsettings).1
  generalize (run words s).1.map (·.output) = printed at hprints
  cases hprints with
  | json hx h => exact ⟨_, _, rfl, h, hx⟩
  | nothing hno => exact absurd hpayload (hno payload)
  | breaks hno => exact absurd hpayload (hno payload)

end Command
end MetricExpr
