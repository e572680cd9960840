import Mathlib.Data.List.TakeWhile
import MetricExpr.Proofs.Except
import MetricExpr.Proofs.Settings.Variables
import MetricExpr.Proofs.Text.Encoding
import MetricExpr.Settings
/-!
# Where settings come from

If the files of variables have lines `NAME=value`, a variable has the value of its last line in the file that is loaded
last, else of its last line in the file before, else the one it had (`loaded_of_defines`). The settings that an environment
gives are read from four variables, each with a default (`ofEnvironment_eq_ok_iff`).
-/
namespace MetricExpr

/-! ## Files of variables -/

/-- What is relied on when variables are read: lines that define some give them these values, and nothing else changes. -/
def VariableReader.ReadsLines (reader : VariableReader) : Prop :=
  ∀ (env : Environment) (defs : List Definition), (∀ d ∈ defs, d.isPlain = true) →
    (reader env (Definition.text defs).toUTF8.toList).1 = none ∧
    ∀ name, (reader env (Definition.text defs).toUTF8.toList).2.get? name = (Definition.last? defs name).or (env.get? name)

theorem VariableReader.own_of_text (env : Environment) (text : String) :
    own env text.toUTF8.toList = ((env.load text).1.map .unset, (env.load text).2) := by
  rw [own, Text.decode_eq_ok_iff.2 rfl]

theorem VariableReader.readsLines_own : own.ReadsLines := by
  intro env defs hdefs
  obtain ⟨hfault, hvalues⟩ := Environment.load_text hdefs env
  rw [own_of_text, hfault]
  exact ⟨rfl, hvalues⟩

namespace Files

variable {files : Files}

/-- The file at a path has the lines of these definitions; if there is no file, there are none. -/
def Defines (files : Files) (path : String) (defs : List Definition) : Prop :=
  (∀ d ∈ defs, d.isPlain = true) ∧
    (files.read? path = some (Definition.text defs).toUTF8.toList ∨ files.read? path = none ∧ defs = [])

theorem read?_writeText_eq_if (files : Files) (path text other : String) : (files.writeText path text).read? other =
    if locate other = locate path then some text.toUTF8.toList else files.read? other := by
  unfold writeText write read?
  split
  · rename_i h
    rw [h, OrderedMap.get?_insert_self]
  · rename_i h
    rw [OrderedMap.get?_insert_of_ne _ h]

theorem look_of_read?_of_refusal? {path : String} {bytes : List UInt8} (h : files.refusal? path = none)
    (hread : files.read? path = some bytes) : files.look path = .found (.ok bytes) := by
  refine look_of_read? hread (Nat.not_lt.1 fun hlong => ?_)
  rw [refusal?, look, if_pos hlong] at h
  cases h

/-- A path whose steps are short is not refused. -/
theorem refusal?_eq_none (files : Files) {path : String} (hpath : (normalPath path).utf8ByteSize ≤ maxPath)
    (hsteps : ∀ step ∈ pathSteps path, step.utf8ByteSize ≤ maxStep) : files.refusal? path = none := by
  have hmeets : files.meetsLongStep path = false := by
    have hall : (pathSteps path).takeWhile (fun step => step.utf8ByteSize ≤ maxStep) = pathSteps path :=
      List.takeWhile_eq_self_iff.2 fun step hstep => decide_eq_true (hsteps step hstep)
    rw [meetsLongStep, hall, decide_eq_false (Nat.lt_irrefl _), Bool.false_and]
  unfold refusal? look
  rw [if_neg (Nat.not_lt.2 hpath), hmeets]
  cases files.read? path with
  | some bytes => rfl
  | none => cases files.isDirectory path <;> rfl

end Files

/-! ## Environments -/

namespace Environment

theorem lookup_filter (name other : String) : ∀ entries : List (String × String),
    (entries.filter (·.1 != name)).lookup other = if other = name then none else entries.lookup other
  | [] => (ite_self none).symm
  | (key, value) :: entries => by
    by_cases hkey : key = name
    · subst hkey
      rw [List.filter_cons_of_neg (by simp), lookup_filter key other entries, List.lookup_cons]
      split
      · rfl
      · rename_i h
        rw [beq_false_of_ne h]
    · rw [List.filter_cons_of_pos (by simpa using hkey), List.lookup_cons, List.lookup_cons, lookup_filter name other entries]
      by_cases h : other = name
      · rw [if_pos h, if_pos h, h, beq_false_of_ne (Ne.symm hkey)]
      · rw [if_neg h, if_neg h]

theorem get?_assign (env : Environment) (name : String) (value : Option String) (other : String) :
    (env.assign name value).get? other = if other = name then value else env.get? other := by
  cases value with
  | none => exact lookup_filter name other env.entries
  | some value =>
    split
    · rename_i h
      rw [h]
      exact OrderedMap.get?_insert_self env name value
    · rename_i h
      exact OrderedMap.get?_insert_of_ne env h value

/-- **A file of definitions gives each name the value of its last one.** -/
theorem loadFile_of_defines {reader : VariableReader} (hreader : reader.ReadsLines) (env : Environment) {files : Files}
    {path : String} {defs : List Definition} (hdefs : files.Defines path defs) (hrefusal : files.refusal? path = none) :
    (env.loadFile reader files path).1 = none ∧
      ∀ name, (env.loadFile reader files path).2.get? name = (Definition.last? defs name).or (env.get? name) := by
  obtain ⟨hplain, hread | ⟨hread, rfl⟩⟩ := hdefs
  · have hload : env.loadFile reader files path = reader env (Definition.text defs).toUTF8.toList := by
      rw [loadFile, Files.look_of_read?_of_refusal? hrefusal hread]
    rw [hload]
    exact hreader env defs hplain
  · have hload : env.loadFile reader files path = (none, env) := by
      unfold loadFile
      split
      · rename_i fault hlook
        rw [Files.refusal?, hlook] at hrefusal
        cases hrefusal
      · rename_i bytes hlook
        rw [Files.read?_of_look hlook] at hread
        cases hread
      · rfl
      · rfl
    rw [hload]
    exact ⟨rfl, fun name => rfl⟩

end Environment

/-- **Each variable has the value of its last definition** in the caller's file, else in the default file, else the one it
had. -/
theorem SettingsStore.loaded_of_defines {reader : VariableReader} (hreader : reader.ReadsLines) (s : SettingsStore)
    {files : Files} {file : String} {common special : List Definition} (hcommon : files.Defines defaultFile common)
    (hspecial : files.Defines file special) (hrefusal : files.refusal? file = none) :
    (s.loaded reader files file).1 = none ∧
      ∀ name, (s.loaded reader files file).2.get? name =
        (Definition.last? special name).or ((Definition.last? common name).or (s.environment.get? name)) := by
  obtain ⟨hfault, hvalues⟩ :=
    s.environment.loadFile_of_defines hreader hcommon (files.refusal?_eq_none (by decide) (by decide))
  unfold loaded
  cases hload : s.environment.loadFile reader files defaultFile with
  | mk fault env =>
    rw [hload] at hfault hvalues
    dsimp only at hfault hvalues
    subst hfault
    dsimp only
    obtain ⟨hfault', hvalues'⟩ := env.loadFile_of_defines hreader hspecial hrefusal
    refine ⟨hfault', fun name => ?_⟩
    rw [hvalues', hvalues]

/-- Environments that agree on a variable still do when the same file has been loaded. -/
theorem Environment.get?_loadFile_own_congr {env env' : Environment} {name : String} (h : env'.get? name = env.get? name)
    (files : Files) (path : String) :
    (env'.loadFile .own files path).2.get? name = (env.loadFile .own files path).2.get? name := by
  unfold loadFile
  split
  · exact h
  · unfold VariableReader.own
    split
    · exact get?_setAll_congr _ h
    · exact h
  · exact h
  · exact h

theorem SettingsStore.get?_loaded_own_congr {s s' : SettingsStore} {name : String}
    (h : s'.environment.get? name = s.environment.get? name) {files : Files} {file : String}
    (hs : (s.loaded .own files file).1 = none) (hs' : (s'.loaded .own files file).1 = none) :
    (s'.loaded .own files file).2.get? name = (s.loaded .own files file).2.get? name := by
  have hdefault := Environment.get?_loadFile_own_congr h files defaultFile
  unfold loaded at hs hs' ⊢
  cases hload : s.environment.loadFile .own files defaultFile with
  | mk fault env =>
  cases hload' : s'.environment.loadFile .own files defaultFile with
  | mk fault' env' =>
  rw [hload] at hs
  rw [hload'] at hs'
  rw [hload, hload'] at hdefault
  cases fault with
  | some fault => cases hs
  | none =>
    cases fault' with
    | some fault' => cases hs'
    | none => exact Environment.get?_loadFile_own_congr hdefault files file

/-! ## Settings -/

/-- The settings that the values of variables give. -/
structure Settings.Given (value? : String → Option String) (s : Settings) : Prop where
  severity : s.severity.name.toList = Text.strip (Text.upper ((value? "PATHEXPR_LOG_LEVEL").getD "WARNING")).toList
  logDirectory : s.logDirectory = (value? "PATHEXPR_LOG_DIR").getD ""
  tieBreak : s.tieBreak.name.toList = (Text.strip ((value? "PATHEXPR_TIE_BREAK").getD "last").toList).map Char.toLower
  precision : readInt? ((value? "PATHEXPR_PRECISION").getD "6") = some s.precision.val

theorem Severity.name_injective : Function.Injective Severity.name := by
  intro a b h
  cases a <;> cases b <;> first | rfl | exact absurd h (by decide)

theorem TieBreak.name_injective : Function.Injective TieBreak.name := by
  intro a b h
  cases a <;> cases b <;> first | rfl | exact absurd h (by decide)

theorem Severity.ofName?_eq_some_iff {s : String} {severity : Severity} :
    Severity.ofName? s = some severity ↔ severity.name = s := by
  constructor
  · intro h
    have hname := List.find?_some (p := fun severity : Severity => severity.name == s) h
    exact eq_of_beq hname
  · rintro rfl
    cases severity <;> rfl

theorem TieBreak.ofName?_eq_some_iff {s : String} {t : TieBreak} :
    TieBreak.ofName? s = some t ↔ t.name.toList = (Text.strip s.toList).map Char.toLower := by
  constructor
  · intro h
    have hname := List.find?_some (p := fun t : TieBreak => t.name.toList == (Text.strip s.toList).map Char.toLower) h
    exact eq_of_beq hname
  · intro h
    unfold ofName?
    rw [← h]
    cases t <;> rfl

namespace Settings

theorem readSeverity_eq_ok_iff {given : String} {severity : Severity} :
    readSeverity given = .ok severity ↔ severity.name.toList = Text.strip (Text.upper given).toList := by
  unfold readSeverity
  dsimp only
  rw [elim_eq_ok_iff, Severity.ofName?_eq_some_iff, ← String.toList_inj, String.toList_ofList]

theorem readTieBreak_eq_ok_iff {given : String} {t : TieBreak} :
    readTieBreak (.text given) = .ok t ↔ t.name.toList = (Text.strip given.toList).map Char.toLower := by
  have hread : TieBreak.ofDatum (.text given) = .ok t ↔ TieBreak.ofName? given = some t := elim_eq_ok_iff
  rw [← TieBreak.ofName?_eq_some_iff, ← hread, readTieBreak]
  cases TieBreak.ofDatum (.text given) <;> simp

theorem checkPrecision_eq_ok_iff {n : Int} {p : Fin 18} : checkPrecision n = .ok p ↔ n = p.val := by
  unfold checkPrecision
  split
  · rename_i h
    rw [Except.ok.injEq, Fin.ext_iff]
    show n.toNat = p.val ↔ _
    omega
  · have := p.isLt
    simp only [reduceCtorEq, false_iff]
    omega

theorem readPrecision_eq_ok_iff {given : String} {p : Fin 18} :
    readPrecision given = .ok p ↔ readInt? given = some (p.val : Int) := by
  unfold readPrecision
  cases readInt? given with
  | none => simp
  | some n =>
    show checkPrecision n = .ok p ↔ _
    rw [checkPrecision_eq_ok_iff, Option.some.injEq]

/-- **An environment gives settings** iff each of its variables gives one. -/
theorem ofEnvironment_eq_ok_iff {env : Environment} {s : Settings} : ofEnvironment env = .ok s ↔ s.Given env.get? := by
  unfold ofEnvironment
  simp only [bind_eq_ok_iff, pure, Except.pure, Except.ok.injEq]
  constructor
  · rintro ⟨severity, hseverity, tieBreak, htie, precision, hprecision, rfl⟩
    exact ⟨readSeverity_eq_ok_iff.1 hseverity, rfl, readTieBreak_eq_ok_iff.1 htie, readPrecision_eq_ok_iff.1 hprecision⟩
  · rintro ⟨hseverity, hdirectory, htie, hprecision⟩
    refine ⟨s.severity, readSeverity_eq_ok_iff.2 hseverity, s.tieBreak, readTieBreak_eq_ok_iff.2 htie, s.precision,
      readPrecision_eq_ok_iff.2 hprecision, ?_⟩
    rw [← hdirectory]

end Settings

/-- **A load gives settings** iff nothing breaks off the loading of both files and each variable then gives one. -/
theorem SettingsStore.read_eq_ok_iff {reader : VariableReader} {s : SettingsStore} {files : Files} {file : String}
    {settings : Settings} : s.read reader files file = .ok settings ↔
      (s.loaded reader files file).1 = none ∧ settings.Given (s.loaded reader files file).2.get? := by
  unfold read
  cases (s.loaded reader files file).1 with
  | some fault => exact iff_of_false nofun fun h => nomatch h.1
  | none =>
    rw [and_iff_right rfl]
    exact Settings.ofEnvironment_eq_ok_iff

end MetricExpr
