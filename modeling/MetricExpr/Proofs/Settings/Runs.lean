import MetricExpr.Proofs.Settings.Sources
import MetricExpr.Session
/-!
# Runs of acts on settings

Settings that have been loaded are kept until they are dropped (`Session.Kept`). Until a load succeeds there are none, and
the next load reads everything again (`Session.Pending`); that an earlier one failed midway leaves no trace but in the
environment. The number of an attempt stands for the settings it made: no two settings are ever answered under one
number (`Session.Numbered`).
-/
namespace MetricExpr

/-- What can be done to settings and to what they are loaded from. -/
inductive Act where
  | assign (name : String) (value : Option String)
  | write (path text : String)
  | reset
  | get (file : String)
  | reload (file : String)
  deriving DecidableEq

/-- Settings with the number of the attempt that made them, or why there are none. -/
abbrev Answer := Except SettingsFault (Nat × Settings)

namespace Session

/-- Do one act; only loads have an answer. -/
def step (reader : VariableReader) (s : Session) : Act → Option Answer × Session
  | .assign name value => (none, { s with settings := s.settings.assign name value })
  | .write path text => (none, { s with files := s.files.writeText path text })
  | .reset => (none, { s with settings := s.settings.reset })
  | .get file =>
    (some (s.settings.get reader s.files file).1, { s with settings := (s.settings.get reader s.files file).2 })
  | .reload file =>
    (some (s.settings.reload reader s.files file).1, { s with settings := (s.settings.reload reader s.files file).2 })

/-- The session after acts. -/
def run (reader : VariableReader) (s : Session) : List Act → Session
  | [] => s
  | act :: acts => (s.step reader act).2.run reader acts

/-- The answers of acts, in order. -/
def answers (reader : VariableReader) (s : Session) : List Act → List Answer
  | [] => []
  | act :: acts => (s.step reader act).1.toList ++ (s.step reader act).2.answers reader acts

/-- No files and no settings, in an environment. -/
def fresh (env : Environment) : Session := { start .empty with settings := { SettingsStore.empty with environment := env } }

/-- No load has succeeded since the start, since a reset or since a load that failed. -/
def Unloaded (reader : VariableReader) (s : Session) (acts : List Act) : Prop :=
  ∃ before since, acts = before ++ since ∧
    (before = [] ∨ ∃ earlier act, before = earlier ++ [act] ∧
      (act = .reset ∨ ∃ fault, ((s.run reader earlier).step reader act).1 = some (.error fault))) ∧
    ∀ x, .ok x ∉ (s.run reader before).answers reader since

variable {reader : VariableReader}

theorem run_append (s : Session) (before after : List Act) :
    s.run reader (before ++ after) = (s.run reader before).run reader after := by
  induction before generalizing s with
  | nil => rfl
  | cons act before ih => exact ih _

/-! ## Settings that are kept -/

/-- These settings are in force. -/
def Kept (s : Session) (x : Nat × Settings) : Prop := s.settings.slot = some (x.1, some x.2)

/-- No settings are in force. -/
def Pending (s : Session) : Prop := ∀ x, ¬ s.Kept x

theorem Kept.get {s : Session} {x : Nat × Settings} (h : s.Kept x) (file : String) :
    s.step reader (.get file) = (some (.ok x), s) := by
  rw [step, SettingsStore.get, h]

theorem Kept.step {s : Session} {x : Nat × Settings} (h : s.Kept x) {act : Act}
    (hact : act ≠ .reset ∧ ∀ file, act ≠ .reload file) :
    (s.step reader act).2.Kept x := by
  cases act with
  | assign | write => exact h
  | reset => exact absurd rfl hact.1
  | get file => rwa [h.get]
  | reload file => exact absurd rfl (hact.2 file)

theorem Kept.run {s : Session} {x : Nat × Settings} (h : s.Kept x) {acts : List Act}
    (hacts : ∀ act ∈ acts, act ≠ .reset ∧ ∀ file, act ≠ .reload file) : (s.run reader acts).Kept x := by
  induction acts generalizing s with
  | nil => exact h
  | cons act acts ih => exact ih (h.step (hacts act List.mem_cons_self)) fun a ha => hacts a (List.mem_cons_of_mem _ ha)

/-! ## Settings still to be loaded -/

/-- The number of the attempt that a load without settings in force makes. -/
def upcoming (s : Session) : Nat := s.settings.slot.elim s.settings.attempts (·.1)

theorem fill_eq (s : SettingsStore) (files : Files) (file : String) (attempt : Nat) :
    s.fill reader files file attempt =
      ((s.read reader files file).map (attempt, ·),
        ⟨(s.loaded reader files file).2, some (attempt, (s.read reader files file).toOption), s.attempts⟩) := by
  unfold SettingsStore.fill
  dsimp only
  cases s.read reader files file <;> rfl

/-- A load without settings in force reads all of them from both files and the environment. -/
theorem Pending.get {s : Session} (h : s.Pending) (file : String) :
    s.step reader (.get file) =
      (some ((s.settings.read reader s.files file).map (s.upcoming, ·)),
        { s with settings :=
          ⟨(s.settings.loaded reader s.files file).2,
            some (s.upcoming, (s.settings.read reader s.files file).toOption),
            s.settings.attempts + s.settings.slot.elim 1 fun _ => 0⟩ }) := by
  unfold step SettingsStore.get upcoming
  match hslot : s.settings.slot with
  | none => simp only [fill_eq, SettingsStore.read, SettingsStore.loaded, Option.elim_none]
  | some (n, none) => simp only [fill_eq, Option.elim_some, Nat.add_zero]
  | some (n, some settings) => exact absurd hslot (h (n, settings))

theorem pending_reset (s : Session) : (s.step reader .reset).2.Pending := nofun

/-- To load again is to drop the settings in force and load. -/
theorem step_reload (s : Session) (file : String) :
    s.step reader (.reload file) = (s.step reader .reset).2.step reader (.get file) := rfl

/-- A load that fails leaves no settings in force. -/
theorem pending_of_error {s : Session} {act : Act} {fault : SettingsFault}
    (h : (s.step reader act).1 = some (.error fault)) : (s.step reader act).2.Pending := by
  have hget : ∀ s : Session, ∀ file, s.Pending → (s.step reader (.get file)).1 = some (.error fault) →
      (s.step reader (.get file)).2.Pending := by
    intro s file hs h
    rw [hs.get, Option.some.injEq, map_eq_error_iff] at h
    rw [hs.get]
    simp only [Pending, Kept, h]
    exact nofun
  cases act with
  | assign | write | reset => exact absurd h nofun
  | reload file =>
    rw [step_reload] at h ⊢
    exact hget _ file (pending_reset s) h
  | get file =>
    by_cases hs : s.Pending
    · exact hget s file hs h
    · obtain ⟨x, hx⟩ := not_forall_not.1 hs
      rw [hx.get] at h
      exact absurd h nofun

/-- A load that succeeds leaves its settings in force. -/
theorem kept_of_ok {s : Session} {act : Act} {x : Nat × Settings} (h : (s.step reader act).1 = some (.ok x)) :
    (s.step reader act).2.Kept x := by
  have hget : ∀ s : Session, ∀ file, (s.step reader (.get file)).1 = some (.ok x) →
      (s.step reader (.get file)).2.Kept x := by
    intro s file h
    by_cases hs : s.Pending
    · rw [hs.get, Option.some.injEq, map_eq_ok_iff] at h
      obtain ⟨settings, hsettings, rfl⟩ := h
      rw [hs.get]
      simp only [Kept, hsettings, Except.toOption]
    · obtain ⟨y, hy⟩ := not_forall_not.1 hs
      rw [hy.get] at h ⊢
      obtain rfl : y = x := Except.ok.inj (Option.some.inj h)
      exact hy
  cases act with
  | assign | write | reset => exact absurd h nofun
  | reload file =>
    rw [step_reload] at h ⊢
    exact hget _ file h
  | get file => exact hget s file h

theorem Pending.step {s : Session} (h : s.Pending) {act : Act} (hact : ∀ x, (s.step reader act).1 ≠ some (.ok x)) :
    (s.step reader act).2.Pending := by
  cases hanswer : (s.step reader act).1 with
  | none =>
    cases act with
    | assign | write => exact h
    | reset => exact pending_reset s
    | get | reload => exact absurd hanswer nofun
  | some answer =>
    cases answer with
    | error fault => exact pending_of_error hanswer
    | ok x => exact absurd hanswer (hact x)

theorem Pending.run {s : Session} (h : s.Pending) {acts : List Act} (hacts : ∀ x, .ok x ∉ s.answers reader acts) :
    (s.run reader acts).Pending := by
  induction acts generalizing s with
  | nil => exact h
  | cons act acts ih =>
    rw [answers] at hacts
    refine ih (h.step fun x hx => hacts x ?_) fun x hx => hacts x (List.mem_append_right _ hx)
    rw [hx]
    exact List.mem_append_left _ List.mem_cons_self

theorem pending_of_unloaded {s : Session} (hs : s.Pending) {acts : List Act} (h : s.Unloaded reader acts) :
    (s.run reader acts).Pending := by
  obtain ⟨before, since, rfl, hbefore, hsince⟩ := h
  rw [run_append]
  refine Pending.run ?_ hsince
  obtain rfl | ⟨earlier, act, rfl, hact⟩ := hbefore
  · exact hs
  · rw [run_append]
    obtain rfl | ⟨fault, hfault⟩ := hact
    · exact pending_reset _
    · exact pending_of_error hfault

/-! ## Numbers of attempts -/

/-- The numbers under which settings have been answered: none is still to be given, and each has one record of settings. -/
structure Numbered (s : Session) (given : List Answer) : Prop where
  below : ∀ n settings, .ok (n, settings) ∈ given → n < s.settings.attempts
  pending : ∀ n, s.settings.slot = some (n, none) → n < s.settings.attempts ∧ ∀ settings, .ok (n, settings) ∉ given
  kept : ∀ n settings, s.settings.slot = some (n, some settings) →
    n < s.settings.attempts ∧ ∀ other, .ok (n, other) ∈ given → other = settings
  once : ∀ n settings other, .ok (n, settings) ∈ given → .ok (n, other) ∈ given → settings = other

theorem Numbered.reset {s : Session} {given : List Answer} (h : s.Numbered given) : (s.step reader .reset).2.Numbered given :=
  ⟨h.below, nofun, nofun, h.once⟩

theorem Numbered.upcoming_new {s : Session} {given : List Answer} (h : s.Numbered given) (hs : s.Pending) (settings : Settings) :
    .ok (s.upcoming, settings) ∉ given := by
  unfold upcoming
  match hslot : s.settings.slot with
  | none => exact fun hmem => Nat.lt_irrefl _ (h.below _ _ hmem)
  | some (n, none) => exact (h.pending n hslot).2 settings
  | some (n, some settings) => exact absurd hslot (hs (n, settings))

/-- Settings answered under a number that is not yet given keep the numbers apart. -/
theorem Numbered.once_append {s : Session} {given : List Answer} (h : s.Numbered given) {m : Nat} {made : Settings}
    (hm : ∀ settings, .ok (m, settings) ∈ given → settings = made) {n : Nat} {settings other : Settings}
    (hsettings : .ok (n, settings) ∈ given ++ [.ok (m, made)]) (hother : .ok (n, other) ∈ given ++ [.ok (m, made)]) :
    settings = other := by
  simp only [List.mem_append, List.mem_singleton, Except.ok.injEq, Prod.mk.injEq] at hsettings hother
  obtain hsettings | ⟨rfl, rfl⟩ := hsettings
  · obtain hother | ⟨rfl, rfl⟩ := hother
    · exact h.once n settings other hsettings hother
    · exact hm settings hsettings
  · obtain hother | ⟨-, rfl⟩ := hother
    · exact (hm other hother).symm
    · rfl

theorem Numbered.get {s : Session} {given : List Answer} (h : s.Numbered given) (file : String) :
    (s.step reader (.get file)).2.Numbered (given ++ (s.step reader (.get file)).1.toList) := by
  by_cases hs : s.Pending
  · have hnew := h.upcoming_new hs
    have hbelow : s.upcoming < s.settings.attempts + s.settings.slot.elim 1 fun _ => 0 := by
      unfold upcoming
      match hslot : s.settings.slot with
      | none => exact Nat.lt_succ_self _
      | some (n, none) => exact (h.pending n hslot).1
      | some (n, some settings) => exact absurd hslot (hs (n, settings))
    have hlater : ∀ n settings, .ok (n, settings) ∈ given → n < s.settings.attempts + s.settings.slot.elim 1 fun _ => 0 :=
      fun n settings hmem => Nat.lt_add_right _ (h.below n settings hmem)
    rw [hs.get]
    cases s.settings.read reader s.files file with
    | error fault =>
      simp only [Except.map, Option.toList, Except.toOption]
      constructor <;> simp only [List.mem_append, List.mem_singleton, reduceCtorEq, or_false, Option.some.injEq, Prod.mk.injEq]
      · exact hlater
      · rintro n ⟨rfl, -⟩
        exact ⟨hbelow, hnew⟩
      · rintro n settings ⟨-, ⟨⟩⟩
      · exact h.once
    | ok made =>
      simp only [Except.map, Option.toList, Except.toOption]
      constructor
      · intro n settings hmem
        simp only [List.mem_append, List.mem_singleton, Except.ok.injEq, Prod.mk.injEq] at hmem
        obtain hmem | ⟨rfl, -⟩ := hmem
        · exact hlater n settings hmem
        · exact hbelow
      · rintro n ⟨⟩
      · rintro n settings ⟨⟩
        refine ⟨hbelow, fun other hother => ?_⟩
        simp only [List.mem_append, List.mem_singleton, Except.ok.injEq, Prod.mk.injEq] at hother
        exact hother.elim (fun hmem => absurd hmem (hnew other)) (·.2)
      · intro n settings other
        exact h.once_append fun settings hmem => absurd hmem (hnew settings)
  · obtain ⟨⟨m, made⟩, hx⟩ := not_forall_not.1 hs
    obtain ⟨hbelow, hsame⟩ := h.kept m made hx
    rw [hx.get]
    constructor
    · intro n settings hmem
      simp only [List.mem_append, Option.toList, List.mem_singleton, Except.ok.injEq, Prod.mk.injEq] at hmem
      obtain hmem | ⟨rfl, -⟩ := hmem
      · exact h.below n settings hmem
      · exact hbelow
    · intro n hslot
      exact absurd (hx.symm.trans hslot) nofun
    · intro n settings hslot
      obtain ⟨rfl, rfl⟩ : m = n ∧ made = settings := by simpa using hx.symm.trans hslot
      refine ⟨hbelow, fun other hother => ?_⟩
      simp only [List.mem_append, Option.toList, List.mem_singleton, Except.ok.injEq, Prod.mk.injEq] at hother
      exact hother.elim (hsame other) (·.2)
    · intro n settings other
      exact h.once_append hsame

theorem Numbered.step {s : Session} {given : List Answer} (h : s.Numbered given) (act : Act) :
    (s.step reader act).2.Numbered (given ++ (s.step reader act).1.toList) := by
  cases act with
  | assign | write => rw [Session.step, Option.toList_none, List.append_nil]; exact ⟨h.below, h.pending, h.kept, h.once⟩
  | reset =>
    show (s.step reader .reset).2.Numbered (given ++ [])
    rw [List.append_nil]
    exact h.reset
  | get file => exact h.get file
  | reload file => rw [step_reload]; exact h.reset.get file

theorem Numbered.run {s : Session} {given : List Answer} (h : s.Numbered given) (acts : List Act) :
    (s.run reader acts).Numbered (given ++ s.answers reader acts) := by
  induction acts generalizing s given with
  | nil => rwa [answers, List.append_nil]
  | cons act acts ih =>
    rw [answers, ← List.append_assoc]
    exact ih (h.step act)

theorem numbered_fresh (env : Environment) : (fresh env).Numbered [] := ⟨nofun, nofun, nofun, nofun⟩

theorem pending_fresh (env : Environment) : (fresh env).Pending := nofun

/-- A load without settings in force answers what the environment gives once both files are loaded, under a new number. -/
theorem Pending.loads {s : Session} (hs : s.Pending) {given : List Answer} (hn : s.Numbered given) (file : String) :
    (∀ settings, (∃ n, (s.step reader (.get file)).1 = some (.ok (n, settings))) ↔
      (s.settings.loaded reader s.files file).1 = none ∧ settings.Given (s.settings.loaded reader s.files file).2.get?) ∧
    (∀ n settings, (s.step reader (.get file)).1 = some (.ok (n, settings)) → ∀ other, .ok (n, other) ∉ given) ∧
    (s.step reader (.get file)).2.settings.environment = (s.settings.loaded reader s.files file).2 := by
  rw [hs.get]
  refine ⟨fun settings => ?_, fun n settings h => ?_, rfl⟩
  · rw [← SettingsStore.read_eq_ok_iff]
    simp only [Option.some.injEq, map_eq_ok_iff, Prod.mk.injEq]
    constructor
    · rintro ⟨n, _, hok, -, rfl⟩
      exact hok
    · exact fun hok => ⟨s.upcoming, settings, hok, rfl, rfl⟩
  · simp only [Option.some.injEq, map_eq_ok_iff, Prod.mk.injEq] at h
    obtain ⟨_, -, rfl, -⟩ := h
    exact hn.upcoming_new hs

end Session

/-- **Settings are valid, kept, and loaded whole**, whatever is done from an environment without files.

Settings that are answered are in their ranges, and one number has one record of settings for ever. Once a load has
succeeded every `get` answers the same, until a reset or a reload. A load without settings in force loads both files into
the environment of that moment; it succeeds iff nothing breaks that off and each variable then gives a setting; its settings
are those and its number is new. Where the files are lines `NAME=value`, in quotes or not, each variable then has the value
of its last line in the caller's file, else in the default file, else the one it had. -/
theorem settings_runs (reader : VariableReader) (env : Environment) (acts : List Act) :
    let start := Session.fresh env
    let now := start.run reader acts
    (∀ n settings, .ok (n, settings) ∈ start.answers reader acts →
      settings.severity.name ∈ ["DEBUG", "INFO", "WARNING", "ERROR", "CRITICAL"] ∧
      settings.tieBreak.name ∈ ["first", "last"] ∧ settings.precision.val ≤ 17 ∧
      ∀ other, .ok (n, other) ∈ start.answers reader acts → other = settings) ∧
    (∀ act x, (now.step reader act).1 = some (.ok x) →
      ∀ later, (∀ act ∈ later, act ≠ .reset ∧ ∀ file, act ≠ .reload file) →
      ∀ file, (((now.step reader act).2.run reader later).step reader (.get file)).1 = some (.ok x)) ∧
    (∀ act file, act = .reload file ∨ act = .get file ∧ start.Unloaded reader acts →
      let loaded := now.settings.loaded reader now.files file
      (∀ settings, (∃ n, (now.step reader act).1 = some (.ok (n, settings))) ↔
        loaded.1 = none ∧ settings.Given loaded.2.get?) ∧
      (∀ n settings, (now.step reader act).1 = some (.ok (n, settings)) →
        ∀ other, .ok (n, other) ∉ start.answers reader acts) ∧
      (now.step reader act).2.settings.environment = loaded.2 ∧
      (reader.ReadsLines → ∀ common special, now.files.Defines ".env" common → now.files.Defines file special →
        now.files.refusal? file = none → loaded.1 = none ∧ ∀ name, loaded.2.get? name =
          (Definition.last? special name).or ((Definition.last? common name).or (now.settings.environment.get? name)))) ∧
    (∀ name value other, (now.step reader (.assign name value)).2.settings.environment.get? other =
      if other = name then value else now.settings.environment.get? other) ∧
    ∀ path text other, (now.step reader (.write path text)).2.files.read? other =
      if Files.locate other = Files.locate path then some text.toUTF8.toList else now.files.read? other := by
  intro start now
  have hnumbered : now.Numbered (start.answers reader acts) := (Session.numbered_fresh env).run acts
  refine ⟨?valid, ?kept, ?loaded, ?assigned, ?written⟩
  case valid =>
    intro n settings hmem
    refine ⟨?_, ?_, Nat.le_of_lt_succ settings.precision.isLt, fun other hother => ?_⟩
    · cases settings.severity <;> decide
    · cases settings.tieBreak <;> decide
    · exact hnumbered.once n other settings hother hmem
  case kept =>
    intro act x hok later hlater file
    rw [((Session.kept_of_ok hok).run hlater).get]
  case loaded =>
    intro act file hact loaded
    have hloads : (∀ settings, (∃ n, (now.step reader act).1 = some (.ok (n, settings))) ↔
          loaded.1 = none ∧ settings.Given loaded.2.get?) ∧
        (∀ n settings, (now.step reader act).1 = some (.ok (n, settings)) →
          ∀ other, .ok (n, other) ∉ start.answers reader acts) ∧
        (now.step reader act).2.settings.environment = loaded.2 := by
      obtain rfl | ⟨rfl, hunloaded⟩ := hact
      · rw [Session.step_reload]
        exact (Session.pending_reset now).loads hnumbered.reset file
      · exact (Session.pending_of_unloaded (Session.pending_fresh env) hunloaded).loads hnumbered file
    refine ⟨hloads.1, hloads.2.1, hloads.2.2, fun hreader common special hcommon hspecial hrefusal => ?_⟩
    exact now.settings.loaded_of_defines hreader hcommon hspecial hrefusal
  case assigned => exact fun name value other => now.settings.environment.get?_assign name value other
  case written => exact fun path text other => now.files.read?_writeText_eq_if path text other

/-- The first load fails over a precision that is no number. The next one has the precision that its file sets last, not that
of the default file, and the policy of the default file; it stays when its file is written again. -/
theorem settings_runs_after_failure :
    let start := Session.fresh ⟨[("PATHEXPR_PRECISION", "many")]⟩
    let common : List Definition := [⟨"PATHEXPR_PRECISION", "3", .bare⟩, ⟨"PATHEXPR_TIE_BREAK", "first", .double⟩]
    let special : List Definition := [⟨"PATHEXPR_PRECISION", "2", .bare⟩, ⟨"PATHEXPR_PRECISION", "4", .single⟩]
    let acts := [.get ".env", .write ".env" (Definition.text common), .write "b.env" (Definition.text special)]
    let now := start.run .own acts
    let settings : Settings := ⟨.warning, "", .first, 4⟩
    (VariableReader.own.ReadsLines ∧ start.Unloaded .own acts ∧ now.files.Defines ".env" common ∧
      now.files.Defines "b.env" special ∧ now.files.refusal? "b.env" = none) ∧
    (now.settings.loaded .own now.files "b.env").2.get? "PATHEXPR_PRECISION" = some "4" ∧
    (now.step .own (.get "b.env")).1 = some (.ok (0, settings)) ∧
    settings.Given (now.settings.loaded .own now.files "b.env").2.get? ∧
    (((now.step .own (.get "b.env")).2.run .own [.write "b.env" "PATHEXPR_PRECISION=5"]).step .own (.get "b.env")).1 =
      some (.ok (0, settings)) := by
  intro start common special acts now settings
  have hunloaded : start.Unloaded .own acts :=
    ⟨[.get ".env"], [.write ".env" (Definition.text common), .write "b.env" (Definition.text special)], rfl,
      .inr ⟨[], .get ".env", rfl, .inr ⟨.notInteger "many", by decide +kernel⟩⟩, nofun⟩
  have hcommon : now.files.Defines ".env" common := ⟨by decide +kernel, .inl (by decide +kernel)⟩
  have hspecial : now.files.Defines "b.env" special := ⟨by decide +kernel, .inl (by decide +kernel)⟩
  have hrefusal : now.files.refusal? "b.env" = none := by decide +kernel
  have hload : (now.step .own (.get "b.env")).1 = some (.ok (0, settings)) := by decide +kernel
  obtain ⟨-, hkept, hloaded, -⟩ := settings_runs .own ⟨[("PATHEXPR_PRECISION", "many")]⟩ acts
  obtain ⟨hanswer, -, -, hlines⟩ := hloaded (.get "b.env") "b.env" (.inr ⟨rfl, hunloaded⟩)
  exact ⟨⟨VariableReader.readsLines_own, hunloaded, hcommon, hspecial, hrefusal⟩,
    (hlines VariableReader.readsLines_own common special hcommon hspecial hrefusal).2 "PATHEXPR_PRECISION", hload,
    ((hanswer settings).1 ⟨0, hload⟩).2,
    hkept (.get "b.env") (0, settings) hload [.write "b.env" "PATHEXPR_PRECISION=5"] (by simp) "b.env"⟩

end MetricExpr
