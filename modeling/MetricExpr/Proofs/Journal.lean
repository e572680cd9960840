import MetricExpr.Journal
import Mathlib.Data.List.Induction
/-!
# Calls that set the journal up

Three calls may set the journal up: `setup` always makes a new handle and starts again, `acquire` takes the handle made
last, and `get` takes the shared one, or else acquires one. What they leave behind is told by the calls alone
(`Journal.Ready`, `Journal.Shared`): the outputs and the level are those of the last call that set the journal up
(`Journal.configured`).
-/
namespace MetricExpr

namespace Journal

/-- The ways to call for a handle. -/
inductive Entry where
  | setup | get | acquire
  deriving DecidableEq, Repr

/-- A call for a handle, with a directory for the journal's file and the name of a level. -/
structure Call where
  entry : Entry
  directory : String
  level : String
  deriving DecidableEq, Repr

/-- Make a call: its answer, and the journal after it. -/
def perform (j : Journal) (call : Call) : Except LevelFault Nat × Journal :=
  match call.entry with
  | .setup => j.setup call.directory call.level
  | .get => j.get call.directory call.level
  | .acquire => j.acquire call.directory call.level

/-- The journal after calls. -/
def after (j : Journal) (calls : List Call) : Journal := calls.foldl (fun j call => (j.perform call).2) j

/-- The answer to a call that is made after others. -/
def answer (before : List Call) (call : Call) : Except LevelFault Nat := ((fresh.after before).perform call).1

theorem after_snoc (j : Journal) (calls : List Call) (call : Call) :
    j.after (calls ++ [call]) = ((j.after calls).perform call).2 := by
  unfold after
  rw [List.foldl_append]
  rfl

/-! ## One call -/

/-- The call comes to setting the journal up, if its level has a name. -/
def Attempts (j : Journal) (call : Call) : Prop :=
  call.entry = .setup ∨ j.ready = false ∧ (call.entry = .get → j.shared = none)

/-- The handle that is shared after a call has answered one. -/
def Call.shares (call : Call) (shared : Option Nat) (handle : Nat) : Option Nat :=
  if call.entry = .acquire then shared else some handle

/-- What a call does: it leaves the journal as it is set up, sets it up, or fails over its level. -/
inductive Performs (j : Journal) (call : Call) : Except LevelFault Nat × Journal → Prop where
  | keeps (handle : Nat) (current : Option Nat) (made : Nat) : ¬ j.Attempts call →
      Performs j call (.ok handle, { j with current, made, shared := call.shares j.shared handle })
  | sets (handle : Nat) (current : Option Nat) (made : Nat) {level : Nat} : j.Attempts call →
      levelOf call.level = .ok level →
      Performs j call (.ok handle,
        ⟨level, outputsFor call.directory, false, current, true, call.shares j.shared handle, made⟩)
  | fails (current : Option Nat) (made : Nat) {fault : LevelFault} : j.Attempts call → levelOf call.level = .error fault →
      Performs j call (.error fault, { j with current, ready := false, made })

/-- The handle that is acquired: the one made last, or a new one. -/
def acquired (j : Journal) : Nat := j.current.getD j.made

theorem acquire_eq (j : Journal) (directory level : String) : j.acquire directory level =
    let j' := { j with current := some j.acquired, made := j.current.elim (j.made + 1) fun _ => j.made }
    if j.ready then (.ok j.acquired, j')
    else match levelOf level with
      | .error fault => (.error fault, j')
      | .ok n => (.ok j.acquired, { j' with level := n, outputs := outputsFor directory, propagate := false, ready := true }) := by
  obtain ⟨level, outputs, propagate, current, ready, shared, made⟩ := j
  cases current <;> rfl

theorem performs_perform (j : Journal) (call : Call) : Performs j call (j.perform call) := by
  obtain ⟨level₀, outputs, propagate, current, ready, shared, made⟩ := j
  obtain ⟨entry, directory, level⟩ := call
  cases entry with
  | acquire =>
    show Performs _ _ (acquire _ directory level)
    rw [acquire_eq]
    cases ready with
    | true => exact .keeps _ _ _ (by simp [Attempts])
    | false =>
      cases hlevel : levelOf level with
      | ok n => exact .sets _ _ _ (.inr ⟨rfl, nofun⟩) hlevel
      | error fault => exact .fails _ _ (.inr ⟨rfl, nofun⟩) hlevel
  | get =>
    cases shared with
    | some handle => exact .keeps _ _ _ (by simp [Attempts])
    | none =>
      show Performs _ _ (share (acquire _ directory level))
      rw [acquire_eq]
      cases ready with
      | true => exact .keeps _ _ _ (by simp [Attempts])
      | false =>
        cases hlevel : levelOf level with
        | ok n => exact .sets _ _ _ (.inr ⟨rfl, fun _ => rfl⟩) hlevel
        | error fault => exact .fails _ _ (.inr ⟨rfl, fun _ => rfl⟩) hlevel
  | setup =>
    show Performs _ _ (share (acquire _ directory level))
    rw [acquire_eq]
    cases hlevel : levelOf level with
    | ok n => exact .sets _ _ _ (.inl rfl) hlevel
    | error fault => exact .fails _ _ (.inl rfl) hlevel

theorem get_of_shared {j : Journal} {handle : Nat} (h : j.shared = some handle) (directory level : String) :
    j.get directory level = (.ok handle, j) := by
  unfold Journal.get
  rw [h]

/-! ## Handles -/

/-- The handles in use have been made. -/
structure Numbered (j : Journal) : Prop where
  current : ∀ handle ∈ j.current, handle < j.made
  shared : ∀ handle ∈ j.shared, handle < j.made

theorem Numbered.acquire {j : Journal} (h : j.Numbered) (directory level : String) :
    (j.acquire directory level).2.Numbered ∧ j.made ≤ (j.acquire directory level).2.made ∧
      ∀ handle, (j.acquire directory level).1 = .ok handle →
        handle = j.acquired ∧ handle < (j.acquire directory level).2.made := by
  have hmade : j.made ≤ j.current.elim (j.made + 1) fun _ => j.made := by
    cases j.current with
    | none => exact Nat.le_succ _
    | some handle => exact Nat.le_refl _
  have hnext : j.acquired < j.current.elim (j.made + 1) fun _ => j.made := by
    unfold acquired
    cases hcurrent : j.current with
    | none => exact Nat.lt_succ_self _
    | some handle => exact h.current handle hcurrent
  have hnumbered : ∀ handle ∈ some j.acquired, handle < j.current.elim (j.made + 1) fun _ => j.made := by
    rintro handle ⟨⟩
    exact hnext
  have hshared : ∀ handle ∈ j.shared, handle < j.current.elim (j.made + 1) fun _ => j.made :=
    fun handle hmem => Nat.lt_of_lt_of_le (h.shared handle hmem) hmade
  rw [acquire_eq]
  dsimp only
  split
  · exact ⟨⟨hnumbered, hshared⟩, hmade, fun handle hok => Except.ok.inj hok ▸ ⟨rfl, hnext⟩⟩
  · split
    · exact ⟨⟨hnumbered, hshared⟩, hmade, nofun⟩
    · exact ⟨⟨hnumbered, hshared⟩, hmade, fun handle hok => Except.ok.inj hok ▸ ⟨rfl, hnext⟩⟩

/-- To share the handle of an outcome changes nothing else. -/
theorem share_numbered {x : Except LevelFault Nat × Journal} (h : x.2.Numbered)
    (hhandle : ∀ handle, x.1 = .ok handle → handle < x.2.made) :
    (share x).2.Numbered ∧ (share x).1 = x.1 ∧ (share x).2.made = x.2.made := by
  obtain ⟨answer, j⟩ := x
  cases answer with
  | error fault => exact ⟨h, rfl, rfl⟩
  | ok handle =>
    refine ⟨⟨h.current, ?_⟩, rfl, rfl⟩
    rintro _ ⟨⟩
    exact hhandle handle rfl

/-- Handles that are answered have been made, and a `setup` makes a new one. -/
theorem Numbered.perform {j : Journal} (h : j.Numbered) (call : Call) :
    (j.perform call).2.Numbered ∧ j.made ≤ (j.perform call).2.made ∧ ∀ handle, (j.perform call).1 = .ok handle →
      (call.entry = .setup → handle = j.made) ∧ handle < (j.perform call).2.made := by
  obtain ⟨entry, directory, level⟩ := call
  have hshare : ∀ {j' : Journal}, j'.Numbered → (share (j'.acquire directory level)).2.Numbered ∧
      j'.made ≤ (share (j'.acquire directory level)).2.made ∧ ∀ handle, (share (j'.acquire directory level)).1 = .ok handle →
        handle = j'.acquired ∧ handle < (share (j'.acquire directory level)).2.made := by
    intro j' hj'
    obtain ⟨hnumbered, hmade, hhandle⟩ := hj'.acquire directory level
    obtain ⟨hshared, hanswer, hsame⟩ := share_numbered hnumbered fun handle hok => (hhandle handle hok).2
    rw [hanswer, hsame]
    exact ⟨hshared, hmade, hhandle⟩
  cases entry with
  | acquire =>
    obtain ⟨hnumbered, hmade, hhandle⟩ := h.acquire directory level
    exact ⟨hnumbered, hmade, fun handle hok => ⟨nofun, (hhandle handle hok).2⟩⟩
  | get =>
    show (j.get directory level).2.Numbered ∧ j.made ≤ (j.get directory level).2.made ∧
      ∀ handle, (j.get directory level).1 = .ok handle → _ ∧ handle < (j.get directory level).2.made
    cases hshared : j.shared with
    | some handle =>
      rw [get_of_shared hshared]
      refine ⟨h, Nat.le_refl _, ?_⟩
      rintro _ ⟨⟩
      exact ⟨nofun, h.shared handle hshared⟩
    | none =>
      unfold Journal.get
      rw [hshared]
      obtain ⟨hnumbered, hmade, hhandle⟩ := hshare h
      exact ⟨hnumbered, hmade, fun handle hok => ⟨nofun, (hhandle handle hok).2⟩⟩
  | setup =>
    obtain ⟨hnumbered, hmade, hhandle⟩ := @hshare { j with ready := false, current := none } ⟨nofun, h.shared⟩
    exact ⟨hnumbered, hmade, fun handle hok => ⟨fun _ => (hhandle handle hok).1, (hhandle handle hok).2⟩⟩

/-! ## Histories -/

/-- A place in calls is the last one, or a place in the calls in front of it. -/
theorem snoc_eq_iff {calls before later : List Call} {last call : Call} : calls ++ [last] = before ++ call :: later ↔
    (before = calls ∧ call = last ∧ later = []) ∨ ∃ more, later = more ++ [last] ∧ calls = before ++ call :: more := by
  constructor
  · intro h
    obtain rfl | ⟨more, c, rfl⟩ := List.eq_nil_or_concat later
    · obtain ⟨rfl, hlast⟩ := List.append_inj' h rfl
      exact .inl ⟨rfl, (List.cons.inj hlast).1.symm, rfl⟩
    · rw [List.concat_eq_append, ← List.cons_append, ← List.append_assoc] at h
      obtain ⟨rfl, hlast⟩ := List.append_inj' h rfl
      obtain rfl := (List.cons.inj hlast).1
      exact .inr ⟨more, List.concat_eq_append, rfl⟩
  · rintro (⟨rfl, rfl, rfl⟩ | ⟨more, rfl, rfl⟩)
    · rfl
    · simp

/-- There is a handle to share: a `setup` or a `get` has answered one. -/
def Shared (calls : List Call) : Prop :=
  ∃ before call later handle, calls = before ++ call :: later ∧ call.entry ≠ .acquire ∧ answer before call = .ok handle

/-- The level of the call has a name. -/
def Call.Named (call : Call) : Prop := ∃ n, levelOf call.level = .ok n

/-- The journal is set up: since the last `setup`, with it, a call with a named level has acquired a handle, which a `get`
does only where there is none to share. -/
def Ready (calls : List Call) : Prop :=
  ∃ before call later, calls = before ++ call :: later ∧ (call.Named ∧ (call.entry = .get → ¬ Shared before)) ∧
    ∀ c ∈ later, c.entry ≠ .setup

/-- The call sets the journal up, when it is made after others. -/
def SetsUp (before : List Call) (call : Call) : Prop :=
  call.Named ∧ (call.entry = .setup ∨ ¬ Ready before ∧ (call.entry = .get → ¬ Shared before))

theorem shared_snoc {calls : List Call} {last : Call} :
    Shared (calls ++ [last]) ↔ (last.entry ≠ .acquire ∧ ∃ handle, answer calls last = .ok handle) ∨ Shared calls := by
  simp only [Shared, snoc_eq_iff]
  constructor
  · rintro ⟨before, call, later, handle, ⟨rfl, rfl, rfl⟩ | ⟨more, rfl, rfl⟩, hentry, hanswer⟩
    · exact .inl ⟨hentry, handle, hanswer⟩
    · exact .inr ⟨before, call, more, handle, rfl, hentry, hanswer⟩
  · rintro (⟨hentry, handle, hanswer⟩ | ⟨before, call, more, handle, rfl, hentry, hanswer⟩)
    · exact ⟨calls, last, [], handle, .inl ⟨rfl, rfl, rfl⟩, hentry, hanswer⟩
    · exact ⟨before, call, more ++ [last], handle, .inr ⟨more, rfl, rfl⟩, hentry, hanswer⟩

theorem ready_snoc {calls : List Call} {last : Call} : Ready (calls ++ [last]) ↔
    (last.Named ∧ (last.entry = .get → ¬ Shared calls)) ∨ Ready calls ∧ last.entry ≠ .setup := by
  simp only [Ready, snoc_eq_iff]
  constructor
  · rintro ⟨before, call, later, ⟨rfl, rfl, rfl⟩ | ⟨more, rfl, rfl⟩, hable, hlater⟩
    · exact .inl hable
    · refine .inr ⟨⟨before, call, more, rfl, hable, fun c hc => hlater c (List.mem_append_left _ hc)⟩, ?_⟩
      exact hlater last (List.mem_append_right _ List.mem_cons_self)
  · rintro (hable | ⟨⟨before, call, more, rfl, hable, hmore⟩, hlast⟩)
    · exact ⟨calls, last, [], .inl ⟨rfl, rfl, rfl⟩, hable, nofun⟩
    · refine ⟨before, call, more ++ [last], .inr ⟨more, rfl, rfl⟩, hable, fun c hc => ?_⟩
      obtain hc | hc := List.mem_append.1 hc
      · exact hmore c hc
      · rwa [List.mem_singleton.1 hc]

/-- A history tells which flags of the journal are set. -/
structure Reflects (calls : List Call) (j : Journal) : Prop where
  ready : j.ready = true ↔ Ready calls
  shared : j.shared.isSome ↔ Shared calls

theorem Reflects.attempts_iff {calls : List Call} {j : Journal} (h : Reflects calls j) (call : Call) :
    j.Attempts call ↔ call.entry = .setup ∨ ¬ Ready calls ∧ (call.entry = .get → ¬ Shared calls) := by
  rw [Attempts, ← h.ready, ← h.shared, Bool.not_eq_true, Option.not_isSome_iff_eq_none]

theorem Call.not_named {call : Call} {fault : LevelFault} (h : levelOf call.level = .error fault) : ¬ call.Named := by
  rintro ⟨n, hn⟩
  exact absurd (h.symm.trans hn) nofun

/-- **A call keeps the flags in line with the history.** -/
theorem Reflects.perform {calls : List Call} {j : Journal} (h : Reflects calls j) (hj : j = fresh.after calls)
    (call : Call) : Reflects (calls ++ [call]) (j.perform call).2 := by
  have hanswer : answer calls call = (j.perform call).1 := by rw [hj]; rfl
  have hattempts := h.attempts_iff call
  have hperform := performs_perform j call
  have hshares : ∀ handle, (call.shares j.shared handle).isSome ↔ call.entry ≠ .acquire ∨ Shared calls := by
    intro handle
    rw [← h.shared, Call.shares]
    split
    · rename_i hacquire
      simp [hacquire]
    · rename_i hother
      simp [hother]
  refine ⟨ready_snoc.symm.subst ?_, shared_snoc.symm.subst ?_⟩
  · generalize j.perform call = x at hperform
    cases hperform with
    | keeps handle current made hkeeps =>
      rw [hattempts] at hkeeps
      show j.ready = true ↔ _
      rw [h.ready]
      tauto
    | sets handle current made hsets hlevel =>
      have hfree : call.entry = .get → ¬ Shared calls := by
        intro hget
        obtain hsetup | ⟨-, hfree⟩ := hattempts.1 hsets
        · rw [hget] at hsetup
          cases hsetup
        · exact hfree hget
      exact ⟨fun _ => .inl ⟨⟨_, hlevel⟩, hfree⟩, fun _ => rfl⟩
    | fails current made hfails hlevel =>
      refine ⟨nofun, ?_⟩
      rintro (⟨hnamed, -⟩ | ⟨hready, hother⟩)
      · exact absurd hnamed (Call.not_named hlevel)
      · exact absurd hready ((hattempts.1 hfails).resolve_left hother).1
  · rw [hanswer]
    generalize j.perform call = x at hperform
    cases hperform with
    | keeps handle current made => simp [hshares handle]
    | sets handle current made => simp [hshares handle]
    | fails => simp [h.shared]

theorem reflects (calls : List Call) : Reflects calls (fresh.after calls) := by
  induction calls using List.reverseRecOn with
  | nil =>
    refine ⟨⟨nofun, ?_⟩, ⟨nofun, ?_⟩⟩
    · rintro ⟨before, call, later, hcalls, -⟩
      simp at hcalls
    · rintro ⟨before, call, later, handle, hcalls, -⟩
      simp at hcalls
  | append_singleton calls call ih =>
    rw [after_snoc]
    exact ih.perform rfl call

/-- A call sets the journal up iff it attempts to and its level has a name. -/
theorem setsUp_iff (calls : List Call) (call : Call) :
    SetsUp calls call ↔ (fresh.after calls).Attempts call ∧ call.Named := by
  rw [(reflects calls).attempts_iff, SetsUp, and_comm]

/-! ## Runs -/

/-- The journal is as the last call left it that set it up; before the first it has no outputs. -/
structure Configured (calls : List Call) (j : Journal) : Prop where
  unset : (∀ before call later, calls = before ++ call :: later → ¬ SetsUp before call) → j.outputs = []
  last : ∀ before call later, calls = before ++ call :: later → SetsUp before call →
    (∀ between next rest, later = between ++ next :: rest → ¬ SetsUp (before ++ call :: between) next) →
    levelOf call.level = .ok j.level ∧ j.propagate = false ∧ j.outputs = outputsFor call.directory

/-- A call that does not set the journal up leaves it as it is set up. -/
theorem kept_of_not_setsUp {calls : List Call} {call : Call} (h : ¬ SetsUp calls call) :
    let j := fresh.after calls
    (j.perform call).2.outputs = j.outputs ∧ (j.perform call).2.level = j.level ∧
      (j.perform call).2.propagate = j.propagate := by
  intro j
  rw [setsUp_iff] at h
  have hperform := performs_perform j call
  generalize j.perform call = x at hperform
  cases hperform with
  | keeps => exact ⟨rfl, rfl, rfl⟩
  | sets handle current made hsets hlevel => exact absurd ⟨hsets, _, hlevel⟩ h
  | fails => exact ⟨rfl, rfl, rfl⟩

theorem set_of_setsUp {calls : List Call} {call : Call} (h : SetsUp calls call) :
    let j := ((fresh.after calls).perform call).2
    levelOf call.level = .ok j.level ∧ j.propagate = false ∧ j.outputs = outputsFor call.directory := by
  intro j
  rw [setsUp_iff] at h
  have hperform := performs_perform (fresh.after calls) call
  simp only [j]
  generalize (fresh.after calls).perform call = x at hperform
  cases hperform with
  | keeps _ _ _ hkeeps => exact absurd h.1 hkeeps
  | sets handle current made hsets hlevel => exact ⟨hlevel, rfl, rfl⟩
  | fails current made hfails hlevel => exact absurd h.2 (Call.not_named hlevel)

/-- **The journal is as the last call left it that set it up.** -/
theorem configured (calls : List Call) : Configured calls (fresh.after calls) := by
  induction calls using List.reverseRecOn with
  | nil => exact ⟨fun _ => rfl, fun before call later hcalls => by simp at hcalls⟩
  | append_singleton calls call ih =>
    rw [after_snoc]
    by_cases hsets : SetsUp calls call
    · refine ⟨fun hnone => absurd hsets (hnone calls call [] rfl), fun before c later hcalls hc hlater => ?_⟩
      obtain ⟨rfl, rfl, rfl⟩ | ⟨more, rfl, rfl⟩ := snoc_eq_iff.1 hcalls
      · exact set_of_setsUp hsets
      · exact absurd hsets (hlater more call [] rfl)
    · obtain ⟨houtputs, hlevel, hpropagate⟩ := kept_of_not_setsUp hsets
      constructor
      · intro hnone
        rw [houtputs]
        exact ih.unset fun before c later hcalls => hnone before c (later ++ [call]) (by simp [hcalls])
      · intro before c later hcalls hc hlater
        rw [houtputs, hlevel, hpropagate]
        obtain ⟨rfl, rfl, rfl⟩ | ⟨more, rfl, rfl⟩ := snoc_eq_iff.1 hcalls
        · exact absurd hc hsets
        · refine ih.last before c more rfl hc fun between next rest hmore => hlater between next (rest ++ [call]) ?_
          simp [hmore]

theorem levelOf_of_error {calls : List Call} {call : Call} {fault : LevelFault} (h : answer calls call = .error fault) :
    levelOf call.level = .error fault := by
  have hperform := performs_perform (fresh.after calls) call
  unfold answer at h
  generalize (fresh.after calls).perform call = x at h hperform
  cases hperform with
  | keeps => cases h
  | sets => cases h
  | fails current made hfails hlevel =>
    obtain rfl := Except.error.inj h
    exact hlevel

theorem numbered_after (calls : List Call) : (fresh.after calls).Numbered := by
  induction calls using List.reverseRecOn with
  | nil => exact ⟨nofun, nofun⟩
  | append_singleton calls call ih =>
    rw [after_snoc]
    exact (ih.perform call).1

theorem lt_made_of_answer {calls before later : List Call} {call : Call} {handle : Nat}
    (hcalls : calls = before ++ call :: later) (h : answer before call = .ok handle) :
    handle < (fresh.after calls).made := by
  induction calls using List.reverseRecOn generalizing later with
  | nil => simp at hcalls
  | append_singleton calls last ih =>
    obtain ⟨-, hmade, hhandle⟩ := (numbered_after calls).perform last
    rw [after_snoc]
    obtain ⟨rfl, rfl, rfl⟩ | ⟨more, rfl, hmore⟩ := snoc_eq_iff.1 hcalls
    · exact (hhandle handle h).2
    · exact Nat.lt_of_lt_of_le (ih hmore) hmade

/-- Nothing but another `setup` that succeeds changes the handle that is shared. -/
theorem shared_perform {calls : List Call} {call : Call} {handle : Nat}
    (hshared : (fresh.after calls).shared = some handle) (h : call.entry = .setup → ∀ other, answer calls call ≠ .ok other) :
    (fresh.after (calls ++ [call])).shared = some handle := by
  rw [after_snoc]
  by_cases hget : call.entry = .get
  · have hanswer : (fresh.after calls).perform call = (.ok handle, fresh.after calls) := by
      unfold perform
      rw [hget]
      exact get_of_shared hshared call.directory call.level
    rw [hanswer]
    exact hshared
  · have hperform := performs_perform (fresh.after calls) call
    unfold answer at h
    generalize (fresh.after calls).perform call = x at h hperform
    have hacquire : ∀ other, x.1 = .ok other → call.entry = .acquire := by
      intro other hother
      cases hentry : call.entry with
      | setup => exact absurd hother (h hentry other)
      | get => exact absurd hentry hget
      | acquire => rfl
    cases hperform with
    | keeps other => exact (if_pos (hacquire other rfl)).trans hshared
    | sets other => exact (if_pos (hacquire other rfl)).trans hshared
    | fails => exact hshared

theorem shared_of_setup {calls : List Call} {call : Call} {handle : Nat} (hsetup : call.entry = .setup)
    (h : answer calls call = .ok handle) : (fresh.after (calls ++ [call])).shared = some handle := by
  rw [after_snoc]
  have hperform := performs_perform (fresh.after calls) call
  unfold answer at h
  generalize (fresh.after calls).perform call = x at h hperform
  have hshares : ∀ shared other, call.shares shared other = some other := by
    intro shared other
    rw [Call.shares, hsetup]
    rfl
  cases hperform with
  | keeps other =>
    obtain rfl := Except.ok.inj h
    exact hshares _ _
  | sets other =>
    obtain rfl := Except.ok.inj h
    exact hshares _ _
  | fails => cases h

theorem shared_after {calls : List Call} {handle : Nat} (hshared : (fresh.after calls).shared = some handle)
    (later : List Call) (h : ∀ between next rest, later = between ++ next :: rest → next.entry = .setup →
      ∀ other, answer (calls ++ between) next ≠ .ok other) : (fresh.after (calls ++ later)).shared = some handle := by
  induction later using List.reverseRecOn with
  | nil => rwa [List.append_nil]
  | append_singleton later last ih =>
    rw [← List.append_assoc]
    refine shared_perform (ih fun between next rest hlater => ?_) (h later last [] rfl)
    exact h between next (rest ++ [last]) (by simp [hlater])

end Journal

open Journal

/-- **The journal never gathers outputs, and fails without effect**, whatever calls are made on a journal that nobody has
set up.

Before a call has set the journal up it has no outputs. Then it has the level and the outputs of the last call that did:
the console, and a file iff there was a directory. A call that fails does so over the name of its level, and changes
neither level nor outputs nor propagation. A `setup` that succeeds answers a new handle, and every `get` answers this
handle until the next `setup` that succeeds. -/
theorem journal_runs (calls : List Call) :
    let now := Journal.fresh.after calls
    ((∀ before call later, calls = before ++ call :: later → ¬ SetsUp before call) → now.outputs = []) ∧
    (∀ before call later, calls = before ++ call :: later → SetsUp before call →
      (∀ between next rest, later = between ++ next :: rest → ¬ SetsUp (before ++ call :: between) next) →
      levelOf call.level = .ok now.level ∧ now.propagate = false ∧
        now.outputs = if call.directory = "" then [.console] else [.console, .file (filePath call.directory)]) ∧
    (∀ call fault, answer calls call = .error fault → levelOf call.level = .error fault ∧
      (now.perform call).2.outputs = now.outputs ∧ (now.perform call).2.level = now.level ∧
      (now.perform call).2.propagate = now.propagate) ∧
    ∀ call handle, call.entry = .setup → answer calls call = .ok handle →
      (∀ before earlier later, calls = before ++ earlier :: later → answer before earlier ≠ .ok handle) ∧
      ∀ later, (∀ between next rest, later = between ++ next :: rest → next.entry = .setup →
          ∀ other, answer (calls ++ call :: between) next ≠ .ok other) →
        ∀ get, get.entry = .get → answer (calls ++ call :: later) get = .ok handle := by
  intro now
  refine ⟨(configured calls).unset, ?last, ?failed, ?shared⟩
  case last =>
    intro before call later hcalls hsets hlater
    obtain ⟨hlevel, hpropagate, houtputs⟩ := (configured calls).last before call later hcalls hsets hlater
    refine ⟨hlevel, hpropagate, houtputs.trans ?_⟩
    unfold outputsFor
    by_cases hdirectory : call.directory = ""
    · rw [if_pos hdirectory, hdirectory]
      rfl
    · rw [if_neg hdirectory, if_neg (by simpa using hdirectory)]
  case failed =>
    intro call fault hanswer
    have hlevel := levelOf_of_error hanswer
    exact ⟨hlevel, kept_of_not_setsUp fun hsets => Call.not_named hlevel hsets.1⟩
  case shared =>
    intro call handle hsetup hanswer
    constructor
    · intro before earlier later hcalls hearlier
      have hnew := (((numbered_after calls).perform call).2.2 handle hanswer).1 hsetup
      exact absurd (lt_made_of_answer hcalls hearlier) (by rw [hnew]; exact Nat.lt_irrefl _)
    · intro later hlater get hget
      have hshared := shared_after (shared_of_setup hsetup hanswer) later (by simpa using hlater)
      rw [List.append_assoc, List.singleton_append] at hshared
      unfold answer perform
      rw [hget]
      exact congrArg Prod.fst (get_of_shared hshared get.directory get.level)

/-- A `setup` that fails over its level drops the journal's handle but not the shared one: the next call sets the journal
up without a file, and `get` still answers the first handle. -/
theorem journal_runs_after_failure :
    let first : Call := ⟨.setup, "logs", "info"⟩
    let failed : Call := ⟨.setup, "", "loud"⟩
    let again : Call := ⟨.acquire, "", "debug"⟩
    let now := Journal.fresh.after [first, failed, again]
    answer [first] failed = .error (.unnamed "LOUD") ∧ SetsUp [first, failed] again ∧
      now.level = 10 ∧ now.outputs = [.console] ∧ answer [first, failed, again] ⟨.get, "", "info"⟩ = .ok 0 := by
  intro first failed again now
  have hfailed : answer [first] failed = .error (.unnamed "LOUD") := by decide +kernel
  have hready : ¬ Ready [first, failed] := by
    rw [← (reflects [first, failed]).ready]
    decide +kernel
  have hsets : SetsUp [first, failed] again := ⟨⟨10, by decide +kernel⟩, .inr ⟨hready, nofun⟩⟩
  obtain ⟨-, hlast, -, -⟩ := journal_runs [first, failed, again]
  obtain ⟨hlevel, -, houtputs⟩ := hlast [first, failed] again [] rfl hsets fun between next rest h => by simp at h
  obtain ⟨-, -, -, hshared⟩ := journal_runs []
  have hget := (hshared first 0 rfl (by decide +kernel)).2 [failed, again] (fun between next rest h hsetup other => ?_)
    ⟨.get, "", "info"⟩ rfl
  · have hdebug : levelOf again.level = .ok 10 := by decide +kernel
    exact ⟨hfailed, hsets, Except.ok.inj (hlevel.symm.trans hdebug), houtputs.trans (if_pos rfl), hget⟩
  · match between with
    | [] =>
      obtain ⟨rfl, -⟩ := List.cons.inj h
      exact fun hok => absurd (hfailed.symm.trans hok) nofun
    | [_] =>
      obtain ⟨rfl, -⟩ := List.cons.inj (List.cons.inj h).2
      cases hsetup
    | _ :: _ :: _ => simp at h

end MetricExpr
