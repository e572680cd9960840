import MetricExpr.Command.Request
import MetricExpr.Proofs.Command.Arguments
/-!
# Command lines that differ in presentation only

Three options in front of a command say how much the journal tells, and one behind it says how the result is written.
With or without them a command line is read alike: it is refused alike, or it asks for the same but for these two matters
(`ofWords_presented`).
-/
namespace MetricExpr.Command

/-- The task with its output as text. -/
def Task.plain : Task → Task
  | parse r => parse { r with format := .text }
  | eval r => eval { r with format := .text }
  | matching r => matching { r with format := .text }
  | frame r => frame { r with format := .text }
  | config => config

/-- The request but for its presentation. -/
def Request.plain (r : Request) : Request := ⟨none, r.task.map Task.plain⟩

/-- Command lines that are refused alike or that ask for the same but for presentation. -/
def Alike (words words' : List String) : Prop :=
  (Request.ofWords words').map Request.plain = (Request.ofWords words).map Request.plain

namespace Alike

variable {words words' : List String} {severity : Option Severity}

theorem task {task : Task} (h : Alike words words') (hwords : Request.ofWords words = .ok ⟨severity, some task⟩) :
    ∃ severity' task', Request.ofWords words' = .ok ⟨severity', some task'⟩ ∧ task'.plain = task.plain := by
  rw [Alike, hwords] at h
  obtain ⟨⟨severity', task?⟩, hwords', h⟩ := map_eq_ok_iff.1 h
  cases task? with
  | none => cases h
  | some task' => exact ⟨severity', task', hwords', Option.some.inj (congrArg Request.task h)⟩

theorem eval {r : EvalRequest} (h : Alike words words') (hwords : Request.ofWords words = .ok ⟨severity, some (.eval r)⟩) :
    ∃ severity' format', Request.ofWords words' = .ok ⟨severity', some (.eval { r with format := format' })⟩ := by
  obtain ⟨severity', task', hwords', h⟩ := h.task hwords
  cases task' with
  | eval r' =>
    refine ⟨severity', r'.format, ?_⟩
    rw [hwords']
    simp only [Task.plain, Task.eval.injEq, EvalRequest.mk.injEq] at h
    obtain ⟨hsource, hform, htable, htie, -⟩ := h
    rw [← hsource, ← hform, ← htable, ← htie]
  | parse | matching | frame | config => cases h

theorem matching {r : MatchRequest} (h : Alike words words')
    (hwords : Request.ofWords words = .ok ⟨severity, some (.matching r)⟩) :
    ∃ severity' format', Request.ofWords words' = .ok ⟨severity', some (.matching { r with format := format' })⟩ := by
  obtain ⟨severity', task', hwords', h⟩ := h.task hwords
  cases task' with
  | matching r' =>
    refine ⟨severity', r'.format, ?_⟩
    rw [hwords']
    simp only [Task.plain, Task.matching.injEq, MatchRequest.mk.injEq] at h
    obtain ⟨hglobs, htable, -⟩ := h
    rw [← hglobs, ← htable]
  | parse | eval | frame | config => cases h

end Alike

end MetricExpr.Command
