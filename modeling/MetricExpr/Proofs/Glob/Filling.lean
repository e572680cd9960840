import MetricExpr.Glob
import Mathlib.Data.List.Basic
/-!
# Filling the wildcards of a glob

A glob with its wildcards replaced by runs of text is a key. Captures are such runs: filled back into the glob they
give the key they were taken from (`fill_captures`), and there is one for each wildcard (`length_captures`).
-/
namespace MetricExpr.Glob

/-- The text of a glob with runs in the places of its wildcards, from left to right. Wildcards beyond the last run
stay as they are. -/
def fillChars : List Char → List (List Char) → List Char
  | [], _ => []
  | '*' :: cs, run :: runs => run ++ fillChars cs runs
  | c :: cs, runs => c :: fillChars cs runs

/-- The key that a glob becomes when its wildcards stand for these runs. -/
def fill (g : Glob) (runs : List String) : String :=
  String.ofList (fillChars g.text.toList (runs.map String.toList))

def fillTails : List (List Char) → List (List Char) → List Char
  | lit :: tails, run :: runs => run ++ lit ++ fillTails tails runs
  | _, _ => []

theorem split_wildcard (cs : List Char) : split ('*' :: cs) = ([], (split cs).1 :: (split cs).2) := rfl

theorem split_literal {c : Char} (h : c ≠ '*') (cs : List Char) :
    split (c :: cs) = (c :: (split cs).1, (split cs).2) := by
  rw [split]
  exact if_neg h

theorem fillChars_literal {c : Char} (h : c ≠ '*') (cs : List Char) (runs : List (List Char)) :
    fillChars (c :: cs) runs = c :: fillChars cs runs := by
  cases runs <;> simp [fillChars, h]

theorem length_split : ∀ cs : List Char, (split cs).2.length = cs.count '*'
  | [] => rfl
  | c :: cs => by
    by_cases h : c = '*'
    · subst h
      rw [split_wildcard, List.length_cons, length_split cs, List.count_cons_self]
    · rw [split_literal h, length_split cs, List.count_cons_of_ne h]

/-- Filling a glob is the literal before its first wildcard, and then runs and literals in turn. -/
theorem fillChars_eq : ∀ (cs : List Char) (runs : List (List Char)), runs.length = (split cs).2.length →
    fillChars cs runs = (split cs).1 ++ fillTails (split cs).2 runs
  | [], runs, _ => by cases runs <;> rfl
  | c :: cs, runs, hlen => by
    by_cases h : c = '*'
    · subst h
      rw [split_wildcard] at hlen ⊢
      obtain ⟨run, later, rfl⟩ := List.exists_cons_of_length_eq_add_one hlen
      have hl : later.length = (split cs).2.length := by simpa using hlen
      show run ++ fillChars cs later = [] ++ (run ++ (split cs).1 ++ fillTails (split cs).2 later)
      rw [fillChars_eq cs later hl, List.nil_append, List.append_assoc]
    · rw [split_literal h] at hlen ⊢
      rw [fillChars_literal h, fillChars_eq cs runs hlen, List.cons_append]

/-- What the search at a wildcard finds is a run in front of the text, and captures of what follows the run. -/
theorem longest_eq_some {next : List Char → Option (List (List Char))} :
    ∀ {key : List Char} {captures : List (List Char)}, longest next key = some captures →
      ∃ run rest later, key = run ++ rest ∧ next rest = some later ∧ captures = run :: later
  | [], _, h => by
    obtain ⟨later, hnext, rfl⟩ := Option.map_eq_some_iff.1 h
    exact ⟨[], [], later, rfl, hnext, rfl⟩
  | c :: cs, captures, h => by
    rw [longest] at h
    split at h
    · rename_i run' later' hrec
      obtain ⟨run, rest, later, hkey, hnext, hcap⟩ := longest_eq_some hrec
      cases hcap
      exact ⟨c :: run', rest, later', by rw [hkey]; rfl, hnext, (Option.some.inj h).symm⟩
    · obtain ⟨later, hnext, rfl⟩ := Option.map_eq_some_iff.1 h
      exact ⟨[], c :: cs, later, rfl, hnext, rfl⟩

theorem captureTails_eq_some : ∀ {tails : List (List Char)} {key : List Char} {captures : List (List Char)},
    captureTails tails key = some captures → captures.length = tails.length ∧ fillTails tails captures = key
  | [], key, captures, h => by
    rw [captureTails] at h
    split at h
    · rename_i hkey
      cases h
      exact ⟨rfl, (List.isEmpty_iff.1 hkey).symm⟩
    · cases h
  | lit :: tails, key, captures, h => by
    rw [captureTails] at h
    obtain ⟨run, rest, later, rfl, hnext, rfl⟩ := longest_eq_some h
    obtain ⟨after, hpre, htails⟩ := Option.bind_eq_some_iff.1 hnext
    obtain ⟨hlen, hfill⟩ := captureTails_eq_some htails
    rw [List.isPrefixOf?_eq_some_iff_append_eq] at hpre
    refine ⟨by simp [hlen], ?_⟩
    rw [fillTails, hfill, List.append_assoc, hpre]

theorem captureChars_eq_some {glob key : List Char} {captures : List (List Char)}
    (h : captureChars glob key = some captures) :
    captures.length = glob.count '*' ∧ fillChars glob captures = key := by
  obtain ⟨rest, hpre, htails⟩ := Option.bind_eq_some_iff.1 h
  obtain ⟨hlen, hfill⟩ := captureTails_eq_some htails
  rw [List.isPrefixOf?_eq_some_iff_append_eq] at hpre
  refine ⟨hlen.trans (length_split glob), ?_⟩
  rw [fillChars_eq glob captures hlen, hfill, hpre]

/-- **There is one capture for each wildcard.** -/
theorem length_captures {g : Glob} {key : String} {captures : List String} (h : g.captures? key = some captures) :
    captures.length = g.wildcards := by
  obtain ⟨runs, hruns, rfl⟩ := Option.map_eq_some_iff.1 h
  rw [List.length_map]
  exact (captureChars_eq_some hruns).1

/-- **Captures filled back into the glob give the key they were taken from.** -/
theorem fill_captures {g : Glob} {key : String} {captures : List String} (h : g.captures? key = some captures) :
    g.fill captures = key := by
  obtain ⟨runs, hruns, rfl⟩ := Option.map_eq_some_iff.1 h
  have hmap : (runs.map String.ofList).map String.toList = runs := by
    rw [List.map_map]
    exact List.map_id'' (fun cs => String.toList_ofList) runs
  rw [fill, hmap, (captureChars_eq_some hruns).2, String.ofList_toList]

theorem captures_inj {g : Glob} {key key' : String} {captures : List String} (h : g.captures? key = some captures)
    (h' : g.captures? key' = some captures) : key = key' :=
  (fill_captures h).symm.trans (fill_captures h')

end MetricExpr.Glob
