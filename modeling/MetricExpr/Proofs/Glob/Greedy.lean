import MetricExpr.Proofs.Glob.Filling
/-!
# Which runs a match captures

A glob matches a key iff its literals and some runs between them spell the key. Often many choices of runs do. The
search at a wildcard tries the longest run first and gives it up only if nothing fits behind it, so a match captures the
greatest choice (`greatest_spelling`): any other has a shorter run at the first wildcard where the lengths differ.
-/
namespace MetricExpr.Glob

/-- A text spelled by literals with one run between every two of them. -/
inductive Spelled : List (List Char) → List (List Char) → List Char → Prop
  | last (lit : List Char) : Spelled [lit] [] lit
  | wildcard (lit run : List Char) {lits runs : List (List Char)} {rest : List Char} :
      Spelled lits runs rest → Spelled (lit :: lits) (run :: runs) (lit ++ run ++ rest)

/-- The literals of a glob, which are its text cut at every wildcard, spell a key with these runs between them. -/
def Spells (g : Glob) (runs : List String) (key : String) : Prop :=
  Spelled (g.text.toList.splitOn '*') (runs.map String.toList) key.toList

theorem splitOn_wildcard : ∀ cs : List Char, cs.splitOn '*' = (split cs).1 :: (split cs).2
  | [] => rfl
  | c :: cs => by
    have ih := splitOn_wildcard cs
    unfold List.splitOn at ih ⊢
    rw [List.splitOnP_cons_eq_if_modifyHead, ih]
    by_cases h : c = '*'
    · subst h
      rw [split_wildcard]
      rfl
    · rw [split_literal h, if_neg (by simpa using h)]
      rfl

theorem spelled_iff : ∀ {lit : List Char} {tails runs : List (List Char)} {key : List Char},
    Spelled (lit :: tails) runs key ↔ runs.length = tails.length ∧ lit ++ fillTails tails runs = key
  | lit, [], runs, key => by
    constructor
    · intro h
      cases h with
      | last => exact ⟨rfl, List.append_nil lit⟩
      | wildcard _ _ hrest => cases hrest
    · rintro ⟨hlen, rfl⟩
      obtain rfl := List.length_eq_zero_iff.1 hlen
      have hend : lit ++ fillTails [] [] = lit := List.append_nil lit
      rw [hend]
      exact .last lit
  | lit, next :: tails, runs, key => by
    constructor
    · intro h
      cases h with
      | wildcard _ run hrest =>
        obtain ⟨hlen, rfl⟩ := spelled_iff.1 hrest
        refine ⟨by simp [hlen], ?_⟩
        rw [fillTails, List.append_assoc, List.append_assoc]
    · rintro ⟨hlen, rfl⟩
      obtain ⟨run, later, rfl⟩ := List.exists_cons_of_length_eq_add_one hlen
      have hl : later.length = tails.length := by simpa using hlen
      rw [fillTails, List.append_assoc, ← List.append_assoc]
      exact .wildcard lit run (spelled_iff.2 ⟨hl, rfl⟩)

/-- Runs spell a key iff there is one for each wildcard and the glob filled with them is the key. -/
theorem spells_iff {g : Glob} {runs : List String} {key : String} :
    g.Spells runs key ↔ runs.length = g.wildcards ∧ g.fill runs = key := by
  have hlen : (runs.map String.toList).length = runs.length := List.length_map _
  have hsplit := length_split g.text.toList
  unfold Spells
  rw [splitOn_wildcard, spelled_iff, hlen, hsplit]
  refine and_congr_right fun hruns => ?_
  rw [← fillChars_eq _ _ (hlen.trans (hruns.trans hsplit.symm)), fill, ← String.toList_inj, String.toList_ofList]

section Search

variable {next : List Char → Option (List (List Char))}

theorem longest_cons {cs run : List Char} {later : List (List Char)} (h : longest next cs = some (run :: later))
    (c : Char) : longest next (c :: cs) = some ((c :: run) :: later) := by
  rw [longest, h]

/-- The search finds a run if there is one with something that fits behind it. -/
theorem exists_longest {rest : List Char} (h : (next rest).isSome = true) :
    ∀ run : List Char, ∃ found later, longest next (run ++ rest) = some (found :: later)
  | [] => by
    obtain ⟨later, hnext⟩ := Option.isSome_iff_exists.1 h
    rw [List.nil_append]
    cases rest with
    | nil => exact ⟨[], later, by rw [longest, hnext]; rfl⟩
    | cons c cs =>
      rw [longest]
      split
      · exact ⟨_, _, rfl⟩
      · exact ⟨[], later, by rw [hnext]; rfl⟩
  | c :: run => by
    obtain ⟨found, later, hrec⟩ := exists_longest h run
    exact ⟨c :: found, later, longest_cons hrec c⟩

/-- **The search finds the longest run**: no longer one has something that fits behind it. -/
theorem length_le_longest {rest : List Char} (h : (next rest).isSome = true) :
    ∀ {run found : List Char} {later : List (List Char)}, longest next (run ++ rest) = some (found :: later) →
      run.length ≤ found.length
  | [], _, _, _ => Nat.zero_le _
  | c :: run, found, later, hfound => by
    obtain ⟨found', later', hrec⟩ := exists_longest h run
    have hcons := longest_cons hrec c
    rw [List.cons_append, hcons] at hfound
    cases hfound
    exact Nat.succ_le_succ (length_le_longest h hrec)

end Search

/-- What a wildcard asks of the text behind its run: a literal, and captures of what follows the literal. -/
def behind (lit : List Char) (tails : List (List Char)) (rest : List Char) : Option (List (List Char)) :=
  (lit.isPrefixOf? rest).bind (captureTails tails)

theorem behind_append (lit : List Char) (tails : List (List Char)) (rest : List Char) :
    behind lit tails (lit ++ rest) = captureTails tails rest := by
  rw [behind, List.isPrefixOf?_eq_some_iff_append_eq.2 rfl, Option.bind_some]

theorem captureTails_wildcard (lit : List Char) (tails : List (List Char)) (key : List Char) :
    captureTails (lit :: tails) key = longest (behind lit tails) key := by
  rw [captureTails]
  rfl

/-- Runs and literals in turn have captures. -/
theorem captureTails_isSome : ∀ {tails runs : List (List Char)}, runs.length = tails.length →
    (captureTails tails (fillTails tails runs)).isSome = true
  | [], _, _ => rfl
  | lit :: tails, runs, hlen => by
    obtain ⟨run, later, rfl⟩ := List.exists_cons_of_length_eq_add_one hlen
    have hl : later.length = tails.length := by simpa using hlen
    have hbehind : (behind lit tails (lit ++ fillTails tails later)).isSome = true := by
      rw [behind_append]
      exact captureTails_isSome hl
    obtain ⟨found, rest, hfound⟩ := exists_longest hbehind run
    rw [captureTails_wildcard, fillTails, List.append_assoc, hfound]
    rfl

/-- **Captures are the greatest runs.** The induction is on the wildcards: where the runs at the first one have one
length they are one run, and the same text follows it. -/
theorem captureTails_greatest : ∀ {tails runs captures : List (List Char)}, runs.length = tails.length →
    captureTails tails (fillTails tails runs) = some captures → runs ≠ captures →
      List.Lex (· < ·) (runs.map List.length) (captures.map List.length)
  | [], runs, captures, hlen, h, hne => by
    obtain rfl := List.length_eq_zero_iff.1 hlen
    exact absurd (Option.some.inj h) hne
  | lit :: tails, runs, captures, hlen, h, hne => by
    obtain ⟨run, later, rfl⟩ := List.exists_cons_of_length_eq_add_one hlen
    have hl : later.length = tails.length := by simpa using hlen
    have hbehind : (behind lit tails (lit ++ fillTails tails later)).isSome = true := by
      rw [behind_append]
      exact captureTails_isSome hl
    rw [captureTails_wildcard, fillTails, List.append_assoc] at h
    obtain ⟨found, rest, captured, hkey, hfound, rfl⟩ := longest_eq_some h
    have hle : run.length ≤ found.length := length_le_longest hbehind h
    rw [List.map_cons, List.map_cons]
    by_cases hlt : run.length < found.length
    · exact .rel hlt
    · obtain ⟨rfl, rfl⟩ := List.append_inj hkey (by omega)
      rw [behind_append] at hfound
      exact .cons (captureTails_greatest hl hfound fun he => hne (by rw [he]))

/-- What a glob asks of a whole key that its literals and some runs spell. -/
theorem captureChars_of_spelled {cs key : List Char} {runs : List (List Char)} (h : Spelled (cs.splitOn '*') runs key) :
    runs.length = (split cs).2.length ∧ captureChars cs key = captureTails (split cs).2 (fillTails (split cs).2 runs) := by
  rw [splitOn_wildcard] at h
  obtain ⟨hlen, rfl⟩ := spelled_iff.1 h
  exact ⟨hlen, behind_append (split cs).1 (split cs).2 _⟩

variable {g : Glob} {key : String} {runs captures : List String}

/-- **A key that is spelled is matched.** -/
theorem captures_isSome (h : g.Spells runs key) : (g.captures? key).isSome = true := by
  obtain ⟨hlen, heq⟩ := captureChars_of_spelled h
  rw [captures?, Option.isSome_map, heq]
  exact captureTails_isSome hlen

theorem spells_captures (h : g.captures? key = some captures) : g.Spells captures key :=
  spells_iff.2 ⟨length_captures h, fill_captures h⟩

/-- **Any other runs that spell the key are smaller than the captures**, compared by length from left to right. -/
theorem lex_captures (hruns : g.Spells runs key) (h : g.captures? key = some captures) (hne : runs ≠ captures) :
    List.Lex (· < ·) (runs.map String.length) (captures.map String.length) := by
  obtain ⟨hlen, heq⟩ := captureChars_of_spelled hruns
  obtain ⟨found, hfound, rfl⟩ := Option.map_eq_some_iff.1 h
  have hne' : runs.map String.toList ≠ found := by
    rintro rfl
    refine hne ?_
    rw [List.map_map]
    exact (List.map_id'' (fun s => String.ofList_toList) runs).symm
  have hlex := captureTails_greatest hlen (heq ▸ hfound) hne'
  simp only [List.map_map, Function.comp_def, String.length_toList, String.length_ofList] at hlex ⊢
  exact hlex

/-- **What a match captures is the greatest spelling of the key.** A glob matches a key iff its literals and some runs
spell it. The captures are such runs, one for each wildcard, and every other choice is smaller: an earlier wildcard
takes the most. Filled back they give the key, so no two keys have the same captures. -/
theorem greatest_spelling (g : Glob) (key : String) :
    ((g.captures? key).isSome = true ↔ ∃ runs, g.Spells runs key) ∧
    ∀ captures, g.captures? key = some captures →
      captures.length = g.wildcards ∧ g.Spells captures key ∧
      (∀ runs, g.Spells runs key → runs ≠ captures →
        List.Lex (· < ·) (runs.map String.length) (captures.map String.length)) ∧
      g.fill captures = key ∧
      ∀ key', key' ≠ key → g.captures? key' ≠ some captures := by
  constructor
  · constructor
    · intro h
      obtain ⟨captures, hc⟩ := Option.isSome_iff_exists.1 h
      exact ⟨captures, spells_captures hc⟩
    · rintro ⟨runs, hruns⟩
      exact captures_isSome hruns
  · intro captures h
    refine ⟨length_captures h, spells_captures h, fun runs hruns hne => lex_captures hruns h hne, fill_captures h, ?_⟩
    intro key' hne h'
    exact hne (captures_inj h' h)

/-- Three ways to spell a key, of which a match captures the one with the longest first run. -/
theorem greatest_spelling_dots :
    let g : Glob := ⟨"*.*"⟩
    g.captures? "a.b.\n.c" = some ["a.b.\n", "c"] ∧ g.Spells ["a", "b.\n.c"] "a.b.\n.c" ∧
      g.Spells ["a.b", "\n.c"] "a.b.\n.c" ∧ List.Lex (· < ·) [3, 3] [5, 1] ∧
      g.captures? "a.b.\n.c.c" ≠ some ["a.b.\n", "c"] := by
  intro g
  have hcap : g.captures? "a.b.\n.c" = some ["a.b.\n", "c"] := by decide
  obtain ⟨-, -, hgreatest, -, hkeys⟩ := (greatest_spelling g "a.b.\n.c").2 _ hcap
  have hspells : g.Spells ["a.b", "\n.c"] "a.b.\n.c" := spells_iff.2 (by decide)
  exact ⟨hcap, spells_iff.2 (by decide), hspells, hgreatest _ hspells (by decide), hkeys _ (by decide)⟩

end MetricExpr.Glob
