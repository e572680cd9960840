import MetricExpr.Proofs.Glob.Greedy
/-!
# Reading a pattern

A pattern is read from left to right: `(.*)` is a group, a backslash makes the character behind it a literal, and any
other character is itself. Between the anchors of its pattern a glob is read back (`pattern_reads_back`): each wildcard
as a group, and each other character as itself, behind a backslash if it is special. So literals cannot open a group or
take the backslash of a neighbour, and the pattern matches what the glob spells (`matches_pattern_iff`).
-/
namespace MetricExpr.Glob

/-- A part of a pattern: a group that takes any run, a character behind a backslash, or a character without one. -/
inductive Part where
  | group
  | escaped (c : Char)
  | plain (c : Char)
  deriving DecidableEq, Repr

namespace Part

/-- The parts of a pattern, from left to right. -/
def read : List Char → List Part
  | '(' :: '.' :: '*' :: ')' :: rest => group :: read rest
  | '\\' :: c :: rest => escaped c :: read rest
  | c :: rest => plain c :: read rest
  | [] => []

/-- The character of a glob that a part stands for. -/
def char : Part → Char
  | group => '*'
  | escaped c => c
  | plain c => c

/-- The text of a part. -/
def source : Part → List Char
  | group => "(.*)".toList
  | escaped c => ['\\', c]
  | plain c => [c]

/-- The part that a pattern has for a character of a glob. -/
def ofChar (c : Char) : Part :=
  if c = '*' then group else if isMeta c then escaped c else plain c

end Part

/-- The characters that mean something else than themselves in a pattern. -/
def specials : List Char := ".^$*+?\x7b\x7d[]\\|()".toList

/-- A text that parts match from end to end, with the runs that their groups take. A backslash in front of a letter or
digit and a special character without a backslash are no literals, and match nothing here. -/
inductive Part.Matches : List Part → List (List Char) → List Char → Prop
  | done : Matches [] [] []
  | group (run : List Char) {parts : List Part} {runs : List (List Char)} {key : List Char} :
      Matches parts runs key → Matches (group :: parts) (run :: runs) (run ++ key)
  | escaped {c : Char} (hc : c.isAlphanum = false) {parts : List Part} {runs : List (List Char)} {key : List Char} :
      Matches parts runs key → Matches (escaped c :: parts) runs (c :: key)
  | plain {c : Char} (hc : c ∉ specials) {parts : List Part} {runs : List (List Char)} {key : List Char} :
      Matches parts runs key → Matches (plain c :: parts) runs (c :: key)

/-- How many groups a pattern opens: its parentheses without a backslash in front. -/
def openings : List Char → Nat
  | '\\' :: _ :: rest => openings rest
  | '(' :: rest => openings rest + 1
  | _ :: rest => openings rest
  | [] => 0

/-- What stands between the anchors of a glob's pattern. -/
def patternBody (cs : List Char) : List Char :=
  escaped (split cs).1 ++ (split cs).2.flatMap fun tail => "(.*)".toList ++ escaped tail

theorem pattern_eq (cs : List Char) : pattern cs = '^' :: (patternBody cs ++ ['$']) := rfl

namespace Part

theorem ofChar_wildcard : ofChar '*' = group := rfl

theorem ofChar_meta {c : Char} (hc : c ≠ '*') (h : isMeta c = true) : ofChar c = escaped c := by
  rw [ofChar, if_neg hc, if_pos h]

theorem ofChar_plain {c : Char} (hc : c ≠ '*') (h : isMeta c = false) : ofChar c = plain c := by
  rw [ofChar, if_neg hc, if_neg (by simp [h])]

theorem ofChar_cases (c : Char) :
    c = '*' ∧ ofChar c = group ∨ c ≠ '*' ∧ isMeta c = true ∧ ofChar c = escaped c ∨
      c ≠ '*' ∧ isMeta c = false ∧ ofChar c = plain c := by
  by_cases hc : c = '*'
  · subst hc
    exact .inl ⟨rfl, ofChar_wildcard⟩
  · cases h : isMeta c with
    | true => exact .inr (.inl ⟨hc, rfl, ofChar_meta hc h⟩)
    | false => exact .inr (.inr ⟨hc, rfl, ofChar_plain hc h⟩)

theorem char_ofChar (c : Char) : (ofChar c).char = c := by
  rcases ofChar_cases c with ⟨rfl, h⟩ | ⟨-, -, h⟩ | ⟨-, -, h⟩ <;> rw [h, char]

theorem source_literal {c : Char} (hc : c ≠ '*') :
    (ofChar c).source = if isMeta c then ['\\', c] else [c] := by
  cases h : isMeta c with
  | true => rw [ofChar_meta hc h]; rfl
  | false => rw [ofChar_plain hc h]; rfl

end Part

/-- **The parts of the characters stand side by side.** The pattern joins whole literals; it might as well have been
built from one character after the other. -/
theorem patternBody_eq : ∀ cs : List Char, patternBody cs = cs.flatMap fun c => (Part.ofChar c).source
  | [] => rfl
  | c :: cs => by
    have ih := patternBody_eq cs
    rw [patternBody] at ih ⊢
    rw [List.flatMap_cons, ← ih]
    -- a wildcard stands before a whole literal, any other character is the first one of its literal
    by_cases hc : c = '*'
    · subst hc
      rw [split_wildcard, List.flatMap_cons, List.append_assoc]
      rfl
    · rw [split_literal hc, Part.source_literal hc, escaped, List.flatMap_cons, List.append_assoc]
      rfl

/-- What is escaped is no letter or digit, so the backslash has no meaning of its own. -/
theorem isAlphanum_of_isMeta {c : Char} (h : isMeta c = true) : c.isAlphanum = false := by
  have hnone := (@List.all_eq_true _ (fun c => !c.isAlphanum) _).1 (by decide) c (List.contains_iff_mem.1 h)
  simpa using hnone

/-- What is special is escaped. -/
theorem not_mem_specials {c : Char} (h : isMeta c = false) : c ∉ specials := by
  have hall : specials.all isMeta = true := by decide
  exact fun hc => absurd (List.all_eq_true.1 hall c hc) (by simp [h])

theorem ne_of_plain {c : Char} (h : isMeta c = false) : c ≠ '(' ∧ c ≠ '\\' := by
  have hc := not_mem_specials h
  constructor
  · rintro rfl
    exact hc (by decide)
  · rintro rfl
    exact hc (by decide)

theorem openings_plain {c : Char} (h : isMeta c = false) (rest : List Char) : openings (c :: rest) = openings rest := by
  obtain ⟨hparen, hslash⟩ := ne_of_plain h
  conv_lhs => unfold openings
  split <;> simp_all

namespace Part

theorem read_plain {c : Char} (h : isMeta c = false) (rest : List Char) : read (c :: rest) = plain c :: read rest := by
  obtain ⟨hparen, hslash⟩ := ne_of_plain h
  conv_lhs => unfold read
  split <;> simp_all

/-- A part is read as it was written, whatever stands behind it. -/
theorem read_source (c : Char) (rest : List Char) : read ((ofChar c).source ++ rest) = ofChar c :: read rest := by
  rcases ofChar_cases c with ⟨-, h⟩ | ⟨-, -, h⟩ | ⟨-, hplain, h⟩
  · rw [h]
    rfl
  · rw [h]
    rfl
  · rw [h]
    exact read_plain hplain rest

/-- Only a wildcard opens a group. -/
theorem openings_source (c : Char) (rest : List Char) :
    openings ((ofChar c).source ++ rest) = openings rest + if c = '*' then 1 else 0 := by
  rcases ofChar_cases c with ⟨hc, h⟩ | ⟨hc, -, h⟩ | ⟨hc, hplain, h⟩
  · rw [h, if_pos hc]
    rfl
  · rw [h, if_neg hc]
    rfl
  · rw [h, if_neg hc]
    exact openings_plain hplain rest

end Part

/-- **Between the anchors each character is read as its part.** -/
theorem read_patternBody (cs : List Char) : Part.read (patternBody cs) = cs.map Part.ofChar := by
  rw [patternBody_eq]
  induction cs with
  | nil => rfl
  | cons c cs ih => rw [List.flatMap_cons, Part.read_source, ih, List.map_cons]

theorem char_patternBody (cs : List Char) : (Part.read (patternBody cs)).map Part.char = cs := by
  rw [read_patternBody, List.map_map]
  exact List.map_id'' Part.char_ofChar cs

theorem count_patternBody (cs : List Char) : (Part.read (patternBody cs)).count .group = cs.count '*' := by
  rw [read_patternBody, List.count_eq_countP, List.countP_map, List.count_eq_countP]
  refine List.countP_congr fun c _ => ?_
  rcases Part.ofChar_cases c with ⟨rfl, h⟩ | ⟨hc, -, h⟩ | ⟨hc, -, h⟩
  · simp [h]
  · simp [h, hc]
  · simp [h, hc]

theorem openings_patternBody (cs rest : List Char) :
    openings (patternBody cs ++ rest) = openings rest + cs.count '*' := by
  rw [patternBody_eq]
  induction cs with
  | nil => rfl
  | cons c cs ih =>
    rw [List.flatMap_cons, List.append_assoc, Part.openings_source, ih, List.count_cons, Nat.add_assoc]
    simp

/-- **A pattern opens one group for each wildcard.** -/
theorem openings_pattern (cs : List Char) : openings (pattern cs) = cs.count '*' := by
  have hanchor : openings (pattern cs) = openings (patternBody cs ++ ['$']) := rfl
  rw [hanchor, openings_patternBody]
  exact Nat.zero_add _

/-- **Different texts have different patterns.** -/
theorem pattern_inj {cs ds : List Char} (h : pattern cs = pattern ds) : cs = ds := by
  rw [pattern_eq, pattern_eq] at h
  have hbody : patternBody cs = patternBody ds := List.append_cancel_right (List.cons.inj h).2
  rw [← char_patternBody cs, hbody, char_patternBody]

namespace Part

variable {parts : List Part} {runs : List (List Char)} {key : List Char}

theorem matches_group_iff :
    Matches (group :: parts) runs key ↔ ∃ run later rest, runs = run :: later ∧ key = run ++ rest ∧
      Matches parts later rest := by
  constructor
  · intro h
    cases h with
    | group run hrest => exact ⟨run, _, _, rfl, rfl, hrest⟩
  · rintro ⟨run, later, rest, rfl, rfl, hrest⟩
    exact .group run hrest

theorem matches_literal_iff {c : Char} (hc : c ≠ '*') :
    Matches (ofChar c :: parts) runs key ↔ ∃ rest, key = c :: rest ∧ Matches parts runs rest := by
  cases hm : isMeta c with
  | true =>
    rw [ofChar_meta hc hm]
    constructor
    · intro h
      cases h with
      | escaped _ hrest => exact ⟨_, rfl, hrest⟩
    · rintro ⟨rest, rfl, hrest⟩
      exact .escaped (isAlphanum_of_isMeta hm) hrest
  | false =>
    rw [ofChar_plain hc hm]
    constructor
    · intro h
      cases h with
      | plain _ hrest => exact ⟨_, rfl, hrest⟩
    · rintro ⟨rest, rfl, hrest⟩
      exact .plain (not_mem_specials hm) hrest

/-- The parts of a glob match what it becomes when its wildcards stand for the runs of the groups. -/
theorem matches_iff_fillChars : ∀ {cs : List Char} {runs : List (List Char)} {key : List Char},
    Matches (cs.map ofChar) runs key ↔ runs.length = cs.count '*' ∧ fillChars cs runs = key
  | [], runs, key => by
    constructor
    · intro h
      cases h
      exact ⟨rfl, rfl⟩
    · rintro ⟨hlen, rfl⟩
      obtain rfl := List.length_eq_zero_iff.1 hlen
      exact .done
  | c :: cs, runs, key => by
    by_cases hc : c = '*'
    · subst hc
      rw [List.map_cons, ofChar_wildcard, matches_group_iff, List.count_cons_self]
      constructor
      · rintro ⟨run, later, rest, rfl, rfl, hrest⟩
        obtain ⟨hlen, rfl⟩ := matches_iff_fillChars.1 hrest
        exact ⟨by rw [List.length_cons, hlen], rfl⟩
      · rintro ⟨hlen, rfl⟩
        obtain ⟨run, later, rfl⟩ := List.exists_cons_of_length_eq_add_one hlen
        have hl : later.length = cs.count '*' := by simpa using hlen
        exact ⟨run, later, _, rfl, rfl, matches_iff_fillChars.2 ⟨hl, rfl⟩⟩
    · rw [List.map_cons, matches_literal_iff hc, List.count_cons_of_ne hc, fillChars_literal hc]
      constructor
      · rintro ⟨rest, rfl, hrest⟩
        obtain ⟨hlen, rfl⟩ := matches_iff_fillChars.1 hrest
        exact ⟨hlen, rfl⟩
      · rintro ⟨hlen, rfl⟩
        exact ⟨_, rfl, matches_iff_fillChars.2 ⟨hlen, rfl⟩⟩

end Part

/-- **What the pattern of a glob matches is what the glob spells**, with the same runs. -/
theorem matches_pattern_iff {g : Glob} {runs : List String} {key : String} :
    Part.Matches (Part.read (patternBody g.text.toList)) (runs.map String.toList) key.toList ↔ g.Spells runs key := by
  rw [read_patternBody, Part.matches_iff_fillChars, spells_iff, List.length_map, fill, ← String.toList_inj,
    String.toList_ofList]
  exact Iff.rfl

/-- **The pattern of a glob is read back to the glob.** It stands between anchors. What stands between them is read, part
by part, as the characters of the glob; there are as many groups as wildcards, and the pattern opens no others. Read in
this way it matches the keys that the glob spells, its groups taking the runs. No two globs share a pattern. -/
theorem pattern_reads_back (g : Glob) :
    ∃ inner, pattern g.text.toList = '^' :: (inner ++ ['$']) ∧
      (Part.read inner).map Part.char = g.text.toList ∧
      (Part.read inner).count .group = g.wildcards ∧
      openings (pattern g.text.toList) = g.wildcards ∧
      (∀ (runs : List String) (key : String),
        Part.Matches (Part.read inner) (runs.map String.toList) key.toList ↔ g.Spells runs key) ∧
      ∀ other : Glob, pattern other.text.toList = pattern g.text.toList ↔ other = g := by
  refine ⟨patternBody g.text.toList, pattern_eq _, char_patternBody _, count_patternBody _, openings_pattern _,
    fun _ _ => matches_pattern_iff, fun other => ⟨fun h => ?_, fun h => h ▸ rfl⟩⟩
  obtain ⟨text⟩ := g
  obtain ⟨text'⟩ := other
  exact congrArg Glob.mk (String.toList_inj.1 (pattern_inj h))

/-- A glob that looks like a group and a backslash. -/
example : pattern "(.*)\\".toList = "^\\(\\.(.*)\\)\\\\$".toList := by decide

end MetricExpr.Glob
