import MetricExpr.Environment
import MetricExpr.Proofs.OrderedMap
/-!
# What a file of variables says

A line `NAME=value`, with its value in quotes or not, gives the variable `NAME` this value, the last such line counts, and
all other variables are left alone (`load_text`).
-/
namespace MetricExpr

/-! ## Lines that define variables -/

/-- How a value stands in its line. -/
inductive Quoting where
  | bare
  | single
  | double
  deriving DecidableEq, Repr

/-- A variable with its value, as a line of a file has them. -/
structure Definition where
  name : String
  value : String
  quoting : Quoting
  deriving DecidableEq, Repr

namespace Definition

/-- A text with a backslash before each quote. -/
def escaped (quote : Char) (cs : List Char) : List Char := cs.flatMap fun c => if c == quote then ['\\', c] else [c]

/-- The value as it stands in its line. -/
def valueText (d : Definition) : List Char :=
  match d.quoting with
  | .bare => d.value.toList
  | .single => '\'' :: escaped '\'' d.value.toList ++ ['\'']
  | .double => '"' :: escaped '"' d.value.toList ++ ['"']

/-- The line, with its end. -/
def line (d : Definition) : List Char := d.name.toList ++ '=' :: d.valueText ++ ['\n']

/-- The text of the lines of definitions. -/
def text (defs : List Definition) : String := String.ofList (defs.flatMap line)

/-- No two neighbours in a list are such a pair. -/
def apart (p : Char → Char → Bool) (cs : List Char) : Bool := (cs.zip cs.tail).all fun (a, b) => !p a b

/-- A name that needs no quotes. -/
def isName (cs : List Char) : Bool :=
  !cs.isEmpty && cs.head? != some '\'' && cs.all fun c => !Text.isBlank c && c != '=' && c != '#' && c != '\x00'

/-- A value that counts as it stands: no blanks at its ends, no quote in front, no line end, no comment in it. -/
def isBare (cs : List Char) : Bool :=
  !cs.head?.any (fun c => Text.isBlank c || c == '\'' || c == '"') && !cs.getLast?.any Text.isBlank &&
    cs.all (· != '\n') && apart (fun a b => Text.isBlank a && b == '#') cs

/-- Can the definition be written as it says? A value holds no null character, carriage return or reference, and between
quotes no backslash. -/
def isPlain (d : Definition) : Bool :=
  isName d.name.toList && d.value.toList.all (fun c => c != '\x00' && c != '\r') &&
    apart (fun a b => a == '$' && b == '\x7b') d.value.toList &&
    (if d.quoting = .bare then isBare d.value.toList else d.value.toList.all (· != '\\'))

end Definition

namespace Binding

theorem takeWhile_append_cons {p : Char → Bool} {cs : List Char} {c : Char} (h : ∀ d ∈ cs, p d = true) (hc : p c = false)
    (rest : List Char) : (cs ++ c :: rest).takeWhile p = cs := by
  rw [List.takeWhile_append_of_pos h, List.takeWhile_cons_of_neg (by simp [hc]), List.append_nil]

theorem dropWhile_append_cons {p : Char → Bool} {cs : List Char} {c : Char} (h : ∀ d ∈ cs, p d = true) (hc : p c = false)
    (rest : List Char) : (cs ++ c :: rest).dropWhile p = c :: rest := by
  rw [List.dropWhile_append_of_pos h, List.dropWhile_cons_of_neg (by simp [hc])]

variable {name : List Char} (hname : Definition.isName name = true)

include hname

theorem mem_name {c : Char} (hc : c ∈ name) : Text.isBlank c = false ∧ c ≠ '=' ∧ c ≠ '#' ∧ c ≠ '\x00' := by
  simp only [Definition.isName, Bool.and_eq_true, List.all_eq_true, Bool.not_eq_true', bne_iff_ne] at hname
  obtain ⟨⟨⟨hblank, heq⟩, hhash⟩, hnull⟩ := hname.2 c hc
  exact ⟨hblank, heq, hhash, hnull⟩

theorem name_ne_nil : name ≠ [] ∧ name.head? ≠ some '\'' := by
  simp only [Definition.isName, Bool.and_eq_true, Bool.not_eq_true', List.isEmpty_eq_false_iff, bne_iff_ne] at hname
  exact hname.1

/-- The word in front of a definition has an equals sign in it. -/
theorem skipExport_name (rest : List Char) : skipExport (name ++ '=' :: rest) = name ++ '=' :: rest := by
  have hword : ((name ++ '=' :: rest).takeWhile (fun c => !Text.isBlank c) == "export".toList) = false := by
    rw [beq_eq_false_iff_ne, List.takeWhile_append_of_pos fun c hc => by rw [(mem_name hname hc).1]; rfl,
      List.takeWhile_cons_of_pos (by decide)]
    intro h
    have hmem : '=' ∈ "export".toList := h ▸ List.mem_append_right _ List.mem_cons_self
    exact absurd hmem (by decide)
  rw [skipExport, hword, Bool.false_and]
  rfl

theorem name?_name (rest : List Char) : name? (name ++ '=' :: rest) = some (name, '=' :: rest) := by
  have hchars : ∀ c ∈ name, isNameChar c = true := by
    intro c hc
    obtain ⟨hblank, heq, hhash, -⟩ := mem_name hname hc
    rw [isNameChar, hblank, bne_iff_ne.2 heq, bne_iff_ne.2 hhash]
    rfl
  obtain ⟨hne, hquote⟩ := name_ne_nil hname
  rw [name?.eq_2 _ ?_, takeWhile_append_cons hchars (by decide), dropWhile_append_cons hchars (by decide),
    if_neg (by rwa [List.isEmpty_iff])]
  rintro cs h
  rw [← List.head?_append_of_ne_nil _ hne, h] at hquote
  exact hquote rfl

omit hname

/-! ### Values -/

theorem uncommented_of_apart : ∀ {cs : List Char},
    Definition.apart (fun a b => Text.isBlank a && b == '#') cs = true → uncommented cs = cs
  | [], _ => rfl
  | [_], _ => rfl
  | c :: d :: cs, h => by
    simp only [Definition.apart, List.tail_cons, List.zip_cons_cons, List.all_cons, Bool.and_eq_true, Bool.not_eq_true'] at h
    rw [uncommented, h.1]
    exact congrArg (c :: ·) (uncommented_of_apart h.2)

theorem value?_bare {value : List Char} (h : Definition.isBare value = true) (rest : List Char) :
    value? (value ++ '\n' :: rest) = some (value, '\n' :: rest) := by
  simp only [Definition.isBare, Bool.and_eq_true, Bool.not_eq_true'] at h
  obtain ⟨⟨⟨hhead, hlast⟩, hline⟩, hcomment⟩ := h
  have hchars := List.all_eq_true.1 hline
  have hblanks : value.reverse.dropWhile Text.isBlank = value.reverse := by
    cases hvalue : value.reverse with
    | nil => rfl
    | cons c cs =>
      rw [← List.head?_reverse, hvalue] at hlast
      exact List.dropWhile_cons_of_neg (by simpa using hlast)
  rw [value?.eq_3 _ ?_ ?_, takeWhile_append_cons hchars (by decide), dropWhile_append_cons hchars (by decide),
    uncommented_of_apart hcomment, hblanks, List.reverse_reverse]
  all_goals
    rintro cs h
    cases value with
    | nil => cases h
    | cons c cs =>
      cases h
      simp at hhead

theorem quoted?_cons_of_ne {quote c : Char} (hc : c ≠ quote) (hbackslash : c ≠ '\\') (cs : List Char) :
    quoted? quote (c :: cs) = (quoted? quote cs).map fun (value, after) => (c :: value, after) := by
  cases cs with
  | nil => rw [quoted?, quoted?, beq_false_of_ne hc]; rfl
  | cons d cs => rw [quoted?, beq_false_of_ne hc, beq_false_of_ne hbackslash]; rfl

theorem unescape_cons_of_ne {escapes : List (Char × Char)} {c : Char} (hc : c ≠ '\\') (cs : List Char) :
    unescape escapes (c :: cs) = c :: unescape escapes cs := by
  cases cs with
  | nil => rw [unescape, unescape]
  | cons d cs => rw [unescape, beq_false_of_ne hc]; rfl

/-- A text without backslashes is read back from between its quotes. -/
theorem read_escaped {quote : Char} (hquote : quote ≠ '\\') {escapes : List (Char × Char)}
    (hescape : escapes.lookup quote = some quote) (rest : List Char) : ∀ {cs : List Char}, (∀ c ∈ cs, c ≠ '\\') →
      quoted? quote (Definition.escaped quote cs ++ quote :: rest) = some (Definition.escaped quote cs, rest) ∧
        unescape escapes (Definition.escaped quote cs) = cs
  | [], _ => by
    refine ⟨?_, rfl⟩
    show quoted? quote (quote :: rest) = some ([], rest)
    cases rest <;> rw [quoted?, beq_self_eq_true] <;> rfl
  | c :: cs, h => by
    obtain ⟨hc, hcs⟩ := List.forall_mem_cons.1 h
    obtain ⟨hread, hunescape⟩ := read_escaped hquote hescape rest hcs
    by_cases heq : c = quote
    · subst heq
      have hescaped : Definition.escaped c (c :: cs) = '\\' :: c :: Definition.escaped c cs := by
        rw [Definition.escaped, List.flatMap_cons, beq_self_eq_true]
        rfl
      rw [hescaped]
      constructor
      · show quoted? c ('\\' :: c :: (Definition.escaped c cs ++ c :: rest)) = _
        rw [quoted?, beq_false_of_ne (Ne.symm hquote), beq_self_eq_true, beq_self_eq_true, hread]
        rfl
      · rw [unescape, beq_self_eq_true, if_pos rfl, hescape]
        exact congrArg (c :: ·) hunescape
    · have hescaped : Definition.escaped quote (c :: cs) = c :: Definition.escaped quote cs := by
        rw [Definition.escaped, List.flatMap_cons, beq_false_of_ne heq]
        rfl
      rw [hescaped, List.cons_append]
      constructor
      · rw [quoted?_cons_of_ne heq hc, hread]
        rfl
      · rw [unescape_cons_of_ne hc, hunescape]

theorem value?_quoted {quote : Char} (hquote : quote ≠ '\\') {escapes : List (Char × Char)}
    (hescape : escapes.lookup quote = some quote)
    (hvalue : ∀ cs, value? (quote :: cs) = (quoted? quote cs).map fun (value, after) => (unescape escapes value, after))
    {value : List Char} (h : ∀ c ∈ value, c ≠ '\\') (rest : List Char) :
    value? (quote :: Definition.escaped quote value ++ [quote] ++ rest) = some (value, rest) := by
  obtain ⟨hread, hunescape⟩ := read_escaped hquote hescape rest h
  rw [List.append_assoc, List.singleton_append, List.cons_append, hvalue, hread]
  exact congrArg (fun value => some (value, rest)) hunescape

/-- **The value of a definition is read back from its line.** -/
theorem value?_valueText {d : Definition} (h : d.isPlain = true) (rest : List Char) :
    value? (d.valueText ++ '\n' :: rest) = some (d.value.toList, '\n' :: rest) := by
  obtain ⟨name, value, quoting⟩ := d
  have hform := (Bool.and_eq_true_iff.1 h).2
  cases quoting with
  | bare => exact value?_bare hform rest
  | single => exact value?_quoted (by decide) (by decide) (fun _ => rfl) (by simpa using hform) ('\n' :: rest)
  | double => exact value?_quoted (by decide) (by decide) (fun _ => rfl) (by simpa using hform) ('\n' :: rest)

/-- What stands after the equals sign of a definition does not start with a space. -/
theorem dropWhile_valueText {d : Definition} (h : d.isPlain = true) (rest : List Char) :
    (d.valueText ++ '\n' :: rest).dropWhile isSpace = d.valueText ++ '\n' :: rest := by
  have hhead : ∀ {cs : List Char}, cs.head?.all (fun c => !isSpace c) = true → cs.dropWhile isSpace = cs := by
    rintro (_ | ⟨c, cs⟩) hc
    · rfl
    · exact List.dropWhile_cons_of_neg (by simpa using hc)
  apply hhead
  obtain ⟨name, value, quoting⟩ := d
  have hform := (Bool.and_eq_true_iff.1 h).2
  cases quoting with
  | single | double => rfl
  | bare =>
    have hbare : Definition.isBare value.toList = true := hform
    show (value.toList ++ '\n' :: rest).head?.all (fun c => !isSpace c) = true
    cases hvalue : value.toList with
    | nil => rfl
    | cons c cs =>
      rw [hvalue] at hbare
      simp only [Definition.isBare, Bool.and_eq_true, Bool.not_eq_true', List.head?_cons, Option.any_some,
        Bool.or_eq_false_iff] at hbare
      show (!isSpace c) = true
      rw [isSpace, hbare.1.1.1.1.1]
      rfl

theorem mem_value {d : Definition} (h : d.isPlain = true) {c : Char} (hc : c ∈ d.value.toList) :
    c ≠ '\x00' ∧ c ≠ '\r' := by
  simp only [Definition.isPlain, Bool.and_eq_true, List.all_eq_true, bne_iff_ne] at h
  exact h.1.1.2 c hc

theorem isName_name {d : Definition} (h : d.isPlain = true) : Definition.isName d.name.toList = true := by
  simp only [Definition.isPlain, Bool.and_eq_true] at h
  exact h.1.1.1

/-- **A line that defines a variable is read as this definition.** -/
theorem read_line {d : Definition} (h : d.isPlain = true) (rest : List Char) :
    read (skipExport (d.line ++ rest)) = (some ⟨d.name, some d.value⟩, '\n' :: rest) := by
  have hname := isName_name h
  have hline : d.line ++ rest = d.name.toList ++ '=' :: (d.valueText ++ '\n' :: rest) := by
    simp [Definition.line]
  have hspaces : ('=' :: (d.valueText ++ '\n' :: rest)).dropWhile isSpace = '=' :: (d.valueText ++ '\n' :: rest) :=
    List.dropWhile_cons_of_neg (by decide)
  have hends : endsLine ('\n' :: rest) = true := rfl
  rw [hline, skipExport_name hname]
  simp only [read, name?_name hname, hspaces, dropWhile_valueText h, value?_valueText h, hends, if_true,
    String.ofList_toList]

theorem all_of_not_isBlank {c : Char} (h : Text.isBlank c = false) (cs : List Char) :
    all (c :: cs) = (read (skipExport (c :: cs))).1.toList ++ all (nextLine (read (skipExport (c :: cs))).2) := by
  have hdrop : (c :: cs).dropWhile Text.isBlank = c :: cs := List.dropWhile_cons_of_neg (by simp [h])
  rw [all]
  split
  · rename_i hnil
    cases hdrop.symm.trans hnil
  · rename_i hcons
    cases hdrop.symm.trans hcons
    rfl

/-- **The lines of definitions are read as these definitions.** -/
theorem all_text : ∀ {defs : List Definition}, (∀ d ∈ defs, d.isPlain = true) →
    all (defs.flatMap Definition.line) = defs.map fun d => ⟨d.name, some d.value⟩
  | [], _ => by rw [List.flatMap_nil, all]; rfl
  | d :: defs, h => by
    obtain ⟨hd, hdefs⟩ := List.forall_mem_cons.1 h
    have hread := read_line hd (defs.flatMap Definition.line)
    obtain ⟨c, cs, hname⟩ := List.exists_cons_of_ne_nil (name_ne_nil (isName_name hd)).1
    have hc : Text.isBlank c = false := (mem_name (isName_name hd) (hname ▸ List.mem_cons_self)).1
    have hline : (d :: defs).flatMap Definition.line =
        c :: (cs ++ '=' :: d.valueText ++ ['\n'] ++ defs.flatMap Definition.line) := by
      rw [List.flatMap_cons, Definition.line, hname]
      rfl
    rw [hline, all_of_not_isBlank hc, ← hline, List.flatMap_cons, hread]
    exact congrArg (_ :: ·) (all_text hdefs)

/-- A text without carriage returns has its line ends already. -/
theorem lineFeeds_eq_self : ∀ {cs : List Char}, (∀ c ∈ cs, c ≠ '\r') → lineFeeds cs = cs
  | [], _ => rfl
  | c :: cs, h => by
    obtain ⟨hc, hcs⟩ := List.forall_mem_cons.1 h
    rw [lineFeeds.eq_3 _ _ fun _ he => absurd he hc, if_neg (by simpa using hc), lineFeeds_eq_self hcs]

theorem mem_escaped {quote c : Char} {cs : List Char} (h : c ∈ Definition.escaped quote cs) : c ∈ cs ∨ c = '\\' := by
  obtain ⟨d, hd, hc⟩ := List.mem_flatMap.1 h
  split at hc
  · obtain rfl | hc := List.mem_cons.1 hc
    · exact .inr rfl
    · exact .inl (List.mem_singleton.1 hc ▸ hd)
  · exact .inl (List.mem_singleton.1 hc ▸ hd)

theorem ne_of_mem_line {d : Definition} (h : d.isPlain = true) {c : Char} (hc : c ∈ d.line) : c ≠ '\r' := by
  have hquoted : ∀ quote : Char, quote ≠ '\r' →
      ∀ c ∈ quote :: Definition.escaped quote d.value.toList ++ [quote], c ≠ '\r' := by
    intro quote hquote c hc
    rw [List.cons_append, List.mem_cons, List.mem_append, List.mem_singleton] at hc
    obtain rfl | hc | rfl := hc
    · exact hquote
    · obtain hc | rfl := mem_escaped hc
      · exact (mem_value h hc).2
      · decide
    · exact hquote
  rw [Definition.line, List.append_assoc, List.mem_append, List.cons_append, List.mem_cons, List.mem_append,
    List.mem_singleton] at hc
  obtain hc | rfl | hc | rfl := hc
  · rintro rfl
    exact absurd (mem_name (isName_name h) hc).1 (by decide)
  · decide
  · unfold Definition.valueText at hc
    split at hc
    · exact (mem_value h hc).2
    · exact hquoted '\'' (by decide) c hc
    · exact hquoted '"' (by decide) c hc
  · decide

end Binding

/-- The value that the last definition of a name gives it. -/
def Definition.last? (defs : List Definition) (name : String) : Option String :=
  ((defs.filter (·.name == name)).getLast?).map (·.value)

namespace Environment

variable {defs : List Definition}

theorem lookup_filterMap (name : String) : ∀ {entries : List (String × Option String)}, (entries.map (·.1)).Nodup →
    (entries.filterMap fun (name, value) => value.map (name, ·)).lookup name = (entries.lookup name).join
  | [], _ => rfl
  | (other, none) :: entries, h => by
    obtain ⟨hother, hentries⟩ := List.nodup_cons.1 h
    rw [List.filterMap_cons_none (by rfl), lookup_filterMap name hentries, List.lookup_cons]
    by_cases hname : name = other
    · subst hname
      have hnone : entries.lookup name = none := (OrderedMap.get?_eq_none_iff ⟨entries⟩ name).2 hother
      rw [hnone, beq_self_eq_true]
      rfl
    · rw [beq_false_of_ne hname]
  | (other, some value) :: entries, h => by
    rw [List.filterMap_cons_some (by rfl), List.lookup_cons, List.lookup_cons, lookup_filterMap name (List.nodup_cons.1 h).2]
    cases name == other <;> rfl

theorem nodup_definitions (text : String) : ((definitions text).map (·.1)).Nodup := by
  have hkeys : List.Pairwise (fun x y : String × Option String => x.1 ≠ y.1) _ :=
    List.pairwise_map.1 (OrderedMap.nodup_keys_ofList
      ((Binding.all (Binding.lineFeeds text.toList)).map fun b => (b.name, b.value)))
  refine List.pairwise_map.2 (hkeys.filterMap _ fun x y hne a ha b hb => ?_)
  obtain ⟨_, -, rfl⟩ := Option.map_eq_some_iff.1 ha
  obtain ⟨_, -, rfl⟩ := Option.map_eq_some_iff.1 hb
  exact hne

theorem definitions_text (hdefs : ∀ d ∈ defs, d.isPlain = true) : definitions (Definition.text defs) =
    (OrderedMap.ofList (defs.map fun d => (d.name, some d.value))).entries.filterMap fun (name, value) =>
      value.map (name, ·) := by
  have hchars : ∀ c ∈ defs.flatMap Definition.line, c ≠ '\r' := by
    intro c hc
    obtain ⟨d, hd, hc⟩ := List.mem_flatMap.1 hc
    exact Binding.ne_of_mem_line (hdefs d hd) hc
  rw [definitions, Definition.text, String.toList_ofList, Binding.lineFeeds_eq_self hchars, Binding.all_text hdefs,
    List.map_map]
  rfl

/-- Each name has the value of its last definition. -/
theorem lookup_definitions_text (hdefs : ∀ d ∈ defs, d.isPlain = true) (name : String) :
    (definitions (Definition.text defs)).lookup name = Definition.last? defs name := by
  have hlast : (OrderedMap.ofList (defs.map fun d => (d.name, some d.value))).get? name =
      ((defs.filter (·.name == name)).getLast?).map fun d => some d.value :=
    (OrderedMap.get?_ofList _ name).trans (lookup_reverse_keyed _ name defs)
  rw [definitions_text hdefs, lookup_filterMap name (OrderedMap.nodup_keys_ofList _)]
  refine (congrArg Option.join hlast).trans ?_
  rw [Definition.last?]
  cases (defs.filter (·.name == name)).getLast? <;> rfl

/-! ### Variables that are set -/

theorem fault?_of_isPlain {d : Definition} (h : d.isPlain = true) : fault? d.name d.value = none := by
  have hname : ∀ c ∈ d.name.toList, c ≠ '=' ∧ c ≠ '\x00' := by
    intro c hc
    obtain ⟨-, heq, -, hnull⟩ := Binding.mem_name (Binding.isName_name h) hc
    exact ⟨heq, hnull⟩
  have hnull : ¬ (d.name.toList.contains '\x00' || d.value.toList.contains '\x00') = true := by
    rw [Bool.or_eq_true, List.contains_iff_mem, List.contains_iff_mem]
    exact fun hmem => hmem.elim (fun hc => (hname _ hc).2 rfl) fun hc => (Binding.mem_value h hc).1 rfl
  have hequals : ¬ d.name.toList.contains '=' = true := fun hmem => (hname _ (List.contains_iff_mem.1 hmem)).1 rfl
  rw [fault?, if_neg hnull, if_neg hequals]

theorem setAll_eq : ∀ {pairs : List (String × String)} (env : Environment), (∀ x ∈ pairs, fault? x.1 x.2 = none) →
    env.setAll pairs = (none, env.insertAll pairs)
  | [], _, _ => rfl
  | (name, value) :: pairs, env, h => by
    obtain ⟨hfault, hpairs⟩ := List.forall_mem_cons.1 h
    rw [setAll, hfault]
    exact setAll_eq (env.insert name value) hpairs

/-- **A file of definitions gives each name the value of its last definition**, and leaves all others alone. -/
theorem load_text (hdefs : ∀ d ∈ defs, d.isPlain = true) (env : Environment) :
    (env.load (Definition.text defs)).1 = none ∧
      ∀ name, (env.load (Definition.text defs)).2.get? name = (Definition.last? defs name).or (env.get? name) := by
  have hsettable : ∀ x ∈ definitions (Definition.text defs), fault? x.1 x.2 = none := by
    intro x hx
    rw [definitions_text hdefs] at hx
    obtain ⟨entry, hentry, heq⟩ := List.mem_filterMap.1 hx
    obtain ⟨d, hd, rfl⟩ := List.mem_map.1 (OrderedMap.mem_of_mem_ofList hentry)
    cases heq
    exact fault?_of_isPlain (hdefs d hd)
  rw [load, setAll_eq env hsettable]
  refine ⟨rfl, fun name => ?_⟩
  rw [OrderedMap.get?_insertAll, OrderedMap.lookup_reverse (nodup_definitions _), lookup_definitions_text hdefs]

example : definitions "A=1\n# none\nexport B = 'x y' # of A\nA='2'" = [("A", "2"), ("B", "x y")] := by decide +kernel

/-- Whatever is set, environments that agree on a variable still do. -/
theorem get?_setAll_congr {name : String} : ∀ (pairs : List (String × String)) {env env' : Environment},
    env'.get? name = env.get? name → (env'.setAll pairs).2.get? name = (env.setAll pairs).2.get? name
  | [], _, _, h => h
  | (other, value) :: pairs, env, env', h => by
    rw [setAll, setAll]
    cases fault? other value with
    | some fault => exact h
    | none =>
      refine get?_setAll_congr pairs ?_
      by_cases hother : name = other
      · subst hother
        rw [OrderedMap.get?_insert_self, OrderedMap.get?_insert_self]
      · rw [OrderedMap.get?_insert_of_ne _ hother, OrderedMap.get?_insert_of_ne _ hother, h]

end Environment
end MetricExpr
