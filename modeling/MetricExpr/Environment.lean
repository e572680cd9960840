import MetricExpr.OrderedMap
import MetricExpr.Text.Blank
/-!
# Environments

An environment holds the values of variables, and a file of variables sets some of them. Its lines are `NAME=value`, maybe
with the word `export` in front and a comment at the end. A name or a value may stand in quotes, where a value may go on
over lines. Lines that are none of this are left out. What stands in a value stands for itself: references to other
variables are not replaced.
-/
namespace MetricExpr

/-- The values of environment variables. -/
abbrev Environment := OrderedMap String String

/-- A variable of a file with its value as written; a line with nothing but a name gives none. -/
structure Binding where
  name : String
  value : Option String
  deriving DecidableEq, Repr

namespace Binding

/-! ## Lines -/

/-- Every line end as a line feed. -/
def lineFeeds : List Char → List Char
  | [] => []
  | '\r' :: '\n' :: cs => '\n' :: lineFeeds cs
  | c :: cs => (if c == '\r' then '\n' else c) :: lineFeeds cs

/-- Blanks within a line. -/
def isSpace (c : Char) : Bool := Text.isBlank c && c != '\n'

/-- The text without the word `export` in front and the spaces after it. -/
def skipExport (cs : List Char) : List Char :=
  let after := cs.dropWhile fun c => !Text.isBlank c
  if cs.takeWhile (fun c => !Text.isBlank c) == "export".toList && after.head?.any isSpace then after.dropWhile isSpace
  else cs

/-- Characters of a name outside quotes. -/
def isNameChar (c : Char) : Bool := !Text.isBlank c && c != '=' && c != '#'

/-- The name in front of a text, and the text after it. -/
def name? : List Char → Option (List Char × List Char)
  | '\'' :: cs =>
    match cs.takeWhile (· != '\''), cs.dropWhile (· != '\'') with
    | c :: name, _ :: after => some (c :: name, after)
    | _, _ => none
  | cs => if (cs.takeWhile isNameChar).isEmpty then none else some (cs.takeWhile isNameChar, cs.dropWhile isNameChar)

/-- The text up to its closing quote and the text after it. The first quote without a backslash closes; if there is none,
the last one with a backslash does. -/
def quoted? (quote : Char) : List Char → Option (List Char × List Char)
  | [] => none
  | [c] => if c == quote then some ([], []) else none
  | c :: d :: cs =>
    if c == quote then some ([], d :: cs)
    else if c == '\\' && d == quote then
      ((quoted? quote cs).map fun (value, after) => (c :: d :: value, after)).or (some ([c], cs))
    else (quoted? quote (d :: cs)).map fun (value, after) => (c :: value, after)

/-- The characters that may stand after a backslash between single quotes, and what they stand for. -/
def singleEscapes : List (Char × Char) := [('\\', '\\'), ('\'', '\'')]

/-- The same between double quotes. -/
def doubleEscapes : List (Char × Char) :=
  singleEscapes ++ [('"', '"'), ('a', '\x07'), ('b', '\x08'), ('f', '\x0c'), ('n', '\n'), ('r', '\r'), ('t', '\t'),
    ('v', '\x0b')]

/-- The text with what its escapes stand for. -/
def unescape (escapes : List (Char × Char)) : List Char → List Char
  | [] => []
  | [c] => [c]
  | c :: d :: cs =>
    match if c == '\\' then escapes.lookup d else none with
    | some e => e :: unescape escapes cs
    | none => c :: unescape escapes (d :: cs)

/-- The part of a line before a comment, which starts after a blank. -/
def uncommented : List Char → List Char
  | [] => []
  | [c] => [c]
  | c :: d :: cs => if Text.isBlank c && d == '#' then [] else c :: uncommented (d :: cs)

/-- The value in front of a text, and the text after it. -/
def value? : List Char → Option (List Char × List Char)
  | '\'' :: cs => (quoted? '\'' cs).map fun (value, after) => (unescape singleEscapes value, after)
  | '"' :: cs => (quoted? '"' cs).map fun (value, after) => (unescape doubleEscapes value, after)
  | cs =>
    let line := uncommented (cs.takeWhile (· != '\n'))
    some ((line.reverse.dropWhile Text.isBlank).reverse, cs.dropWhile (· != '\n'))

/-- Does nothing follow on a line but a comment? -/
def endsLine (cs : List Char) : Bool := (cs.dropWhile isSpace).head?.all fun c => c == '\n' || c == '#'

/-- The binding in front of a text, if there is one, and the text at which reading it stops. -/
def read (cs : List Char) : Option Binding × List Char :=
  match name? cs with
  | none => (none, cs)
  | some (name, after) =>
    match after.dropWhile isSpace with
    | '=' :: given =>
      match value? (given.dropWhile isSpace) with
      | none => (none, given)
      | some (value, after) =>
        (if endsLine after then some ⟨String.ofList name, some (String.ofList value)⟩ else none, after)
    | after => (if endsLine after then some ⟨String.ofList name, none⟩ else none, after)

/-- The text after the line in front of a text. -/
def nextLine (cs : List Char) : List Char := (cs.dropWhile (· != '\n')).tail

theorem length_dropWhile_le (p : Char → Bool) (cs : List Char) : (cs.dropWhile p).length ≤ cs.length :=
  (List.dropWhile_suffix p).length_le

theorem length_of_name? {cs name after : List Char} (h : name? cs = some (name, after)) : after.length < cs.length := by
  unfold name? at h
  split at h
  · rename_i quoted
    split at h
    · rename_i htake hdrop
      have hle := length_dropWhile_le (· != '\'') quoted
      rw [hdrop, List.length_cons] at hle
      cases h
      rw [List.length_cons]
      omega
    · cases h
  · split at h
    · cases h
    · rename_i hname
      cases h
      have hsplit := congrArg List.length (List.takeWhile_append_dropWhile (p := isNameChar) (l := cs))
      have hpos : 0 < (cs.takeWhile isNameChar).length :=
        List.length_pos_iff.2 fun hnil => hname (List.isEmpty_iff.2 hnil)
      rw [List.length_append] at hsplit
      omega

theorem length_of_quoted? {quote : Char} {cs value after : List Char} (h : quoted? quote cs = some (value, after)) :
    after.length < cs.length := by
  fun_induction quoted? quote cs generalizing value after with
  | case1 => cases h
  | case2 c hc =>
    cases h
    exact Nat.zero_lt_succ _
  | case3 => cases h
  | case4 =>
    cases h
    exact Nat.lt_succ_self _
  | case5 c d cs _ _ ih =>
    rw [Option.or_eq_some_iff] at h
    obtain h | ⟨-, h⟩ := h
    · obtain ⟨⟨inner, rest⟩, hinner, heq⟩ := Option.map_eq_some_iff.1 h
      cases heq
      exact Nat.lt_succ_of_lt (Nat.lt_succ_of_lt (ih hinner))
    · cases h
      exact Nat.lt_succ_of_lt (Nat.lt_succ_self _)
  | case6 c d cs _ _ ih =>
    obtain ⟨⟨inner, rest⟩, hinner, heq⟩ := Option.map_eq_some_iff.1 h
    cases heq
    exact Nat.lt_succ_of_lt (ih hinner)

theorem length_of_value? {cs value after : List Char} (h : value? cs = some (value, after)) : after.length ≤ cs.length := by
  have hquoted : ∀ {quote : Char} {cs : List Char} {escapes : List (Char × Char)},
      (quoted? quote cs).map (fun (value, after) => (unescape escapes value, after)) = some (value, after) →
      after.length ≤ cs.length + 1 := by
    intro quote cs escapes h
    obtain ⟨⟨inner, rest⟩, hinner, heq⟩ := Option.map_eq_some_iff.1 h
    cases heq
    exact Nat.le_succ_of_le (Nat.le_of_lt (length_of_quoted? hinner))
  unfold value? at h
  split at h
  · exact hquoted h
  · exact hquoted h
  · cases h
    exact length_dropWhile_le _ _

theorem length_read (cs : List Char) : (read cs).2.length ≤ cs.length := by
  unfold read
  split
  · exact Nat.le_refl _
  · rename_i name after hname
    have hafter := Nat.le_of_lt (length_of_name? hname)
    have hspaces := length_dropWhile_le isSpace after
    split
    · rename_i given hgiven
      rw [hgiven, List.length_cons] at hspaces
      split
      · show given.length ≤ _
        omega
      · rename_i value rest hvalue
        have hrest := length_of_value? hvalue
        have hmore := length_dropWhile_le isSpace given
        show rest.length ≤ _
        omega
    · exact Nat.le_trans hspaces hafter

theorem length_nextLine (cs : List Char) : (nextLine cs).length ≤ cs.length - 1 := by
  rw [nextLine, List.length_tail]
  exact Nat.sub_le_sub_right (length_dropWhile_le _ cs) 1

theorem length_skipExport (cs : List Char) : (skipExport cs).length ≤ cs.length := by
  unfold skipExport
  dsimp only
  split
  · exact Nat.le_trans (length_dropWhile_le _ _) (length_dropWhile_le _ _)
  · exact Nat.le_refl _

theorem length_nextLine_read {cs rest : List Char} {c : Char} (h : cs.dropWhile Text.isBlank = c :: rest) :
    (nextLine (read (skipExport (c :: rest))).2).length < cs.length := by
  have hnext := length_nextLine (read (skipExport (c :: rest))).2
  have hread := Nat.le_trans (length_read _) (length_skipExport (c :: rest))
  have hblanks := length_dropWhile_le Text.isBlank cs
  rw [h] at hblanks
  rw [List.length_cons] at hread hblanks
  omega

/-- The bindings of a text. -/
def all (cs : List Char) : List Binding :=
  match h : cs.dropWhile Text.isBlank with
  | [] => []
  | c :: rest =>
    have := length_nextLine_read h
    (read (skipExport (c :: rest))).1.toList ++ all (nextLine (read (skipExport (c :: rest))).2)
termination_by cs.length

end Binding

/-! ## Variables that are set -/

/-- Why a variable cannot be set. -/
inductive VariableFault where
  /-- A null character in its name or its value. -/
  | nullCharacter
  /-- An equals sign in its name. -/
  | name
  deriving DecidableEq, Repr

def VariableFault.message : VariableFault → String
  | nullCharacter => "embedded null byte"
  | name => "illegal environment variable name"

namespace Environment

/-- Set a variable, or take it away. -/
def assign (env : Environment) (name : String) : Option String → Environment
  | some value => env.insert name value
  | none => ⟨env.entries.filter (·.1 != name)⟩

/-- The variables that a text gives values, with these. The last line of a name counts. -/
def definitions (text : String) : List (String × String) :=
  let bindings := Binding.all (Binding.lineFeeds text.toList)
  (OrderedMap.ofList (bindings.map fun b => (b.name, b.value))).entries.filterMap fun (name, value) => value.map (name, ·)

/-- Why a variable cannot have a value, if it cannot. -/
def fault? (name value : String) : Option VariableFault :=
  if name.toList.contains '\x00' || value.toList.contains '\x00' then some .nullCharacter
  else if name.toList.contains '=' then some .name
  else none

/-- Set variables in order; the first one that cannot be set stops. -/
def setAll (env : Environment) : List (String × String) → Option VariableFault × Environment
  | [] => (none, env)
  | (name, value) :: rest =>
    match fault? name value with
    | some fault => (some fault, env)
    | none => setAll (env.insert name value) rest

/-- Set the variables of a text. -/
def load (env : Environment) (text : String) : Option VariableFault × Environment :=
  env.setAll (definitions text)

end Environment
end MetricExpr
