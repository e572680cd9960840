import MetricExpr.Text.Pictograph
/-!
# Markup

Text for the console may carry style tags such as `[bold]` and `[/]`. A backslash in front of a tag makes it plain text.
The console has no colours, so that only the text between the tags is shown, with pictographs in place of their names.
-/
namespace MetricExpr.Markup

/-- The characters that a tag's content starts with. -/
def startsTag (c : Char) : Bool := ('a' ≤ c && c ≤ 'z') || c == '#' || c == '/' || c == '@'

/-- The content of a tag in front of a text, and the rest after the tag. -/
def tag? : List Char → Option (List Char × List Char)
  | '[' :: c :: cs =>
    if startsTag c then
      let body := cs.takeWhile fun c => c != '[' && c != ']'
      match cs.drop body.length with
      | ']' :: rest => some (c :: body, rest)
      | _ => none
    else none
  | _ => none

theorem length_of_tag? {cs content rest} (h : tag? cs = some (content, rest)) : rest.length < cs.length := by
  unfold tag? at h
  split at h
  · rename_i c cs
    split at h
    · simp only at h
      split at h
      · rename_i rest' hd
        simp only [Option.some.injEq, Prod.mk.injEq] at h
        obtain ⟨-, rfl⟩ := h
        have := congrArg List.length hd
        simp only [List.length_drop, List.length_cons] at this ⊢
        omega
      · cases h
    · cases h
  · cases h

/-- A part of a text. -/
inductive Piece where
  | plain (cs : List Char)
  /-- A tag's content, and how many backslashes stand in front of the tag. -/
  | tag (slashes : Nat) (content : List Char)
  deriving DecidableEq, Repr

/-- A run of plain text as a piece, unless it is empty. The run has its last character first. -/
def plainPiece : List Char → List Piece
  | [] => []
  | run => [.plain run.reverse]

def backslashes (n : Nat) : List Char := List.replicate n '\\'

/-- The pieces of a text after a run of plain text and some backslashes. -/
def pieces (run : List Char) (slashes : Nat) (cs : List Char) : List Piece :=
  match cs with
  | [] => plainPiece (backslashes slashes ++ run)
  | '\\' :: cs => pieces run (slashes + 1) cs
  | c :: cs =>
    match h : tag? (c :: cs) with
    | some (content, rest) =>
      have := length_of_tag? h
      plainPiece run ++ .tag slashes content :: pieces [] 0 rest
    | none => pieces (c :: backslashes slashes ++ run) 0 cs
termination_by cs.length
decreasing_by all_goals simp_all

def ofText (s : String) : List Piece := pieces [] 0 s.toList

/-- A tag in brackets. -/
def bracketed (content : List Char) : List Char := '[' :: content ++ [']']

/-! ## Escaping -/

/-- A piece that is shown as it is: backslashes in front of a tag are doubled, and one more is added. -/
def escapePiece : Piece → List Char
  | .plain cs => cs
  | .tag slashes content => backslashes (2 * slashes + 1) ++ bracketed content

/-- A single backslash at the end is doubled, so that it escapes nothing that comes after it. -/
def closeEnd (cs : List Char) : List Char :=
  match cs.reverse with
  | '\\' :: '\\' :: _ => cs
  | '\\' :: _ => cs ++ ['\\']
  | _ => cs

/-- A text whose tags are shown as text. -/
def escape (s : String) : String := String.ofList (closeEnd ((ofText s).flatMap escapePiece))

/-! ## Showing -/

/-- The text with every escaped bracket as a bracket. -/
def unescape : List Char → List Char
  | '\\' :: '[' :: cs => '[' :: unescape cs
  | c :: cs => c :: unescape cs
  | [] => []

/-- What is shown of a piece: half of its backslashes, and the tag if a backslash is left over. -/
def shownPiece : Piece → List Char
  | .plain cs => Text.drawn (unescape cs)
  | .tag slashes content =>
    backslashes (slashes / 2) ++ if slashes % 2 = 1 then Text.drawn (bracketed content) else []

/-- What the console shows of a text. -/
def shown (s : String) : List Char := (ofText s).flatMap shownPiece

/-! ## Faults -/

/-- The name of a tag: what stands before an equals sign. -/
def tagName (content : List Char) : List Char := content.takeWhile (· != '=')

/-- Names of tags are compared without blanks around them and in lower case. -/
def nameKey (name : List Char) : List Char :=
  ((name.map Char.toLower).dropWhile (· == ' ')).reverse.dropWhile (· == ' ') |>.reverse

/-- The message about the first tag that closes nothing, given the names of the open tags and the place. -/
def faultFrom (opened : List (List Char)) (place : Nat) : List Piece → Option String
  | [] => none
  | .plain cs :: rest => faultFrom opened (place + cs.length) rest
  | .tag slashes content :: rest =>
    let after := place + slashes + content.length + 2
    if slashes % 2 = 1 then faultFrom opened after rest
    else
      let message (what : String) :=
        "closing tag '" ++ String.ofList (bracketed content) ++ "' at position " ++ toString (place + slashes) ++ what
      match tagName content with
      | '/' :: name =>
        let key := nameKey name
        if key.isEmpty then
          match opened with
          | [] => some (message " has nothing to close")
          | _ :: opened => faultFrom opened after rest
        else if opened.contains key then faultFrom (opened.erase key) after rest
        else some (message " doesn't match any open tag")
      | name => faultFrom (nameKey name :: opened) after rest

/-- The message about the first tag of a text that closes nothing. -/
def fault? (s : String) : Option String := faultFrom [] 0 (ofText s)

end MetricExpr.Markup
