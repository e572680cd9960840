import MetricExpr.Text.Digit
import MetricExpr.Text.Quoted
/-!
# Arguments

A command line is a list of words. Words that start with a minus name options, possibly with a value after an equals
sign, and the other words are operands. A long option may be shortened as long as only one fits, and short options may
share a word. After the word `--` everything is an operand, and so are negative numbers and words with a blank in them.
-/
namespace MetricExpr.Command

/-- An option and how it is written. -/
structure OptionSpec where
  names : List String
  takesValue : Bool
  /-- The values that are allowed; if none is listed, any value is. -/
  choices : List String
  required : Bool
  /-- Options of one group exclude each other. -/
  group : Option String
  deriving DecidableEq, Repr

/-- The operands that a command has. -/
inductive OperandSpec where
  | nothing
  | single (name : String)
  | several (name : String)
  /-- The name of a command and all words after it. -/
  | command (name : String) (choices : List String)
  deriving DecidableEq, Repr

/-- The words that a program takes. -/
structure Grammar where
  program : String
  operands : OperandSpec
  options : List OptionSpec
  deriving Repr

/-- Why words are not taken. -/
inductive Refusal where
  /-- Help was asked for. -/
  | help (program : String)
  | wrong (program message : String)
  deriving DecidableEq, Repr

/-- An option that is used, with its value if it takes one. -/
structure Use where
  option : OptionSpec
  value : Option String
  deriving DecidableEq, Repr

/-- The words of a command line, sorted. -/
structure Arguments where
  uses : List Use
  /-- The operands, once they have been found. -/
  operands : Option (List String)
  /-- Words that nothing takes. -/
  extras : List String
  deriving DecidableEq, Repr

namespace OptionSpec

/-- The option that asks for help; every grammar has it. -/
def help : OptionSpec := ⟨["-h", "--help"], false, [], false, none⟩

/-- The option as messages name it. -/
def label (o : OptionSpec) : String := "/".intercalate o.names

end OptionSpec

/-! ## Kinds of words -/

/-- A value in the word of its option. -/
structure Attached where
  /-- Does an equals sign stand before the value? -/
  equals : Bool
  value : List Char
  deriving DecidableEq, Repr

/-- What a word is. -/
inductive WordKind where
  | operand
  /-- The word `--`. -/
  | separator
  /-- The form of an option, but none has the name. -/
  | unknown
  | option (o : OptionSpec) (name : String) (attached : Option Attached)
  deriving DecidableEq, Repr

/-- A word of the command line. -/
structure Word where
  text : String
  kind : WordKind
  deriving DecidableEq, Repr

namespace Word

def isSeparator (w : Word) : Bool := w.kind == .separator

def isOperand (w : Word) : Bool := w.kind == .operand

/-- Does the word have the form of an option? -/
def isOption (w : Word) : Bool := !w.isSeparator && !w.isOperand

end Word

/-- A minus and digits, maybe with a point among them; a line feed may come last. -/
def isNegativeNumber (cs : List Char) : Bool :=
  match if cs.getLast? == some '\n' then cs.dropLast else cs with
  | '-' :: cs =>
    match cs.dropWhile Text.isDigit with
    | [] => !cs.isEmpty
    | '.' :: fraction => !fraction.isEmpty && fraction.all Text.isDigit
    | _ => false
  | _ => false

/-- The text before an equals sign, and the value after it. -/
def splitEquals (cs : List Char) : String × Option Attached :=
  let name := cs.takeWhile (· != '=')
  match cs.drop name.length with
  | _ :: value => (String.ofList name, some ⟨true, value⟩)
  | [] => (String.ofList name, none)

namespace Grammar

def refuse {α : Type} (g : Grammar) (message : String) : Except Refusal α := .error (.wrong g.program message)

/-- Refuse an argument by its name. -/
def refuseArgument {α : Type} (g : Grammar) (label message : String) : Except Refusal α :=
  g.refuse ("argument " ++ label ++ ": " ++ message)

/-- The names of all options, each with its option. -/
def named (g : Grammar) : List (String × OptionSpec) :=
  (OptionSpec.help :: g.options).flatMap fun o => o.names.map fun name => (name, o)

def find? (g : Grammar) (name : String) : Option OptionSpec := g.named.lookup name

/-- The options that a word may stand for: long ones that it is the front of, short ones that are its front. -/
def candidates (g : Grammar) (cs : List Char) : List (String × OptionSpec × Option Attached) :=
  match cs with
  | '-' :: '-' :: _ =>
    let (front, attached) := splitEquals cs
    (g.named.filter fun (name, _) => front.isPrefixOf name).map fun (name, o) => (name, o, attached)
  | dash :: letter :: rest =>
    (g.named.filter fun (name, _) => name == String.ofList [dash, letter]).map fun (name, o) =>
      (name, o, some ⟨false, rest⟩)
  | _ => []

/-- What a word before a separator is. -/
def kindOf (g : Grammar) (text : String) : Except Refusal WordKind :=
  let cs := text.toList
  if cs.head? != some '-' || cs.length = 1 then .ok .operand
  else
    let (name, attached) := splitEquals cs
    match g.find? text, g.find? name with
    | some o, _ => .ok (.option o text none)
    | none, some o => .ok (.option o name attached)
    | none, none =>
      match g.candidates cs with
      | [] => .ok (if isNegativeNumber cs || cs.contains ' ' then .operand else .unknown)
      | [(name, o, attached)] => .ok (.option o name attached)
      | several =>
        g.refuse ("ambiguous option: " ++ text ++ " could match " ++ ", ".intercalate (several.map (·.1)))

/-- The words with what they are. -/
def classify (g : Grammar) : List String → Except Refusal (List Word)
  | [] => .ok []
  | text :: rest =>
    if text == "--" then .ok (⟨text, .separator⟩ :: rest.map fun text => ⟨text, .operand⟩)
    else do
      let kind ← g.kindOf text
      return ⟨text, kind⟩ :: (← g.classify rest)

/-! ## Operands -/

/-- How many words in front belong to the operands; none if no operand is there. -/
def operandCount (g : Grammar) (ws : List Word) : Nat :=
  let lead := (ws.takeWhile Word.isSeparator).length
  match ws.drop lead with
  | [] => 0
  | w :: rest =>
    if w.isOperand then
      match g.operands with
      | .nothing => 0
      | .single _ => lead + 1 + (rest.takeWhile Word.isSeparator).length
      | .several _ => lead + 1 + (rest.takeWhile fun w => !w.isOption).length
      | .command .. => ws.length
    else 0

/-- The operands that words write: the first separator is left out, except before a command. -/
def operandTexts (g : Grammar) (ws : List Word) : List String :=
  match g.operands with
  | .command .. => ws.map (·.text)
  | _ => (ws.map (·.text)).erase "--"

/-- Is the first operand a command that there is, if it has to be one? -/
def checkCommand (g : Grammar) (operands : List String) : Except Refusal Unit :=
  match g.operands, operands with
  | .command label choices, name :: _ =>
    if choices.contains name then .ok ()
    else
      g.refuseArgument label ("invalid choice: " ++ Text.quote name ++ " (choose from " ++
        ", ".intercalate (choices.map Text.quote) ++ ")")
  | _, _ => .ok ()

/-! ## Options -/

/-- Use an option after others: its value must be allowed, and none of its group may have been used. -/
def use (g : Grammar) (a : Arguments) (u : Use) : Except Refusal Arguments :=
  if u.option = .help then .error (.help g.program)
  else
    match u.value.filter fun value => !u.option.choices.isEmpty && !u.option.choices.contains value with
    | some value =>
      g.refuseArgument u.option.label ("invalid choice: " ++ Text.quote value ++ " (choose from " ++
        ", ".intercalate (u.option.choices.map Text.quote) ++ ")")
    | none =>
      match g.options.find? fun o => o.group.isSome && o.group == u.option.group && o != u.option &&
          a.uses.any (·.option == o) with
      | some other => g.refuseArgument u.option.label ("not allowed with argument " ++ other.label)
      | none => .ok { a with uses := a.uses ++ [u] }

/-- The options that share a word: those that are complete, what is left over, and one whose value is still to come. -/
structure Bundle where
  uses : List Use
  extras : List String
  last : Option OptionSpec

def Bundle.after (u : Use) (b : Bundle) : Bundle := { b with uses := u :: b.uses }

/-- Take apart the word of an option and what is attached to its name. -/
def unbundle (g : Grammar) (o : OptionSpec) (name : String) (equals : Bool) (cs : List Char) : Except Refusal Bundle :=
  if o.takesValue then .ok ⟨[⟨o, some (String.ofList cs)⟩], [], none⟩
  else if equals || cs.isEmpty || cs.head? == some '-' || "--".isPrefixOf name then
    g.refuseArgument o.label ("ignored explicit argument " ++ Text.quote (String.ofList cs))
  else
    match cs with
    | [] => .ok ⟨[⟨o, none⟩], [], none⟩
    | c :: rest =>
      let next := String.ofList ['-', c]
      match g.find? next with
      | none => .ok ⟨[⟨o, none⟩], [String.ofList ('-' :: c :: rest)], none⟩
      | some o' =>
        match rest with
        | [] => .ok ⟨[⟨o, none⟩], [], some o'⟩
        | '=' :: value => (g.unbundle o' next true value).map (.after ⟨o, none⟩)
        | d :: value => (g.unbundle o' next false (d :: value)).map (.after ⟨o, none⟩)
termination_by cs.length

/-- The options in a word; nothing if the word names none. -/
def bundleOf (g : Grammar) (w : Word) : Except Refusal Bundle :=
  match w.kind with
  | .option o name (some attached) => g.unbundle o name attached.equals attached.value
  | .option o _ none => .ok ⟨[], [], some o⟩
  | _ => .ok ⟨[], [w.text], none⟩

/-- The last option of a bundle with its value, and how many of the words after it the value takes. -/
def lastUse (g : Grammar) (o : OptionSpec) (ws : List Word) : Except Refusal (Use × Nat) :=
  if o.takesValue then
    match ws with
    | w :: _ => if w.isOperand then .ok (⟨o, some w.text⟩, 1) else g.refuseArgument o.label "expected one argument"
    | [] => g.refuseArgument o.label "expected one argument"
  else .ok (⟨o, none⟩, 0)

/-- Use the options of a word, and tell how many of the words after it they take. -/
def useWord (g : Grammar) (a : Arguments) (w : Word) (ws : List Word) : Except Refusal (Arguments × Nat) := do
  let bundle ← g.bundleOf w
  let (last, taken) ← match bundle.last with
    | none => pure ([], 0)
    | some o => do
      let (u, n) ← g.lastUse o ws
      pure ([u], n)
  let a ← (bundle.uses ++ last).foldlM g.use a
  return ({ a with extras := a.extras ++ bundle.extras }, taken)

/-! ## Reading -/

/-- Sort the words after others. -/
def sortFrom (g : Grammar) (a : Arguments) (ws : List Word) : Except Refusal Arguments :=
  match ws with
  | [] => .ok a
  | w :: rest =>
    if w.isOption then do
      let (a, taken) ← g.useWord a w rest
      g.sortFrom a (rest.drop taken)
    else
      let n := if a.operands.isNone then g.operandCount (w :: rest) else 0
      match n with
      | 0 => g.sortFrom { a with extras := a.extras ++ [w.text] } rest
      | n + 1 => do
        let operands := g.operandTexts ((w :: rest).take (n + 1))
        g.checkCommand operands
        g.sortFrom { a with operands := some operands } (rest.drop n)
termination_by ws.length
decreasing_by all_goals simp only [List.length_cons, List.length_drop]; omega

/-- The names of the operands and options that must be there and are not. -/
def missing (g : Grammar) (a : Arguments) : List String :=
  let operands := match g.operands with
    | .single name | .several name => if a.operands.isNone then [name] else []
    | _ => []
  operands ++ (g.options.filter fun o => o.required && !a.uses.any (·.option == o)).map OptionSpec.label

/-- Sort the words of a command line. -/
def sort (g : Grammar) (words : List String) : Except Refusal Arguments := do
  let a ← g.sortFrom ⟨[], none, []⟩ (← g.classify words)
  let missing := g.missing a
  if missing.isEmpty then return a
  else g.refuse ("the following arguments are required: " ++ ", ".intercalate missing)

end Grammar

namespace Arguments

/-- Is an option used? -/
def has (a : Arguments) (o : OptionSpec) : Bool := a.uses.any (·.option == o)

/-- The value of an option; the last one counts. -/
def value? (a : Arguments) (o : OptionSpec) : Option String :=
  (a.uses.reverse.find? (·.option == o)).bind (·.value)

/-- The operands that were found. -/
def found (a : Arguments) : List String := a.operands.getD []

end Arguments
end MetricExpr.Command
