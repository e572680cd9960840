import MetricExpr.Yaml.Token
/-!
# Trees of a document

The tokens of a stream that holds at most one document make a tree of scalars, lists and mappings. Where a key or a
value is left out, an empty plain scalar stands.
-/
namespace MetricExpr.Yaml

inductive Tree where
  | scalar (text : List Char) (plain : Bool)
  | list (items : List Tree)
  | mapping (pairs : List (Tree × Tree))

instance : Inhabited Tree := ⟨.scalar [] true⟩

namespace Tree

def empty : Tree := .scalar [] true

/-- Does the next token end what may be empty? -/
def endsAt (stops : List Token) : List Token → Bool
  | [] => true
  | t :: _ => stops.contains t

mutual

/-- One node. `block` allows blocks, and `loose` allows list items without a block of their own. -/
def node (block loose : Bool) : Nat → List Token → Option (Tree × List Token)
  | 0, _ => none
  | fuel + 1, ts =>
    match ts with
    | .scalar text plain :: ts => some (.scalar text plain, ts)
    | .listStart :: ts => (flowItems true fuel ts).map fun (items, ts) => (.list items, ts)
    | .mapStart :: ts => (flowPairs true fuel ts).map fun (pairs, ts) => (.mapping pairs, ts)
    | .blockList :: ts => if block then (blockItems fuel ts).map fun (items, ts) => (.list items, ts) else none
    | .blockMap :: ts => if block then (blockPairs fuel ts).map fun (pairs, ts) => (.mapping pairs, ts) else none
    | .item :: _ => if loose then (looseItems fuel ts).map fun (items, ts) => (.list items, ts) else none
    | _ => none

/-- A node that may be left out in front of some tokens. -/
def optional (stops : List Token) (block loose : Bool) : Nat → List Token → Option (Tree × List Token)
  | 0, _ => none
  | fuel + 1, ts => if endsAt stops ts then some (empty, ts) else node block loose fuel ts

/-- The items of a block list, up to and with its end. -/
def blockItems : Nat → List Token → Option (List Tree × List Token)
  | 0, _ => none
  | fuel + 1, ts =>
    match ts with
    | .item :: ts => do
      let (x, ts) ← optional [.item, .blockEnd] true false fuel ts
      let (xs, ts) ← blockItems fuel ts
      return (x :: xs, ts)
    | .blockEnd :: ts => some ([], ts)
    | _ => none

/-- List items that stand at the indentation of their key. -/
def looseItems : Nat → List Token → Option (List Tree × List Token)
  | 0, _ => none
  | fuel + 1, ts =>
    match ts with
    | .item :: ts => do
      let (x, ts) ← optional [.item, .key, .value, .blockEnd] true false fuel ts
      let (xs, ts) ← looseItems fuel ts
      return (x :: xs, ts)
    | _ => some ([], ts)

/-- The pairs of a block mapping, up to and with its end. -/
def blockPairs : Nat → List Token → Option (List (Tree × Tree) × List Token)
  | 0, _ => none
  | fuel + 1, ts =>
    match ts with
    | .key :: ts => do
      let (k, ts) ← optional [.key, .value, .blockEnd] true true fuel ts
      let (v, ts) ← blockValue fuel ts
      let (rest, ts) ← blockPairs fuel ts
      return ((k, v) :: rest, ts)
    | .blockEnd :: ts => some ([], ts)
    | _ => none

/-- The value of a pair in a block mapping. -/
def blockValue : Nat → List Token → Option (Tree × List Token)
  | 0, _ => none
  | fuel + 1, ts =>
    match ts with
    | .value :: ts => optional [.key, .value, .blockEnd] true true fuel ts
    | _ => some (empty, ts)

/-- The items of a list in brackets, up to and with the closing one. A pair among them is a mapping of its own. -/
def flowItems (first : Bool) : Nat → List Token → Option (List Tree × List Token)
  | 0, _ => none
  | fuel + 1, ts =>
    match ts with
    | .listEnd :: ts => some ([], ts)
    | _ => do
      let ts ← if first then some ts else match ts with
        | .comma :: ts => some ts
        | _ => none
      match ts with
      | .listEnd :: ts => some ([], ts)
      | .key :: ts => do
        let (k, ts) ← optional [.value, .comma, .listEnd] false false fuel ts
        let (v, ts) ← flowValue .listEnd fuel ts
        let (xs, ts) ← flowItems false fuel ts
        return (.mapping [(k, v)] :: xs, ts)
      | _ => do
        let (x, ts) ← node false false fuel ts
        let (xs, ts) ← flowItems false fuel ts
        return (x :: xs, ts)

/-- The pairs of a mapping in braces, up to and with the closing one. A key without a colon has an empty value. -/
def flowPairs (first : Bool) : Nat → List Token → Option (List (Tree × Tree) × List Token)
  | 0, _ => none
  | fuel + 1, ts =>
    match ts with
    | .mapEnd :: ts => some ([], ts)
    | _ => do
      let ts ← if first then some ts else match ts with
        | .comma :: ts => some ts
        | _ => none
      match ts with
      | .mapEnd :: ts => some ([], ts)
      | .key :: ts => do
        let (k, ts) ← optional [.value, .comma, .mapEnd] false false fuel ts
        let (v, ts) ← flowValue .mapEnd fuel ts
        let (rest, ts) ← flowPairs false fuel ts
        return ((k, v) :: rest, ts)
      | _ => do
        let (k, ts) ← node false false fuel ts
        let (rest, ts) ← flowPairs false fuel ts
        return ((k, empty) :: rest, ts)

/-- The value of a pair in brackets or braces. -/
def flowValue (close : Token) : Nat → List Token → Option (Tree × List Token)
  | 0, _ => none
  | fuel + 1, ts =>
    match ts with
    | .value :: ts => optional [.comma, close] false false fuel ts
    | _ => some (empty, ts)

end

/-- Past the marks that end documents. -/
def dropTerminators : List Token → List Token
  | .terminator :: ts => dropTerminators ts
  | ts => ts

/-- The document after its separator line, if it has content. -/
def content (fuel : Nat) (ts : List Token) : Option (Tree × List Token) :=
  if endsAt [.separator, .terminator] ts then some (empty, ts) else node true false fuel ts

/-- The tree of a stream; a stream without a document has none. -/
def ofTokens? (ts : List Token) : Option (Option Tree) := do
  let fuel := 4 * ts.length + 4
  match ts with
  | [] => some none
  | _ => do
    let (tree, rest) ← match ts with
      | .separator :: ts => content fuel ts
      | _ => node true false fuel ts
    if (dropTerminators rest).isEmpty then some (some tree) else none

end Tree
end MetricExpr.Yaml
