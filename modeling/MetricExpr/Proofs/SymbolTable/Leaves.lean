import MetricExpr.Proofs.SymbolTable.Walk
/-!
# The table of a nested mapping and its leaves

A nested mapping whose leaves are numbers has the table that is made by inserting its leaves in document order, each
under the keys on the way to it with dots between them (`flatten_eq_leaves`). So mappings without leaves add nothing, a
parent path only goes in front of every path, and a table is the table of itself (`flatten_leaves`).
-/
namespace MetricExpr

namespace Datum

/-- The double of a number. A flag is no number here, and an integer beyond the doubles has none. -/
def number? (d : Datum) : Option Binary64 :=
  match d with
  | integer _ | real _ => d.toBinary64.toOption
  | _ => none

/-- Some text is written for the datum as a key. -/
def isNamed (k : Datum) : Bool := !SymbolTable.isLongKey k && !k.toText.isEmpty

mutual

/-- The leaves of a datum in document order, each with the texts of the keys on the way to it. -/
def leaves : Datum → List (List String × Binary64)
  | mapping entries => leavesOf entries
  | d => d.number?.toList.map fun x => ([], x)

def leavesOf : List (Datum × Datum) → List (List String × Binary64)
  | [] => []
  | (k, d) :: rest => (leaves d).map (fun leaf => (k.toText :: leaf.1, leaf.2)) ++ leavesOf rest

end

mutual

/-- A number with a double, or a mapping that holds nothing else at any depth and only keys that are named. -/
def isNumeric : Datum → Bool
  | mapping entries => areNumeric entries
  | d => d.number?.isSome

def areNumeric : List (Datum × Datum) → Bool
  | [] => true
  | (k, d) :: rest => k.isNamed && isNumeric d && areNumeric rest

end

mutual

/-- The datum without the mappings in it that hold nothing, at any depth. -/
def pruned : Datum → Datum
  | mapping entries => mapping (prunedEntries entries)
  | d => d

def prunedEntries : List (Datum × Datum) → List (Datum × Datum)
  | [] => []
  | (k, d) :: rest =>
    match pruned d with
    | mapping [] => prunedEntries rest
    | d' => (k, d') :: prunedEntries rest

end

theorem isNamed_iff {k : Datum} : k.isNamed = true ↔ SymbolTable.isLongKey k = false ∧ k.toText ≠ "" := by
  simp [isNamed]

theorem areNumeric_cons {k d : Datum} {rest : List (Datum × Datum)} :
    areNumeric ((k, d) :: rest) = true ↔ k.isNamed = true ∧ d.isNumeric = true ∧ areNumeric rest = true := by
  rw [areNumeric, Bool.and_eq_true, Bool.and_eq_true, and_assoc]

theorem keys_ne_nil {entries : List (Datum × Datum)} : ∀ leaf ∈ leavesOf entries, leaf.1 ≠ [] := by
  induction entries with
  | nil => exact fun leaf h => absurd h List.not_mem_nil
  | cons entry rest ih =>
    intro leaf h
    rw [leavesOf, List.mem_append, List.mem_map] at h
    obtain ⟨lower, -, rfl⟩ | h := h
    · exact List.cons_ne_nil _ _
    · exact ih leaf h

/-- An entry whose datum is pruned to an empty mapping goes, and any other stays. -/
theorem prunedEntries_cons (k d : Datum) (rest : List (Datum × Datum)) :
    pruned d = mapping [] ∧ prunedEntries ((k, d) :: rest) = prunedEntries rest ∨
      prunedEntries ((k, d) :: rest) = (k, pruned d) :: prunedEntries rest := by
  rw [prunedEntries]
  split
  · rename_i h
    exact .inl ⟨h, rfl⟩
  · exact .inr rfl

mutual

theorem leaves_pruned : ∀ d : Datum, d.pruned.leaves = d.leaves
  | mapping entries => leavesOf_pruned entries
  | null | flag _ | integer _ | real _ | text _ | date .. | list _ | other .. | cycle => rfl

theorem leavesOf_pruned : ∀ entries : List (Datum × Datum), leavesOf (prunedEntries entries) = leavesOf entries
  | [] => rfl
  | (k, d) :: rest => by
    have hd := leaves_pruned d
    rw [leavesOf, ← hd, ← leavesOf_pruned rest]
    rcases prunedEntries_cons k d rest with ⟨hempty, h⟩ | h
    · rw [h, hempty]
      rfl
    · rw [h, leavesOf]

end

mutual

theorem isNumeric_pruned : ∀ d : Datum, d.isNumeric = true → d.pruned.isNumeric = true
  | mapping entries, h => areNumeric_pruned entries h
  | null, h | flag _, h | integer _, h | real _, h | text _, h | date .., h | list _, h | other .., h | cycle, h => h

theorem areNumeric_pruned : ∀ entries : List (Datum × Datum), areNumeric entries = true →
    areNumeric (prunedEntries entries) = true
  | [], _ => rfl
  | (k, d) :: rest, h => by
    obtain ⟨hk, hd, hrest⟩ := areNumeric_cons.1 h
    rcases prunedEntries_cons k d rest with ⟨-, h⟩ | h
    · rw [h]
      exact areNumeric_pruned rest hrest
    · rw [h, areNumeric_cons]
      exact ⟨hk, isNumeric_pruned d hd, areNumeric_pruned rest hrest⟩

end

end Datum

namespace SymbolTable

open Datum

/-- The keys from a parent path on. The path of some text counts as one key. -/
def keysFrom (parent : String) (keys : List String) : List String := if parent.isEmpty then keys else parent :: keys

theorem keysFrom_of_ne_empty {parent : String} (h : parent ≠ "") (keys : List String) :
    keysFrom parent keys = parent :: keys := by
  simp [keysFrom, h]

/-- Going down one key and joining the rest is joining all keys. -/
theorem intercalate_join (parent key : String) (keys : List String) :
    ".".intercalate (join parent key :: keys) = ".".intercalate (keysFrom parent (key :: keys)) := by
  unfold join keysFrom
  split
  · rfl
  · cases keys <;> simp [String.intercalate_cons_cons, String.append_assoc]

theorem number_of_number? {path : String} {d : Datum} {x : Binary64} (h : d.number? = some x) :
    number path d = .ok x := by
  cases d with
  | integer n =>
    cases hn : Binary64.ofInt? n <;> simp_all [Datum.number?, Datum.toBinary64, number, Except.toOption]
  | real y => simp_all [Datum.number?, Datum.toBinary64, number, Except.toOption]
  | null | flag | text | date | list | mapping | other | cycle => cases h

theorem pairsOf_leaf_of_numeric {path : String} {d : Datum} (hd : isLeaf d = true) (h : d.isNumeric = true) :
    pairsOf (sites path d) = .ok (d.leaves.map fun leaf => (".".intercalate (path :: leaf.1), leaf.2)) := by
  have hmapping : ∀ entries, d = .mapping entries → False := by
    rintro entries rfl
    cases hd
  rw [isNumeric.eq_2 d hmapping] at h
  obtain ⟨x, hx⟩ := Option.isSome_iff_exists.1 h
  rw [sites_leaf path hd, pairsOf_leaf, number_of_number? hx, leaves.eq_2 d hmapping, hx]
  simp [Except.map]

mutual

theorem pairsOf_sites {path : String} (hpath : path ≠ "") : ∀ d : Datum, d.isNumeric = true →
    pairsOf (sites path d) = .ok (d.leaves.map fun leaf => (".".intercalate (path :: leaf.1), leaf.2))
  | .mapping entries, h => by
    have hentries := pairsOf_sitesOf path entries h
    simp only [keysFrom_of_ne_empty hpath] at hentries
    exact hentries
  | .cycle, h => nomatch h
  | .null, h | .flag _, h | .integer _, h | .real _, h | .text _, h | .date .., h | .list _, h | .other .., h =>
    pairsOf_leaf_of_numeric rfl h

/-- **A walk inserts the leaves**, each under its keys with dots between them. -/
theorem pairsOf_sitesOf (parent : String) : ∀ entries : List (Datum × Datum), areNumeric entries = true →
    pairsOf (sitesOf parent entries) =
      .ok ((leavesOf entries).map fun leaf => (".".intercalate (keysFrom parent leaf.1), leaf.2))
  | [], _ => rfl
  | (k, d) :: rest, h => by
    obtain ⟨hk, hd, hrest⟩ := areNumeric_cons.1 h
    obtain ⟨hlong, hempty⟩ := isNamed_iff.1 hk
    have hkey : (Site.key parent k).pairs = .ok [] := key_pairs_eq_ok_iff.2 ⟨hlong, hempty, rfl⟩
    rw [sitesOf, pairsOf, pairsOf_append, hkey, pairsOf_sites (join_ne_empty parent hempty) d hd,
      pairsOf_sitesOf parent rest hrest]
    simp [bind, Except.bind, pure, Except.pure, leavesOf, intercalate_join, Function.comp_def]

end

/-- **The table of a nested mapping has its leaves inserted in document order.** -/
theorem flatten_eq_leaves (parent : String) {entries : List (Datum × Datum)} (h : areNumeric entries = true) :
    flatten parent entries =
      .ok (.ofList ((leavesOf entries).map fun leaf => (".".intercalate (keysFrom parent leaf.1), leaf.2))) := by
  rw [flatten_eq, pairsOf_sitesOf parent entries h]
  rfl

theorem flatten_parent {parent : String} (hparent : parent ≠ "") {entries : List (Datum × Datum)}
    (h : areNumeric entries = true) :
    flatten parent entries = (flatten "" entries).map fun table => table.mapKeys (parent ++ "." ++ ·) := by
  have hinj : Function.Injective (parent ++ "." ++ · : String → String) := fun _ _ he => by simpa using he
  -- every leaf has a key, so what is joined to the parent is a whole path
  have hpairs : (leavesOf entries).map (fun leaf => (".".intercalate (keysFrom parent leaf.1), leaf.2)) =
      ((leavesOf entries).map fun leaf => (".".intercalate (keysFrom "" leaf.1), leaf.2)).map
        fun (path, x) => (parent ++ "." ++ path, x) := by
    rw [List.map_map]
    refine List.map_congr_left fun leaf hleaf => ?_
    rw [keysFrom_of_ne_empty hparent, String.intercalate_cons_of_ne_nil (keys_ne_nil leaf hleaf)]
    rfl
  rw [flatten_eq_leaves parent h, flatten_eq_leaves "" h, hpairs]
  exact congrArg Except.ok (OrderedMap.insertAll_mapKeys hinj _ .empty)

/-- The table as a mapping. -/
def document (table : SymbolTable) : List (Datum × Datum) := table.entries.map fun (path, x) => (.text path, .real x)

theorem areNumeric_document {table : SymbolTable} (h : "" ∉ table.keys) : areNumeric table.document = true := by
  obtain ⟨entries⟩ := table
  unfold document OrderedMap.keys at *
  induction entries with
  | nil => rfl
  | cons entry rest ih =>
    simp only [List.map_cons, List.mem_cons, not_or] at h
    rw [List.map_cons, areNumeric_cons]
    exact ⟨isNamed_iff.2 ⟨rfl, Ne.symm h.1⟩, rfl, ih h.2⟩

theorem leavesOf_document (table : SymbolTable) :
    leavesOf table.document = table.entries.map fun (path, x) => ([path], x) := by
  obtain ⟨entries⟩ := table
  unfold document
  induction entries with
  | nil => rfl
  | cons entry rest ih =>
    rw [List.map_cons, leavesOf, ih]
    rfl

/-- **A table is the table of itself.** -/
theorem flatten_document {table : SymbolTable} (h : table.Flat) : flatten "" table.document = .ok table := by
  rw [flatten_eq_leaves "" (areNumeric_document h.2), leavesOf_document, List.map_map]
  simpa [Function.comp_def, keysFrom] using OrderedMap.ofList_entries table h.1

end SymbolTable

open Datum in
/-- **Flattening is inserting the leaves in document order.** A nested mapping with numbers at its leaves, at any depth,
has a table: the leaves are inserted one after another, each under its keys with dots between them, so that a path keeps
its first place and takes its last number. Mappings that hold nothing add nothing, a parent path goes in front of every
path, and the table is its own table. -/
theorem flatten_leaves (entries : List (Datum × Datum)) (h : areNumeric entries = true) :
    let pairs := (leavesOf entries).map fun leaf => (".".intercalate leaf.1, leaf.2)
    ∃ table, SymbolTable.flatten "" entries = .ok table ∧ table = .ofList pairs ∧
      (table.keys = distinct (pairs.map (·.1)) ∧ ∀ path, table.get? path = pairs.reverse.lookup path) ∧
      (∀ parent, SymbolTable.flatten parent (prunedEntries entries) = SymbolTable.flatten parent entries) ∧
      (∀ parent, parent ≠ "" → SymbolTable.flatten parent entries = .ok (table.mapKeys (parent ++ "." ++ ·))) ∧
      SymbolTable.flatten "" table.document = .ok table := by
  intro pairs
  have hflatten : SymbolTable.flatten "" entries = .ok (.ofList pairs) := SymbolTable.flatten_eq_leaves "" h
  refine ⟨_, hflatten, rfl, ⟨OrderedMap.keys_ofList pairs, OrderedMap.get?_ofList pairs⟩, fun parent => ?_,
    fun parent hparent => ?_, SymbolTable.flatten_document (SymbolTable.flat_of_flatten hflatten)⟩
  · rw [SymbolTable.flatten_eq_leaves parent h, SymbolTable.flatten_eq_leaves parent (areNumeric_pruned entries h),
      leavesOf_pruned]
  · rw [SymbolTable.flatten_parent hparent h, hflatten]
    rfl

open Datum in
/-- The path "a.b" is met at two depths and the path "a.1" by two keys, and two mappings hold nothing. -/
theorem flatten_leaves_repeated :
    let entries : List (Datum × Datum) :=
      [(.text "a", .mapping [(.text "b", .integer 1), (.integer 1, .real .nan), (.text "c", .mapping [])]),
        (.text "a.b", .integer 2), (.text "d", .mapping [(.text "e", .mapping [])]),
        (.text "a", .mapping [(.text "1", .integer 3)])]
    areNumeric entries = true ∧
      leavesOf entries = [(["a", "b"], .ofInt 1), (["a", "1"], .nan), (["a.b"], .ofInt 2), (["a", "1"], .ofInt 3)] ∧
      prunedEntries entries = [(.text "a", .mapping [(.text "b", .integer 1), (.integer 1, .real .nan)]),
        (.text "a.b", .integer 2), (.text "a", .mapping [(.text "1", .integer 3)])] ∧
      SymbolTable.flatten "" entries = .ok ⟨[("a.b", .ofInt 2), ("a.1", .ofInt 3)]⟩ ∧
      SymbolTable.flatten "x" entries = .ok ⟨[("x.a.b", .ofInt 2), ("x.a.1", .ofInt 3)]⟩ := by
  intro entries
  have hnumeric : areNumeric entries = true := by decide
  obtain ⟨table, htable, hpairs, -, -, hparent, -⟩ := flatten_leaves entries hnumeric
  have heq : table = ⟨[("a.b", .ofInt 2), ("a.1", .ofInt 3)]⟩ := hpairs.trans (by decide)
  subst heq
  exact ⟨hnumeric, by decide, rfl, htable, hparent "x" (by decide)⟩

end MetricExpr
