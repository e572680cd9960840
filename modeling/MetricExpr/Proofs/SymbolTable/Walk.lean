import MetricExpr.Proofs.Binary64.Range
import MetricExpr.Proofs.Except
import MetricExpr.Proofs.OrderedMap
import MetricExpr.SymbolTable
/-!
# Walks through nested mappings

A mapping is walked in document order: each key, and then what stands under it. The table of a mapping has the pairs of
its leaves inserted in the order of the walk, and the first site that has a fault stops it (`flattenEntries_eq`).
-/
namespace MetricExpr

namespace SymbolTable

/-- What a walk through a mapping comes to: a key under a path, a leaf, or a mapping that it is already in. -/
inductive Site where
  | key (parent : String) (key : Datum)
  | leaf (path : String) (value : Datum)
  | loop

mutual

/-- The sites of what stands at a path, in document order. -/
def sites (path : String) : Datum → List Site
  | .mapping entries => sitesOf path entries
  | .cycle => [.loop]
  | d => [.leaf path d]

/-- The sites of the entries under a path. -/
def sitesOf (parent : String) : List (Datum × Datum) → List Site
  | [] => []
  | (k, d) :: rest => .key parent k :: (sites (join parent k.toText) d ++ sitesOf parent rest)

end

/-- Does the walk go no further down here? -/
def isLeaf : Datum → Bool
  | .mapping _ | .cycle => false
  | _ => true

theorem sites_leaf (path : String) {d : Datum} (hd : isLeaf d = true) : sites path d = [.leaf path d] := by
  cases d with
  | mapping | cycle => cases hd
  | null | flag | integer | real | text | date | list | other => rfl

/-- What a site adds to the table: nothing for a key, the number of a leaf under its path. -/
def Site.pairs : Site → Except TableFault (List (String × Binary64))
  | key parent k =>
    if isLongKey k then .error .longKey else if k.toText.isEmpty then .error (.emptyKey parent) else .ok []
  | leaf path d => (number path d).map fun x => [(path, x)]
  | loop => .error .endless

/-- What sites add to the table, in order. The first fault stops. -/
def pairsOf : List Site → Except TableFault (List (String × Binary64))
  | [] => .ok []
  | site :: rest => do return (← site.pairs) ++ (← pairsOf rest)

theorem pairsOf_append (before after : List Site) :
    pairsOf (before ++ after) = do return (← pairsOf before) ++ (← pairsOf after) := by
  induction before with
  | nil =>
    show pairsOf after = (pairsOf after).map fun pairs => [] ++ pairs
    cases pairsOf after <;> rfl
  | cons site before ih =>
    rw [List.cons_append, pairsOf, pairsOf, ih]
    cases site.pairs with
    | error fault => rfl
    | ok here =>
      cases pairsOf before with
      | error fault => rfl
      | ok pairs => cases pairsOf after <;> simp [bind, Except.bind, pure, Except.pure]

theorem pairsOf_leaf (path : String) (d : Datum) : pairsOf [.leaf path d] = (number path d).map fun x => [(path, x)] := by
  rw [pairsOf, Site.pairs]
  cases number path d <;> rfl

theorem flattenEntry_leaf (path : String) {d : Datum} (hd : isLeaf d = true) :
    flattenEntry path d = (pairsOf (sites path d)).map .ofList := by
  have hflatten : flattenEntry path d = (number path d).map fun x => .ofList [(path, x)] := by
    cases d with
    | mapping | cycle => cases hd
    | null | flag | integer | real | text | date | list | other => rfl
  rw [hflatten, sites_leaf path hd, pairsOf_leaf]
  cases number path d <;> rfl

mutual

theorem flattenEntry_eq (path : String) : ∀ d : Datum, flattenEntry path d = (pairsOf (sites path d)).map .ofList
  | .mapping entries => flattenEntries_eq path entries .empty List.nodup_nil
  | .cycle => rfl
  | .null | .flag _ | .integer _ | .real _ | .text _ | .date .. | .list _ | .other .. => flattenEntry_leaf path rfl

/-- **The table of a mapping has the leaves inserted in document order**, unless a site on the way has a fault. -/
theorem flattenEntries_eq (parent : String) : ∀ (entries : List (Datum × Datum)) (table : SymbolTable), table.keys.Nodup →
    flattenEntries parent table entries = (pairsOf (sitesOf parent entries)).map table.insertAll
  | [], table, _ => rfl
  | (k, d) :: rest, table, h => by
    rw [flattenEntries, sitesOf, pairsOf, pairsOf_append, Site.pairs, flattenEntry_eq (join parent k.toText) d]
    split
    · rfl
    split
    · rfl
    cases pairsOf (sites (join parent k.toText) d) with
    | error fault => rfl
    | ok pairs =>
      have hnodup := OrderedMap.nodup_keys_insertAll pairs table h
      show flattenEntries parent (table.insertAll (OrderedMap.ofList pairs).entries) rest = _
      rw [OrderedMap.insertAll_entries table h, flattenEntries_eq parent rest _ hnodup]
      cases pairsOf (sitesOf parent rest) with
      | error fault => rfl
      | ok more => exact congrArg Except.ok (table.insertAll_append pairs more).symm

end

/-! ## The first fault -/

/-- The site has no fault. -/
def Site.Sound (site : Site) : Prop := ∃ pairs, site.pairs = .ok pairs

/-- A site that breaks the walk off: an integer that is too large for its place, which is one without a double as a leaf or
one with more digits than are written as a key, or a mapping inside itself. -/
def Site.Breaks : Site → Prop
  | key _ (.integer n) => 10 ^ integerDigitLimit ≤ n.natAbs
  | leaf _ (.integer n) => Binary64.integerBound ≤ n.natAbs
  | loop => True
  | _ => False

theorem pairsOf_eq_error_iff {ss : List Site} {fault : TableFault} :
    pairsOf ss = .error fault ↔
      ∃ before site after, ss = before ++ site :: after ∧ (∀ s ∈ before, s.Sound) ∧ site.pairs = .error fault := by
  induction ss with
  | nil => simp [pairsOf]
  | cons first rest ih =>
    rw [pairsOf]
    constructor
    · intro h
      obtain hfirst | ⟨here, hfirst, hrest⟩ := bind_eq_error_iff.1 h
      · exact ⟨[], first, rest, rfl, nofun, hfirst⟩
      · obtain hrest | ⟨_, -, ⟨⟩⟩ := bind_eq_error_iff.1 hrest
        obtain ⟨before, site, after, rfl, hbefore, hsite⟩ := ih.1 hrest
        exact ⟨first :: before, site, after, rfl, List.forall_mem_cons.2 ⟨⟨here, hfirst⟩, hbefore⟩, hsite⟩
    · rintro ⟨before, site, after, heq, hbefore, hsite⟩
      cases before with
      | nil =>
        obtain ⟨rfl, rfl⟩ := List.cons.inj heq
        exact bind_eq_error_iff.2 (.inl hsite)
      | cons s before =>
        obtain ⟨rfl, rfl⟩ := List.cons.inj heq
        obtain ⟨⟨here, hfirst⟩, hbefore⟩ := List.forall_mem_cons.1 hbefore
        refine bind_eq_error_iff.2 (.inr ⟨here, hfirst, bind_eq_error_iff.2 (.inl ?_)⟩)
        exact ih.2 ⟨before, site, after, rfl, hbefore, hsite⟩

theorem isLongKey_iff {n : Int} : isLongKey (.integer n) = true ↔ 10 ^ integerDigitLimit ≤ n.natAbs := by
  rw [isLongKey, decide_eq_true_eq, ← not_iff_not, not_lt, not_le]
  exact Nat.length_toDigits_le_iff (by decide) (by decide)

theorem number_integer_eq_error_iff {path : String} {n : Int} {fault : TableFault} :
    number path (.integer n) = .error fault ↔ fault = .tooLarge ∧ Binary64.integerBound ≤ n.natAbs := by
  rw [← not_lt, ← Binary64.isFinite_ofInt_iff, number, Binary64.ofInt?]
  split
  · rename_i h
    simp [h]
  · rename_i h
    simp [h, eq_comm]

theorem breaks_key_iff {parent : String} {k : Datum} : (Site.key parent k).Breaks ↔ isLongKey k = true := by
  cases k with
  | integer n => exact isLongKey_iff.symm
  | null | flag | real | text | date | list | mapping | other | cycle => exact ⟨nofun, nofun⟩

/-- The faults of a site that are not reported are those that break the walk off. -/
theorem Site.breaks_iff {site : Site} :
    site.Breaks ↔ ∃ fault, site.pairs = .error fault ∧ fault.isReported = false := by
  cases site with
  | loop => exact iff_of_true trivial ⟨.endless, rfl, rfl⟩
  | key parent k =>
    rw [breaks_key_iff, pairs]
    split
    · exact ⟨fun _ => ⟨.longKey, rfl, rfl⟩, fun _ => ‹_›⟩
    · rename_i hlong
      refine ⟨fun h => absurd h hlong, ?_⟩
      split
      · rintro ⟨_, ⟨rfl⟩, ⟨⟩⟩
      · rintro ⟨_, ⟨⟩, -⟩
  | leaf path d =>
    simp only [pairs, map_eq_error_iff]
    cases d with
    | integer n =>
      simp only [number_integer_eq_error_iff, Breaks]
      constructor
      · exact fun h => ⟨.tooLarge, ⟨rfl, h⟩, rfl⟩
      · rintro ⟨_, ⟨-, h⟩, -⟩
        exact h
    | real x => exact ⟨nofun, fun ⟨_, h, _⟩ => nomatch h⟩
    | null | flag | text | date | list | mapping | other | cycle =>
      refine ⟨nofun, ?_⟩
      rintro ⟨_, ⟨rfl⟩, ⟨⟩⟩

/-- The first site with a fault breaks the walk off. -/
def BreaksFirst (ss : List Site) : Prop :=
  ∃ before site after, ss = before ++ site :: after ∧ (∀ s ∈ before, s.Sound) ∧ site.Breaks

theorem breaksFirst_iff {ss : List Site} :
    BreaksFirst ss ↔ ∃ fault, pairsOf ss = .error fault ∧ fault.isReported = false := by
  simp only [pairsOf_eq_error_iff, BreaksFirst, Site.breaks_iff]
  constructor
  · rintro ⟨before, site, after, hss, hbefore, fault, hfault, hreported⟩
    exact ⟨fault, ⟨before, site, after, hss, hbefore, hfault⟩, hreported⟩
  · rintro ⟨fault, ⟨before, site, after, hss, hbefore, hfault⟩, hreported⟩
    exact ⟨before, site, after, hss, hbefore, fault, hfault, hreported⟩

/-! ## Paths -/

theorem join_ne_empty (parent : String) {key : String} (h : key ≠ "") : join parent key ≠ "" := by
  unfold join
  split
  · exact h
  · rename_i hparent
    rw [ne_eq, String.append_eq_empty_iff, String.append_eq_empty_iff]
    rintro ⟨⟨rfl, -⟩, -⟩
    exact hparent rfl

theorem key_pairs_eq_ok_iff {parent : String} {k : Datum} {pairs : List (String × Binary64)} :
    (Site.key parent k).pairs = .ok pairs ↔ isLongKey k = false ∧ k.toText ≠ "" ∧ pairs = [] := by
  rw [Site.pairs, ← Bool.not_eq_true, ne_eq, ← String.isEmpty_iff]
  split
  · rename_i hlong
    exact ⟨nofun, fun h => absurd hlong h.1⟩
  rename_i hlong
  split
  · rename_i hempty
    exact ⟨nofun, fun h => absurd hempty h.2.1⟩
  · rename_i hempty
    rw [Except.ok.injEq, eq_comm]
    exact ⟨fun h => ⟨hlong, hempty, h⟩, fun h => h.2.2⟩

theorem path_ne_empty_of_leaf {path : String} (hpath : path ≠ "") {d : Datum} (hd : isLeaf d = true)
    {pairs : List (String × Binary64)} (h : pairsOf (sites path d) = .ok pairs) : ∀ pair ∈ pairs, pair.1 ≠ "" := by
  rw [sites_leaf path hd, pairsOf_leaf, map_eq_ok_iff] at h
  obtain ⟨x, -, rfl⟩ := h
  rintro _ (_ | ⟨_, ⟨⟩⟩)
  exact hpath

mutual

theorem path_ne_empty_of_sites {path : String} (hpath : path ≠ "") : ∀ (d : Datum) (pairs : List (String × Binary64)),
    pairsOf (sites path d) = .ok pairs → ∀ pair ∈ pairs, pair.1 ≠ ""
  | .mapping entries, pairs => path_ne_empty path entries pairs
  | .cycle, _ => nofun
  | .null, _ | .flag _, _ | .integer _, _ | .real _, _ | .text _, _ | .date .., _ | .list _, _ | .other .., _ =>
    path_ne_empty_of_leaf hpath rfl

/-- The path of every leaf that is inserted is some text. -/
theorem path_ne_empty (parent : String) : ∀ (entries : List (Datum × Datum)) (pairs : List (String × Binary64)),
    pairsOf (sitesOf parent entries) = .ok pairs → ∀ pair ∈ pairs, pair.1 ≠ ""
  | [], pairs, h => by
    rw [sitesOf, pairsOf, Except.ok.injEq] at h
    rw [← h]
    exact fun _ hmem => absurd hmem List.not_mem_nil
  | (k, d) :: rest, pairs, h => by
    rw [sitesOf, pairsOf, pairsOf_append] at h
    simp only [bind_eq_ok_iff, pure, Except.pure, Except.ok.injEq] at h
    obtain ⟨here, hkey, _, ⟨below, hbelow, more, hmore, rfl⟩, rfl⟩ := h
    obtain ⟨-, hk, rfl⟩ := key_pairs_eq_ok_iff.1 hkey
    rw [List.nil_append]
    intro pair hpair
    obtain hpair | hpair := List.mem_append.1 hpair
    · exact path_ne_empty_of_sites (join_ne_empty parent hk) d below hbelow pair hpair
    · exact path_ne_empty parent rest more hmore pair hpair

end

/-! ## Tables of nested mappings -/

theorem flatten_eq (parent : String) (entries : List (Datum × Datum)) :
    flatten parent entries = (pairsOf (sitesOf parent entries)).map .ofList :=
  flattenEntries_eq parent entries .empty List.nodup_nil

/-- A flat map from texts to numbers, each text once and none of them empty. -/
def Flat (table : SymbolTable) : Prop := table.keys.Nodup ∧ "" ∉ table.keys

theorem flat_of_flatten {parent : String} {entries : List (Datum × Datum)} {table : SymbolTable}
    (h : flatten parent entries = .ok table) : table.Flat := by
  rw [flatten_eq, map_eq_ok_iff] at h
  obtain ⟨pairs, hpairs, rfl⟩ := h
  refine ⟨OrderedMap.nodup_keys_insertAll pairs .empty List.nodup_nil, fun hmem => ?_⟩
  rw [OrderedMap.keys_ofList, mem_distinct, List.mem_map] at hmem
  obtain ⟨pair, hpair, hempty⟩ := hmem
  exact path_ne_empty parent entries pairs hpairs pair hpair hempty

end SymbolTable
end MetricExpr
