import Mathlib.Data.List.Nodup
import MetricExpr.Csv.Sheet
import MetricExpr.Proofs.OrderedMap
/-!
# Names of columns

However often a header repeats a field, its columns have pairwise distinct names (`nodup_columnNames`). A field that comes
for the first time is a name as it stands (`columnNames_first`), and all other names are a field and a number behind it
(`mem_columnNames`). So every field of the header is a name.
-/
namespace MetricExpr

theorem toString_injective : Function.Injective (toString : Nat → String) := fun m n h => by
  have hdigits : Nat.toDigits 10 m = Nat.toDigits 10 n := String.ofList_inj.1 h
  rw [← Nat.ofDigitChars_ten_toDigits (n := m), hdigits, Nat.ofDigitChars_ten_toDigits]

namespace Csv

/-- A name with a number behind it. -/
def numbered (name : String) (n : Nat) : String := name ++ "." ++ toString n

theorem numbered_injective (name : String) : Function.Injective (numbered name) := fun m n h => by
  rw [numbered, numbered, String.append_right_inj] at h
  exact toString_injective h

/-- More numbers are tried than the header has names, so one is found. -/
theorem numbered_freshNumber_not_mem (header : List String) (name : String) (n : Nat) :
    numbered name (freshNumber header name n) ∉ header := by
  unfold freshNumber
  cases hfind : (List.range' n (header.length + 1)).find? fun k => !header.contains (name ++ "." ++ toString k) with
  | some k => simpa [numbered] using List.find?_some hfind
  | none =>
    exfalso
    have hsub : (List.range' n (header.length + 1)).map (numbered name) ⊆ header := by
      intro given hgiven
      obtain ⟨k, hk, rfl⟩ := List.mem_map.1 hgiven
      simpa [numbered] using List.find?_eq_none.1 hfind k hk
    have hnodup := (List.nodup_range' (s := n) (n := header.length + 1)).map (numbered_injective name)
    have hle := (List.subperm_of_subset hnodup hsub).length_le
    rw [List.length_map, List.length_range'] at hle
    exact Nat.not_succ_le_self _ hle

/-! ## Giving names out -/

section GiveOut

variable {header header' : List String} {counts : OrderedMap String Nat} {done places : List Nat} {i : Nat}

/-- The names at some places. -/
def namesAt (header : List String) (places : List Nat) : List (Option String) := places.map fun i => header[i]?

theorem namesAt_congr (h : ∀ j ∈ done, header'[j]? = header[j]?) : namesAt header' done = namesAt header done :=
  List.map_congr_left h

/-- Names are given out for the places that are done: these differ, and they are the names that are counted. -/
structure Settled (header : List String) (counts : OrderedMap String Nat) (done : List Nat) : Prop where
  counted : ∀ name, name ∈ counts.keys ↔ some name ∈ namesAt header done
  nodup : (namesAt header done).Nodup

/-- One place gets its name: the one it has if that is new, and else one with a number that makes it new. -/
structure GivesOut (header header' : List String) (done : List Nat) (i : Nat) : Prop where
  length : header'.length = header.length
  others : ∀ j, j ≠ i → header'[j]? = header[j]?
  name : header'[i]? = header[i]? ∧ header[i]? ∉ namesAt header done ∨
    header[i]? ∈ namesAt header done ∧
      ∃ name n, header[i]? = some name ∧ header'[i]? = some (numbered name n) ∧ numbered name n ∉ header

theorem mem_keys_insert {name other : String} {n : Nat} :
    other ∈ (counts.insert name n).keys ↔ other = name ∨ other ∈ counts.keys := by
  rw [OrderedMap.keys_insert]
  split
  · rename_i h
    rw [OrderedMap.contains_iff] at h
    exact ⟨.inr, fun h' => h'.elim (· ▸ h) id⟩
  · simp [or_comm]

theorem giveOut_cons {name : String} (hname : header[i]? = some name) :
    giveOut header counts (i :: places) =
      match counts.get? name with
      | none => giveOut header (counts.insert name 1) places
      | some seen =>
        let given := numbered name (freshNumber header name seen)
        giveOut (header.set i given) ((counts.insert name (freshNumber header name seen + 1)).insert given 1) places := by
  rw [giveOut, List.getD_eq_getElem?_getD, hname]
  rfl

theorem exists_giveOut_cons (places : List Nat) (hs : Settled header counts done) (hi : i < header.length) (hnew : i ∉ done) :
    ∃ header' counts', giveOut header counts (i :: places) = giveOut header' counts' places ∧
      GivesOut header header' done i ∧ Settled header' counts' (i :: done) := by
  obtain ⟨name, hname⟩ : ∃ name, header[i]? = some name := ⟨_, List.getElem?_eq_getElem hi⟩
  rw [giveOut_cons hname]
  cases hcount : counts.get? name with
  | none =>
    have hfirst : some name ∉ namesAt header done := by
      rw [← hs.counted]
      exact (OrderedMap.get?_eq_none_iff counts name).1 hcount
    refine ⟨header, counts.insert name 1, rfl, ⟨rfl, fun _ _ => rfl, .inl ⟨rfl, hname ▸ hfirst⟩⟩, fun other => ?_, ?_⟩
    · rw [mem_keys_insert, hs.counted]
      simp [namesAt, hname]
    · rw [namesAt, List.map_cons, List.nodup_cons, hname]
      exact ⟨hfirst, hs.nodup⟩
  | some seen =>
    dsimp only
    have hfresh := numbered_freshNumber_not_mem header name seen
    generalize freshNumber header name seen = n at hfresh
    have hseen : name ∈ counts.keys := (OrderedMap.get?_isSome_iff counts name).1 (by rw [hcount]; rfl)
    have hgiven : (header.set i (numbered name n))[i]? = some (numbered name n) := by simp [hi]
    have hothers : ∀ j, j ≠ i → (header.set i (numbered name n))[j]? = header[j]? :=
      fun j hj => List.getElem?_set_ne (Ne.symm hj)
    have hdone : namesAt (header.set i (numbered name n)) done = namesAt header done :=
      namesAt_congr fun j hj => hothers j fun he => hnew (he ▸ hj)
    have hnames : namesAt (header.set i (numbered name n)) (i :: done) = some (numbered name n) :: namesAt header done := by
      rw [← hdone, ← hgiven]
      rfl
    refine ⟨_, _, rfl, ⟨List.length_set, hothers, .inr ⟨?_, name, n, hname, hgiven, hfresh⟩⟩, fun other => ?_, ?_⟩
    · rw [hname]
      exact (hs.counted name).1 hseen
    · rw [mem_keys_insert, mem_keys_insert, hnames, List.mem_cons, Option.some.injEq, ← hs.counted]
      exact or_congr_right ⟨fun h => h.elim (· ▸ hseen) id, .inr⟩
    · rw [hnames, List.nodup_cons]
      refine ⟨fun hmem => ?_, hs.nodup⟩
      obtain ⟨j, -, hgot⟩ := List.mem_map.1 hmem
      exact hfresh (List.mem_of_getElem? hgot)

/-- Names are given out for some places: they are distinct, a name that no place before it has stays, and all others are
those of before with a number. -/
structure GivenOut (header given : List String) (done places : List Nat) : Prop where
  length : given.length = header.length
  others : ∀ j ∉ places, given[j]? = header[j]?
  numbered : ∀ i ∈ places, given[i]? = header[i]? ∨
    ∃ name n, header[i]? = some name ∧ given[i]? = some (numbered name n)
  first : ∀ i ∈ places, header[i]? ∉ namesAt header (done ++ places.takeWhile (· != i)) → given[i]? = header[i]?
  nodup : (namesAt given (done ++ places)).Nodup

/-- **Giving names out makes them distinct**, one place after another. -/
theorem givenOut_giveOut : ∀ {places : List Nat} {header : List String} {counts : OrderedMap String Nat} {done : List Nat},
    Settled header counts done → (∀ i ∈ places, i < header.length ∧ i ∉ done) → places.Nodup →
    GivenOut header (giveOut header counts places) done places
  | [], header, counts, done, hs, _, _ =>
    ⟨rfl, fun _ _ => rfl, nofun, nofun, by simpa [giveOut] using hs.nodup⟩
  | p :: places, header, counts, done, hs, hplaces, hnodup => by
    obtain ⟨⟨hp, hnew⟩, hplaces⟩ := List.forall_mem_cons.1 hplaces
    obtain ⟨hlater, hnodup⟩ := List.nodup_cons.1 hnodup
    obtain ⟨header', counts', hstep, hgives, hs'⟩ := exists_giveOut_cons places hs hp hnew
    have hne : ∀ j ∈ places, j ≠ p := fun j hj he => hlater (he ▸ hj)
    have hplaces' : ∀ j ∈ places, j < header'.length ∧ j ∉ p :: done := by
      intro j hj
      simpa [hgives.length, hne j hj] using hplaces j hj
    have hrest := givenOut_giveOut hs' hplaces' hnodup
    rw [hstep]
    have hhere : (giveOut header' counts' places)[p]? = header'[p]? := hrest.others p hlater
    refine ⟨hrest.length.trans hgives.length, fun j hj => ?_, fun i hi => ?_, fun i hi hfirst => ?_, ?_⟩
    · obtain ⟨hjp, hj⟩ := not_or.1 (mt List.mem_cons.2 hj)
      rw [hrest.others j hj, hgives.others j hjp]
    · obtain rfl | hi := List.mem_cons.1 hi
      · rw [hhere]
        obtain ⟨hsame, -⟩ | ⟨-, name, n, hname, hgiven, -⟩ := hgives.name
        · exact .inl hsame
        · exact .inr ⟨name, n, hname, hgiven⟩
      · rw [← hgives.others i (hne i hi)]
        exact hrest.numbered i hi
    · obtain rfl | hi := List.mem_cons.1 hi
      · rw [hhere]
        obtain ⟨hsame, -⟩ | ⟨hmem, -⟩ := hgives.name
        · exact hsame
        · exact absurd hmem (by simpa using hfirst)
      · have hip := hne i hi
        rw [List.takeWhile_cons_of_pos (by simpa using Ne.symm hip)] at hfirst
        rw [← hgives.others i hip]
        refine hrest.first i hi fun hmem => ?_
        obtain ⟨j, hj, hsame⟩ := List.mem_map.1 hmem
        rw [hgives.others i hip] at hsame
        by_cases hjp : j = p
        · subst hjp
          obtain ⟨hkept, -⟩ | ⟨-, name, n, -, hgiven, hfresh⟩ := hgives.name
          · exact hfirst (List.mem_map.2 ⟨j, by simp, hkept.symm.trans hsame⟩)
          · exact hfresh (List.mem_of_getElem? (hsame.symm.trans hgiven))
        · rw [hgives.others j hjp] at hsame
          refine hfirst (List.mem_map.2 ⟨j, ?_, hsame⟩)
          simpa [hjp] using hj
    · have hperm : (done ++ p :: places).Perm (p :: done ++ places) := List.perm_middle
      exact (hperm.map _).nodup_iff.2 hrest.nodup

end GiveOut

/-! ## Headers -/

section Header

variable (header : List (List Char))

/-- The fields of a header, with an empty one named by its place. -/
def fieldNames : List String :=
  header.mapIdx fun i cs => if cs.isEmpty then "Unnamed: " ++ toString i else String.ofList cs

/-- The places in the order in which they get their names. -/
def namingOrder : List Nat :=
  (List.range header.length).filter (fun i => !(header.getD i []).isEmpty) ++
    (List.range header.length).filter fun i => !!(header.getD i []).isEmpty

theorem namingOrder_perm : (namingOrder header).Perm (List.range header.length) := List.filter_append_perm _ _

theorem givenOut_columnNames : GivenOut (fieldNames header) (columnNames header) [] (namingOrder header) := by
  have hperm := namingOrder_perm header
  refine givenOut_giveOut ⟨fun name => ?_, List.nodup_nil⟩ (fun i hi => ⟨?_, List.not_mem_nil⟩)
    (hperm.nodup_iff.2 List.nodup_range)
  · exact iff_of_false List.not_mem_nil List.not_mem_nil
  · rw [fieldNames, List.length_mapIdx]
    exact List.mem_range.1 (hperm.mem_iff.1 hi)

theorem length_columnNames : (columnNames header).length = header.length := by
  rw [(givenOut_columnNames header).length, fieldNames, List.length_mapIdx]

/-- **The names of columns are pairwise distinct.** -/
theorem nodup_columnNames : (columnNames header).Nodup := by
  have hnodup := (givenOut_columnNames header).nodup
  rw [List.nil_append, namesAt, ((namingOrder_perm header).map _).nodup_iff, ← length_columnNames] at hnodup
  have hsome : ((List.range (columnNames header).length).map fun i => (columnNames header)[i]?) =
      (columnNames header).map some := by
    refine List.ext_getElem (by simp) fun i h _ => ?_
    simp only [List.length_map, List.length_range] at h
    simp [h]
  exact .of_map some (hsome ▸ hnodup)

/-- **No name of a field is lost**: the first place that has it keeps it. -/
theorem fieldNames_subset : fieldNames header ⊆ columnNames header := by
  intro name hname
  obtain ⟨i, hi⟩ := List.mem_iff_getElem?.1 hname
  have hplace : i ∈ namingOrder header := by
    have hlt := (List.getElem?_eq_some_iff.1 hi).1
    rw [fieldNames, List.length_mapIdx] at hlt
    exact (namingOrder_perm header).mem_iff.2 (List.mem_range.2 hlt)
  obtain ⟨p, hp⟩ : ∃ p, (namingOrder header).find? (fun j => (fieldNames header)[j]? == some name) = some p :=
    Option.isSome_iff_exists.1 (List.find?_isSome.2 ⟨i, hplace, by simpa using hi⟩)
  obtain ⟨hat, before, after, horder, hbefore⟩ := List.find?_eq_some_iff_append.1 hp
  replace hat : (fieldNames header)[p]? = some name := by simpa using hat
  replace hbefore : ∀ j ∈ before, (fieldNames header)[j]? ≠ some name := by simpa using hbefore
  have htaken : (namingOrder header).takeWhile (· != p) = before := by
    rw [horder, List.takeWhile_append_of_pos, List.takeWhile_cons_of_neg, List.append_nil]
    · simp
    · exact fun j hj => bne_iff_ne.2 fun he => hbefore j hj (he ▸ hat)
  refine List.mem_of_getElem? (i := p) (((givenOut_columnNames header).first p ?_ ?_).trans hat)
  · rw [horder]
    exact List.mem_append_right _ List.mem_cons_self
  · rw [List.nil_append, htaken, hat]
    intro hmem
    obtain ⟨j, hj, hsame⟩ := List.mem_map.1 hmem
    exact hbefore j hj hsame

variable {header} {i : Nat} {cs : List Char}

theorem getElem?_fieldNames (hi : header[i]? = some cs) (hne : cs ≠ []) :
    (fieldNames header)[i]? = some (String.ofList cs) := by
  simp [fieldNames, hi, hne]

/-- Before a place of an increasing list come smaller ones. -/
theorem lt_of_mem_takeWhile {later : List Nat} : ∀ {places : List Nat}, places.Pairwise (· < ·) → i ∈ places →
    ∀ j ∈ (places ++ later).takeWhile (· != i), j ∈ places ∧ j < i
  | p :: places, hsorted, hi, j, hj => by
    obtain ⟨hp, hsorted⟩ := List.pairwise_cons.1 hsorted
    rw [List.cons_append, List.takeWhile_cons] at hj
    split at hj
    · rename_i hpi
      replace hi : i ∈ places := (List.mem_cons.1 hi).resolve_left (Ne.symm (by simpa using hpi))
      obtain rfl | hj := List.mem_cons.1 hj
      · exact ⟨List.mem_cons_self, hp i hi⟩
      · exact ⟨List.mem_cons_of_mem _ (lt_of_mem_takeWhile hsorted hi j hj).1, (lt_of_mem_takeWhile hsorted hi j hj).2⟩
    · cases hj

theorem mem_namedPlaces : (i ∈ (List.range header.length).filter fun i => !(header.getD i []).isEmpty) ↔
    ∃ cs, header[i]? = some cs ∧ cs ≠ [] := by
  rw [List.mem_filter, List.mem_range]
  constructor
  · rintro ⟨hi, hnamed⟩
    exact ⟨header[i], List.getElem?_eq_getElem hi, by simpa [List.getD_eq_getElem?_getD, hi] using hnamed⟩
  · rintro ⟨cs, hi, hne⟩
    exact ⟨(List.getElem?_eq_some_iff.1 hi).1, by simpa [List.getD_eq_getElem?_getD, hi] using hne⟩

/-- **A field that comes for the first time is a name as it stands.** -/
theorem columnNames_first (hi : header[i]? = some cs) (hne : cs ≠ []) (hfirst : ∀ j < i, header[j]? ≠ some cs) :
    (columnNames header)[i]? = some (String.ofList cs) := by
  have hname := getElem?_fieldNames hi hne
  have hplace := mem_namedPlaces.2 ⟨cs, hi, hne⟩
  rw [← hname]
  refine (givenOut_columnNames header).first i (List.mem_append_left _ hplace) fun hmem => ?_
  rw [List.nil_append, hname] at hmem
  obtain ⟨j, hj, hsame⟩ := List.mem_map.1 hmem
  -- of the places before it only those with a field of their own can have the name
  obtain ⟨hnamed, hlt⟩ := lt_of_mem_takeWhile (List.pairwise_lt_range.filter _) hplace j hj
  obtain ⟨ds, hds, hdsne⟩ := mem_namedPlaces.1 hnamed
  rw [getElem?_fieldNames hds hdsne, Option.some.injEq, String.ofList_inj] at hsame
  exact hfirst j hlt (hsame ▸ hds)

theorem columnNames_idxOf (hcs : cs ∈ header) (hne : cs ≠ []) :
    (columnNames header)[header.idxOf cs]? = some (String.ofList cs) := by
  refine columnNames_first (List.getElem?_idxOf hcs) hne fun j hj hat => ?_
  obtain ⟨hlt, rfl⟩ := List.getElem?_eq_some_iff.1 hat
  simpa using List.not_of_lt_findIdx hj

/-- A name is that of a field, with a number behind it or without. -/
theorem mem_columnNames {name : String} (h : name ∈ columnNames header) :
    ∃ field ∈ fieldNames header, name = field ∨ ∃ n, name = numbered field n := by
  obtain ⟨i, hi⟩ := List.mem_iff_getElem?.1 h
  have hplace : i ∈ namingOrder header := by
    have hlt := (List.getElem?_eq_some_iff.1 hi).1
    rw [length_columnNames] at hlt
    exact (namingOrder_perm header).mem_iff.2 (List.mem_range.2 hlt)
  obtain hsame | ⟨field, n, hfield, hgiven⟩ := (givenOut_columnNames header).numbered i hplace
  · exact ⟨name, List.mem_of_getElem? (hsame.symm.trans hi), .inl rfl⟩
  · exact ⟨field, List.mem_of_getElem? hfield, .inr ⟨n, Option.some.inj (hi.symm.trans hgiven)⟩⟩

end Header

end Csv
end MetricExpr
