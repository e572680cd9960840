import MetricExpr.Proofs.Csv.Cells
/-!
# What the fields of a column are read as

A column has a cell for each field (`length_column`). If all its fields are numbers, so are its cells
(`AreNumbers.cases`), and numerals within 64 bits are such fields (`areNumbers_of_numerals`). It keeps its fields as texts as
soon as one of them is a word, which is neither a number nor a truth value (`keepsTexts_of_word`); then all fields stand as
they are written but for those that mark a missing cell (`shown_of_keepsTexts`).
-/
namespace MetricExpr.Csv

variable {fields : List (List Char)} {cells : List (Option (List Char))}

theorem length_integerColumn (ns : List (Option Int)) : (integerColumn ns).length = ns.length := by
  unfold integerColumn
  split <;> rw [List.length_map]

theorem HoldsNumbers.length_eq {ds : List Datum} (h : HoldsNumbers cells ds) : ds.length = cells.length := by
  cases h with
  | signed h => rw [length_integerColumn, length_of_each h]
  | unsigned h hall => rw [length_integerColumn, List.length_map, length_of_each h]
  | reals h => rw [List.length_map, length_of_each h]

/-- **A column has a cell for each field.** -/
@[simp] theorem length_column (fields : List (List Char)) : (column fields).length = fields.length := by
  obtain ⟨-, h⟩ | ⟨-, h | ⟨-, h | ⟨-, h⟩⟩⟩ := cases_of_column fields
  · rw [h, List.length_map]
  · exact (holdsNumbers_of_numberColumn h).length_eq.trans (List.length_map _)
  · obtain ⟨bs, hbs, hcolumn⟩ := each_of_toOption h
    rw [hcolumn, List.length_map, length_of_each hbs, List.length_map]
  · rw [h, textColumn, List.length_map, List.length_map]

/-! ## Columns of numbers -/

/-- No field is missing, and they are read as numbers. -/
structure AreNumbers (fields : List (List Char)) : Prop where
  present : ∀ cs ∈ fields, present? cs ≠ none
  read : (numberColumn? (fields.map present?)).isSome

/-- A column of numbers is not mixed. -/
theorem isMixed_of_numberColumn {ds : List Datum} (h : numberColumn? cells = some ds) : isMixed cells = false := by
  unfold numberColumn? at h
  unfold isMixed
  cases hsigned : each signed cells with
  | ok ns => rfl
  | error fault =>
    cases fault with
    | malformed => rfl
    | outOfRange =>
      cases hunsigned : each unsigned? cells with
      | error fault => rfl
      | ok ns =>
        simp only [hsigned, hunsigned] at h
        obtain ⟨hall, -⟩ := Option.ite_none_right_eq_some.1 h
        have hnone : ns.any (·.join.isNone) = false := by simpa [Option.isSome_iff_ne_none] using hall
        simp only [hnone, Bool.and_false]

theorem isNaN_of_numeral {cs : List Char} {x : Binary64} (h : numeral? cs = some x) : x.isNaN = false := by
  unfold numeral? at h
  obtain ⟨-, h⟩ := Option.ite_none_left_eq_some.1 h
  obtain ⟨hread, hx⟩ := Option.ite_none_right_eq_some.1 h
  rw [Option.some.inj hx, Bool.and_eq_true, Bool.and_eq_true] at hread
  exact Binary64.isNaN_of_isFinite hread.1.2

/-- No field is read as NaN. -/
theorem isNaN_of_real {cs : List Char} {x : Binary64} (h : real? cs = some x) : x.isNaN = false := by
  unfold real? at h
  cases hnumeral : numeral? cs with
  | some y =>
    rw [hnumeral] at h
    exact isNaN_of_numeral (hnumeral.trans h)
  | none =>
    rw [hnumeral] at h
    replace h : infinity? cs = some x := h
    unfold infinity? at h
    dsimp only at h
    split at h
    · exact Option.some.inj h ▸ rfl
    · obtain ⟨-, h⟩ := Option.ite_none_right_eq_some.1 h
      exact Option.some.inj h ▸ rfl

theorem AreNumbers.cases (h : AreNumbers fields) : ∀ d ∈ column fields,
    (∃ n : Int, d = .integer n ∧ n.natAbs < 2 ^ 64) ∨ ∃ x : Binary64, d = .real x ∧ x.isNaN = false := by
  intro d hd
  have hcell := isCell_of_mem_column d hd
  have hpresent : none ∉ fields.map present? := by simpa using h.present
  obtain ⟨ds, hds⟩ := Option.isSome_iff_exists.1 h.read
  have hcolumn : column fields = ds := by
    unfold column
    dsimp only
    rw [isMixed_of_numberColumn hds, hds]
    rfl
  rw [hcolumn] at hd
  have hinteger : ∀ ns : List (Option Int), (∀ n ∈ ns, n.isSome = true) → d ∈ integerColumn ns →
      ∃ n : Int, d = .integer n ∧ n.natAbs < 2 ^ 64 := by
    intro ns hns hd
    rw [integerColumn, if_pos (List.all_eq_true.2 hns)] at hd
    obtain ⟨n, -, rfl⟩ := List.mem_map.1 hd
    cases hcell with
    | integer hn => exact ⟨_, rfl, hn⟩
  cases holdsNumbers_of_numberColumn hds with
  | signed hns =>
    refine .inl (hinteger _ (fun n hn => ?_) hd)
    obtain ⟨-, hmissing⟩ | ⟨cs, m, -, rfl⟩ := cases_of_each hns hn
    · exact absurd hmissing hpresent
    · rfl
  | unsigned hns hall =>
    exact .inl (hinteger _ (List.forall_mem_map.2 hall) hd)
  | reals hxs =>
    obtain ⟨x, hx, rfl⟩ := List.mem_map.1 hd
    obtain ⟨-, hmissing⟩ | ⟨cs, y, hy, rfl⟩ := cases_of_each hxs hx
    · exact absurd hmissing hpresent
    · exact .inr ⟨y, rfl, isNaN_of_real (elim_eq_ok_iff.1 hy)⟩

/-- A numeral, with 64 bits if it is a whole number. -/
structure IsNumeral (cs : List Char) : Prop where
  present : present? cs = some cs
  real : (real? cs).isSome
  range : signed cs ≠ .error .outOfRange

theorem areNumbers_of_numerals (h : ∀ cs ∈ fields, IsNumeral cs) : AreNumbers fields := by
  have hcells : ∀ {cs}, some cs ∈ fields.map present? → IsNumeral cs := by
    intro cs hcs
    obtain ⟨cs', hcs', hpresent⟩ := List.mem_map.1 hcs
    obtain rfl : cs' = cs := Option.some.inj ((h cs' hcs').present.symm.trans hpresent)
    exact h cs' hcs'
  refine ⟨fun cs hcs => (h cs hcs).present ▸ Option.some_ne_none cs, ?_⟩
  unfold numberColumn?
  dsimp only
  cases hsigned : each signed (fields.map present?) with
  | ok ns => rfl
  | error fault =>
    obtain ⟨cs, hcs, hfault⟩ := error_of_each hsigned
    cases fault with
    | outOfRange => exact absurd hfault (hcells hcs).range
    | malformed =>
      cases hreals : each (fun cs => (real? cs).elim (.error ()) Except.ok) (fields.map present?) with
      | ok xs => rfl
      | error fault =>
        obtain ⟨cs, hcs, hfault⟩ := error_of_each hreals
        obtain ⟨x, hx⟩ := Option.isSome_iff_exists.1 (hcells hcs).real
        rw [hx] at hfault
        cases hfault

/-! ## Columns of texts -/

/-- The fields are no numbers and no truth values, and they do not mix integers that exclude each other. -/
structure KeepsTexts (fields : List (List Char)) : Prop where
  mixed : isMixed (fields.map present?) = false
  numbers : numberColumn? (fields.map present?) = none
  flags : flagColumn? (fields.map present?) = none

/-- The texts of a column's cells. -/
def shown (fields : List (List Char)) : List String := (column fields).map Datum.toText

theorem shown_of_keepsTexts (h : KeepsTexts fields) :
    shown fields = fields.map fun cs => if (present? cs).isSome then String.ofList cs else "nan" := by
  have hcolumn : column fields = textColumn (fields.map present?) := by
    unfold column
    dsimp only
    rw [h.mixed, h.numbers, h.flags]
    rfl
  rw [shown, hcolumn, textColumn, List.map_map, List.map_map]
  refine List.map_congr_left fun cs _ => ?_
  rw [Function.comp_apply, Function.comp_apply]
  cases hpresent : present? cs with
  | none => rfl
  | some ds =>
    obtain rfl : cs = ds := Option.some.inj (Option.ite_none_left_eq_some.1 hpresent).2
    rfl

/-- The fields of a mixed column stand as they are written, also those that mark a missing cell. -/
theorem shown_of_isMixed (h : isMixed (fields.map present?) = true) : shown fields = fields.map String.ofList := by
  have hcolumn : column fields = fields.map fun cs => .text (String.ofList cs) := by
    unfold column
    dsimp only
    rw [if_pos h]
  rw [shown, hcolumn, List.map_map]
  rfl

example : shown ["9223372036854775808".toList, "NA".toList] = ["9223372036854775808", "NA"] := by decide +kernel

/-- A field that is neither missing nor a number nor a truth value. -/
structure IsWord (cs : List Char) : Prop where
  present : present? cs = some cs
  signed : signed cs = .error .malformed
  unsigned : unsigned? cs = .error .malformed
  real : real? cs = none
  flag : flag? cs = none

/-- **One word keeps a whole column as texts.** -/
theorem keepsTexts_of_word {cs : List Char} (hcs : cs ∈ fields) (h : IsWord cs) : KeepsTexts fields := by
  have hmem : some cs ∈ fields.map present? := h.present ▸ List.mem_map_of_mem hcs
  refine ⟨?_, Option.eq_none_iff_forall_ne_some.2 fun ds hds => ?_, Option.eq_none_iff_forall_ne_some.2 fun ds hds => ?_⟩
  · unfold isMixed
    split
    · rename_i ns _ hns
      obtain ⟨n, hn⟩ := ok_of_each hns hmem
      cases h.unsigned.symm.trans hn
    · rfl
  · cases holdsNumbers_of_numberColumn hds with
    | signed hns =>
      obtain ⟨n, hn⟩ := ok_of_each hns hmem
      cases h.signed.symm.trans hn
    | unsigned hns =>
      obtain ⟨n, hn⟩ := ok_of_each hns hmem
      cases h.unsigned.symm.trans hn
    | reals hxs =>
      obtain ⟨x, hx⟩ := ok_of_each hxs hmem
      cases h.real.symm.trans (elim_eq_ok_iff.1 hx)
  · obtain ⟨bs, hbs, -⟩ := each_of_toOption hds
    obtain ⟨b, hb⟩ := ok_of_each hbs hmem
    cases h.flag.symm.trans (elim_eq_ok_iff.1 hb)

end MetricExpr.Csv
