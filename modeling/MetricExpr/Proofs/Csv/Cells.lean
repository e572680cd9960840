import MetricExpr.Csv.Sheet
import MetricExpr.Proofs.Binary64.Range
import MetricExpr.Proofs.Except
/-!
# What the cells of a sheet can be

The cells of a column are read one by one (`cases_of_each`), and a column of numbers is read in one of three ways
(`HoldsNumbers`). An integer among its cells has 64 bits, so it has a double (`isCell_of_mem_column`).
-/
namespace MetricExpr.Csv

/-- What a cell can be: an integer of 64 bits, a real, a flag or a text. -/
inductive IsCell : Datum → Prop where
  | integer {n : Int} (h : n.natAbs < 2 ^ 64) : IsCell (.integer n)
  | real (x : Binary64) : IsCell (.real x)
  | flag (b : Bool) : IsCell (.flag b)
  | text (s : String) : IsCell (.text s)

theorem natural_le {bound n : Nat} {cs : List Char} (h : natural bound cs = .ok n) : n ≤ bound := by
  unfold natural at h
  dsimp only at h
  split at h
  · cases h
  split at h
  · cases h
  split at h
  · cases h
    omega
  · cases h

theorem natural_cast_bound {bound : Nat} {cs : List Char} {n : Int}
    (h : (do let m ← natural bound cs; pure (m : Int) : Except IntegerFault Int) = .ok n) : n.natAbs ≤ bound := by
  obtain ⟨m, hm, hn⟩ := bind_eq_ok_iff.1 h
  obtain rfl := Except.ok.inj hn
  exact natural_le hm

theorem signed_bound {cs : List Char} {n : Int} (h : signed cs = .ok n) : n.natAbs < 2 ^ 64 := by
  unfold signed greatestSigned at h
  split at h <;> obtain ⟨m, hm, rfl⟩ := map_eq_ok_iff.1 h
  · have hle := natural_cast_bound hm
    omega
  · have hle := natural_le hm
    rw [Int.ofNat_eq_natCast]
    omega
  · have hle := natural_le hm
    rw [Int.ofNat_eq_natCast]
    omega

theorem unsigned_bound {cs : List Char} {n : Int} (h : unsigned? cs = .ok (some n)) : n.natAbs < 2 ^ 64 := by
  unfold unsigned? greatestUnsigned at h
  split at h
  · cases h
  · obtain ⟨m, hm, ⟨⟩⟩ := map_eq_ok_iff.1 h
    have hle := natural_cast_bound hm
    omega
  · obtain ⟨m, hm, ⟨⟩⟩ := map_eq_ok_iff.1 h
    have hle := natural_cast_bound hm
    omega

variable {cells : List (Option (List Char))}

/-! ## Cells that are read one by one -/

section Each

variable {α ε : Type} {f : List Char → Except ε α} {xs : List (Option α)}

theorem length_of_each (h : each f cells = .ok xs) : xs.length = cells.length := (mapM_eq_ok_iff.1 h).length_eq.symm

theorem ok_of_each (h : each f cells = .ok xs) {cs : List Char} (hcs : some cs ∈ cells) : ∃ x, f cs = .ok x := by
  obtain ⟨y, hy⟩ := ok_of_mapM h hcs
  obtain ⟨x, hx, -⟩ := map_eq_ok_iff.1 hy
  exact ⟨x, hx⟩

/-- A value is missing with its cell, or read from it. -/
theorem cases_of_each (h : each f cells = .ok xs) {x : Option α} (hx : x ∈ xs) :
    x = none ∧ none ∈ cells ∨ ∃ cs y, f cs = .ok y ∧ x = some y := by
  obtain ⟨cell, hcell, hread⟩ := mem_of_mapM h hx
  cases cell with
  | none => exact .inl ⟨(Except.ok.inj hread).symm, hcell⟩
  | some cs =>
    obtain ⟨y, hy, rfl⟩ := map_eq_ok_iff.1 hread
    exact .inr ⟨cs, y, hy, rfl⟩

theorem error_of_each {fault : ε} (h : each f cells = .error fault) : ∃ cs, some cs ∈ cells ∧ f cs = .error fault := by
  obtain ⟨cell, hcell, hread⟩ := error_of_mapM h
  cases cell with
  | none => cases hread
  | some cs => exact ⟨cs, hcell, map_eq_error_iff.1 hread⟩

/-- Fields that are read or not, and not with a fault that says more. -/
theorem each_of_toOption {read? : List Char → Option α} {g : List (Option α) → List Datum} {ds : List Datum}
    (h : (each (fun cs => (read? cs).elim (.error ()) Except.ok) cells).toOption.map g = some ds) :
    ∃ xs, each (fun cs => (read? cs).elim (.error ()) Except.ok) cells = .ok xs ∧ ds = g xs := by
  cases heach : each (fun cs => (read? cs).elim (.error ()) Except.ok) cells with
  | error fault => rw [heach] at h; cases h
  | ok xs =>
    rw [heach] at h
    exact ⟨xs, rfl, (Option.some.inj h).symm⟩

end Each

/-! ## Kinds of columns -/

/-- The ways in which a column holds numbers: integers with a sign, integers without one, or reals. -/
inductive HoldsNumbers (cells : List (Option (List Char))) : List Datum → Prop where
  | signed {ns : List (Option Int)} (h : each signed cells = .ok ns) : HoldsNumbers cells (integerColumn ns)
  | unsigned {ns : List (Option (Option Int))} (h : each unsigned? cells = .ok ns) (hall : ∀ n ∈ ns, n.join.isSome) :
    HoldsNumbers cells (integerColumn (ns.map (·.join)))
  | reals {xs : List (Option Binary64)} (h : each (fun cs => (real? cs).elim (.error ()) Except.ok) cells = .ok xs) :
    HoldsNumbers cells (xs.map fun x => .real (x.getD .nan))

theorem holdsNumbers_of_numberColumn {ds : List Datum} (h : numberColumn? cells = some ds) : HoldsNumbers cells ds := by
  unfold numberColumn? at h
  dsimp only at h
  split at h
  case h_1 ns hns =>
    obtain rfl := Option.some.inj h
    exact .signed hns
  case h_2 =>
    obtain ⟨xs, hxs, rfl⟩ := each_of_toOption h
    exact .reals hxs
  case h_3 =>
    split at h
    case h_1 ns hns =>
      obtain ⟨hall, hds⟩ := Option.ite_none_right_eq_some.1 h
      obtain rfl := Option.some.inj hds
      exact .unsigned hns (by simpa using hall)
    case h_2 =>
      obtain ⟨xs, hxs, rfl⟩ := each_of_toOption h
      exact .reals hxs
    case h_3 => cases h

/-! ## Cells -/

theorem isCell_integerColumn {ns : List (Option Int)} (h : ∀ n, some n ∈ ns → n.natAbs < 2 ^ 64) :
    ∀ d ∈ integerColumn ns, IsCell d := by
  unfold integerColumn
  split
  · rename_i hall
    rw [List.forall_mem_map]
    intro n hn
    obtain ⟨m, rfl⟩ := Option.isSome_iff_exists.1 (List.all_eq_true.1 hall n hn)
    exact .integer (h m hn)
  · rw [List.forall_mem_map]
    exact fun n _ => .real _

theorem isCell_numberColumn {ds : List Datum} (h : numberColumn? cells = some ds) : ∀ d ∈ ds, IsCell d := by
  cases holdsNumbers_of_numberColumn h with
  | signed hns =>
    refine isCell_integerColumn fun n hn => ?_
    obtain ⟨⟨⟩, -⟩ | ⟨cs, m, hm, ⟨⟩⟩ := cases_of_each hns hn
    exact signed_bound hm
  | unsigned hns =>
    refine isCell_integerColumn fun n hn => ?_
    obtain ⟨m, hm, hmn⟩ := List.mem_map.1 hn
    obtain ⟨rfl, -⟩ | ⟨cs, m, hread, rfl⟩ := cases_of_each hns hm
    · cases hmn
    · obtain rfl : m = some n := hmn
      exact unsigned_bound hread
  | reals =>
    rw [List.forall_mem_map]
    exact fun x _ => .real _

theorem isCell_flagColumn {ds : List Datum} (h : flagColumn? cells = some ds) :
    ∀ d ∈ ds, IsCell d := by
  obtain ⟨bs, -, rfl⟩ := Option.map_eq_some_iff.1 h
  rw [List.forall_mem_map]
  rintro (_ | b) -
  · exact .real _
  · exact .flag b

theorem isCell_textColumn : ∀ d ∈ textColumn cells, IsCell d := by
  rw [textColumn, List.forall_mem_map]
  rintro (_ | cs) -
  · exact .real _
  · exact .text _

/-- A column that is not mixed is one of numbers, of flags or of texts, whichever it can be first. -/
theorem cases_of_column (fields : List (List Char)) :
    isMixed (fields.map present?) = true ∧ column fields = fields.map (fun cs => .text (String.ofList cs)) ∨
      isMixed (fields.map present?) = false ∧
        (numberColumn? (fields.map present?) = some (column fields) ∨
          numberColumn? (fields.map present?) = none ∧
            (flagColumn? (fields.map present?) = some (column fields) ∨
              flagColumn? (fields.map present?) = none ∧ column fields = textColumn (fields.map present?))) := by
  unfold column
  dsimp only
  cases hmixed : isMixed (fields.map present?) with
  | true => exact .inl ⟨rfl, rfl⟩
  | false =>
    refine .inr ⟨rfl, ?_⟩
    cases hnumbers : numberColumn? (fields.map present?) with
    | some ds => exact .inl rfl
    | none =>
      refine .inr ⟨rfl, ?_⟩
      cases hflags : flagColumn? (fields.map present?) with
      | some ds => exact .inl rfl
      | none => exact .inr ⟨rfl, rfl⟩

theorem isCell_of_mem_column {fields : List (List Char)} : ∀ d ∈ column fields, IsCell d := by
  obtain ⟨-, h⟩ | ⟨-, h | ⟨-, h | ⟨-, h⟩⟩⟩ := cases_of_column fields
  · rw [h, List.forall_mem_map]
    exact fun cs _ => .text _
  · exact isCell_numberColumn h
  · exact isCell_flagColumn h
  · exact h ▸ isCell_textColumn

theorem isCell_of_sheet {text : String} {sheet : Sheet} (h : Sheet.ofText text = .ok sheet) :
    ∀ c ∈ sheet.columns, ∀ d ∈ c.cells, IsCell d := by
  obtain ⟨rows, -, h⟩ := bind_eq_ok_iff.1 h
  cases rows with
  | nil => cases h
  | cons header rows =>
    obtain ⟨rows, -, h⟩ := bind_eq_ok_iff.1 h
    obtain rfl := Except.ok.inj h
    intro c hc
    obtain ⟨i, hi, rfl⟩ := List.mem_mapIdx.1 hc
    exact isCell_of_mem_column

end MetricExpr.Csv
