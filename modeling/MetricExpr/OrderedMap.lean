/-!
# Ordered maps

A map that remembers the order in which its keys were first inserted. Inserting a key again keeps its place and
replaces its value.
-/
namespace MetricExpr

/-- Pairs of a key and a value, in order of first insertion. -/
structure OrderedMap (κ ν : Type) where
  entries : List (κ × ν)
  deriving DecidableEq, Repr

namespace OrderedMap

variable {κ ν : Type} [BEq κ]

def empty : OrderedMap κ ν := ⟨[]⟩

instance : Inhabited (OrderedMap κ ν) := ⟨⟨[]⟩⟩

def keys (m : OrderedMap κ ν) : List κ := m.entries.map (·.1)

def size (m : OrderedMap κ ν) : Nat := m.entries.length

def get? (m : OrderedMap κ ν) (k : κ) : Option ν := m.entries.lookup k

def contains (m : OrderedMap κ ν) (k : κ) : Bool := m.entries.any fun entry => k == entry.1

/-- The entries with the key's value replaced at its first place, or with the pair at the end. -/
def put (k : κ) (v : ν) : List (κ × ν) → List (κ × ν)
  | [] => [(k, v)]
  | (k', v') :: rest => if k == k' then (k', v) :: rest else (k', v') :: put k v rest

def insert (m : OrderedMap κ ν) (k : κ) (v : ν) : OrderedMap κ ν := ⟨put k v m.entries⟩

/-- Insert a list of pairs from left to right. -/
def insertAll (m : OrderedMap κ ν) (pairs : List (κ × ν)) : OrderedMap κ ν :=
  pairs.foldl (fun m pair => m.insert pair.1 pair.2) m

def ofList (pairs : List (κ × ν)) : OrderedMap κ ν := empty.insertAll pairs

/-- Replace the value of a key by a function of the value it had. -/
def alter (m : OrderedMap κ ν) (k : κ) (f : Option ν → ν) : OrderedMap κ ν := m.insert k (f (m.get? k))

def mapValues {ν' : Type} (f : ν → ν') (m : OrderedMap κ ν) : OrderedMap κ ν' :=
  ⟨m.entries.map fun (k, v) => (k, f v)⟩

theorem lookup_put_self [LawfulBEq κ] (k : κ) (v : ν) : ∀ entries, (put k v entries).lookup k = some v
  | [] => by simp [put]
  | (k', v') :: rest => by
    rw [put]
    split
    · rename_i h
      rw [List.lookup_cons, h]
    · rename_i h
      rw [List.lookup_cons, eq_false_of_ne_true h]
      exact lookup_put_self k v rest

theorem lookup_put_of_ne [LawfulBEq κ] {k k' : κ} (hne : k' ≠ k) (v : ν) :
    ∀ entries, (put k v entries).lookup k' = entries.lookup k'
  | [] => by simp [put, hne]
  | (k₁, v₁) :: rest => by
    rw [put]
    split
    · rename_i h
      rw [List.lookup_cons, List.lookup_cons, ← eq_of_beq h, beq_false_of_ne hne]
    · rw [List.lookup_cons, List.lookup_cons, lookup_put_of_ne hne v rest]

/-- A key that is inserted has the value that was inserted. -/
@[simp] theorem get?_insert_self [LawfulBEq κ] (m : OrderedMap κ ν) (k : κ) (v : ν) :
    (m.insert k v).get? k = some v :=
  lookup_put_self k v m.entries

/-- Inserting a key leaves the other keys alone. -/
theorem get?_insert_of_ne [LawfulBEq κ] (m : OrderedMap κ ν) {k k' : κ} (hne : k' ≠ k) (v : ν) :
    (m.insert k v).get? k' = m.get? k' :=
  lookup_put_of_ne hne v m.entries

theorem keys_put (k : κ) (v : ν) : ∀ entries : List (κ × ν),
    (put k v entries).map (·.1) =
      if entries.any fun entry => k == entry.1 then entries.map (·.1) else entries.map (·.1) ++ [k]
  | [] => by simp [put]
  | (k', v') :: rest => by
    rw [put]
    split
    · rename_i h
      simp [h]
    · rename_i h
      simp only [List.map_cons, List.any_cons, eq_false_of_ne_true h, Bool.false_or, keys_put k v rest]
      split <;> rfl

/-- A new key goes to the end, and an old one keeps its place. -/
theorem keys_insert (m : OrderedMap κ ν) (k : κ) (v : ν) :
    (m.insert k v).keys = if m.contains k then m.keys else m.keys ++ [k] :=
  keys_put k v m.entries

end OrderedMap

/-- The members of a list in order of first occurrence, each once. -/
def distinct {α : Type} [BEq α] : List α → List α
  | [] => []
  | x :: xs => x :: (distinct xs).filter (!x == ·)

end MetricExpr
