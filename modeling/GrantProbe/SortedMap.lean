/-!
# Maps with sorted keys

Associations of text keys, kept in the order of the keys, so that going through one takes the keys in
order whatever the order in which they were added.

* `SortedMap`, with `empty`, `insert`, `erase`, `get?` and `size`;
* `get?_insert`, `get?_erase`: what the operations do to a look-up.
-/

namespace GrantProbe

/-- **A map** from text, as the list of its entries. -/
structure SortedMap (α : Type) where
  entries : List (String × α)
  deriving Repr, Inhabited

namespace SortedMap

variable {α : Type}

def empty : SortedMap α := ⟨[]⟩

/-- The value of a key in a list of entries. -/
def lookup (key : String) : List (String × α) → Option α
  | [] => none
  | e :: rest => if e.1 = key then some e.2 else lookup key rest

/-- The value of a key. -/
def get? (m : SortedMap α) (key : String) : Option α := lookup key m.entries

def size (m : SortedMap α) : Nat := m.entries.length

/-- Puts an entry at its place among sorted ones, in the place of one with the same key. -/
def insertEntry (key : String) (value : α) : List (String × α) → List (String × α)
  | [] => [(key, value)]
  | e :: rest =>
    if e.1 = key then (key, value) :: rest
    else if key < e.1 then (key, value) :: e :: rest
    else e :: insertEntry key value rest

/-- The map with a value put under a key. -/
def insert (m : SortedMap α) (key : String) (value : α) : SortedMap α :=
  ⟨insertEntry key value m.entries⟩

/-- The map without a key. -/
def erase (m : SortedMap α) (key : String) : SortedMap α :=
  ⟨m.entries.filter fun e => e.1 ≠ key⟩

/-- The map of a list of entries, of which the last counts when a key is repeated. -/
def ofList (entries : List (String × α)) : SortedMap α :=
  entries.foldl (fun m e => m.insert e.1 e.2) empty

@[simp] theorem get?_empty (key : String) : (empty : SortedMap α).get? key = none := rfl

theorem lookup_insertEntry (key : String) (value : α) (entries : List (String × α)) (k : String) :
    lookup k (insertEntry key value entries) = if key = k then some value else lookup k entries := by
  induction entries with
  | nil => simp [insertEntry, lookup]
  | cons e rest ih =>
    unfold insertEntry
    split
    · rename_i h
      subst h
      simp only [lookup]
      split <;> rfl
    · split
      · rfl
      · rename_i h _
        simp only [lookup, ih]
        split
        · rename_i he
          rw [if_neg (fun hk => h (he.trans hk.symm))]
        · rfl

/-- After an insertion the key has the new value, and every other key the old one. -/
theorem get?_insert (m : SortedMap α) (key : String) (value : α) (k : String) :
    (m.insert key value).get? k = if key = k then some value else m.get? k :=
  lookup_insertEntry key value m.entries k

/-- After an erasure the key has no value, and every other key the old one. -/
theorem get?_erase (m : SortedMap α) (key k : String) :
    (m.erase key).get? k = if key = k then none else m.get? k := by
  unfold erase get?
  simp only
  induction m.entries with
  | nil => simp [lookup]
  | cons e rest ih =>
    by_cases he : e.1 = key
    · rw [List.filter_cons_of_neg (by simp [he]), ih]
      simp only [lookup]
      split
      · rfl
      · rename_i h
        rw [if_neg (fun hk => h (he ▸ hk))]
    · rw [List.filter_cons_of_pos (by simp [he])]
      simp only [lookup, ih]
      split
      · rename_i hk
        rw [if_neg (fun h => he (hk.trans h.symm))]
      · rfl

end SortedMap

end GrantProbe
