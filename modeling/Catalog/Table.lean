/-!
# Tables sorted by key

A table is a list of entries whose keys are strictly increasing, in the order of code points. It is
built with `insert` only.

## Main definitions

* `Table` — the entries, in the order of their keys.
* `Table.insert`, `Table.get?`, `Table.erase` — the operations.
-/

namespace Catalog

/-- A table with text keys, in the order of the keys. -/
abbrev Table (α : Type) := List (String × α)

namespace Table

variable {α : Type}

/-- The value at a key. -/
def get? : Table α → String → Option α
  | [], _ => none
  | (k, a) :: t, key => if k = key then some a else get? t key

/-- Puts a value at a key, replacing the one that is there. -/
def insert : Table α → String → α → Table α
  | [], key, value => [(key, value)]
  | (k, a) :: t, key, value =>
    if key < k then (key, value) :: (k, a) :: t
    else if key = k then (key, value) :: t
    else (k, a) :: insert t key value

/-- The table of a list of entries; of two entries with one key the later one counts. -/
def ofList (entries : List (String × α)) : Table α :=
  entries.foldl (fun t (k, a) => t.insert k a) []

/-- The keys, in order. -/
def keys (t : Table α) : List String := t.map Prod.fst

/-- Changes the value at a key, which starts as the default one. -/
def adjust [Inhabited α] (t : Table α) (key : String) (f : α → α) : Table α :=
  t.insert key (f ((t.get? key).getD default))

@[simp] theorem get?_nil (key : String) : get? ([] : Table α) key = none := rfl

/-- A value that was put at a key reads back, and nothing else changes. -/
theorem get?_insert (t : Table α) (k : String) (a : α) (key : String) :
    (t.insert k a).get? key = if k = key then some a else t.get? key := by
  induction t with
  | nil => simp [insert, get?]
  | cons e t ih =>
    obtain ⟨l, b⟩ := e
    simp only [insert]
    split
    · simp [get?]
    · split
      · rename_i h; subst h; by_cases hk : k = key <;> simp [get?, hk]
      · rename_i h
        by_cases hk : l = key
        · subst hk; simp [get?, h]
        · simp [get?, hk, ih]

end Table

end Catalog
