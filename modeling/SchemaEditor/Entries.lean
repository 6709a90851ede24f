/-!
# Entries

A finite map as the list of its entries in the order in which their keys were
first inserted.  Inserting under a key that is there keeps its place and replaces
its value.
-/

namespace SchemaEditor

variable {α β : Type} [DecidableEq α]

/-- Keys with their values, in the order of insertion. -/
abbrev Entries (α β : Type) := List (α × β)

namespace Entries

/-- The value under a key. -/
def find? (k : α) : Entries α β → Option β
  | [] => none
  | (k', v) :: rest => if k' = k then some v else find? k rest

/-- Puts a value under a key. -/
def insert (k : α) (v : β) : Entries α β → Entries α β
  | [] => [(k, v)]
  | (k', v') :: rest => if k' = k then (k, v) :: rest else (k', v') :: insert k v rest

/-- Removes a key with its value. -/
def erase (k : α) : Entries α β → Entries α β
  | [] => []
  | (k', v) :: rest => if k' = k then rest else (k', v) :: erase k rest

/-- The map of pairs, of which a later one replaces an earlier one with its key. -/
def ofPairs (pairs : List (α × β)) : Entries α β :=
  pairs.foldl (fun entries pair => insert pair.1 pair.2 entries) []

@[simp] theorem find?_nil (k : α) : find? k ([] : Entries α β) = none := rfl

theorem find?_cons (k : α) (entry : α × β) (rest : Entries α β) :
    find? k (entry :: rest) = if entry.1 = k then some entry.2 else find? k rest := rfl

@[simp] theorem insert_nil (k : α) (v : β) : insert k v ([] : Entries α β) = [(k, v)] := rfl

theorem insert_cons (k : α) (v : β) (entry : α × β) (rest : Entries α β) :
    insert k v (entry :: rest) =
      if entry.1 = k then (k, v) :: rest else entry :: insert k v rest := rfl

theorem erase_cons (k : α) (entry : α × β) (rest : Entries α β) :
    erase k (entry :: rest) = if entry.1 = k then rest else entry :: erase k rest := rfl

@[simp] theorem find?_insert_self (k : α) (v : β) (m : Entries α β) :
    find? k (insert k v m) = some v := by
  induction m with
  | nil => simp [find?_cons]
  | cons entry rest ih =>
      by_cases h : entry.1 = k <;> simp [insert_cons, find?_cons, h, ih]

theorem find?_insert_of_ne {k k' : α} (h : k' ≠ k) (v : β) (m : Entries α β) :
    find? k (insert k' v m) = find? k m := by
  induction m with
  | nil => simp [find?_cons, h]
  | cons entry rest ih =>
      by_cases h' : entry.1 = k'
      · simp [insert_cons, find?_cons, h', h]
      · by_cases hk : entry.1 = k
        · simp [insert_cons, find?_cons, hk, Ne.symm h]
        · simp [insert_cons, find?_cons, h', hk, ih]

end Entries

end SchemaEditor
