import Mathlib.Data.List.Nodup
import SchemaEditor.Entries

/-!
# Laws of entries

Insertion and removal keep the keys of a map distinct, and on distinct keys removal
removes (`find?_erase_self`).  Putting a value back where it was found changes nothing
(`insert_eq_self`).  A map on values commutes with every operation (`find?_mapValues`,
`insert_mapValues`, `erase_mapValues`).
-/

namespace SchemaEditor.Entries

variable {α β γ : Type} [DecidableEq α]

/-! ## Keys -/

/-- The keys of a map. -/
def keys (m : Entries α β) : List α := m.map Prod.fst

theorem find?_eq_none_of_not_mem {k : α} {m : Entries α β} (h : k ∉ keys m) :
    find? k m = none := by
  induction m with
  | nil => rfl
  | cons entry rest ih =>
    simp only [keys, List.map_cons, List.mem_cons, not_or] at h
    rw [find?_cons, if_neg (Ne.symm h.1), ih h.2]

/-- Inserting adds nothing but what is inserted. -/
theorem mem_insert {entry : α × β} {k : α} {v : β} {m : Entries α β}
    (h : entry ∈ insert k v m) : entry = (k, v) ∨ entry ∈ m := by
  induction m with
  | nil => exact Or.inl (List.mem_singleton.mp h)
  | cons first rest ih =>
    rw [insert_cons] at h
    split_ifs at h
    · rcases List.mem_cons.mp h with h | h
      · exact Or.inl h
      · exact Or.inr (List.mem_cons_of_mem _ h)
    · rcases List.mem_cons.mp h with rfl | h
      · exact Or.inr List.mem_cons_self
      · exact (ih h).imp_right (List.mem_cons_of_mem _)

theorem mem_keys_insert {k k' : α} {v : β} {m : Entries α β} (h : k' ∈ keys (insert k v m)) :
    k' = k ∨ k' ∈ keys m := by
  obtain ⟨entry, hentry, rfl⟩ := List.mem_map.mp h
  rcases mem_insert hentry with rfl | hold
  · exact Or.inl rfl
  · exact Or.inr (List.mem_map_of_mem hold)

/-- What is found is there. -/
theorem mem_of_find? {k : α} {v : β} {m : Entries α β} (h : find? k m = some v) : (k, v) ∈ m := by
  induction m with
  | nil => cases h
  | cons first rest ih =>
    obtain ⟨k', v'⟩ := first
    rw [find?_cons] at h
    split_ifs at h with hk
    · obtain rfl := Option.some.inj h
      exact hk ▸ List.mem_cons_self
    · exact List.mem_cons_of_mem _ (ih h)

theorem nodup_keys_insert {k : α} {v : β} {m : Entries α β} (h : (keys m).Nodup) :
    (keys (insert k v m)).Nodup := by
  induction m with
  | nil => simp [keys]
  | cons entry rest ih =>
    obtain ⟨hn, hrest⟩ := List.nodup_cons.mp h
    by_cases he : entry.1 = k
    · simpa [insert_cons, he, keys] using h
    · rw [insert_cons, if_neg he]
      refine List.nodup_cons.mpr ⟨fun hm => ?_, ih hrest⟩
      rcases mem_keys_insert hm with hm | hm
      · exact he hm
      · exact hn hm

theorem erase_sublist (k : α) (m : Entries α β) : (erase k m).Sublist m := by
  induction m with
  | nil => exact List.Sublist.refl _
  | cons entry rest ih =>
    rw [erase_cons]
    split_ifs
    · exact List.sublist_cons_self _ _
    · exact ih.cons_cons _

theorem nodup_keys_erase (k : α) {m : Entries α β} (h : (keys m).Nodup) :
    (keys (erase k m)).Nodup :=
  h.sublist ((erase_sublist k m).map Prod.fst)

theorem find?_erase_self {k : α} {m : Entries α β} (h : (keys m).Nodup) :
    find? k (erase k m) = none := by
  induction m with
  | nil => rfl
  | cons entry rest ih =>
    obtain ⟨hn, hrest⟩ := List.nodup_cons.mp h
    by_cases he : entry.1 = k
    · rw [erase_cons, if_pos he]
      exact find?_eq_none_of_not_mem (he ▸ hn)
    · rw [erase_cons, if_neg he, find?_cons, if_neg he, ih hrest]

theorem find?_erase_of_ne {k k' : α} (h : k' ≠ k) (m : Entries α β) :
    find? k (erase k' m) = find? k m := by
  induction m with
  | nil => rfl
  | cons entry rest ih =>
    by_cases he : entry.1 = k'
    · rw [erase_cons, if_pos he, find?_cons, if_neg (he ▸ h)]
    · rw [erase_cons, if_neg he, find?_cons, find?_cons, ih]

theorem find?_insert (k k' : α) (v : β) (m : Entries α β) :
    find? k (insert k' v m) = if k' = k then some v else find? k m := by
  split_ifs with h
  · rw [h, find?_insert_self]
  · exact find?_insert_of_ne h v m

/-- A value that is put back where it was found changes nothing. -/
theorem insert_eq_self {k : α} {v : β} {m : Entries α β} (h : find? k m = some v) :
    insert k v m = m := by
  induction m with
  | nil => cases h
  | cons entry rest ih =>
    by_cases he : entry.1 = k
    · rw [find?_cons, if_pos he] at h
      rw [insert_cons, if_pos he, ← he, ← Option.some.inj h]
    · rw [find?_cons, if_neg he] at h
      rw [insert_cons, if_neg he, ih h]

/-- Of two values put under one key the last one counts. -/
theorem insert_insert (k : α) (v v' : β) (m : Entries α β) :
    insert k v (insert k v' m) = insert k v m := by
  induction m with
  | nil => simp [insert_cons]
  | cons entry rest ih =>
    by_cases he : entry.1 = k
    · simp [insert_cons, he]
    · simp [insert_cons, he, ih]

/-! ## Maps on values -/

/-- The map with every value replaced by its image. -/
def mapValues (f : β → γ) (m : Entries α β) : Entries α γ := m.map fun entry => (entry.1, f entry.2)

variable (f : β → γ) (k : α) (v : β) (m : Entries α β)

theorem find?_mapValues : find? k (mapValues f m) = (find? k m).map f := by
  induction m with
  | nil => rfl
  | cons entry rest ih =>
    simp only [mapValues, List.map_cons, find?_cons]
    split_ifs
    · rfl
    · exact ih

theorem insert_mapValues : insert k (f v) (mapValues f m) = mapValues f (insert k v m) := by
  induction m with
  | nil => rfl
  | cons entry rest ih =>
    simp only [mapValues, List.map_cons, insert_cons]
    split_ifs
    · rfl
    · rw [List.map_cons]
      exact congrArg _ ih

theorem erase_mapValues : erase k (mapValues f m) = mapValues f (erase k m) := by
  induction m with
  | nil => rfl
  | cons entry rest ih =>
    simp only [mapValues, List.map_cons, erase_cons]
    split_ifs
    · rfl
    · rw [List.map_cons]
      exact congrArg _ ih

end SchemaEditor.Entries
