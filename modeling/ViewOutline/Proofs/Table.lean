import ViewOutline.Table
import Mathlib.Data.List.Nodup

/-!
# What a table holds

Names occur once in a table, so looking a name up finds exactly the entry that
is listed.
-/

namespace ViewOutline.Table

variable {α : Type}

/-- A listed value is found when names occur once. -/
private theorem lookup_eq_some_iff_mem {entries : List (String × α)}
    (nodup : (entries.map Prod.fst).Nodup) (name : String) (value : α) :
    entries.lookup name = some value ↔ (name, value) ∈ entries := by
  induction entries with
  | nil => simp
  | cons entry rest ih =>
      rcases entry with ⟨key, stored⟩
      simp only [List.map_cons, List.nodup_cons] at nodup
      obtain ⟨keyAbsent, restNodup⟩ := nodup
      by_cases equal : name = key
      · subst equal
        have notBelow : (name, value) ∉ rest := fun member =>
          keyAbsent (List.mem_map.mpr ⟨(name, value), member, rfl⟩)
        simp [notBelow, eq_comm]
      · have different : (name == key) = false := by simpa using equal
        rw [List.lookup_cons, different]
        simp only [List.mem_cons, Prod.mk.injEq, equal, false_and, false_or]
        exact ih restNodup

theorem find?_eq_some_iff (table : Table α) (name : String) (value : α) :
    table.find? name = some value ↔ (name, value) ∈ table.entries :=
  lookup_eq_some_iff_mem table.nodup name value

theorem nodup_keys (table : Table α) : table.keys.Nodup :=
  table.nodup

theorem mem_keys_iff (table : Table α) (name : String) :
    name ∈ table.keys ↔ ∃ value, table.find? name = some value := by
  simp only [find?_eq_some_iff, keys, List.mem_map, Prod.exists, exists_and_right, exists_eq_right]

theorem find?_eq_none_iff (table : Table α) (name : String) :
    table.find? name = none ↔ name ∉ table.keys := by
  rw [mem_keys_iff, not_exists, Option.eq_none_iff_forall_ne_some]

/-- The entries after a name is given a value: the new one, and those of the other
names. -/
theorem mem_entries_insert_iff (table : Table α) (name key : String) (value found : α) :
    (key, found) ∈ (table.insert name value).entries ↔
      if key = name then found = value else (key, found) ∈ table.entries := by
  by_cases present : name ∈ table.keys
  · have replaced : (table.insert name value).entries = table.entries.map fun entry =>
        (entry.1, if entry.1 = name then value else entry.2) := by
      rw [insert, dif_pos (show name ∈ table.entries.map Prod.fst from present)]
      rfl
    rw [replaced, List.mem_map]
    by_cases same : key = name
    · subst same
      rw [if_pos rfl]
      constructor
      · rintro ⟨⟨old, _⟩, _, equal⟩
        simp only [Prod.mk.injEq] at equal
        rw [← equal.2, if_pos equal.1]
      · rintro rfl
        rcases List.mem_map.mp present with ⟨entry, member, nameEq⟩
        exact ⟨entry, member, by rw [if_pos nameEq, nameEq]⟩
    · rw [if_neg same]
      constructor
      · rintro ⟨⟨other, old⟩, member, equal⟩
        simp only [Prod.mk.injEq] at equal
        rcases equal with ⟨rfl, kept⟩
        rw [if_neg same] at kept
        exact kept ▸ member
      · intro member
        exact ⟨(key, found), member, by rw [if_neg same]⟩
  · rw [entries_insert_of_not_mem _ _ _ present, List.mem_append, List.mem_singleton,
      Prod.mk.injEq]
    by_cases same : key = name
    · subst same
      have absent : (key, found) ∉ table.entries := fun member =>
        present (List.mem_map.mpr ⟨_, member, rfl⟩)
      simp [absent]
    · simp [same]

/-- Giving a name a value changes what is found under this name only. -/
theorem find?_insert (table : Table α) (name key : String) (value : α) :
    (table.insert name value).find? key =
      if key = name then some value else table.find? key := by
  apply Option.ext
  intro found
  rw [find?_eq_some_iff, mem_entries_insert_iff]
  by_cases same : key = name
  · rw [if_pos same, if_pos same, Option.some.injEq, eq_comm]
  · rw [if_neg same, if_neg same, find?_eq_some_iff]

/-- Tables in which the same is found list the same, up to order. -/
theorem perm_of_find?_eq {table other : Table α}
    (same : ∀ name, table.find? name = other.find? name) :
    table.entries.Perm other.entries := by
  rw [List.perm_ext_iff_of_nodup (List.Nodup.of_map _ table.nodup)
    (List.Nodup.of_map _ other.nodup)]
  rintro ⟨name, value⟩
  rw [← find?_eq_some_iff, ← find?_eq_some_iff, same]

theorem entries_modify (table : Table α) (name : String) (f : α → α) :
    (table.modify name f).entries =
      table.entries.map fun entry => (entry.1, if entry.1 = name then f entry.2 else entry.2) :=
  rfl

end ViewOutline.Table
