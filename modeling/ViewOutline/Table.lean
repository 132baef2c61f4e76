/-!
# Tables in insertion order

A table maps names to values and remembers the order in which the names came
in.  No name occurs twice: writing to a name that is present replaces its value
in place, and a new name goes to the end.
-/

namespace ViewOutline

/-- A finite map from names to values, in insertion order. -/
structure Table (α : Type) where
  /-- The entries, oldest first. -/
  entries : List (String × α)
  /-- No name is listed twice. -/
  nodup : (entries.map Prod.fst).Nodup

namespace Table

variable {α β : Type}

/-- The table without entries. -/
def empty : Table α :=
  ⟨[], List.nodup_nil⟩

instance : Inhabited (Table α) :=
  ⟨empty⟩

/-- The names in insertion order. -/
def keys (table : Table α) : List String :=
  table.entries.map Prod.fst

/-- The values in insertion order. -/
def values (table : Table α) : List α :=
  table.entries.map Prod.snd

/-- The number of entries. -/
def size (table : Table α) : Nat :=
  table.entries.length

/-- Whether a name has a value. -/
def contains (table : Table α) (name : String) : Bool :=
  table.keys.contains name

/-- The value of a name. -/
def find? (table : Table α) (name : String) : Option α :=
  table.entries.lookup name

/-- Replace the value of every entry, keeping names and order. -/
def mapEntries (table : Table α) (f : String → α → β) : Table β where
  entries := table.entries.map fun (name, value) => (name, f name value)
  nodup := by
    have keysEq : (table.entries.map fun (name, value) => (name, f name value)).map Prod.fst =
        table.entries.map Prod.fst := by
      simp [List.map_map, Function.comp_def]
    rw [keysEq]
    exact table.nodup

/-- Give a name a value: in place if the name is present, at the end if not. -/
def insert (table : Table α) (name : String) (value : α) : Table α :=
  if absent : name ∈ table.entries.map Prod.fst then
    table.mapEntries fun key old => if key = name then value else old
  else
    { entries := table.entries ++ [(name, value)]
      nodup := by
        rw [List.map_append]
        simp only [List.map_cons, List.map_nil]
        rw [List.nodup_append]
        refine ⟨table.nodup, by simp, ?_⟩
        intro first firstMem second secondMem
        rw [List.mem_singleton] at secondMem
        subst secondMem
        intro equal
        exact absent (equal ▸ firstMem) }

/-- Change the value of a name that is present. -/
def modify (table : Table α) (name : String) (f : α → α) : Table α :=
  table.mapEntries fun key old => if key = name then f old else old

/-- Enter a list of entries one after the other. -/
def ofList (entries : List (String × α)) : Table α :=
  entries.foldl (fun table (name, value) => table.insert name value) empty

@[simp]
theorem keys_empty : (empty : Table α).keys = [] :=
  rfl

@[simp]
theorem keys_mapEntries (table : Table α) (f : String → α → β) :
    (table.mapEntries f).keys = table.keys := by
  simp [keys, mapEntries, List.map_map, Function.comp_def]

@[simp]
theorem keys_modify (table : Table α) (name : String) (f : α → α) :
    (table.modify name f).keys = table.keys :=
  keys_mapEntries table _

/-- A new entry goes to the end. -/
theorem entries_insert_of_not_mem (table : Table α) (name : String) (value : α)
    (absent : name ∉ table.keys) :
    (table.insert name value).entries = table.entries ++ [(name, value)] := by
  rw [insert, dif_neg (by simpa [keys] using absent)]

theorem contains_iff (table : Table α) (name : String) :
    table.contains name = true ↔ name ∈ table.keys := by
  simp [contains]

end Table

end ViewOutline
