import FeatureGates.Gate.NameSet

/-!
# Tables

A table holds values under names, in the order in which the names came. A
value put under a name that is there takes the place of the old one.

A table is looked at through `Table.find?`; the lemmas below say what each
operation does to it, also for a name in the table's `names`.
-/

namespace FeatureGates

structure Table (α : Type) where
  rows : List (String × α)

namespace Table

variable {α β : Type}

def empty : Table α := ⟨[]⟩

def find? (t : Table α) (name : String) : Option α := t.rows.lookup name

def contains (t : Table α) (name : String) : Bool := (t.find? name).isSome

/-- Puts a value at the place of its name, or at the end. -/
def putRows (name : String) (value : α) : List (String × α) → List (String × α)
  | [] => [(name, value)]
  | (n, v) :: rest => if name = n then (n, value) :: rest else (n, v) :: putRows name value rest

def put (t : Table α) (name : String) (value : α) : Table α := ⟨putRows name value t.rows⟩

def erase (t : Table α) (name : String) : Table α := ⟨t.rows.filter (·.1 ≠ name)⟩

/-- The values, each changed in the light of its name. -/
def map (f : String → α → β) (t : Table α) : Table β := ⟨t.rows.map fun row => (row.1, f row.1 row.2)⟩

def names (t : Table α) : NameSet := .ofList (t.rows.map (·.1))

/-- The table of what a list of names and values puts into an empty one. -/
def ofRows (rows : List (String × α)) : Table α :=
  rows.foldl (fun t row => t.put row.1 row.2) empty

/-! ## Look-up -/

theorem find?_empty (name : String) : (empty : Table α).find? name = none := rfl

theorem lookup_putRows (rows : List (String × α)) (name other : String) (value : α) :
    (putRows name value rows).lookup other =
      if other = name then some value else rows.lookup other := by
  induction rows with
  | nil =>
    by_cases h : other = name
    · simp [putRows, h]
    · simp [putRows, List.lookup_cons, h, beq_false_of_ne h]
  | cons row rest ih =>
    obtain ⟨n, v⟩ := row
    by_cases hn : name = n
    · subst hn
      by_cases h : other = name
      · simp [putRows, h]
      · simp [putRows, List.lookup_cons, h, beq_false_of_ne h]
    · by_cases h : other = n
      · subst h
        have hne : other ≠ name := fun e => hn e.symm
        simp [putRows, hn, hne]
      · simp [putRows, hn, List.lookup_cons, beq_false_of_ne h, ih]

theorem find?_put (t : Table α) (name other : String) (value : α) :
    (t.put name value).find? other = if other = name then some value else t.find? other :=
  lookup_putRows t.rows name other value

theorem lookup_filter_ne (rows : List (String × α)) (name other : String) :
    (rows.filter (·.1 ≠ name)).lookup other =
      if other = name then none else rows.lookup other := by
  induction rows with
  | nil => simp
  | cons row rest ih =>
    obtain ⟨n, v⟩ := row
    by_cases hn : n = name
    · subst hn
      by_cases h : other = n
      · simpa [h] using ih
      · simpa [List.lookup_cons, h, beq_false_of_ne h] using ih
    · by_cases h : other = n
      · subst h
        simp [hn]
      · simpa [List.lookup_cons, hn, beq_false_of_ne h] using ih

theorem find?_erase (t : Table α) (name other : String) :
    (t.erase name).find? other = if other = name then none else t.find? other :=
  lookup_filter_ne t.rows name other

theorem find?_map (f : String → α → β) (t : Table α) (name : String) :
    (t.map f).find? name = (t.find? name).map (f name) := by
  obtain ⟨rows⟩ := t
  simp only [find?, map]
  induction rows with
  | nil => rfl
  | cons row rest ih =>
    obtain ⟨n, v⟩ := row
    by_cases h : name = n
    · subst h; simp
    · simpa [List.lookup_cons, beq_false_of_ne h] using ih

theorem mem_names {t : Table α} {name : String} : name ∈ t.names ↔ t.contains name = true := by
  obtain ⟨rows⟩ := t
  simp only [names, NameSet.mem_ofList, contains, find?]
  induction rows with
  | nil => simp
  | cons row rest ih =>
    obtain ⟨n, v⟩ := row
    by_cases h : name = n
    · subst h; simp
    · simp [List.lookup_cons, beq_false_of_ne h, h, ih]

theorem find?_foldl_put (rows : List (String × α)) (t : Table α) (name : String) :
    (rows.foldl (fun t row => t.put row.1 row.2) t).find? name =
      (rows.reverse.lookup name).or (t.find? name) := by
  induction rows generalizing t with
  | nil => simp
  | cons row rest ih =>
    obtain ⟨n, v⟩ := row
    simp only [List.foldl_cons, ih, find?_put, List.reverse_cons, List.lookup_append]
    by_cases h : name = n
    · subst h; cases rest.reverse.lookup name <;> simp
    · cases rest.reverse.lookup name <;> simp [List.lookup_cons, h, beq_false_of_ne h]

/-- The last of the values under one name counts. -/
theorem find?_ofRows (rows : List (String × α)) (name : String) :
    (ofRows rows).find? name = rows.reverse.lookup name := by
  simp [ofRows, find?_foldl_put, find?_empty]

end Table

end FeatureGates
