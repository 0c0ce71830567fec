import FeatureGates.Store.Records

/-!
# What records hold, cell by cell

Records are looked at through three questions: whether a feature exists
(`contains`), what is in one of its cells (`cell?`) and in which order the
features came (their names, each once: `Table.Distinct`). For every way to
change records there is one lemma for each.

What a reader finds of a feature is decided by its cells alone
(`Records.get_readFeature`), and so are its typed values
(`Records.typed_congr`).
-/

namespace FeatureGates

theorem NameSet.nodup (names : NameSet) : names.names.Nodup := by
  refine names.ascending.imp ?_
  rintro a b lt rfl
  exact String.lt_irrefl a lt

/-! ## Tables -/

namespace Table

variable {α : Type}

/-- Every name comes once. -/
def Distinct (t : Table α) : Prop := (t.rows.map (·.1)).Nodup

theorem distinct_empty : (empty : Table α).Distinct := List.nodup_nil

theorem contains_put (t : Table α) (name other : String) (value : α) :
    (t.put name value).contains other = (decide (other = name) || t.contains other) := by
  rw [contains, find?_put]
  by_cases h : other = name <;> simp [h, contains]

theorem contains_erase (t : Table α) (name other : String) :
    (t.erase name).contains other = (decide (other ≠ name) && t.contains other) := by
  rw [contains, find?_erase]
  by_cases h : other = name <;> simp [h, contains]

theorem contains_of_find? {t : Table α} {name : String} {value : α}
    (h : t.find? name = some value) : t.contains name = true := by
  rw [contains, h]
  rfl

theorem find?_eq_none {t : Table α} {name : String} (h : t.contains name = false) :
    t.find? name = none := by
  rw [← Option.not_isSome_iff_eq_none, Bool.not_eq_true]
  exact h

theorem mem_map_putRows {name other : String} {value : α} {rows : List (String × α)} :
    other ∈ (putRows name value rows).map (·.1) ↔ other = name ∨ other ∈ rows.map (·.1) := by
  induction rows with
  | nil => simp [putRows]
  | cons row rest ih =>
    obtain ⟨n, v⟩ := row
    unfold putRows
    split
    · rename_i same
      subst same
      simp
    · simp only [List.map_cons, List.mem_cons, ih]
      exact or_left_comm

theorem nodup_putRows {rows : List (String × α)} (h : (rows.map (·.1)).Nodup) (name : String)
    (value : α) : ((putRows name value rows).map (·.1)).Nodup := by
  induction rows with
  | nil => simp [putRows]
  | cons row rest ih =>
    obtain ⟨n, v⟩ := row
    obtain ⟨new, others⟩ := List.nodup_cons.1 h
    unfold putRows
    split
    · exact h
    · rename_i different
      refine List.nodup_cons.2 ⟨fun mem => ?_, ih others⟩
      rcases mem_map_putRows.1 mem with same | mem
      · exact different same.symm
      · exact new mem

theorem distinct_put {t : Table α} (h : t.Distinct) (name : String) (value : α) :
    (t.put name value).Distinct := nodup_putRows h name value

theorem distinct_erase {t : Table α} (h : t.Distinct) (name : String) :
    (t.erase name).Distinct := List.Nodup.sublist (List.Sublist.map _ List.filter_sublist) h

theorem distinct_map {β : Type} (f : String → α → β) {t : Table α} (h : t.Distinct) :
    (t.map f).Distinct := by
  rw [Distinct, map, List.map_map]
  exact h

theorem names_map {β : Type} (f : String → α → β) (t : Table α) : (t.map f).names = t.names := by
  simp only [names, map, List.map_map, Function.comp_def]

theorem find?_of_mem {t : Table α} (h : t.Distinct) {name : String} {value : α}
    (mem : (name, value) ∈ t.rows) : t.find? name = some value := by
  obtain ⟨rows⟩ := t
  have h : (rows.map (·.1)).Nodup := h
  have mem : (name, value) ∈ rows := mem
  obtain ⟨before, after, rfl⟩ := List.append_of_mem mem
  refine List.lookup_eq_some_iff.2 ⟨before, after, rfl, fun row inside => ?_⟩
  rw [List.map_append, List.map_cons] at h
  have different := (List.nodup_append.1 h).2.2 row.1 (List.mem_map_of_mem inside) name
    List.mem_cons_self
  exact bne_iff_ne.2 different.symm

/-- The names of a table are the names of its rows. -/
theorem perm_names {t : Table α} (h : t.Distinct) : t.names.names.Perm (t.rows.map (·.1)) :=
  (List.perm_ext_iff_of_nodup t.names.nodup h).2 fun _ => NameSet.mem_ofList

theorem names_congr {β : Type} {a : Table α} {b : Table β}
    (h : ∀ name, a.contains name = b.contains name) : a.names = b.names := by
  refine NameSet.ext_mem ?_
  intro name
  rw [mem_names, mem_names, h]

theorem of_find?_erase {t : Table α} {name other : String} {value : α}
    (h : (t.erase name).find? other = some value) :
    other ≠ name ∧ t.find? other = some value := by
  rw [find?_erase] at h
  split at h
  · cases h
  · rename_i different
    exact ⟨different, h⟩

/-! ## Putting many rows -/

theorem find?_isSome_iff {rows : List (String × α)} {name : String} :
    (rows.lookup name).isSome = true ↔ name ∈ rows.map (·.1) := by
  simp

theorem mem_of_lookup {rows : List (String × α)} {name : String} {value : α}
    (h : rows.lookup name = some value) : (name, value) ∈ rows := by
  obtain ⟨before, after, rfl, -⟩ := List.lookup_eq_some_iff.1 h
  simp

/-- What is found after putting rows is in them, or was there before. -/
theorem find?_putAll {rows : List (String × α)} {t : Table α} {name : String} {value : α}
    (h : (rows.foldl (fun t row => t.put row.1 row.2) t).find? name = some value) :
    (name, value) ∈ rows ∨ t.find? name = some value := by
  rw [find?_foldl_put] at h
  cases found : rows.reverse.lookup name with
  | none =>
    rw [found] at h
    exact .inr h
  | some v =>
    rw [found] at h
    cases h
    exact .inl (List.mem_reverse.1 (mem_of_lookup found))

theorem contains_putAll {rows : List (String × α)} {t : Table α} {name : String} :
    (rows.foldl (fun t row => t.put row.1 row.2) t).contains name = true ↔
      name ∈ rows.map (·.1) ∨ t.contains name = true := by
  rw [contains, find?_foldl_put, contains]
  cases found : rows.reverse.lookup name with
  | none =>
    have outside : name ∉ rows.map (·.1) := by
      intro mem
      rw [← List.mem_reverse, ← List.map_reverse, ← find?_isSome_iff, found] at mem
      cases mem
    simp [outside]
  | some v =>
    have inside : name ∈ rows.map (·.1) :=
      List.mem_map.2 ⟨_, List.mem_reverse.1 (mem_of_lookup found), rfl⟩
    simp [inside]

theorem distinct_ofRows (rows : List (String × α)) : (ofRows rows).Distinct := by
  have all (start : Table α) (h : start.Distinct) :
      (rows.foldl (fun t row => t.put row.1 row.2) start).Distinct := by
    induction rows generalizing start with
    | nil => exact h
    | cons row rest ih => exact ih _ (distinct_put h row.1 row.2)
  exact all .empty distinct_empty

theorem mem_of_mem_ofRows {rows : List (String × α)} {row : String × α}
    (h : row ∈ (ofRows rows).rows) : row ∈ rows := by
  rcases find?_putAll (find?_of_mem (distinct_ofRows rows) h) with mem | nowhere
  · exact mem
  · cases nowhere

theorem mem_names_ofRows {rows : List (String × α)} {name : String}
    (h : name ∈ rows.map (·.1)) : name ∈ (ofRows rows).rows.map (·.1) := by
  rw [← find?_isSome_iff]
  exact contains_putAll.2 (.inl h)

theorem lookup_map_names (names : List String) (value : String → α) (name : String) :
    (names.map fun n => (n, value n)).lookup name =
      if name ∈ names then some (value name) else none := by
  induction names with
  | nil => rfl
  | cons n rest ih =>
    by_cases own : name = n
    · simp [own]
    · simp [List.lookup_cons, beq_false_of_ne own, own, ih]

/-- What rows say of one name each is what is found in their table. -/
theorem find?_ofRows_map (names : List String) (value : String → α) (name : String) :
    (ofRows (names.map fun n => (n, value n))).find? name =
      if name ∈ names then some (value name) else none := by
  rw [find?_ofRows, ← List.map_reverse, lookup_map_names]
  simp only [List.mem_reverse]

end Table

/-! ## Records -/

namespace Records

variable (records : Records) (feature other key another : String)

theorem contains_ensure :
    (records.ensure feature).contains other =
      (decide (other = feature) || records.contains other) := by
  unfold ensure
  cases h : records.contains feature with
  | true =>
    by_cases same : other = feature
    · simp [same, h]
    · simp [same]
  | false => exact Table.contains_put ..

theorem contains_clear : (records.clear feature).contains other = records.contains other := by
  unfold clear
  cases h : records.contains feature with
  | true =>
    rw [if_pos rfl, Table.contains_put]
    by_cases same : other = feature
    · simp [same, h]
    · simp [same]
  | false => rfl

theorem contains_remove :
    (records.remove feature).contains other =
      (decide (other ≠ feature) && records.contains other) :=
  Table.contains_erase ..

theorem contains_putCell (cell : Cell) :
    (records.putCell feature key cell).contains other =
      (decide (other = feature) || records.contains other) := Table.contains_put ..

theorem contains_eraseCell :
    (records.eraseCell feature key).contains other = records.contains other := by
  unfold eraseCell
  split
  · rename_i cells found
    rw [Table.contains_put]
    by_cases same : other = feature
    · simp [same, Table.contains_of_find? found]
    · simp [same]
  · rfl

theorem cell?_of_missing {records : Records} {feature : String}
    (h : records.contains feature = false) (key : String) : records.cell? feature key = none := by
  rw [cell?, Table.find?_eq_none h]
  rfl

theorem cell?_put_empty :
    cell? (records.put feature .empty) other key =
      if other = feature then none else records.cell? other key := by
  rw [cell?, Table.find?_put]
  split
  · rfl
  · rfl

theorem cell?_ensure : (records.ensure feature).cell? other key = records.cell? other key := by
  unfold ensure
  cases h : records.contains feature with
  | true => rfl
  | false =>
    rw [if_neg Bool.false_ne_true, cell?_put_empty]
    split
    · rename_i same
      rw [same, cell?_of_missing h]
    · rfl

theorem cell?_clear :
    (records.clear feature).cell? other key =
      if other = feature then none else records.cell? other key := by
  unfold clear
  cases h : records.contains feature with
  | true => exact cell?_put_empty ..
  | false =>
    rw [if_neg Bool.false_ne_true]
    split
    · rename_i same
      rw [same, cell?_of_missing h]
    · rfl

theorem cell?_remove :
    (records.remove feature).cell? other key =
      if other = feature then none else records.cell? other key := by
  rw [cell?, remove, Table.find?_erase]
  split
  · rfl
  · rfl

theorem cell?_putCell (cell : Cell) :
    (records.putCell feature key cell).cell? other another =
      if other = feature ∧ another = key then some cell else records.cell? other another := by
  rw [cell?, putCell, Table.find?_put]
  by_cases same : other = feature
  · rw [if_pos same, Option.bind_some, Table.find?_put, same]
    by_cases own : another = key
    · rw [if_pos own, if_pos ⟨rfl, own⟩]
    · rw [if_neg own, if_neg fun both => own both.2, cell?]
      cases records.find? feature <;> rfl
  · rw [if_neg same, if_neg fun both => same both.1]
    rfl

theorem cell?_eraseCell :
    (records.eraseCell feature key).cell? other another =
      if other = feature ∧ another = key then none else records.cell? other another := by
  unfold eraseCell
  split
  · rename_i cells found
    rw [cell?, Table.find?_put]
    by_cases same : other = feature
    · rw [if_pos same, Option.bind_some, Table.find?_erase, same]
      by_cases own : another = key
      · rw [if_pos own, if_pos ⟨rfl, own⟩]
      · rw [if_neg own, if_neg fun both => own both.2, cell?, found]
        rfl
    · rw [if_neg same, if_neg fun both => same both.1]
      rfl
  · rename_i missing
    split
    · rename_i own
      rw [own.1, cell?, missing]
      rfl
    · rfl

/-! ### Names, each once -/

variable {records}

theorem distinct_ensure (h : records.Distinct) : (records.ensure feature).Distinct := by
  unfold ensure
  split
  · exact h
  · exact Table.distinct_put h ..

theorem distinct_clear (h : records.Distinct) : (records.clear feature).Distinct := by
  unfold clear
  split
  · exact Table.distinct_put h ..
  · exact h

theorem distinct_putCell (h : records.Distinct) (cell : Cell) :
    (records.putCell feature key cell).Distinct := Table.distinct_put h ..

theorem distinct_eraseCell (h : records.Distinct) : (records.eraseCell feature key).Distinct := by
  unfold eraseCell
  split
  · exact Table.distinct_put h ..
  · exact h

/-! ### What readers find -/

theorem get_readCells (cells : Cells) :
    Entries.get (readCells cells) key = ((cells.find? key).map (·.read key)).getD .null := by
  obtain ⟨rows⟩ := cells
  have found : Entries.get? (rows.map fun row => (Value.text row.1, row.2.read row.1)) key =
      (rows.lookup key).map (·.read key) := by
    induction rows with
    | nil => rfl
    | cons row rest ih =>
      obtain ⟨n, c⟩ := row
      rw [List.map_cons, Entries.get?]
      by_cases same : n = key
      · subst same
        simp
      · rw [if_neg same, ih, List.lookup_cons, beq_false_of_ne fun e => same e.symm]
  exact congrArg (·.getD Value.null) found

/-- A reader finds under a key what the cell there is read as. -/
theorem get_readFeature (records : Records) :
    Entries.get (records.readFeature feature) key =
      ((records.cell? feature key).map (·.read key)).getD .null := by
  rw [readFeature, get_readCells, cell?]
  cases records.find? feature <;> rfl

end Records

/-- Gates that do not keep documents are read as what is kept. -/
theorem Cell.read_plain {gate : Gate} (h : gate.dataType ≠ .document) (value : Value) :
    (Cell.plain value).read gate.key = value := by
  cases gate with
  | expression => exact absurd rfl h
  | _ => rfl

/-- The typed values of a raw record depend on the values of the six gates
alone, and of those that are sets on the names they hold. -/
theorem GateValues.ofEntries_congr {a b : Entries}
    (h : ∀ gate : Gate, gate.dataType ≠ .set → Entries.get a gate.key = Entries.get b gate.key)
    (hs : ∀ gate : Gate, gate.dataType = .set →
      Raw.toNames (Entries.get a gate.key) = Raw.toNames (Entries.get b gate.key)) :
    ofEntries a = ofEntries b := by
  simp only [ofEntries, h .boolean (by decide), h .expression (by decide), hs .actor rfl,
    hs .group rfl, h .percentageOfActors (by decide), h .percentageOfTime (by decide)]

namespace Records

/-- The typed values of a feature are decided by its cells. -/
theorem typed_congr {a b : Records} {feature : String}
    (h : ∀ key, a.cell? feature key = b.cell? feature key) :
    GateValues.ofEntries (a.readFeature feature) =
      GateValues.ofEntries (b.readFeature feature) := by
  have same (gate : Gate) : Entries.get (a.readFeature feature) gate.key =
      Entries.get (b.readFeature feature) gate.key := by
    rw [get_readFeature, get_readFeature, h]
  exact GateValues.ofEntries_congr (fun gate _ => same gate) fun gate _ => by rw [same]

end Records

end FeatureGates
