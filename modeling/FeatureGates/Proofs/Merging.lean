import FeatureGates.Settings.Merge

/-!
# The algebra of merging

Records of text keys, as far as records lie in records (`Entries.Nested`), are
told by two things: which names they have, in order, and what stands under
each of them (`Entries.Nested.ext`). Merging is told by the same two. The names
of the upper record that are new come last, and what stands under a name is
what stood there in the lower one, with what stands there in the upper one, if
anything does, laid over it (`Value.layer`).

So the laws of merging are laws of `Value.layer`, and those hold by induction
over the records within the uppermost record. Three records can be merged in
either order unless the one between has, at some path, something that is no
record where the outer two have records: it hides the record below from the
one above, and only when it is laid over that first
(`Value.mergeEntries_assoc_iff`). All the laws, with what a merged record has
under each name (`Value.IsMerged`), are in `Value.MergesLawfully`.
-/

namespace FeatureGates

/-! ## Entries by name -/

namespace Value

theorem equals_text_iff {key : Value} {name : String} :
    key.equals (.text name) = true ↔ key = .text name := by
  cases key with
  | scalar s => cases s <;> simp [equals, Scalar.equals, Scalar.asNumber?, Scalar.strictEquals]
  | _ => simp [equals]

theorem text_or_not (key : Value) : (∃ name, key = .text name) ∨ ∀ name, key ≠ .text name := by
  by_cases text : ∃ name, key = .text name
  · exact .inl text
  · exact .inr fun name same => text ⟨name, same⟩

end Value

namespace Entries

/-- The texts among the keys, in order. -/
def names : Entries → List String
  | [] => []
  | (.text name, _) :: rest => name :: names rest
  | _ :: rest => names rest

section

variable {key : Value} (other : ∀ name, key ≠ .text name) (value : Value) (rest : Entries)

include other

theorem get?_of_not_text (name : String) : get? ((key, value) :: rest) name = rest.get? name := by
  rw [get?]
  rintro own _ ⟨⟩
  exact other own rfl

theorem names_of_not_text : names ((key, value) :: rest) = rest.names := by
  rw [names]
  rintro own _ ⟨⟩
  exact other own rfl

end

theorem find?_text (entries : Entries) (name : String) :
    entries.find? (.text name) = entries.get? name := by
  induction entries with
  | nil => rfl
  | cons entry rest ih =>
    obtain ⟨key, value⟩ := entry
    rcases key.text_or_not with ⟨own, rfl⟩ | other
    · simp [find?, get?, Value.equals_text_iff, ih]
    · simp [find?, get?_of_not_text other, Value.equals_text_iff, other, ih]

theorem get?_put (entries : Entries) (name other : String) (value : Value) :
    (entries.put (.text name) value).get? other =
      if name = other then some value else entries.get? other := by
  induction entries with
  | nil => simp [put, get?]
  | cons entry rest ih =>
    obtain ⟨key, old⟩ := entry
    rcases key.text_or_not with ⟨own, rfl⟩ | foreign
    · by_cases same : own = name
      · subst same
        simp only [put, Value.equals_text_iff.2, if_true, get?]
        split <;> rfl
      · simp only [put, Value.equals_text_iff, Value.scalar.injEq, Scalar.text.injEq, same,
          if_false, get?, ih]
        by_cases found : own = other
        · simp [found, show name ≠ other from found ▸ Ne.symm same]
        · simp [found]
    · simp [put, get?_of_not_text foreign, Value.equals_text_iff, foreign, ih]

theorem names_put (entries : Entries) (name : String) (value : Value) :
    (entries.put (.text name) value).names =
      if name ∈ entries.names then entries.names else entries.names ++ [name] := by
  induction entries with
  | nil => rfl
  | cons entry rest ih =>
    obtain ⟨key, old⟩ := entry
    rcases key.text_or_not with ⟨own, rfl⟩ | foreign
    · by_cases same : own = name
      · subst same
        simp [put, Value.equals_text_iff.2, names]
      · simp only [put, Value.equals_text_iff, Value.scalar.injEq, Scalar.text.injEq, same,
          if_false, names, ih, List.mem_cons, Ne.symm same, false_or]
        split <;> rfl
    · simp [put, names_of_not_text foreign, Value.equals_text_iff, foreign, ih]

theorem get?_eq_none {entries : Entries} {name : String} :
    entries.get? name = none ↔ name ∉ entries.names := by
  induction entries with
  | nil => simp [get?, names]
  | cons entry rest ih =>
    obtain ⟨key, value⟩ := entry
    rcases key.text_or_not with ⟨own, rfl⟩ | foreign
    · simp only [get?, names, List.mem_cons, not_or, ← ih]
      split <;> simp_all [eq_comm]
    · simp [get?_of_not_text foreign, names_of_not_text foreign, ih]

end Entries

/-! ## Nested records -/

/-- Entries under different texts, as are the entries of the records among their values. -/
inductive Entries.Nested : Entries → Prop
  | nil : Nested []
  | cons {name : String} {value : Value} {rest : Entries} :
      (∀ inner, value = .record inner → Nested inner) → name ∉ rest.names → Nested rest →
      Nested ((.text name, value) :: rest)

/-- A record is a nested one; anything else is a leaf. -/
def Value.IsNested (value : Value) : Prop :=
  ∀ inner, value = .record inner → Entries.Nested inner

namespace Entries.Nested

variable {base upper : Entries} {name : String} {value : Value}

theorem get? (h : upper.Nested) (found : upper.get? name = some value) : value.IsNested := by
  induction h with
  | nil => cases found
  | cons inner fresh rest ihInner ih =>
    simp only [Entries.get?] at found
    split at found
    · cases found
      exact inner
    · exact ih found

/-- What holds of nested entries if it holds of all records among their values holds of all. -/
theorem induction {motive : ∀ entries : Entries, entries.Nested → Prop}
    (step : ∀ (entries : Entries) (h : entries.Nested),
      (∀ name inner (found : entries.get? name = some (.record inner)),
        motive inner (h.get? found inner rfl)) → motive entries h)
    (h : upper.Nested) : motive upper h := by
  refine step upper h ?_
  induction h with
  | nil => nofun
  | @cons own value rest inner fresh nested ihInner ih =>
    intro name entries found
    have found' := found
    simp only [Entries.get?] at found'
    split at found'
    · cases found'
      exact step entries (inner entries rfl) (ihInner entries rfl)
    · exact ih name entries found'

/-- Nested entries are told by their names and by what stands under each. -/
theorem ext {a b : Entries} (ha : a.Nested) (hb : b.Nested) (names : a.names = b.names)
    (same : ∀ name, a.get? name = b.get? name) : a = b := by
  induction ha generalizing b with
  | nil =>
    cases hb with
    | nil => rfl
    | cons => cases names
  | @cons name value rest inner fresh nested ihInner ih =>
    cases hb with
    | nil => cases names
    | @cons name' value' rest' inner' fresh' nested' =>
      obtain ⟨rfl, others⟩ : name = name' ∧ rest.names = rest'.names := List.cons.inj names
      have first := same name
      simp only [Entries.get?, if_true, Option.some.injEq] at first
      subst first
      refine congrArg _ (ih nested' others fun other => ?_)
      by_cases own : name = other
      · subst own
        rw [get?_eq_none.2 fresh, get?_eq_none.2 fresh']
      · simpa [Entries.get?, own] using same other

theorem put (h : base.Nested) (nested : value.IsNested) :
    (base.put (.text name) value).Nested := by
  induction h with
  | nil => exact .cons nested (by simp [names]) .nil
  | @cons own old rest inner fresh tail ihInner ih =>
    by_cases same : own = name
    · subst same
      simp only [Entries.put, Value.equals_text_iff.2, if_true]
      exact .cons nested fresh tail
    · simp only [Entries.put, Value.equals_text_iff, Value.scalar.injEq, Scalar.text.injEq, same,
        if_false]
      refine .cons inner ?_ ih
      rw [names_put]
      split
      · exact fresh
      · simp [fresh, same]

end Entries.Nested

/-! ## What merging does under one name -/

namespace Value

/-- What stands in the upper record, if anything does, over what stands in the lower one. -/
def layer (under : Option Value) : Option Value → Option Value
  | none => under
  | some value => some (laidOver under value)

theorem record_or_leaf (value : Value) :
    (∃ entries, value = .record entries) ∨ ∀ entries, value ≠ .record entries := by
  by_cases record : ∃ entries, value = .record entries
  · exact .inl record
  · exact .inr fun entries same => record ⟨entries, same⟩

theorem laidOver_of_leaf {under : Option Value} {value : Value}
    (leaf : ∀ entries, value ≠ .record entries) : laidOver under value = value := by
  cases value with
  | record entries => exact absurd rfl (leaf entries)
  | _ => simp only [laidOver]

theorem laidOver_on_leaf {under : Option Value}
    (leaf : ∀ entries, under ≠ some (.record entries)) (value : Value) :
    laidOver under value = value := by
  rcases value.record_or_leaf with ⟨upper, rfl⟩ | leaf'
  · unfold laidOver
    split
    · exact absurd rfl (leaf _)
    · rfl
  · exact laidOver_of_leaf leaf'

theorem laidOver_none (value : Value) : laidOver none value = value :=
  laidOver_on_leaf (fun _ same => by cases same) value

theorem mergeEntries_cons (base : Entries) (name : String) (value : Value) (rest : Entries) :
    mergeEntries base ((.text name, value) :: rest) =
      mergeEntries (base.put (.text name) (laidOver (base.get? name) value)) rest := by
  rw [mergeEntries, Entries.find?_text]

variable {base upper : Entries}

theorem get?_mergeEntries (base : Entries) (h : upper.Nested) (name : String) :
    (mergeEntries base upper).get? name = layer (base.get? name) (upper.get? name) := by
  induction h generalizing base with
  | nil => rfl
  | @cons own value rest inner fresh nested ihInner ih =>
    rw [mergeEntries_cons, ih, Entries.get?_put]
    by_cases same : own = name
    · subst same
      rw [Entries.get?_eq_none.2 fresh, if_pos rfl]
      simp [Entries.get?, layer]
    · simp [Entries.get?, same]

/-- The new names come last. -/
theorem names_mergeEntries (base : Entries) (h : upper.Nested) :
    (mergeEntries base upper).names =
      base.names ++ upper.names.filter fun name => name ∉ base.names := by
  induction h generalizing base with
  | nil => simp [mergeEntries, Entries.names]
  | @cons own value rest inner fresh nested ihInner ih =>
    rw [mergeEntries_cons, ih, Entries.names_put, Entries.names]
    by_cases there : own ∈ base.names
    · simp [there]
    · have others : rest.names.filter (fun name => name ∉ base.names ++ [own]) =
          rest.names.filter (fun name => name ∉ base.names) := by
        refine List.filter_congr fun name mem => ?_
        have different : name ≠ own := fun same => fresh (same ▸ mem)
        simp [different]
      rw [if_neg there, others, List.filter_cons_of_pos (by simpa using there)]
      simp

theorem isNested_laidOver {under : Option Value} {value : Value}
    (below : ∀ v ∈ under, v.IsNested) (above : value.IsNested)
    (merged : ∀ base upper : Entries, base.Nested → value = .record upper →
      (mergeEntries base upper).Nested) : (laidOver under value).IsNested := by
  intro inner eq
  unfold laidOver at eq
  split at eq
  · split at eq
    · cases eq
      exact merged _ _ (below _ rfl _ rfl) rfl
    · cases eq
      exact above _ rfl
  · exact above _ eq

theorem nested_mergeEntries (ha : base.Nested) (hb : upper.Nested) :
    (mergeEntries base upper).Nested := by
  induction hb generalizing base with
  | nil => exact ha
  | @cons own value rest inner fresh nested ihInner ih =>
    rw [mergeEntries_cons]
    refine ih (ha.put ?_)
    refine isNested_laidOver (fun v found => ha.get? found) inner fun base upper hbase eq => ?_
    exact ihInner upper eq hbase

end Value

/-! ## The laws -/

namespace Value

variable {a b c : Entries}

theorem mergeEntries_nil_left (h : b.Nested) : mergeEntries [] b = b := by
  refine (nested_mergeEntries .nil h).ext h ?_ fun name => ?_
  · simp [names_mergeEntries [] h, Entries.names]
  · rw [get?_mergeEntries [] h]
    cases found : b.get? name with
    | none => rfl
    | some value =>
      exact congrArg some (laidOver_none value)

/-- Laying the same over it once more changes nothing. -/
theorem mergeEntries_again (ha : a.Nested) (hb : b.Nested) :
    mergeEntries (mergeEntries a b) b = mergeEntries a b := by
  induction hb using Entries.Nested.induction generalizing a with
  | step b hb ih =>
    have hab := nested_mergeEntries ha hb
    refine (nested_mergeEntries hab hb).ext hab ?_ fun name => ?_
    · have none_new : b.names.filter (fun name => name ∉ (mergeEntries a b).names) = [] := by
        rw [List.filter_eq_nil_iff]
        intro name mem
        by_cases there : name ∈ a.names <;> simp [names_mergeEntries a hb, there, mem]
      rw [names_mergeEntries _ hb, none_new, List.append_nil]
    · rw [get?_mergeEntries _ hb, get?_mergeEntries a hb]
      cases found : b.get? name with
      | none => rfl
      | some value =>
        simp only [layer, Option.some.injEq]
        rcases value.record_or_leaf with ⟨inner, rfl⟩ | leaf
        · by_cases below : ∃ lower, a.get? name = some (.record lower)
          · obtain ⟨lower, below⟩ := below
            simp only [below, laidOver, ih name inner found (ha.get? below lower rfl)]
          · have itself := ih name inner found .nil
            rw [mergeEntries_nil_left (hb.get? found inner rfl)] at itself
            rw [laidOver_on_leaf (fun lower h => below ⟨lower, h⟩)]
            simp only [laidOver, itself]
        · rw [laidOver_of_leaf leaf, laidOver_of_leaf leaf]

/-! ## Paths -/

/-- The value at the end of a path of names, from record to record. -/
def at? : List String → Value → Option Value
  | [], value => some value
  | name :: path, .record entries => (Entries.get? entries name).bind (at? path)
  | _ :: _, _ => none

/-- At the path there are records in the outer two values, and something that is no record in
the one between. -/
structure Hides (x y z : Option Value) (path : List String) (lower upper : Entries) : Prop where
  below : x.bind (at? path) = some (.record lower)
  between : ∃ value, y.bind (at? path) = some value ∧ ∀ entries, value ≠ .record entries
  above : z.bind (at? path) = some (.record upper)

theorem at?_leaf {value : Value} (leaf : ∀ entries, value ≠ .record entries) {path : List String}
    {found : Value} (h : value.at? path = some found) : path = [] ∧ found = value := by
  cases path with
  | nil =>
    cases h
    exact ⟨rfl, rfl⟩
  | cons name path =>
    unfold at? at h
    split at h <;> simp_all

theorem not_hides_nil {lower upper : Entries} :
    ¬Hides (some (.record a)) (some (.record b)) (some (.record c)) [] lower upper := by
  intro hides
  obtain ⟨value, found, leaf⟩ := hides.between
  cases found
  exact leaf b rfl

theorem hides_cons {name : String} {path : List String} {lower upper : Entries} :
    Hides (some (.record a)) (some (.record b)) (some (.record c)) (name :: path) lower upper ↔
      Hides (a.get? name) (b.get? name) (c.get? name) path lower upper :=
  ⟨fun ⟨below, between, above⟩ => ⟨below, between, above⟩,
    fun ⟨below, between, above⟩ => ⟨below, between, above⟩⟩

/-- Whatever is hidden would not have made a difference. -/
def HidesNothing (x y z : Option Value) : Prop :=
  ∀ path lower upper, Hides x y z path lower upper → mergeEntries lower upper = upper

/-- Nothing is hidden in a record if nothing is under any name. -/
theorem hidesNothing_record :
    HidesNothing (some (.record a)) (some (.record b)) (some (.record c)) ↔
      ∀ name, HidesNothing (a.get? name) (b.get? name) (c.get? name) := by
  constructor
  · intro h name path lower upper hides
    exact h (name :: path) lower upper (hides_cons.2 hides)
  · intro h path lower upper hides
    cases path with
    | nil => exact absurd hides not_hides_nil
    | cons name path => exact h name path lower upper (hides_cons.1 hides)

/-- Only a record has records within it. -/
theorem record_of_at? {x : Option Value} {path : List String} {entries : Entries}
    (h : x.bind (at? path) = some (.record entries)) : ∃ outer, x = some (.record outer) := by
  cases x with
  | none => cases h
  | some value =>
    rcases value.record_or_leaf with ⟨outer, rfl⟩ | leaf
    · exact ⟨outer, rfl⟩
    · obtain ⟨-, same⟩ := at?_leaf leaf h
      exact absurd same.symm (leaf entries)

/-- What lies between is of no account if one of the outer two is no record. -/
theorem hidesNothing_of_leaf {x z : Option Value} (y : Option Value)
    (leaf : (∀ entries, x ≠ some (.record entries)) ∨ ∀ entries, z ≠ some (.record entries)) :
    HidesNothing x y z := by
  intro path lower upper hides
  obtain ⟨a, below⟩ := record_of_at? hides.below
  obtain ⟨c, above⟩ := record_of_at? hides.above
  exact (leaf.elim (fun leaf => leaf a below) fun leaf => leaf c above).elim

/-- A leaf hides the record under it from the one over it. -/
theorem hidesNothing_leaf_iff {value : Value} (leaf : ∀ entries, value ≠ .record entries) :
    HidesNothing (some (.record a)) (some value) (some (.record c)) ↔ mergeEntries a c = c := by
  constructor
  · intro h
    exact h [] a c ⟨rfl, ⟨value, rfl, leaf⟩, rfl⟩
  · rintro same path lower upper ⟨below, ⟨found, between, -⟩, above⟩
    obtain ⟨rfl, -⟩ := at?_leaf leaf between
    cases below
    cases above
    exact same

theorem layer_assoc_of_leaf {x z : Option Value} (y : Option Value)
    (leaf : (∀ entries, x ≠ some (.record entries)) ∨ ∀ entries, z ≠ some (.record entries)) :
    layer (layer x y) z = layer x (layer y z) := by
  cases z with
  | none => rfl
  | some value =>
    rcases leaf with lowest | highest
    · cases y with
      | none => simp only [layer, laidOver_on_leaf lowest, laidOver_none]
      | some between => simp only [layer, laidOver_on_leaf lowest]
    · have leaf : ∀ entries, value ≠ .record entries := fun entries h => highest entries (h ▸ rfl)
      simp only [layer, laidOver_of_leaf leaf]

/-- What stands under one name in three records can be merged in either order if the one between
hides nothing, and only then. -/
theorem layer_assoc_iff {x y z : Option Value} (hx : ∀ v ∈ x, v.IsNested)
    (hy : ∀ v ∈ y, v.IsNested)
    (inner : ∀ a b c : Entries, a.Nested → b.Nested → z = some (.record c) →
      (mergeEntries (mergeEntries a b) c = mergeEntries a (mergeEntries b c) ↔
        HidesNothing (some (.record a)) (some (.record b)) (some (.record c)))) :
    layer (layer x y) z = layer x (layer y z) ↔ HidesNothing x y z := by
  by_cases outer : (∃ a, x = some (.record a)) ∧ ∃ c, z = some (.record c)
  · obtain ⟨⟨a, rfl⟩, c, rfl⟩ := outer
    cases y with
    | none =>
      refine iff_of_true ?_ fun path lower upper hides => ?_
      · simp only [layer, laidOver_none]
      · obtain ⟨value, found, -⟩ := hides.between
        cases found
    | some between =>
      rcases between.record_or_leaf with ⟨b, rfl⟩ | leaf
      · simp only [layer, laidOver, Option.some.injEq, record.injEq]
        exact inner a b c (hx _ rfl a rfl) (hy _ rfl b rfl) rfl
      · have above : laidOver (some between) (.record c) = .record c :=
          laidOver_on_leaf (fun entries h => leaf entries (Option.some.inj h)) _
        have below : laidOver (some (.record a)) (.record c) = .record (mergeEntries a c) := by
          simp only [laidOver]
        simp only [layer, laidOver_of_leaf leaf, above, below, Option.some.injEq, record.injEq]
        rw [hidesNothing_leaf_iff leaf, eq_comm]
  · have leaf : (∀ entries, x ≠ some (.record entries)) ∨
        ∀ entries, z ≠ some (.record entries) := by
      by_cases lowest : ∃ a, x = some (.record a)
      · exact .inr fun c h => outer ⟨lowest, c, h⟩
      · exact .inl fun a h => lowest ⟨a, h⟩
    exact iff_of_true (layer_assoc_of_leaf y leaf) (hidesNothing_of_leaf y leaf)

/-- Three records can be merged in either order if the one between hides nothing, and only then. -/
theorem mergeEntries_assoc_iff (ha : a.Nested) (hb : b.Nested) (hc : c.Nested) :
    mergeEntries (mergeEntries a b) c = mergeEntries a (mergeEntries b c) ↔
      HidesNothing (some (.record a)) (some (.record b)) (some (.record c)) := by
  induction hc using Entries.Nested.induction generalizing a b with
  | step c hc ih =>
    have hab := nested_mergeEntries ha hb
    have hbc := nested_mergeEntries hb hc
    have names : (mergeEntries (mergeEntries a b) c).names =
        (mergeEntries a (mergeEntries b c)).names := by
      simp only [names_mergeEntries _ hc, names_mergeEntries _ hb, names_mergeEntries _ hbc,
        List.filter_append, List.filter_filter, List.append_assoc]
      refine congrArg _ (congrArg _ (List.filter_congr fun name mem => ?_))
      by_cases first : name ∈ a.names <;> by_cases second : name ∈ b.names <;> simp [first, second]
    have told : mergeEntries (mergeEntries a b) c = mergeEntries a (mergeEntries b c) ↔
        ∀ name, layer (layer (a.get? name) (b.get? name)) (c.get? name) =
          layer (a.get? name) (layer (b.get? name) (c.get? name)) := by
      simp only [← get?_mergeEntries _ hb, ← get?_mergeEntries _ hc, ← get?_mergeEntries _ hbc]
      exact ⟨fun same _ => same ▸ rfl,
        (nested_mergeEntries hab hc).ext (nested_mergeEntries ha hbc) names⟩
    rw [told, hidesNothing_record]
    refine forall_congr' fun name => layer_assoc_iff (fun v => ha.get?) (fun v => hb.get?) ?_
    exact fun a b inner ha hb found => ih name inner found ha hb

/-! ## Merging values -/

theorem deepMerge_record (a b : Entries) :
    (record a).deepMerge (.record b) = .ok (.record (mergeEntries a b)) := rfl

/-- A record is merged from two, name by name: what the lower one has is kept where the upper one
has nothing, two records are merged in turn, and all else is replaced. -/
structure IsMerged (a b ab : Entries) : Prop where
  kept (name : String) : b.get? name = none → ab.get? name = a.get? name
  merged (name : String) (lower upper : Entries) : a.get? name = some (.record lower) →
    b.get? name = some (.record upper) →
    ∃ both, (record lower).deepMerge (.record upper) = .ok both ∧ ab.get? name = some both
  replaced (name : String) (value : Value) : b.get? name = some value →
    (¬∃ lower upper, a.get? name = some (.record lower) ∧ value = .record upper) →
    ab.get? name = some value

theorem isMerged_mergeEntries (a : Entries) (h : b.Nested) : IsMerged a b (mergeEntries a b) where
  kept name none := by rw [get?_mergeEntries a h, none, layer]
  merged name lower upper below above := by
    refine ⟨_, deepMerge_record lower upper, ?_⟩
    rw [get?_mergeEntries a h, below, above]
    simp only [layer, laidOver]
  replaced name value above apart := by
    rw [get?_mergeEntries a h, above, layer]
    rcases value.record_or_leaf with ⟨upper, rfl⟩ | leaf
    · rw [laidOver_on_leaf fun lower below => apart ⟨lower, upper, below, rfl⟩]
    · rw [laidOver_of_leaf leaf]

/-- The laws of merging, for three records. -/
structure MergesLawfully (a b c : Entries) : Prop where
  merged : ∃ ab, (record a).deepMerge (.record b) = .ok (.record ab) ∧ IsMerged a b ab
  right_empty : (record a).deepMerge .emptyRecord = .ok (.record a)
  left_empty : emptyRecord.deepMerge (.record b) = .ok (.record b)
  again : ∃ ab, (record a).deepMerge (.record b) = .ok ab ∧ ab.deepMerge (.record b) = .ok ab
  assoc : (¬∃ path lower upper,
      Hides (some (.record a)) (some (.record b)) (some (.record c)) path lower upper) →
    ∃ ab bc abc, (record a).deepMerge (.record b) = .ok ab ∧
      (record b).deepMerge (.record c) = .ok bc ∧
      ab.deepMerge (.record c) = .ok abc ∧ (record a).deepMerge bc = .ok abc
  assoc_iff : (do (← (record a).deepMerge (.record b)).deepMerge (.record c)) =
      (do (record a).deepMerge (← (record b).deepMerge (.record c))) ↔
    HidesNothing (some (.record a)) (some (.record b)) (some (.record c))

/-- Nested records are merged lawfully. -/
theorem merges_lawfully (ha : a.Nested) (hb : b.Nested) (hc : c.Nested) :
    MergesLawfully a b c where
  merged := ⟨_, deepMerge_record a b, isMerged_mergeEntries a hb⟩
  right_empty := rfl
  left_empty := by
    rw [emptyRecord, deepMerge_record, mergeEntries_nil_left hb]
  again := ⟨_, rfl, by rw [deepMerge_record, mergeEntries_again ha hb]⟩
  assoc apart := by
    have none : HidesNothing (some (.record a)) (some (.record b)) (some (.record c)) :=
      fun path lower upper hides => absurd ⟨path, lower, upper, hides⟩ apart
    refine ⟨_, _, _, rfl, rfl, rfl, ?_⟩
    rw [deepMerge_record, (mergeEntries_assoc_iff ha hb hc).2 none]
  assoc_iff := by
    rw [← mergeEntries_assoc_iff ha hb hc]
    show Except.ok (record (mergeEntries (mergeEntries a b) c)) =
      Except.ok (record (mergeEntries a (mergeEntries b c))) ↔ _
    rw [Except.ok.injEq, record.injEq]

/-- The settings between have a section that the outer two have, and in it nothing that they
have. -/
theorem merges_lawfully_sections :
    let lower : Entries := [(.text "log", .record [(.text "level", .text "INFO")]),
      (.text "flipper", .record [(.text "memoize", .bool true)])]
    let between : Entries := [(.text "log", .record [(.text "format", .text "text")])]
    let upper : Entries := [(.text "flipper", .null),
      (.text "log", .record [(.text "level", .text "DEBUG")])]
    (lower.Nested ∧ between.Nested ∧ upper.Nested ∧ ¬∃ path a c,
      Hides (some (.record lower)) (some (.record between)) (some (.record upper)) path a c) ∧
      MergesLawfully lower between upper := by
  intro lower between upper
  have leaf {value : Value} {name : String} (h : ∀ entries, value ≠ .record entries) :
      Entries.Nested [(.text name, value)] :=
    .cons (fun inner same => absurd same (h inner)) (by simp [Entries.names]) .nil
  have hlower : lower.Nested := by
    refine .cons ?_ (by decide) (.cons ?_ (by decide) .nil)
    · rintro inner ⟨⟩
      exact leaf nofun
    · rintro inner ⟨⟩
      exact leaf nofun
  have hbetween : between.Nested := by
    refine .cons ?_ (by decide) .nil
    rintro inner ⟨⟩
    exact leaf nofun
  have hupper : upper.Nested := by
    refine .cons nofun (by decide) (.cons ?_ (by decide) .nil)
    rintro inner ⟨⟩
    exact leaf nofun
  refine ⟨⟨hlower, hbetween, hupper, ?_⟩, merges_lawfully hlower hbetween hupper⟩
  rintro ⟨path, a, c, hides⟩
  cases path with
  | nil => exact not_hides_nil hides
  | cons name path =>
    have within := hides_cons.1 hides
    by_cases log : "log" = name
    · subst log
      cases path with
      | nil => exact not_hides_nil within
      | cons key path =>
        have field := hides_cons.1 within
        by_cases level : "level" = key
        · subst level
          obtain ⟨value, found, -⟩ := field.between
          cases found
        · have below := field.below
          simp [Entries.get?, level] at below
    · obtain ⟨value, found, -⟩ := within.between
      simp [between, Entries.get?, log] at found

/-- Something else than a record between two records makes a difference. -/
example :
    let lower := record [(.text "log", .record [(.text "level", .text "DEBUG")])]
    let between := record [(.text "log", .null)]
    let upper := record [(.text "log", .record [])]
    (do (← lower.deepMerge between).deepMerge upper) = .ok upper ∧
      (do lower.deepMerge (← between.deepMerge upper)) = .ok lower :=
  ⟨by cbv, by cbv⟩

end Value

end FeatureGates
