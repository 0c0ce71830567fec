import FeatureGates.Proofs.Merging
import FeatureGates.Proofs.PrintedValues
import Mathlib.Data.List.Perm.Subperm

/-!
# Comparing stores by comparable forms

Two stores are compared by the comparable forms of what they hold
(`Raw.comparableAll`), in which a truth value or a number of one counts as its
text in the other, and a list as a set of texts. Whether equal forms mean equal
typed values is up to the gates, which do not read a text as the form did.

Records are equal if they have the same names and equal values under each
(`Entries.Keyed.of_equals`), so that it comes down to one value of each store
under one key. Two values of equal forms correspond in one of a few ways
(`Raw.Corresponds`), and a gate reads them alike unless one is a text that it
misreads for the other (`Raw.Corresponds.readAlike_iff`). Features of equal forms
thus have typed values that agree just if their raw ones do not clash
(`Raw.agree_iff_not_clash`).
-/

namespace FeatureGates

/-! Powers of natural numbers are the ones of core. -/

attribute [local instance (2000)] instPowNat

/-! The unit is not to be computed where terms are compared. -/

attribute [local irreducible] unitsPerOne

/-! ## Equal records -/

namespace Value

theorem subrecord_iff (xs ys : Entries) : subrecord xs ys = true ↔
    ∀ x ∈ xs, ∃ y ∈ ys, x.1.equals y.1 = true ∧ x.2.equals y.2 = true := by
  induction xs with
  | nil => simp [subrecord]
  | cons x rest ih =>
    obtain ⟨key, value⟩ := x
    rw [subrecord, Bool.and_eq_true, ih, List.forall_mem_cons, List.any_eq_true]
    simp only [Bool.and_eq_true]

theorem equals_record_iff (a b : Entries) : (record a).equals (record b) = true ↔
    a.length = b.length ∧ ∀ x ∈ a, ∃ y ∈ b, x.1.equals y.1 = true ∧ x.2.equals y.2 = true := by
  rw [equals, Bool.and_eq_true, decide_eq_true_eq, subrecord_iff]

theorem subset_iff (xs ys : List Value) : subset xs ys = true ↔
    ∀ x ∈ xs, ∃ y ∈ ys, x.equals y = true := by
  induction xs with
  | nil => simp [subset]
  | cons x rest ih => simp [subset, ih]

end Value

namespace Entries

/-- Entries under different texts. -/
inductive Keyed : Entries → Prop
  | nil : Keyed []
  | cons {name : String} {rest : Entries} (value : Value) : name ∉ rest.names → Keyed rest →
    Keyed ((.text name, value) :: rest)

variable {a b : Entries}

theorem mem_names_of_get? {name : String} {value : Value} (found : a.get? name = some value) :
    name ∈ a.names := by
  by_contra absent
  cases (get?_eq_none.2 absent).symm.trans found

theorem exists_get? {name : String} (mem : name ∈ a.names) : ∃ value, a.get? name = some value :=
  Option.ne_none_iff_exists'.1 fun none => get?_eq_none.1 none mem

theorem mem_of_get? {name : String} {value : Value} (found : a.get? name = some value) :
    (.text name, value) ∈ a := by
  induction a with
  | nil => cases found
  | cons entry rest ih =>
    obtain ⟨key, other⟩ := entry
    rcases key.text_or_not with ⟨own, rfl⟩ | foreign
    · simp only [get?] at found
      split at found
      · rename_i same
        cases same
        cases found
        exact List.mem_cons_self
      · exact List.mem_cons_of_mem _ (ih found)
    · rw [get?_of_not_text foreign] at found
      exact List.mem_cons_of_mem _ (ih found)

namespace Keyed

theorem nodup (h : a.Keyed) : a.names.Nodup := by
  induction h with
  | nil => exact .nil
  | cons _ fresh _ ih => exact List.nodup_cons.2 ⟨fresh, ih⟩

theorem length_names (h : a.Keyed) : a.names.length = a.length := by
  induction h with
  | nil => rfl
  | cons _ _ _ ih => exact congrArg Nat.succ ih

theorem get?_of_mem (h : a.Keyed) {entry : Value × Value} (mem : entry ∈ a) :
    ∃ name, entry.1 = .text name ∧ a.get? name = some entry.2 := by
  induction h with
  | nil => cases mem
  | @cons own rest value fresh _ ih =>
    rcases List.mem_cons.1 mem with rfl | mem
    · exact ⟨own, rfl, by simp [get?]⟩
    · obtain ⟨name, key, found⟩ := ih mem
      have other : own ≠ name := fun same => fresh (same ▸ mem_names_of_get? found)
      exact ⟨name, key, by simp [get?, other, found]⟩

/-- Equal records have the same names, and equal values under each. -/
theorem of_equals (ha : a.Keyed) (hb : b.Keyed)
    (equal : (Value.record a).equals (.record b) = true) :
    (∀ name, name ∈ a.names ↔ name ∈ b.names) ∧
      ∀ name v w, a.get? name = some v → b.get? name = some w → v.equals w = true := by
  obtain ⟨length, sub⟩ := (Value.equals_record_iff a b).1 equal
  have matched (name : String) (v : Value) (found : a.get? name = some v) :
      ∃ w, b.get? name = some w ∧ v.equals w = true := by
    obtain ⟨entry, mem, key, value⟩ := sub _ (mem_of_get? found)
    obtain ⟨other, own, found'⟩ := hb.get?_of_mem mem
    rw [own, Value.equals_text_iff] at key
    cases key
    exact ⟨_, found', value⟩
  have within : a.names ⊆ b.names := by
    intro name mem
    obtain ⟨v, found⟩ := exists_get? mem
    obtain ⟨w, found', -⟩ := matched name v found
    exact mem_names_of_get? found'
  have many : b.names.length ≤ a.names.length := by
    rw [ha.length_names, hb.length_names]
    exact Nat.le_of_eq length.symm
  refine ⟨fun name => ((ha.nodup.subperm within).perm_of_length_le many).mem_iff, ?_⟩
  intro name v w left right
  obtain ⟨w', right', equal⟩ := matched name v left
  cases right.symm.trans right'
  exact equal

/-- What becomes of the values of a record, one by one, is found under their names. -/
theorem exists_mapM (h : a.Keyed) {f : Value → Except Failure Value}
    (all : ∀ entry ∈ a, ∃ w, f entry.2 = .ok w) :
    ∃ b : Entries, a.mapM (fun entry => do return (entry.1, ← f entry.2)) = .ok b ∧ b.Keyed ∧
      b.names = a.names ∧
        ∀ name v, a.get? name = some v → ∃ w, f v = .ok w ∧ b.get? name = some w := by
  induction h with
  | nil => exact ⟨[], rfl, .nil, rfl, nofun⟩
  | @cons own rest value fresh _ ih =>
    obtain ⟨first, became⟩ := all _ List.mem_cons_self
    obtain ⟨others, mapped, keyed, names, found⟩ := ih fun entry mem =>
      all entry (List.mem_cons_of_mem _ mem)
    refine ⟨(.text own, first) :: others, ?_, .cons first (names ▸ fresh) keyed, ?_, ?_⟩
    · rw [List.mapM_cons, mapped, became]
      rfl
    · simp only [Entries.names, names]
    · intro name v
      simp only [get?]
      split
      · rintro ⟨⟩
        exact ⟨first, became, rfl⟩
      · exact found name v

end Keyed

end Entries

/-! ## Values of equal comparable forms -/

namespace Raw

variable {v w : Value} {gate : Gate}

/-- A stored value and its comparable form. -/
inductive Form : Value → Value → Prop
  | names {v : Value} {items : List Value} {names : NameSet} : items? v = some items →
    toNames v = .ok names → Form v (GateValues.setOfNames names)
  | printed {v : Value} {s : String} : PrintedAs v s → Form v (.text s)
  | text (s : String) : Form (.text s) (.text s)
  | null : Form .null .null
  | record (entries : Entries) : Form (.record entries) (.record entries)

theorem exists_form (h : IsStorable v) : ∃ c, comparable v = .ok c ∧ Form v c := by
  have listed {items : List Value} (held : items? v = some items)
      (form : comparable v = (do return GateValues.setOfNames (← toNames v))) :
      ∃ c, comparable v = .ok c ∧ Form v c := by
    obtain ⟨names, read⟩ := exists_toNames h
    refine ⟨_, ?_, .names held read⟩
    rw [form, read]
    rfl
  cases h with
  | scalar short =>
    obtain ⟨scalar, rfl, short⟩ := short
    cases scalar with
    | null => exact ⟨_, rfl, .null⟩
    | bool b => exact ⟨_, rfl, .printed (.bool b)⟩
    | text s => exact ⟨_, rfl, .text s⟩
    | number n =>
      obtain ⟨s, written⟩ := Scalar.written_of_isShort short
      have written : n.written = .ok s := written
      refine ⟨.text s, ?_, .printed (.number written)⟩
      rw [comparable, written]
      rfl
  | list all => exact listed rfl rfl
  | tuple all => exact listed rfl rfl
  | set all => exact listed rfl rfl
  | record entries => exact ⟨_, rfl, .record entries⟩

/-- The ways in which two values have equal comparable forms. -/
inductive Corresponds : Value → Value → Prop
  | same (v : Value) : Corresponds v v
  | printed {v : Value} {s : String} : PrintedAs v s → Corresponds v (.text s)
  | printing {v : Value} {s : String} : PrintedAs v s → Corresponds (.text s) v
  | names {v w : Value} {items items' : List Value} {names : NameSet} : items? v = some items →
    items? w = some items' → toNames v = .ok names → toNames w = .ok names → Corresponds v w
  | record {a b : Entries} : (Value.record a).equals (.record b) = true →
    Corresponds (.record a) (.record b)

theorem eq_of_equals_setOfNames {a b : NameSet}
    (equal : (GateValues.setOfNames a).equals (GateValues.setOfNames b) = true) : a = b := by
  obtain ⟨length, sub⟩ : a.names.length = b.names.length ∧
      Value.subset (a.names.map .text) (b.names.map .text) = true := by
    simpa [GateValues.setOfNames, Value.equals] using equal
  have within : a.names ⊆ b.names := by
    intro name mem
    obtain ⟨_, listed, same⟩ :=
      (Value.subset_iff _ _).1 sub (.text name) (List.mem_map_of_mem mem)
    obtain ⟨name', mem', rfl⟩ := List.mem_map.1 listed
    obtain rfl : name = name' := by simpa using Value.equals_text_iff.1 same
    exact mem'
  have perm := (a.nodup.subperm within).perm_of_length_le (Nat.le_of_eq length.symm)
  exact NameSet.ext_mem fun name => perm.mem_iff

theorem Form.corresponds {a b : Value} (hv : Form v a) (hw : Form w b)
    (equal : a.equals b = true) : Corresponds v w := by
  cases hv with
  | names held read =>
    cases hw with
    | names held' read' =>
      cases eq_of_equals_setOfNames equal
      exact .names held held' read read'
    | _ => simp [GateValues.setOfNames, Value.equals] at equal
  | printed own =>
    cases hw with
    | printed own' =>
      cases Value.equals_text_iff.1 equal
      cases own.unique own'
      exact .same v
    | text =>
      cases Value.equals_text_iff.1 equal
      exact .printed own
    | _ => simp [GateValues.setOfNames, Value.equals, Scalar.equals, Scalar.asNumber?,
        Scalar.strictEquals] at equal
  | text s =>
    cases hw with
    | printed own' =>
      cases Value.equals_text_iff.1 equal
      exact .printing own'
    | text =>
      cases Value.equals_text_iff.1 equal
      exact .same _
    | _ => simp [GateValues.setOfNames, Value.equals, Scalar.equals, Scalar.asNumber?,
        Scalar.strictEquals] at equal
  | null =>
    cases hw with
    | null => exact .same _
    | _ => simp [GateValues.setOfNames, Value.equals, Scalar.equals, Scalar.asNumber?,
        Scalar.strictEquals] at equal
  | record entries =>
    cases hw with
    | record => exact .record equal
    | _ => simp [GateValues.setOfNames, Value.equals] at equal

/-- A value is typed, unless the gate is of numbers and the value an overlong text. -/
theorem exists_typed_iff (h : IsStorable v) (gate : Gate) :
    (∃ a, typed gate v = .ok a) ↔ ¬Misread gate.dataType v v := by
  unfold typed
  cases gate.dataType with
  | boolean =>
    refine iff_of_true ⟨_, rfl⟩ fun misread => ?_
    obtain ⟨x, rfl, text, -⟩ := misread_boolean_iff.1 misread
    cases text
  | set =>
    obtain ⟨names, read⟩ := exists_toNames h
    exact iff_of_true ⟨_, congrArg (Except.map GateValues.setOfNames) read⟩ nofun
  | document => exact iff_of_true ⟨_, rfl⟩ nofun
  | number =>
    by_cases text : ∃ s, v = .text s
    · obtain ⟨s, rfl⟩ := text
      rw [misread_number_iff]
      rcases toNumber_text_cases s with ⟨long, digits, -, error⟩ | ⟨short, n, read, -⟩
      · refine iff_of_false ?_ (not_not_intro (.inl long))
        rintro ⟨a, ok⟩
        obtain ⟨n, read, -⟩ := exists_of_map_eq_ok ok
        cases error.symm.trans read
      · refine iff_of_true ⟨_, congrArg (Except.map Value.number) read⟩ ?_
        rintro (long | ⟨x, own, -⟩)
        · exact short long
        · cases own
    · refine iff_of_true ?_ fun misread => text (exists_text_of_misread misread)
      cases v with
      | scalar scalar =>
        cases scalar with
        | text s => exact absurd ⟨s, rfl⟩ text
        | _ => exact ⟨_, rfl⟩
      | _ => exact ⟨_, rfl⟩

/-! ## Values that are read alike -/

/-- A gate types both, as values that agree. -/
def ReadAlike (gate : Gate) (v w : Value) : Prop :=
  ∃ a b, typed gate v = .ok a ∧ typed gate w = .ok b ∧ a.Agrees b

theorem ReadAlike.of_eq {a : Value} (hv : typed gate v = .ok a) (hw : typed gate w = .ok a) :
    ReadAlike gate v w :=
  ⟨a, a, hv, hw, a.agrees_self⟩

theorem not_readAlike {a b : Value} (hv : typed gate v = .ok a) (hw : typed gate w = .ok b)
    (apart : ¬a.Agrees b) : ¬ReadAlike gate v w := by
  rintro ⟨a', b', hv', hw', agree⟩
  cases hv.symm.trans hv'
  cases hw.symm.trans hw'
  exact apart agree

/-- Values of equal comparable forms are read alike, unless one is a text misread for the other. -/
theorem Corresponds.readAlike_iff (h : Corresponds v w) (storable : IsStorable v) (gate : Gate) :
    ReadAlike gate v w ↔ ¬(Misread gate.dataType v w ∨ Misread gate.dataType w v) := by
  have alike {v w : Value} (hv : ∀ s, v ≠ .text s) (hw : ∀ s, w ≠ .text s)
      (read : ReadAlike gate v w) :
      ReadAlike gate v w ↔ ¬(Misread gate.dataType v w ∨ Misread gate.dataType w v) := by
    refine iff_of_true read ?_
    rintro (misread | misread)
    · obtain ⟨s, text⟩ := exists_text_of_misread misread
      exact hw s text
    · obtain ⟨s, text⟩ := exists_text_of_misread misread
      exact hv s text
  cases h with
  | same =>
    rw [or_self, ← exists_typed_iff storable]
    constructor
    · rintro ⟨a, b, ok, -⟩
      exact ⟨a, ok⟩
    · rintro ⟨a, ok⟩
      exact .of_eq ok ok
  | @printed _ s own =>
    rw [or_iff_left own.not_misread]
    obtain ⟨a, b, hv, hs, ⟨rfl, read⟩ | ⟨left, -, misread⟩⟩ := own.typed_cases gate
    · exact iff_of_true (.of_eq hv hs) read
    · exact iff_of_false (not_readAlike hv hs left) (not_not_intro misread)
  | @printing _ s own =>
    rw [or_iff_right own.not_misread]
    obtain ⟨a, b, hv, hs, ⟨rfl, read⟩ | ⟨-, right, misread⟩⟩ := own.typed_cases gate
    · exact iff_of_true (.of_eq hs hv) read
    · exact iff_of_false (not_readAlike hs hv right) (not_not_intro misread)
  | names held held' read read' =>
    have apart {v : Value} {items : List Value} (held : items? v = some items) (s : String) :
        v ≠ .text s := by
      rintro rfl
      cases held
    obtain ⟨closed, none, nought⟩ := typed_of_items held
    obtain ⟨closed', none', nought'⟩ := typed_of_items held'
    refine alike (apart held) (apart held') ?_
    unfold ReadAlike typed
    rw [closed, none, nought, read, closed', none', nought', read']
    cases gate.dataType <;> exact ⟨_, _, rfl, rfl, Value.agrees_self _⟩
  | @record a b equal =>
    refine alike nofun nofun ?_
    have length := ((Value.equals_record_iff a b).1 equal).1
    unfold ReadAlike typed
    cases gate.dataType with
    | document =>
      refine ⟨_, _, rfl, rfl, ?_⟩
      cases a with
      | nil =>
        cases b with
        | nil => exact Value.agrees_self _
        | cons => cases length
      | cons =>
        cases b with
        | nil => cases length
        | cons => exact .inr equal
    | _ => exact ⟨_, _, rfl, rfl, Value.agrees_self _⟩

/-! ## Features -/

/-- Storable values under different keys. -/
structure IsFeature (gates : Entries) : Prop where
  keyed : gates.Keyed
  storable : ∀ entry ∈ gates, IsStorable entry.2

/-- What one feature has under the key of a gate is a text misread for what the other has. -/
def Clash (f g : Entries) : Prop :=
  ∃ gate : Gate, Misread gate.dataType (f.get gate.key) (g.get gate.key) ∨
    Misread gate.dataType (g.get gate.key) (f.get gate.key)

/-- The raw values of one feature in comparable form. -/
def comparableFeature (feature : Value) : Except Failure Value := do
  let gates ← (← entriesOf feature).mapM fun gate => do
    return (gate.1, ← comparable gate.2)
  return .record gates

variable {f g : Entries} {a b : Value}

theorem IsFeature.exists_comparable (h : IsFeature f) :
    ∃ out : Entries, comparableFeature (.record f) = .ok (.record out) ∧ out.Keyed ∧
      out.names = f.names ∧
        ∀ name v, f.get? name = some v → ∃ c, out.get? name = some c ∧ Form v c := by
  obtain ⟨out, mapped, keyed, names, found⟩ := h.keyed.exists_mapM (f := comparable)
    fun entry mem => (exists_form (h.storable entry mem)).imp fun _ => And.left
  refine ⟨out, ?_, keyed, names, ?_⟩
  · have form : comparableFeature (.record f) = (do
        return .record (← f.mapM fun gate => do return (gate.1, ← comparable gate.2))) := rfl
    rw [form, mapped]
    rfl
  · intro name v own
    obtain ⟨c, became, stored⟩ := found name v own
    obtain ⟨c', became', form⟩ := exists_form (h.storable _ (Entries.mem_of_get? own))
    cases became.symm.trans became'
    exact ⟨c, stored, form⟩

/-- Under every key the values of features of equal comparable forms correspond. -/
theorem corresponds_get (hf : IsFeature f) (hg : IsFeature g)
    (ha : comparableFeature (.record f) = .ok a) (hb : comparableFeature (.record g) = .ok b)
    (equal : a.equals b = true) (key : String) : Corresponds (f.get key) (g.get key) := by
  obtain ⟨out, own, keyed, names, found⟩ := hf.exists_comparable
  obtain ⟨out', own', keyed', names', found'⟩ := hg.exists_comparable
  cases ha.symm.trans own
  cases hb.symm.trans own'
  obtain ⟨same, values⟩ := keyed.of_equals keyed' equal
  rw [names, names'] at same
  unfold Entries.get
  cases here : f.get? key with
  | none =>
    rw [Entries.get?_eq_none.2 fun mem => Entries.get?_eq_none.1 here ((same key).2 mem)]
    exact .same _
  | some v =>
    obtain ⟨w, there⟩ := Entries.exists_get? ((same key).1 (Entries.mem_names_of_get? here))
    obtain ⟨c, stored, form⟩ := found key v here
    obtain ⟨c', stored', form'⟩ := found' key w there
    rw [there]
    exact form.corresponds form' (values key c c' stored stored')

theorem exists_ofEntries (typed : ∀ gate : Gate, ∃ a, typed gate (f.get gate.key) = .ok a) :
    ∃ values, GateValues.ofEntries f = .ok values := by
  have read {α : Type} {x : Except Failure α} {kind : α → Value}
      (h : ∃ a, x.map kind = .ok a) : ∃ own, x = .ok own :=
    h.elim fun _ ok => (exists_of_map_eq_ok ok).imp fun _ => And.left
  obtain ⟨actors, ha⟩ := read (typed .actor)
  obtain ⟨groups, hg⟩ := read (typed .group)
  obtain ⟨share, hs⟩ := read (typed .percentageOfActors)
  obtain ⟨time, ht⟩ := read (typed .percentageOfTime)
  simp only [GateValues.ofEntries, ha, hg, hs, ht]
  exact ⟨_, rfl⟩

/-- Features of equal comparable forms have typed values that agree, or their values clash. -/
theorem agree_iff_not_clash (hf : IsFeature f) (hg : IsFeature g)
    (ha : comparableFeature (.record f) = .ok a) (hb : comparableFeature (.record g) = .ok b)
    (equal : a.equals b = true) :
    (∃ v w, GateValues.ofRaw (.record f) = .ok v ∧ GateValues.ofRaw (.record g) = .ok w ∧
      v.Agrees w) ↔ ¬Clash f g := by
  have alike (gate : Gate) := (corresponds_get hf hg ha hb equal gate.key).readAlike_iff
    (isStorable_get hf.storable gate.key) gate
  constructor
  · rintro ⟨v, w, hv, hw, agree⟩ ⟨gate, misread⟩
    exact (alike gate).1 ⟨_, _, GateValues.typed_get hv gate, GateValues.typed_get hw gate,
      agree gate⟩ misread
  · intro clear
    have read (gate : Gate) := (alike gate).2 fun misread => clear ⟨gate, misread⟩
    obtain ⟨v, hv⟩ := exists_ofEntries fun gate =>
      (read gate).elim fun _ ⟨_, left, _⟩ => ⟨_, left⟩
    obtain ⟨w, hw⟩ := exists_ofEntries fun gate =>
      (read gate).elim fun _ ⟨_, _, right, _⟩ => ⟨_, right⟩
    refine ⟨v, w, hv, hw, fun gate => ?_⟩
    obtain ⟨_, _, left, right, agree⟩ := read gate
    cases left.symm.trans (GateValues.typed_get hv gate)
    cases right.symm.trans (GateValues.typed_get hw gate)
    exact agree

/-! ## Stores -/

/-- Features under different names. -/
structure IsSource (source : Entries) : Prop where
  keyed : source.Keyed
  features : ∀ entry ∈ source, ∃ gates, entry.2 = .record gates ∧ IsFeature gates

theorem comparableAll_record (source : Entries) : comparableAll (.record source) = do
    return .record (← source.mapM fun feature => do
      return (feature.1, ← comparableFeature feature.2)) := by
  have entries : entriesOf (.record source) = pure source := rfl
  simp only [comparableAll, comparableFeature, entries, bind_assoc, pure_bind]

/-- What comparing two stores by their comparable forms comes to. -/
structure Comparison (x y : Entries) (a b : Value) : Prop where
  left : comparableAll (.record x) = .ok a
  right : comparableAll (.record y) = .ok b
  /-- If the forms are equal, so are the features that there are. -/
  names : a.equals b = true → ∀ name, name ∈ x.names ↔ name ∈ y.names
  /-- Then the typed values of each feature agree, unless its raw ones clash. -/
  features : a.equals b = true → ∀ name ∈ x.names, ∃ f g,
    x.get? name = some (.record f) ∧ y.get? name = some (.record g) ∧
    ((∃ v w, GateValues.ofRaw (.record f) = .ok v ∧ GateValues.ofRaw (.record g) = .ok w ∧
      v.Agrees w) ↔ ¬Clash f g)

variable {x y : Entries}

theorem IsSource.exists_comparable (h : IsSource x) :
    ∃ out : Entries, comparableAll (.record x) = .ok (.record out) ∧ out.Keyed ∧
      out.names = x.names ∧ ∀ name ∈ x.names, ∃ f, x.get? name = some (.record f) ∧ IsFeature f ∧
        ∃ c, comparableFeature (.record f) = .ok c ∧ out.get? name = some c := by
  obtain ⟨out, mapped, keyed, names, found⟩ := h.keyed.exists_mapM (f := comparableFeature)
    fun entry mem => by
      obtain ⟨gates, own, feature⟩ := h.features entry mem
      obtain ⟨gates', became, -⟩ := feature.exists_comparable
      exact ⟨_, own ▸ became⟩
  refine ⟨out, ?_, keyed, names, ?_⟩
  · rw [comparableAll_record, mapped]
    rfl
  · intro name mem
    obtain ⟨value, own⟩ := Entries.exists_get? mem
    obtain ⟨f, same, feature⟩ := h.features _ (Entries.mem_of_get? own)
    cases same
    exact ⟨f, own, feature, found name _ own⟩

/-- Any two stores can be compared. Those with equal forms have the same features, each with typed
values that agree, except where raw values clash. -/
theorem exists_comparison (hx : IsSource x) (hy : IsSource y) : ∃ a b, Comparison x y a b := by
  obtain ⟨out, own, keyed, names, found⟩ := hx.exists_comparable
  obtain ⟨out', own', keyed', names', found'⟩ := hy.exists_comparable
  have same (equal : (Value.record out).equals (.record out') = true) (name : String) :
      name ∈ x.names ↔ name ∈ y.names := by
    rw [← names, ← names']
    exact (keyed.of_equals keyed' equal).1 name
  refine ⟨_, _, own, own', same, fun equal name mem => ?_⟩
  obtain ⟨f, here, feature, c, became, stored⟩ := found name mem
  obtain ⟨g, there, feature', c', became', stored'⟩ := found' name ((same equal name).1 mem)
  exact ⟨f, g, here, there, agree_iff_not_clash feature feature' became became'
    ((keyed.of_equals keyed' equal).2 name c c' stored stored')⟩

/-- A store with one feature that has one value. -/
def lone (gate : Gate) (value : Value) : Entries :=
  [(.text "search", .record [(.text gate.key, value)])]

theorem isSource_lone (gate : Gate) (storable : IsStorable v) : IsSource (lone gate v) where
  keyed := .cons _ (List.not_mem_nil) .nil
  features entry mem := by
    cases List.mem_singleton.1 mem
    refine ⟨_, rfl, .cons _ List.not_mem_nil .nil, fun entry mem => ?_⟩
    cases List.mem_singleton.1 mem
    exact storable

/-- Actors in a list, one of them twice, and in a set. -/
theorem exists_comparison_actors :
    let x := lone .actor (.list [.text "User;2", .text "User;1", .text "User;2"])
    let y := lone .actor (.set [.text "User;1", .text "User;2"])
    (IsSource x ∧ IsSource y) ∧ ∃ a b, Comparison x y a b ∧ a.equals b = true := by
  intro x y
  have text (s : String) : IsShortScalar (.text s) := ⟨.text s, rfl, rfl⟩
  have hx : IsSource x := isSource_lone .actor (.list (by simp [text]))
  have hy : IsSource y := isSource_lone .actor (.set (by simp [text]))
  obtain ⟨a, b, comparison⟩ := exists_comparison hx hy
  refine ⟨⟨hx, hy⟩, a, b, comparison, ?_⟩
  have own : comparableAll (.record x) =
      .ok (.record (lone .actor (GateValues.setOfNames (.ofList ["User;1", "User;2"])))) := rfl
  have own' : comparableAll (.record y) =
      .ok (.record (lone .actor (GateValues.setOfNames (.ofList ["User;1", "User;2"])))) := rfl
  cases comparison.left.symm.trans own
  cases comparison.right.symm.trans own'
  decide +kernel

/-- A hundred-thousandth and its text: stores that are equal and open to different shares. -/
theorem not_agrees_hundredThousandth :
    ∃ m, Binary64.ofDecimal false 1 (-5) = .finite false m ∧
      let x := lone .percentageOfActors (.float (.finite false m))
      let y := lone .percentageOfActors (.text "1e-05")
      IsSource x ∧ IsSource y ∧ ∃ f g a b v w,
        x.get? "search" = some (.record f) ∧ y.get? "search" = some (.record g) ∧
        comparableAll (.record x) = .ok a ∧ comparableAll (.record y) = .ok b ∧
        a.equals b = true ∧
        GateValues.ofRaw (.record f) = .ok v ∧ GateValues.ofRaw (.record g) = .ok w ∧
        ¬v.Agrees w := by
  have both : (Magnitude.round? (1 * 10 ^ 0 * unitsPerOne) (10 ^ 5)).any (fun m =>
      decide ((Binary64.finite false m).written = "1e-05" ∧
        (Number.float (.finite false m)).eq (.int 1) = false)) = true := by decide +kernel
  obtain ⟨m, rounded, own⟩ := (Option.any_eq_true _ _).1 both
  obtain ⟨written, apart⟩ := of_decide_eq_true own
  have form : comparableAll (.record (lone .percentageOfActors (.float (.finite false m)))) =
      .ok (.record (lone .percentageOfActors (.text "1e-05"))) := by
    rw [← written]
    rfl
  refine ⟨m, ?_, isSource_lone _ (.scalar ⟨_, rfl, rfl⟩), isSource_lone _ (.scalar ⟨_, rfl, rfl⟩),
    _, _, _, _, _, _, rfl, rfl, form, rfl, by decide +kernel, rfl, rfl, fun agree => ?_⟩
  · rw [Binary64.ofDecimal_eq]
    exact Binary64.ofUnits_of_round? rounded
  · have share : ¬(Value.float (.finite false m)).Agrees (.int 1) :=
      Value.not_agrees_number (by rintro ⟨⟩) apart
    exact share (agree .percentageOfActors)

end Raw

end FeatureGates
