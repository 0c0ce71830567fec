import FeatureGates.Proofs.Percentages
import FeatureGates.Proofs.Representation

/-!
# Edits of what records represent

If records represent a catalog, then whatever is demanded with accepted
arguments is filed, and the records afterwards represent the edited catalog
(`Demand.represents_filing`). There is one case for each kind of gate: a
truth value, a member of a set, a percentage, a document.
-/

namespace FeatureGates

/-! ## Members of sets of texts -/

namespace Value

theorem equals_text (a b : String) : (text a).equals (text b) = decide (a = b) := by
  rw [text, text, equals]
  rfl

theorem insertMember_texts (texts : List String) (name : String) :
    insertMember (texts.map text) (text name) =
      (if name ∈ texts then texts else texts ++ [name]).map text := by
  have there : (texts.map text).any (·.equals (text name)) = decide (name ∈ texts) := by
    rw [List.any_map, Bool.eq_iff_iff, decide_eq_true_eq, List.any_eq_true]
    constructor
    · rintro ⟨other, mem, same⟩
      rw [Function.comp_apply, equals_text] at same
      exact of_decide_eq_true same ▸ mem
    · refine fun mem => ⟨name, mem, ?_⟩
      rw [Function.comp_apply, equals_text, decide_eq_true rfl]
  unfold insertMember
  rw [there]
  by_cases mem : name ∈ texts
  · simp [mem]
  · simp [mem]

theorem filter_texts (texts : List String) (name : String) :
    (texts.map text).filter (fun m => !m.equals (text name)) =
      (texts.filter (· ≠ name)).map text := by
  rw [List.filter_map]
  refine congrArg (List.map text) (List.filter_congr fun other _ => ?_)
  rw [Function.comp_apply, equals_text, decide_not]

end Value

namespace Stored

variable {cell? : Option Cell} {names : NameSet}

/-- The set of a cell, or of none, with another member. -/
theorem insert (h : Stored .set cell? (GateValues.setOfNames names)) (name : String) :
    ∃ old, (cell? = some (.plain (.set old)) ∨ cell? = none ∧ old = []) ∧
      Stored .set (some (.plain (.set (Value.insertMember old (.text name)))))
        (GateValues.setOfNames (names.insert name)) := by
  have stored (texts : List String) (same : names = .ofList texts) :
      Stored .set (some (.plain (.set (Value.insertMember (texts.map .text) (.text name)))))
        (GateValues.setOfNames (names.insert name)) := by
    have inserted : names.insert name =
        .ofList (if name ∈ texts then texts else texts ++ [name]) := by
      refine NameSet.ext_mem ?_
      intro other
      rw [NameSet.mem_insert, same, NameSet.mem_ofList, NameSet.mem_ofList]
      split
      · rename_i mem
        exact ⟨fun either => either.elim (· ▸ mem) id, .inr⟩
      · rw [List.mem_append, List.mem_singleton, or_comm]
    rw [Value.insertMember_texts, inserted]
    exact .names _
  generalize value : GateValues.setOfNames names = v at h
  cases h with
  | nobody =>
    have empty : names = .empty := GateValues.setOfNames_injective value
    exact ⟨[], .inr ⟨rfl, rfl⟩, stored [] empty⟩
  | names texts =>
    exact ⟨texts.map .text, .inl rfl, stored texts (GateValues.setOfNames_injective value)⟩

/-- The set of a cell, or of none, without a member. -/
theorem erase (h : Stored .set cell? (GateValues.setOfNames names)) (name : String) :
    cell? = none ∧ Stored .set none (GateValues.setOfNames (names.erase name)) ∨
      ∃ old, cell? = some (.plain (.set old)) ∧
        Stored .set (some (.plain (.set (old.filter fun m => !m.equals (.text name)))))
          (GateValues.setOfNames (names.erase name)) := by
  generalize value : GateValues.setOfNames names = v at h
  cases h with
  | nobody =>
    obtain rfl : names = .empty := GateValues.setOfNames_injective value
    exact .inl ⟨rfl, .nobody⟩
  | names texts =>
    obtain rfl : names = .ofList texts := GateValues.setOfNames_injective value
    refine .inr ⟨_, rfl, ?_⟩
    have erased : (NameSet.ofList texts).erase name = .ofList (texts.filter (· ≠ name)) := by
      refine NameSet.ext_mem ?_
      intro other
      rw [NameSet.mem_erase, NameSet.mem_ofList, NameSet.mem_ofList, List.mem_filter,
        decide_eq_true_eq]
    rw [Value.filter_texts, erased]
    exact .names _

end Stored

/-! ## Values that differ in one gate -/

namespace GateValues

variable (values : GateValues)

theorem get_crowd (crowd : Crowd) : values.get crowd.gate = setOfNames (values.names crowd) := by
  cases crowd <;> rfl

theorem get_withNames (names : NameSet) (crowd : Crowd) :
    (values.withNames names crowd).get crowd.gate = setOfNames names := by
  cases crowd <;> rfl

theorem get_withNames_of_ne (names : NameSet) (crowd : Crowd) {gate : Gate}
    (h : gate ≠ crowd.gate) : (values.withNames names crowd).get gate = values.get gate := by
  cases crowd <;> cases gate <;> first | rfl | exact absurd rfl h

theorem get_withPercentage (n : Number) (share : Share) :
    (values.withPercentage n share).get share.gate = .number n := by
  cases share <;> rfl

theorem get_withPercentage_of_ne (n : Number) (share : Share) {gate : Gate}
    (h : gate ≠ share.gate) : (values.withPercentage n share).get gate = values.get gate := by
  cases share <;> cases gate <;> first | rfl | exact absurd rfl h

end GateValues

/-! ## Demands -/

namespace Records.Represents

variable {records : Records} {catalog : Catalog} {thing : Value} {text : String}

theorem enter (h : records.Represents catalog) (feature : String) (crowd : Crowd)
    (held : Filing.heldText thing = .ok text) :
    ∃ after, Filing.change feature .enable crowd.gate thing records = .ok true after ∧
      after.Represents (catalog.edit feature (.enter crowd text)) := by
  have kind : crowd.gate.dataType = .set := by cases crowd <;> rfl
  have stored := h.stored feature crowd.gate
  rw [kind, GateValues.get_crowd] at stored
  obtain ⟨old, there, inserted⟩ := stored.insert text
  obtain ⟨after, ran, rewritten⟩ := Filing.enable_crowd feature crowd held there
  refine ⟨after, ran, h.rewritten rewritten ?_ fun other => GateValues.get_withNames_of_ne _ _ _⟩
  rw [kind, GateValues.edit, GateValues.get_withNames]
  exact inserted

theorem leave (h : records.Represents catalog) (feature : String) (crowd : Crowd)
    (held : Filing.heldText thing = .ok text) :
    ∃ after, Filing.change feature .disable crowd.gate thing records = .ok true after ∧
      after.Represents (catalog.edit feature (.leave crowd text)) := by
  have kind : crowd.gate.dataType = .set := by cases crowd <;> rfl
  have stored := h.stored feature crowd.gate
  rw [kind, GateValues.get_crowd] at stored
  rcases stored.erase text with ⟨none, erased⟩ | ⟨old, there, erased⟩
  · obtain ⟨after, ran, rewritten⟩ := Filing.disable_crowd_of_none feature crowd held none
    refine ⟨after, ran, h.rewritten rewritten ?_ fun other => GateValues.get_withNames_of_ne _ _ _⟩
    rw [kind, GateValues.edit, GateValues.get_withNames]
    exact erased
  · obtain ⟨after, ran, rewritten⟩ := Filing.disable_crowd feature crowd held there
    refine ⟨after, ran, h.rewritten rewritten ?_ fun other => GateValues.get_withNames_of_ne _ _ _⟩
    rw [kind, GateValues.edit, GateValues.get_withNames]
    exact erased

theorem percentage (h : records.Represents catalog) (feature : String) (c : Change) (share : Share)
    {n : Number} (held : Filing.heldText thing = .ok text) (read : Raw.leadingNumber text = .ok n) :
    ∃ after, Filing.change feature c share.gate thing records = .ok true after ∧
      after.Represents (catalog.edit feature (.percentage share n)) := by
  have kind : share.gate.dataType = .number := by cases share <;> rfl
  obtain ⟨after, ran, rewritten⟩ := Filing.change_percentage feature c share held records
  refine ⟨after, ran, h.rewritten rewritten ?_ fun other =>
    GateValues.get_withPercentage_of_ne _ _ _⟩
  rw [kind, GateValues.edit, GateValues.get_withPercentage]
  exact .number text n read

theorem everyone (h : records.Represents catalog) (feature : String) (thing : Value) :
    ∃ after, Filing.change feature .enable .boolean thing records = .ok true after ∧
      after.Represents (catalog.edit feature .everyone) := by
  obtain ⟨after, ran, rewritten⟩ := Filing.enable_boolean feature thing records
  refine ⟨after, ran, h.rewritten rewritten .everyone fun other different => ?_⟩
  cases other <;> first | rfl | exact absurd rfl different

theorem nobody (h : records.Represents catalog) (feature : String) (thing : Value) :
    ∃ after, Filing.change feature .disable .boolean thing records = .ok true after ∧
      after.Represents (catalog.edit feature .nobody) := by
  refine ⟨_, Filing.disable_boolean feature thing records,
    h.put (fun other => ?_) (fun other ne => ?_) ?_⟩
  · rw [contains_clear, contains_ensure]
  · funext key
    rw [cell?_clear, if_neg ne, cell?_ensure]
  · have none : Records.cell? ((records.ensure feature).clear feature) feature = fun _ => none := by
      funext key
      rw [cell?_clear, if_pos rfl]
    rw [none]
    exact .closed_none

theorem replaceExpression (h : records.Represents catalog) (feature : String) {entries : Entries}
    (held : Filing.heldDocument thing = .ok (.record entries)) (some_entry : entries ≠ []) :
    ∃ after, Filing.change feature .enable .expression thing records = .ok true after ∧
      after.Represents (catalog.edit feature (.expression (some entries))) := by
  obtain ⟨after, ran, rewritten⟩ := Filing.enable_expression feature held records
  refine ⟨after, ran, h.rewritten rewritten (.record entries some_entry) fun other different => ?_⟩
  cases other <;> first | rfl | exact absurd rfl different

theorem eraseExpression (h : records.Represents catalog) (feature : String) (thing : Value) :
    ∃ after, Filing.change feature .disable .expression thing records = .ok true after ∧
      after.Represents (catalog.edit feature (.expression none)) := by
  obtain ⟨after, ran, rewritten⟩ := Filing.disable_expression feature thing records
  refine ⟨after, ran, h.rewritten rewritten .nothing fun other different => ?_⟩
  cases other <;> first | rfl | exact absurd rfl different

theorem add (h : records.Represents catalog) (feature : String) :
    (records.ensure feature).Represents (catalog.edit feature .add) := by
  refine h.put (fun other => contains_ensure ..) (fun other _ => ?_) ?_
  · funext key
    exact cell?_ensure ..
  · have same : Records.cell? (records.ensure feature) feature = records.cell? feature :=
      funext fun key => cell?_ensure ..
    rw [same]
    exact h.stored feature

theorem remove (h : records.Represents catalog) (feature : String) :
    (records.remove feature).Represents (catalog.edit feature .remove) where
  contains other := by
    rw [contains_remove, h.contains]
    exact (Table.contains_erase ..).symm
  stored other := by
    have values : Catalog.values (catalog.erase feature) other =
        if other = feature then .closed else catalog.values other := by
      rw [Catalog.values, Table.find?_erase]
      split <;> rfl
    show (Catalog.values (catalog.erase feature) other).StoredIn _
    rw [values]
    split
    · have none : Records.cell? (records.remove feature) other = fun _ => none := by
        funext key
        rw [cell?_remove, if_pos (by assumption)]
      rw [none]
      exact .closed_none
    · have same : Records.cell? (records.remove feature) other = records.cell? other := by
        funext key
        rw [cell?_remove, if_neg (by assumption)]
      rw [same]
      exact h.stored other

theorem clear (h : records.Represents catalog) (feature : String) :
    (records.clear feature).Represents (catalog.edit feature .clear) := by
  unfold Catalog.edit
  cases there : records.contains feature with
  | false =>
    rw [← h.contains, there, Records.clear, there]
    exact h
  | true =>
    rw [← h.contains, there, if_pos rfl]
    refine h.put (fun other => ?_) (fun other ne => ?_) ?_
    · rw [contains_clear]
      by_cases own : other = feature
      · rw [own, there, Bool.or_true]
      · rw [decide_eq_false own, Bool.false_or]
    · funext key
      rw [cell?_clear, if_neg ne]
    · have none : Records.cell? (records.clear feature) feature = fun _ => none := by
        funext key
        rw [cell?_clear, if_pos rfl]
      rw [none]
      exact .closed_none

end Records.Represents

/-! ## What is accepted is filed -/

/-- What a tree is filed as. -/
theorem Filing.heldDocument_expression {tree : Node} (short : tree.isShort = true) :
    heldDocument (.wrapped (.expression tree)) = .ok (.record tree.storedEntries) :=
  tree.toStored_eq_record ▸ Node.toDocument_toStored short

section Accepted

variable {records : Records} {catalog : Catalog}

theorem Wrapped.represents_change (h : records.Represents catalog) (feature : String) {c : Change}
    {thing : Wrapped} {edit : Edit} (accepted : thing.edit? c = some edit) :
    ∃ after, Filing.change feature c thing.gate (.wrapped thing) records = .ok true after ∧
      after.Represents (catalog.edit feature edit) := by
  have percentage (share : Share) (p : Percentage) {wrapped : Value}
      (held : Filing.heldText wrapped = p.value.written)
      (accepted :
        (if p.value.hasPoint then some (.percentage share p.value) else none) = some edit) :
      ∃ after, Filing.change feature c share.gate wrapped records = .ok true after ∧
        after.Represents (catalog.edit feature edit) := by
    split at accepted
    · rename_i point
      cases accepted
      obtain ⟨text, q, written, read, -, same⟩ := p.exists_read
      rw [same point] at read
      exact h.percentage feature c share (held.trans written) read
    · cases accepted
  cases thing with
  | boolean value =>
    cases c with
    | enable => cases accepted; exact h.everyone feature _
    | disable => cases accepted; exact h.nobody feature _
  | actor thing id =>
    cases c with
    | enable => cases accepted; exact h.enter feature .actors rfl
    | disable => cases accepted; exact h.leave feature .actors rfl
  | group name =>
    unfold Wrapped.edit? at accepted
    dsimp only at accepted
    cases shown : name.shown with
    | error failure =>
      rw [shown] at accepted
      cases c <;> cases accepted
    | ok text =>
      rw [shown] at accepted
      cases c with
      | enable => cases accepted; exact h.enter feature .groups shown
      | disable => cases accepted; exact h.leave feature .groups shown
  | percentageOfActors p => exact percentage .actors p rfl accepted
  | percentageOfTime p => exact percentage .time p rfl accepted
  | expression tree =>
    cases c with
    | disable => cases accepted; exact h.eraseExpression feature _
    | enable =>
      unfold Wrapped.edit? at accepted
      dsimp only at accepted
      split at accepted
      · rename_i short
        cases accepted
        exact h.replaceExpression feature (Filing.heldDocument_expression short)
          tree.storedEntries_ne_nil
      · cases accepted

/-- Whatever is demanded with accepted arguments is filed, and the catalog is edited. -/
theorem Demand.represents_filing (h : records.Represents catalog) (feature : String)
    {demand : Demand} {edit : Edit} (routed : demand.IsRouted)
    (accepted : demand.edit? = some edit) :
    ∃ made after, demand.filing feature records = .ok made after ∧
      after.Represents (catalog.edit feature edit) := by
  cases demand with
  | add =>
    cases accepted
    exact ⟨_, _, Filing.add_apply feature records, h.add feature⟩
  | remove =>
    cases accepted
    exact ⟨true, _, rfl, h.remove feature⟩
  | clear =>
    cases accepted
    exact ⟨true, _, rfl, h.clear feature⟩
  | change c gate thing =>
    rcases routed with ⟨wrapped, rfl, rfl⟩ | ⟨rfl, rfl, rfl⟩
    · obtain ⟨after, filed, represents⟩ := Wrapped.represents_change h feature accepted
      exact ⟨true, after, filed, represents⟩
    · cases accepted
      obtain ⟨after, filed, represents⟩ := h.eraseExpression feature .null
      exact ⟨true, after, filed, represents⟩

end Accepted

end FeatureGates
