import FeatureGates.Proofs.Consulting

/-!
# The effects of a check

Asking whether a feature is enabled has the effects of its check
(`FlagSet.isEnabled_consults`): whatever raw values are read, if they can be
typed, it ends as the gates are found, and the course of the check tells
which predicates are called and how many numbers are drawn.

The course is up to the typed values of the gates that are asked
(`Raw.typed`) and to the groups that are found under a name. Neither depends
on order: a set is typed alike in whatever order its items come
(`Raw.typed_eq`), and groups of distinct names are found alike in whatever
order they were registered (`Table.find?_foldl_put_perm`).
-/

namespace FeatureGates

variable {α : Type}

/-! ## The order of registering and enabling -/

namespace Table

theorem lookup_perm {rows rows' : List (String × α)} (perm : rows.Perm rows')
    (distinct : (rows.map (·.1)).Nodup) (name : String) :
    rows'.lookup name = rows.lookup name := by
  induction perm with
  | nil => rfl
  | cons row _ ih =>
    rw [List.lookup_cons, List.lookup_cons, ih (List.nodup_cons.1 distinct).2]
  | swap first second rest =>
    obtain ⟨n, v⟩ := first
    obtain ⟨m, u⟩ := second
    have apart : m ≠ n := fun same => (List.nodup_cons.1 distinct).1 (List.mem_cons.2 (.inl same))
    simp only [List.lookup_cons]
    by_cases isFirst : name = n
    · rw [beq_iff_eq.2 isFirst, beq_false_of_ne fun same => apart (same.symm.trans isFirst)]
    · rw [beq_false_of_ne isFirst]
  | trans first _ ih ih' =>
    rw [ih' ((first.map _).nodup_iff.1 distinct), ih distinct]

/-- Values under distinct names may be put into a table in any order. -/
theorem find?_foldl_put_perm {rows rows' : List (String × α)} (perm : rows.Perm rows')
    (distinct : (rows.map (·.1)).Nodup) (t : Table α) (name : String) :
    (rows'.foldl (fun t row => t.put row.1 row.2) t).find? name =
      (rows.foldl (fun t row => t.put row.1 row.2) t).find? name := by
  have reversed : rows.reverse.Perm rows'.reverse :=
    rows.reverse_perm.trans (perm.trans rows'.reverse_perm.symm)
  have names : (rows.reverse.map (·.1)).Nodup :=
    (rows.reverse_perm.map _).nodup_iff.2 distinct
  rw [find?_foldl_put, find?_foldl_put, lookup_perm reversed names]

end Table

namespace Raw

/-- The same raw value, or one that holds the same items in another order. -/
def Reordered (v w : Value) : Prop :=
  v = w ∨ ∃ items items', items? v = some items ∧ items? w = some items' ∧ items.Perm items'

/-- The typed value of one gate. -/
def typed (gate : Gate) (raw : Value) : Except Failure Value :=
  match gate.dataType with
  | .boolean => .ok (.bool (toBool raw))
  | .set => (toNames raw).map GateValues.setOfNames
  | .document => .ok (.ofRecord? (toExpression raw))
  | .number => (toNumber raw).map .number

theorem toNames_eq {v w : Value} {names names' : NameSet} (same : Reordered v w)
    (hv : toNames v = .ok names) (hw : toNames w = .ok names') : names' = names := by
  rcases same with rfl | ⟨items, items', left, right, perm⟩
  · exact Except.ok.inj (hw.symm.trans hv)
  · refine NameSet.ext_mem fun name => ?_
    rw [mem_toNames left hv, mem_toNames right hw]
    simp only [perm.mem_iff]

/-- What holds items is read as a set, or as nothing. -/
theorem typed_of_items {v : Value} {items : List Value} (h : items? v = some items) :
    toBool v = false ∧ toExpression v = none ∧ toNumber v = .ok (.int 0) := by
  cases v with
  | list _ => exact ⟨rfl, rfl, rfl⟩
  | tuple _ => exact ⟨rfl, rfl, rfl⟩
  | set _ => exact ⟨rfl, rfl, rfl⟩
  | _ => cases h

theorem typed_eq {gate : Gate} {v w a b : Value} (same : Reordered v w)
    (hv : typed gate v = .ok a) (hw : typed gate w = .ok b) : b = a := by
  unfold typed at hv hw
  cases kind : gate.dataType with
  | set =>
    rw [kind] at hv hw
    obtain ⟨names, read, rfl⟩ := exists_of_map_eq_ok hv
    obtain ⟨names', read', rfl⟩ := exists_of_map_eq_ok hw
    rw [toNames_eq same read read']
  | _ =>
    rw [kind] at hv hw
    rcases same with rfl | ⟨items, items', left, right, -⟩
    · exact Except.ok.inj (hw.symm.trans hv)
    · have left := typed_of_items left
      have right := typed_of_items right
      simp only [left.1, left.2.1, left.2.2, right.1, right.2.1, right.2.2] at hv hw
      exact Except.ok.inj (hw.symm.trans hv)

end Raw

/-- The typed values are those of the gates one by one. -/
theorem GateValues.typed_get {raw : Entries} {values : GateValues}
    (h : ofEntries raw = .ok values) (gate : Gate) :
    Raw.typed gate (Entries.get raw gate.key) = .ok (values.get gate) := by
  obtain ⟨actors, ha, h⟩ := exists_of_bind_eq_ok h
  obtain ⟨groups, hg, h⟩ := exists_of_bind_eq_ok h
  obtain ⟨share, hs, h⟩ := exists_of_bind_eq_ok h
  obtain ⟨time, ht, h⟩ := exists_of_bind_eq_ok h
  cases h
  cases gate with
  | boolean => rfl
  | expression =>
    rw [get_expression]
    rfl
  | actor => exact congrArg (Except.map setOfNames) ha
  | group => exact congrArg (Except.map setOfNames) hg
  | percentageOfActors => exact congrArg (Except.map Value.number) hs
  | percentageOfTime => exact congrArg (Except.map Value.number) ht

/-! ## Asking a flag set -/

namespace FlagSet

variable {flags : FlagSet} {feature : String} {thing : Value} {w w' : World} {raw : Entries}
  {values : GateValues} {subject : Option Subject}

/-- Registers groups one after the other, each under its name. -/
def registerAll : List (String × Group) → Run Unit
  | [] => pure ()
  | row :: rest => do
    register row.2 row.1
    registerAll rest

theorem registerAll_apply (groups : List (String × Group)) (w : World) :
    registerAll groups w =
      .ok () { w with groups := groups.foldl (fun t row => t.put row.1 row.2) w.groups } := by
  induction groups generalizing w with
  | nil => rfl
  | cons row rest ih => exact ih { w with groups := w.groups.put row.1 row.2 }

/-- What a flag set is asked about a feature and a thing: the raw values that it reads of the
feature, the typed ones, and the actor that the thing is, if it is not null. -/
structure Reads (flags : FlagSet) (feature : String) (thing : Value) (w : World) (raw : Entries)
    (values : GateValues) (subject : Option Subject) (w' : World) : Prop where
  read : flags.adapter.read (.get feature) w = .ok raw w'
  typed : GateValues.ofRaw (.record raw) = .ok values
  taken : Subject.ofThing? thing = .ok subject

/-- An operation ends as the gates were found: with whether one is open, or in their failure; in
a world that is otherwise only reported on. -/
structure EndsAs (w' : World) (ran : EStateM.Result Failure World Bool)
    (ending : EStateM.Result Failure Surroundings (Option Gate)) : Prop where
  ends : Ends (fun isOpen gate v s => isOpen = gate.isSome ∧
      World.Reported { w' with surroundings := s } v)
    (fun v s => World.Reported { w' with surroundings := s } v) ran ending

theorem Reads.gateValues (h : flags.Reads feature thing w raw values subject w') :
    flags.gateValues feature w = .ok values w' := by
  have typed : GateValues.ofEntries raw = .ok values := h.typed
  simp only [FlagSet.gateValues, bind_apply, h.read, typed]
  rfl

/-- Without the watcher too it is asked as the gates are. -/
theorem isEnabledBody_matches (h : flags.Reads feature thing w raw values subject w') :
    MatchesFrom (Watched fun v s => v = w ∧ s = w'.surroundings)
      (Watched fun v s => World.Reported { w' with surroundings := s } v)
      (fun isOpen gate => isOpen = gate.isSome) (flags.isEnabledBody feature thing)
      (Gate.firstOpen ⟨flags.registry, flags.meaning, w'.groups⟩ ⟨feature, values, subject⟩) := by
  rintro ⟨payload, _⟩ _ ⟨tame, rfl, rfl⟩
  obtain ⟨asked, noted, taken⟩ := subjectOf_apply thing payload w'
  have tame : asked.Tame := by
    rcases noted with rfl | rfl
    · exact tame
    · exact tame.put (by decide) thing
  rw [h.taken] at taken
  have here : flags.environment w' = .ok ⟨flags.registry, flags.meaning, w'.groups⟩ w' := rfl
  unfold isEnabledBody
  rw [bind_apply, Observed.ofRun_apply h.gateValues]
  dsimp only
  rw [bind_apply, taken]
  dsimp only
  rw [bind_apply, Observed.ofRun_apply here]
  dsimp only
  rw [Observed.ofRun_bind_apply]
  unfold Run.ofCheck EStateM.run
  cases found : Gate.firstOpen ⟨flags.registry, flags.meaning, w'.groups⟩
      ⟨feature, values, subject⟩ w'.surroundings with
  | error failure s => exact ⟨rfl, tame, .refl _⟩
  | ok gate? s =>
    cases gate? with
    | none => exact ⟨rfl, tame, .refl _⟩
    | some gate => exact ⟨rfl, tame.put (by decide) _, .refl _⟩

theorem isEnabled_endsAs (h : flags.Reads feature thing w raw values subject w') :
    EndsAs w' (flags.isEnabled feature thing w)
      (Gate.firstOpen ⟨flags.registry, flags.meaning, w'.groups⟩ ⟨feature, values, subject⟩
        w'.surroundings) := by
  have names : TameField "feature_name" ∧ TameField "operation" := by decide
  have unreported : Unreported fun v s => World.Reported { w' with surroundings := s } v :=
    fun _ _ _ later earlier => earlier.trans later
  have tame : ∀ row ∈ [("feature_name", Value.text feature), ("operation", .text "enabled?")],
      TameField row.1 := List.forall_mem_cons.2 ⟨names.1, List.forall_mem_singleton.2 names.2⟩
  exact ⟨Instrumenter.observe_refines unreported flags.instrumenter Event.featureOperation tame
    Value.bool (isEnabledBody_matches h) w w'.surroundings ⟨rfl, rfl⟩⟩

/-- The effects of a check. The gates are asked in order up to the first that is open or fails, and
the operation ends as they were found; predicates are called in ascending order of names, each
once, and only for an actor; a number is drawn just if the first five gates are closed. Another
flag set that reads the same values for the gates that were asked, sets in whatever order, and
finds the same groups, in whatever order they were registered, is asked to the same effect. -/
theorem isEnabled_consults (h : flags.Reads feature thing w raw values subject w') :
    let environment : Environment := ⟨flags.registry, flags.meaning, w'.groups⟩
    let context : CheckContext := ⟨feature, values, subject⟩
    let s := w'.surroundings
    ∃ asked called ending,
      Gate.Course environment context s asked called ending ∧
      EndsAs w' (flags.isEnabled feature thing w) ending ∧
      asked <+: Gate.order ∧
      (called <+: context.callable w'.groups ∧ called.Pairwise (· < ·)) ∧
      (subject = none ∨ .group ∉ asked → called = []) ∧
      (.percentageOfTime ∈ asked ↔ ∃ t, Gate.AllClosed environment context
        [.boolean, .expression, .actor, .group, .percentageOfActors] s t) ∧
      ((∀ name predicate, w'.groups.predicate? name = some predicate →
          ∀ thing s, ((predicate thing).leaves s).drawn = s.drawn) →
        (Check.ended ending).drawn =
          (if .expression ∈ asked then context.evaluated environment s else s).drawn +
            if .percentageOfTime ∈ asked then 1 else 0) ∧
      (∀ (other : FlagSet) (v v' : World) (raw' : Entries) (values' : GateValues),
        other.Reads feature thing v raw' values' subject v' → other.registry = flags.registry →
        other.meaning = flags.meaning → (∀ name, v'.groups.find? name = w'.groups.find? name) →
        v'.surroundings = s →
        (∀ gate ∈ asked,
          Raw.Reordered (Entries.get raw gate.key) (Entries.get raw' gate.key)) →
        Gate.Course ⟨other.registry, other.meaning, v'.groups⟩ ⟨feature, values', subject⟩
            v'.surroundings asked called ending ∧
          EndsAs v' (other.isEnabled feature thing v) ending) ∧
      ∀ (groups groups' : List (String × Group)) (v : World), groups.Perm groups' →
        (groups.map (·.1)).Nodup → ∃ v₁ v₂, registerAll groups v = .ok () v₁ ∧
          registerAll groups' v = .ok () v₂ ∧ v₂.surroundings = v₁.surroundings ∧
          ∀ name, v₂.groups.find? name = v₁.groups.find? name := by
  intro environment context s
  obtain ⟨asked, called, course⟩ := Gate.exists_course environment context s
  refine ⟨asked, called, _, course, isEnabled_endsAs h, course.asks.isPrefix,
    ⟨course.called_isPrefix, course.called_ascending⟩, course.called_eq_nil, ?_, course.drawn_eq,
    ?_, ?_⟩
  · have new : Gate.percentageOfTime ∉
        [.boolean, .expression, .actor, .group, .percentageOfActors] := by decide
    exact Gate.Asks.mem_iff new course.asks
  · intro other v v' raw' values' reads registry meaning same around reordered
    have typed (gate : Gate) := GateValues.typed_get h.typed gate
    have typed' (gate : Gate) := GateValues.typed_get reads.typed gate
    have repeated := course.congr same fun gate mem =>
      Raw.typed_eq (reordered gate mem) (typed gate) (typed' gate)
    rw [registry, meaning, around]
    refine ⟨repeated, ?_⟩
    have ends := isEnabled_endsAs reads
    rw [registry, meaning, around] at ends
    rwa [show Gate.firstOpen _ _ s = _ from repeated.asks.eq_firstOpenOf] at ends
  · intro groups groups' v perm distinct
    exact ⟨_, _, registerAll_apply groups v, registerAll_apply groups' v, rfl,
      Table.find?_foldl_put_perm perm distinct v.groups⟩

/-- Two groups are enabled, and registered with a predicate each, in descending order of names. -/
def twoGroupsWorld : World :=
  let cells : Cells :=
    Table.empty.put Gate.group.key (.plain (.set [.text "staff", .text "beta"]))
  let noOne : Option (Value → Check Value) := some fun _ => pure (.bool false)
  let world := (World.fresh ⟨fun _ => .int 0, 0, .int 0, [], []⟩).putStore "store"
    ⟨Table.empty.put "search" cells, fun _ _ => none, 0⟩
  let registered : Groups := .ofRows
    [("staff", ⟨.text "staff", noOne⟩), ("beta", ⟨.text "beta", noOne⟩)]
  { world with groups := registered }

/-- Predicates are called in ascending order, whoever asks. -/
theorem isEnabled_consults_twoGroups :
    let flags := FlagSet.bare "store" "memory" .none .standard fun _ _ => pure (.fresh .null)
    let ada : Value := .actor (.text "1") .emptyRecord
    ∃ raw values w', flags.Reads "search" ada twoGroupsWorld raw values (some ⟨ada, "1"⟩) w' ∧
      ∃ asked called ending,
        Gate.Course ⟨flags.registry, flags.meaning, w'.groups⟩
          ⟨"search", values, some ⟨ada, "1"⟩⟩ w'.surroundings asked called ending ∧
        EndsAs w' (flags.isEnabled "search" ada twoGroupsWorld) ending ∧
        called <+: ["beta", "staff"] := by
  intro flags ada
  obtain ⟨raw, w', reads, registered⟩ : ∃ raw w', flags.Reads "search" ada twoGroupsWorld raw
      ⟨false, .empty, .ofList ["beta", "staff"], none, .int 0, .int 0⟩ (some ⟨ada, "1"⟩) w' ∧
      w'.groups = twoGroupsWorld.groups := ⟨_, _, ⟨rfl, rfl, rfl⟩, rfl⟩
  have callable : twoGroupsWorld.groups.callable ["beta", "staff"] = ["beta", "staff"] := rfl
  obtain ⟨asked, called, ending, course, ends, -, ⟨listed, -⟩, -⟩ := isEnabled_consults reads
  have listed : called <+: w'.groups.callable ["beta", "staff"] := listed
  rw [registered, callable] at listed
  exact ⟨raw, _, w', reads, asked, called, ending, course, ends, listed⟩

end FlagSet

end FeatureGates
