import FeatureGates.Proofs.Catalog
import FeatureGates.Proofs.Robustness
import FeatureGates.Proofs.ShortValues

/-!
# Routing and wrapping

What a gate takes is a wrapper of its own or a plain thing that it has a
wrapper for (`Gate.Takes`). These are of different kinds for different gates:
an id makes an actor of records, objects and actors only, whatever else they
hold, and none of these is taken for anything else. So a thing has at most one
gate (`Gate.Takes.unique`), and asking the gates in another order finds the
same one (`Gate.routeAlong_perm`).

The gate that a thing is routed to can wrap it, in a wrapper that is again its
own, unless the thing is an actor whose id is null (`Gate.routesAndWraps`).
What is said of a thing that is refused shows the thing, so that its integers
have to be short.
-/

namespace FeatureGates

namespace Gate

/-! ## What gates take -/

/-- What a gate takes: its own wrappers, and the plain things that it wraps. -/
inductive Takes : Gate → Value → Prop
  | wrapper (wrapped : Wrapped) : Takes wrapped.gate (.wrapped wrapped)
  | boolean (b : Bool) : Takes .boolean (.bool b)
  | expression (tree : Node) : Takes .expression (.node tree)
  | actor {thing : Value} : thing.isActorLike = true → Takes .actor thing
  | group (name : String) : Takes .group (.text name)

variable {gate other : Gate} {thing : Value}

theorem protects_of_takes (h : gate.Takes thing) : gate.protects thing = true := by
  cases h with
  | wrapper wrapped => cases wrapped <;> rfl
  | boolean b => rfl
  | expression tree => rfl
  | group name => rfl
  | actor hasId =>
    cases thing with
    | wrapped wrapped => cases hasId
    | _ => exact hasId

theorem takes_of_protects (h : gate.protects thing = true) : gate.Takes thing := by
  unfold protects at h
  split at h
  · exact .wrapper (.boolean _)
  · exact .boolean _
  · exact .wrapper (.expression _)
  · exact .expression _
  · exact .wrapper (.actor _ _)
  · exact .actor h
  · exact .wrapper (.group _)
  · exact .group _
  · exact .wrapper (.percentageOfActors _)
  · exact .wrapper (.percentageOfTime _)
  · cases h

theorem protects_iff : gate.protects thing = true ↔ gate.Takes thing :=
  ⟨takes_of_protects, protects_of_takes⟩

/-- What has an id is an actor, for no gate but the one. -/
theorem Takes.eq_actor (h : gate.Takes thing) (hasId : thing.isActorLike = true) :
    gate = .actor := by
  cases h with
  | actor _ => rfl
  | _ => cases hasId

/-- No two gates take the same thing. -/
theorem Takes.unique (h : gate.Takes thing) (h' : other.Takes thing) : gate = other := by
  cases h with
  | actor hasId => exact (h'.eq_actor hasId).symm
  | _ =>
    cases h' with
    | actor hasId => cases hasId
    | _ => rfl

/-- A wrapper is taken by the gate that it is for, and by no other. -/
theorem takes_wrapped_iff {wrapped : Wrapped} :
    gate.Takes (.wrapped wrapped) ↔ gate = wrapped.gate :=
  ⟨fun taken => taken.unique (.wrapper wrapped), fun own => own ▸ .wrapper wrapped⟩

/-! ## Routing -/

/-- The first of some gates that takes the thing. -/
def routeAlong (gates : List Gate) (thing : Value) : Except Failure Gate :=
  match gates.find? (·.protects thing) with
  | some gate => .ok gate
  | none => do throw (.noGate (← thing.written))

theorem routeAlong_order : routeAlong order = route := rfl

/-- Among all gates, in whatever order, the one that takes a thing is found. -/
theorem find?_protects_eq_some {gates : List Gate} (all : ∀ gate, gate ∈ gates) :
    gates.find? (·.protects thing) = some gate ↔ gate.Takes thing := by
  constructor
  · intro found
    have taken := List.find?_some found
    exact takes_of_protects taken
  · intro taken
    cases found : gates.find? (·.protects thing) with
    | none =>
      have missed := List.find?_eq_none.1 found gate (all gate)
      exact absurd (protects_of_takes taken) missed
    | some first =>
      have firstTakes := List.find?_some found
      rw [(takes_of_protects firstTakes).unique taken]

/-- The order in which the gates are asked makes no difference. -/
theorem routeAlong_perm {gates : List Gate} (h : gates.Perm order) (thing : Value) :
    routeAlong gates thing = route thing := by
  have all (gate : Gate) : gate ∈ gates := h.mem_iff.2 (mem_order gate)
  have same : gates.find? (·.protects thing) = order.find? (·.protects thing) := by
    ext gate
    rw [find?_protects_eq_some all, find?_protects_eq_some mem_order]
  rw [← routeAlong_order, routeAlong, routeAlong, same]

theorem route_eq_ok_iff : route thing = .ok gate ↔ gate.Takes thing := by
  rw [← find?_protects_eq_some mem_order, route]
  cases order.find? (·.protects thing) with
  | some first =>
    show Except.ok first = Except.ok gate ↔ _
    rw [Except.ok.injEq, Option.some.injEq]
  | none =>
    refine iff_of_false (fun routed => ?_) nofun
    obtain ⟨text, -, thrown⟩ := exists_of_bind_eq_ok routed
    cases thrown

theorem route_of_not_takes {text : String} (missing : ∀ gate : Gate, ¬gate.Takes thing)
    (written : thing.written = .ok text) : route thing = .error (.noGate text) := by
  have none : order.find? (·.protects thing) = none := by
    refine List.find?_eq_none.2 fun gate _ => ?_
    rw [protects_iff]
    exact missing gate
  rw [route, none, written]
  rfl

/-! ## Wrapping -/

variable {registry : Registry}

/-- A gate gives a wrapper of its own back as it is. -/
theorem wrap_wrapped (registry : Registry) (wrapped : Wrapped) :
    wrapped.gate.wrap registry (.wrapped wrapped) = .ok wrapped := by
  cases wrapped <;> rfl

theorem exists_wrap (h : gate.Takes thing) (short : thing.isShort = true)
    (named : thing.member? "flipper_id" ≠ some .null) :
    ∃ wrapped, gate.wrap registry thing = .ok wrapped := by
  cases h with
  | wrapper wrapped => exact ⟨wrapped, wrap_wrapped registry wrapped⟩
  | boolean b => exact ⟨.boolean (.bool b), rfl⟩
  | expression tree => exact ⟨.expression tree, rfl⟩
  | group name => exact ⟨.group (.text name), rfl⟩
  | actor hasId =>
    obtain ⟨id, there⟩ := Option.isSome_iff_exists.1 hasId
    have notNull : id.isNull = false := by
      refine Value.isNull_eq_false fun null => named ?_
      rw [there, null]
    obtain ⟨text, shown⟩ := Value.shown_of_isShort (Value.isShort_of_member? short there)
    exact ⟨.actor thing text, Wrapped.wrapActor_shown there notNull shown⟩

/-- An actor whose id is null is refused. -/
theorem wrap_of_null_id {text : String} (h : gate.Takes thing)
    (null : thing.member? "flipper_id" = some .null) (written : thing.written = .ok text) :
    gate.wrap registry thing = .error (.invalidThing .actor text) := by
  have hasId := Value.isActorLike_of_member? null
  obtain rfl := h.eq_actor hasId
  show Wrapped.wrapActor thing = _
  unfold Wrapped.wrapActor
  split
  · cases null
  · rw [if_pos hasId, Wrapped.ofActor, null]
    show thing.refuse .actor = _
    rw [Value.refuse, written]
    rfl

/-! ## Agreement -/

/-- How a thing is routed, and how it is wrapped where it is routed to. -/
structure RoutesAndWraps (registry : Registry) (thing : Value) : Prop where
  /-- At most one gate takes the thing. -/
  unique : ∀ gate other : Gate, gate.protects thing = true → other.protects thing = true →
    gate = other
  /-- So the gates may be asked in any order. -/
  anyOrder : ∀ gates : List Gate, gates.Perm order → routeAlong gates thing = route thing
  /-- The thing is routed to the gate that takes it. -/
  routed : ∀ gate : Gate, route thing = .ok gate ↔ gate.protects thing = true
  /-- Routing fails if no gate takes the thing, and only then. -/
  missing : (∀ gate : Gate, gate.protects thing = false) ↔ ∃ text failure,
    thing.written = .ok text ∧ route thing = .error failure ∧ failure.category = .flag ∧
      failure.code? = some "GATE_NOT_FOUND" ∧ failure.text = "No gate found for " ++ text
  /-- Where it is routed to it is wrapped, unless it is an actor whose id is null; the gate is the
  only one to take the wrapper, and gives it back as it is. -/
  wrapped : ∀ gate : Gate, route thing = .ok gate → thing.member? "flipper_id" ≠ some .null →
    ∃ wrapped, gate.wrap registry thing = .ok wrapped ∧
      (∀ other : Gate, other.protects (.wrapped wrapped) = true ↔ other = gate) ∧
      gate.wrap registry (.wrapped wrapped) = .ok wrapped
  /-- An actor whose id is null is refused as no actor. -/
  refused : ∀ gate : Gate, route thing = .ok gate → thing.member? "flipper_id" = some .null →
    thing.isActorLike = true ∧ ∃ text failure,
      thing.written = .ok text ∧ gate.wrap registry thing = .error failure ∧
        failure.category = .flag ∧ failure.code? = some "INVALID_TYPE" ∧
        failure.text = "Invalid actor type: " ++ text

/-- A thing without integers that are too long to write is wrapped where it is routed to, and its
wrapper is routed there too. -/
theorem routesAndWraps (registry : Registry) (thing : Value) (short : thing.isShort = true) :
    RoutesAndWraps registry thing := by
  obtain ⟨text, written⟩ := Value.written_of_isShort short
  refine {
    unique := fun gate other taken taken' =>
      (takes_of_protects taken).unique (takes_of_protects taken')
    anyOrder := fun gates perm => routeAlong_perm perm thing
    routed := fun gate => route_eq_ok_iff.trans protects_iff.symm
    missing := ⟨fun none => ?_, ?_⟩
    wrapped := fun gate routed named => ?_
    refused := fun gate routed null => ?_ }
  · refine ⟨text, .noGate text, written, ?_, rfl, rfl, rfl⟩
    refine route_of_not_takes (fun gate taken => ?_) written
    exact Bool.false_ne_true ((none gate).symm.trans (protects_of_takes taken))
  · rintro ⟨_, failure, -, failed, -⟩ gate
    rw [← Bool.not_eq_true, protects_iff, ← route_eq_ok_iff, failed]
    nofun
  · obtain ⟨wrapped, made⟩ := exists_wrap (route_eq_ok_iff.1 routed) short named
    obtain rfl := gate_wrap made
    refine ⟨wrapped, made, fun other => ?_, wrap_wrapped registry wrapped⟩
    rw [protects_iff, takes_wrapped_iff]
  · refine ⟨Value.isActorLike_of_member? null, text, .invalidThing .actor text, written, ?_,
      rfl, rfl, rfl⟩
    exact wrap_of_null_id (route_eq_ok_iff.1 routed) null written

/-- An id may be a list; then its text is how the list is written. An object whose id is null has
a gate, but no wrapper. -/
theorem routesAndWraps_accidental :
    let record := Value.ofFields
      [("visits", .int 12), ("flipper_id", .list [.text "it's", .bool true])]
    let object := Value.object [("value", .number (.float .nan)), ("flipper_id", .null)]
    (record.isShort = true ∧ RoutesAndWraps .standard record ∧ route record = .ok .actor ∧
      Gate.actor.wrap .standard record = .ok (.actor record "[\"it's\", True]")) ∧
    object.isShort = true ∧ RoutesAndWraps .standard object ∧ route object = .ok .actor ∧
      Gate.actor.wrap .standard object =
        .error (.invalidThing .actor "namespace(value=nan, flipper_id=None)") := by
  intro record object
  have recordShort : record.isShort = true := by decide +kernel
  have objectShort : object.isShort = true := by decide +kernel
  have shown : (Value.list [.text "it's", .bool true]).shown = .ok "[\"it's\", True]" := by cbv
  have wrapped : Wrapped.wrapActor record = .ok (.actor record "[\"it's\", True]") :=
    Wrapped.wrapActor_shown rfl rfl shown
  have written : object.written = .ok "namespace(value=nan, flipper_id=None)" := by cbv
  exact ⟨⟨recordShort, routesAndWraps .standard record recordShort, rfl, wrapped⟩,
    objectShort, routesAndWraps .standard object objectShort, rfl,
      wrap_of_null_id (.actor rfl) rfl written⟩

end Gate

end FeatureGates
