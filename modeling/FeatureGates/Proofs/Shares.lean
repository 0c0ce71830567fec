import FeatureGates.Proofs.Bare

/-!
# Percentages that are stored

A percentage is stored as its text and read off the front of the text. For
integers, and for numbers whose text has a point, that gives the percentage
back (`Percentage.exists_read`); a number that is written as one digit with
an exponent comes back as the digit. So it is with a store that holds
whatever else: the percentage is answered unchanged just if it has a point
in this sense, and if the other values of the feature can be read at all.
-/

namespace FeatureGates

/-- The enabling of a percentage. -/
def Share.enabling (share : Share) (percentage : Value) : Action :=
  match share with
  | .actors => .enablePercentageOfActors percentage
  | .time => .enablePercentageOfTime percentage

namespace Share

variable {share : Share} {registry : Registry} {p : Percentage}

/-- The wrapper of a percentage. -/
def wrapper (share : Share) (p : Percentage) : Wrapped :=
  match share with
  | .actors => .percentageOfActors p
  | .time => .percentageOfTime p

theorem demand?_enabling (share : Share) (registry : Registry) (p : Percentage) :
    (share.enabling (.number p.value)).demand? registry =
      some (.ok (.change .enable share.gate (.wrapped (share.wrapper p)))) := by
  have wrapped : Wrapped.ofPercentage share.wrapper (.number p.value) = .ok (share.wrapper p) := by
    show (Percentage.ofNumber p.value).map _ = _
    rw [p.ofNumber_value]
    rfl
  have asked : (share.enabling (.number p.value)).demand? registry =
      some (Change.enable.demandWrapped registry
        (Wrapped.ofPercentage share.wrapper (.number p.value))) := by
    cases share <;> rfl
  rw [asked, wrapped]
  cases share <;> rfl

end Share

/-! ## Reading back -/

/-- A percentage that is there changes the typed values in that percentage alone. -/
theorem GateValues.ofEntries_withPercentage (share : Share) {a b : Entries} {q : Number}
    (others : ∀ gate ≠ share.gate, Entries.get a gate.key = Entries.get b gate.key)
    (own : Raw.toNumber (Entries.get a share.gate.key) = .ok q)
    (zero : Raw.toNumber (Entries.get b share.gate.key) = .ok (.int 0)) :
    ofEntries a = (ofEntries b).map (·.withPercentage q share) := by
  have boolean := others .boolean (by cases share <;> decide)
  have expression := others .expression (by cases share <;> decide)
  have actor := others .actor (by cases share <;> decide)
  have group := others .group (by cases share <;> decide)
  cases share with
  | actors =>
    have time := others .percentageOfTime (by decide)
    have own : Raw.toNumber (Entries.get a Gate.percentageOfActors.key) = .ok q := own
    have zero : Raw.toNumber (Entries.get b Gate.percentageOfActors.key) = .ok (.int 0) := zero
    simp only [ofEntries, boolean, expression, actor, group, time, own, zero]
    cases Raw.toNames (Entries.get b Gate.actor.key) with
    | error failure => rfl
    | ok actors =>
      cases Raw.toNames (Entries.get b Gate.group.key) with
      | error failure => rfl
      | ok groups => cases Raw.toNumber (Entries.get b Gate.percentageOfTime.key) <;> rfl
  | time =>
    have actors := others .percentageOfActors (by decide)
    have own : Raw.toNumber (Entries.get a Gate.percentageOfTime.key) = .ok q := own
    have zero : Raw.toNumber (Entries.get b Gate.percentageOfTime.key) = .ok (.int 0) := zero
    simp only [ofEntries, boolean, expression, actor, group, actors, own, zero]
    cases Raw.toNames (Entries.get b Gate.actor.key) with
    | error failure => rfl
    | ok actors =>
      cases Raw.toNames (Entries.get b Gate.group.key) with
      | error failure => rfl
      | ok groups => cases Raw.toNumber (Entries.get b Gate.percentageOfActors.key) <;> rfl

/-- After a percentage is rewritten, the values are the other ones with that percentage. -/
theorem Records.Rewritten.typed_percentage {records after : Records} {feature text : String}
    {share : Share} {q : Number}
    (h : records.Rewritten feature share.gate.key (some (.plain (.text text))) after)
    (read : Raw.leadingNumber text = .ok q) :
    GateValues.ofEntries (after.readFeature feature) =
      (records.valuesBut feature share.gate).map (·.withPercentage q share) := by
  refine GateValues.ofEntries_withPercentage share (fun gate different => ?_) ?_ ?_
  · have elsewhere : ¬(feature = feature ∧ gate.key = share.gate.key) := fun same =>
      different (Gate.key_injective same.2)
    rw [Records.get_readFeature, Records.get_readFeature, h.cells, Records.cell?_eraseCell,
      if_neg elsewhere, if_neg elsewhere]
  · have plain : (Cell.plain (.text text)).read share.gate.key = .text text :=
      Cell.read_plain (by cases share <;> decide) _
    rw [Records.get_readFeature, h.cells, if_pos ⟨rfl, rfl⟩, Option.map_some, plain]
    exact read
  · rw [Records.get_readFeature, Records.cell?_eraseCell, if_pos ⟨rfl, rfl⟩]
    rfl

namespace FlagSet

variable {store : String} {frame : Frame} {w : World} {s : ReferenceState}

/-- A percentage is answered as what its text is read as, if the other values can be read. -/
theorem gateValue_enabling (name : String) (instrumenter : Instrumenter) (registry : Registry)
    (meaning : Meaning) (h : w.Holds store frame s) (share : Share) (feature : String)
    {p : Percentage} {text : String} {q : Number} (written : p.value.written = .ok text)
    (read : Raw.leadingNumber text = .ok q) :
    ∃ w' w'', (share.enabling (.number p.value)).run
        (bare store name instrumenter registry meaning) feature w = .ok (.truth true) w' ∧
      (Action.gateValue share.gate).run (bare store name instrumenter registry meaning) feature w' =
        match s.records.valuesBut feature share.gate with
        | .ok _ => .ok (.value (.number q)) w''
        | .error failure => .error failure w'' := by
  have held : Filing.heldText (.wrapped (share.wrapper p)) = .ok text := by
    cases share <;> exact written
  obtain ⟨after, filed, rewritten⟩ := Filing.change_percentage feature .enable share held s.records
  obtain ⟨w', ran, holds⟩ := run_bare name instrumenter meaning h
    (share.demand?_enabling registry p) filed
  obtain ⟨w'', asked⟩ := gateValues_bare name instrumenter registry meaning holds feature
  rw [rewritten.typed_percentage read] at asked
  refine ⟨w', w'', ran, ?_⟩
  show (do return Answer.value ((← gateValues _ feature).get share.gate) : Run Answer) w' = _
  simp only [bind_apply, asked]
  cases s.records.valuesBut feature share.gate with
  | error failure => rfl
  | ok values =>
    show EStateM.Result.ok (Answer.value ((values.withPercentage q share).get share.gate)) w'' = _
    rw [GateValues.get_withPercentage]

/-- A percentage that is enabled is answered unchanged just if it is an
integer or has a point in its text, and the other values can be read. -/
theorem gateValue_percentage_iff (name : String) (instrumenter : Instrumenter)
    (registry : Registry) (meaning : Meaning) (share : Share) (feature : String) (p : Percentage)
    (available : ∀ count operation, (w.store store).outage count operation = none) :
    ∃ w', (share.enabling (.number p.value)).run (bare store name instrumenter registry meaning)
        feature w = .ok (.truth true) w' ∧
      ((∃ q w'', (Action.gateValue share.gate).run (bare store name instrumenter registry meaning)
            feature w' = .ok (.value (.number q)) w'' ∧ q.eq p.value = true) ↔
        p.value.hasPoint = true ∧ (w.store store).records.ReadableBut feature share.gate) := by
  obtain ⟨text, q, written, read, same, -⟩ := p.exists_read
  obtain ⟨w', w'', ran, answered⟩ := gateValue_enabling name instrumenter registry meaning
    (World.holds_self available) share feature written read
  refine ⟨w', ran, ?_⟩
  rw [answered, Records.ReadableBut]
  cases (w.store store).records.valuesBut feature share.gate with
  | error failure =>
    refine iff_of_false ?_ ?_
    · rintro ⟨q', w₂, found, -⟩
      cases found
    · rintro ⟨-, values, found⟩
      cases found
  | ok values =>
    constructor
    · rintro ⟨q', w₂, found, equal⟩
      cases found
      exact ⟨same.1 equal, values, rfl⟩
    · rintro ⟨point, -⟩
      exact ⟨q, w'', rfl, same.2 point⟩

theorem gateValue_quarter_iff :
    ∃ w', (Share.actors.enabling (.int 25)).run
        (bare "store" "memory" .none .standard fun _ _ => pure (.fresh .null)) "search"
        (.fresh ⟨fun _ => .int 0, 0, .int 0, [], []⟩) = .ok (.truth true) w' ∧
      ((∃ q w'', (Action.gateValue .percentageOfActors).run
            (bare "store" "memory" .none .standard fun _ _ => pure (.fresh .null)) "search" w' =
              .ok (.value (.number q)) w'' ∧ q.eq (.int 25) = true) ↔
        (Number.int 25).hasPoint = true ∧
          Records.ReadableBut .empty "search" .percentageOfActors) :=
  gateValue_percentage_iff "memory" .none .standard (fun _ _ => pure (.fresh .null)) .actors
    "search" ⟨.int 25, by decide +kernel⟩ (fun _ _ => rfl)

/-- The hundred-thousandth part, which is written without a point. -/
def hundredThousandth : Percentage := ⟨.float (.ofDecimal false 1 (-5)), by decide +kernel⟩

/-- It is written as one digit with an exponent, and answered as that digit. -/
theorem gateValue_hundredThousandth :
    ∃ w' w'', (Share.actors.enabling (.number hundredThousandth.value)).run
        (bare "store" "memory" .none .standard fun _ _ => pure (.fresh .null)) "search"
        (.fresh ⟨fun _ => .int 0, 0, .int 0, [], []⟩) = .ok (.truth true) w' ∧
      (Action.gateValue .percentageOfActors).run
          (bare "store" "memory" .none .standard fun _ _ => pure (.fresh .null)) "search" w' =
        .ok (.value (.int 1)) w'' ∧
      (Number.int 1).eq hundredThousandth.value = false := by
  have written : hundredThousandth.value.written = .ok "1e-05" :=
    Number.ok_of_toOption (by decide +kernel)
  have read : Raw.leadingNumber "1e-05" = .ok (.int 1) := Number.ok_of_toOption (by decide +kernel)
  have available (count : Nat) (operation : String) : ((World.fresh
      ⟨fun _ => .int 0, 0, .int 0, [], []⟩).store "store").outage count operation = none := rfl
  obtain ⟨w', w'', ran, answered⟩ := gateValue_enabling "memory" .none .standard
    (fun _ _ => pure (.fresh .null)) (World.holds_self available) .actors "search" written read
  exact ⟨w', w'', ran, answered, by decide +kernel⟩

end FlagSet

end FeatureGates
