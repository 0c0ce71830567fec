import FeatureGates.Proofs.Bare
import FeatureGates.Proofs.Trees

/-!
# Trees that are stored

An expression that is enabled is stored in object notation, and a check
builds it again before evaluating it. What it builds is the tree that was
enabled (`Node.build_toStored`), so the gate decides by that tree
(`Gate.decides_isOpen`): it is open just if the tree evaluates to a true
value, with one exception. An integer that is too large for a
floating-point number is a true value, but telling that it is not NaN
fails, and a failure leaves the gate closed.
-/

namespace FeatureGates

/-! Powers of natural numbers are the ones of core. -/

attribute [local instance (2000)] instPowNat

/-! ## Truth -/

theorem Binary64.isNaN_ofInt? {n : Int} {x : Binary64} (h : ofInt? n = some x) :
    x.isNaN = false := by
  unfold ofInt? ofRatio? at h
  obtain ⟨m, -, rfl⟩ := Option.map_eq_some_iff.1 h
  rfl

namespace Number

/-- The number has a nearest floating-point number. -/
def fits (n : Number) : Bool := n.toBinary64.toOption.isSome

/-- Asked in floating point whether it is NaN, a number gives the right answer if it fits. -/
theorem checkNaN_eq (n : Number) : n.checkNaN = n.toBinary64.map fun _ => n.isNaN := by
  unfold checkNaN
  fun_cases toBinary64 n with
  | case1 n x nearest => exact congrArg Except.ok (Binary64.isNaN_ofInt? nearest)
  | case2 n nearest => rfl
  | case3 x => rfl

end Number

namespace Value

/-- Anything but null, `false`, zero, NaN and the empty text. -/
def isTrue : Value → Bool
  | .null => false
  | .bool b => b
  | .number n => !n.isZero && !n.isNaN
  | .text s => !s.isEmpty
  | _ => true

/-- The value is no integer that is too large for a floating-point number. -/
def fits : Value → Bool
  | .number n => n.fits
  | _ => true

/-- A value that is true and fits is taken to be true, and no other. -/
theorem truthy_eq_true (value : Value) :
    value.truthy = .ok true ↔ value.isTrue = true ∧ value.fits = true := by
  cases value with
  | scalar s =>
    cases s with
    | null => exact ⟨nofun, fun h => nomatch h.1⟩
    | bool b => exact ⟨fun h => ⟨Except.ok.inj h, rfl⟩, fun h => congrArg Except.ok h.1⟩
    | text s => exact ⟨fun h => ⟨Except.ok.inj h, rfl⟩, fun h => congrArg Except.ok h.1⟩
    | number n =>
      show (if n.isZero then Except.ok false else n.checkNaN.map (!·)) = .ok true ↔
        (!n.isZero && !n.isNaN) = true ∧ n.toBinary64.toOption.isSome = true
      rw [Number.checkNaN_eq]
      cases n.isZero <;> cases n.isNaN <;> cases n.toBinary64 <;> simp [Except.map, Except.toOption]
  | _ => exact ⟨fun _ => ⟨rfl, rfl⟩, fun _ => rfl⟩

end Value

/-! ## What a check decides -/

/-- The surroundings that a check leaves behind. -/
def Check.leaves {α : Type} (check : Check α) (s : Surroundings) : Surroundings :=
  match check s with
  | .ok _ after => after
  | .error _ after => after

/-- A check decides by a tree: it is open just if the tree evaluates to a
value that is true and fits, and leaves behind what evaluating the tree
does, lines of the log aside. -/
def Node.Decides (tree : Node) (meaning : Meaning) (context : EvaluationContext)
    (check : Check Bool) : Prop :=
  ∀ s, ∃ isOpen lines,
    check s = .ok isOpen
      { (tree.evaluate meaning context).leaves s with
        log := ((tree.evaluate meaning context).leaves s).log ++ lines } ∧
      (isOpen = true ↔ ∃ operand after, tree.evaluate meaning context s = .ok operand after ∧
        operand.value.isTrue = true ∧ operand.value.fits = true)

namespace Gate

variable {environment : Environment} {context : CheckContext} {stored : Entries} {tree : Node}
  {s after : Surroundings} {failure : Failure}

theorem evaluateStored_of_built (context : CheckContext)
    (built : Node.build environment.registry (.record stored) = .ok tree) :
    evaluateStored environment context stored = (do
      let operand ← tree.evaluate environment.meaning context.evaluation
      Check.ofExcept operand.value.truthy) := by
  unfold evaluateStored
  rw [built]
  rfl

/-- The warning that a stored expression has failed. -/
def warning (feature : CodePoints) (stored : Entries) (failure : Failure) : LogLine :=
  ⟨.warning, "expression evaluation failed", [("feature_name", .name feature),
    ("expression", .value (.record stored)), ("error", .value (.text failure.message))], false⟩

/-- A failure is logged, and leaves the gate closed. -/
theorem expressionIsOpen_apply (there : context.values.expression = some stored)
    (s : Surroundings) :
    expressionIsOpen environment context s =
      match evaluateStored environment context stored s with
      | .ok b after => .ok b after
      | .error failure after =>
        .ok false { after with log := after.log ++ [warning context.feature stored failure] } := by
  unfold expressionIsOpen
  rw [there]
  show EStateM.tryCatch (evaluateStored environment context stored) _ s = _
  unfold EStateM.tryCatch
  cases evaluateStored environment context stored s <;> rfl

theorem expressionIsOpen_of_ok {b : Bool} (there : context.values.expression = some stored)
    (h : evaluateStored environment context stored s = .ok b after) :
    expressionIsOpen environment context s = .ok b after := by
  rw [expressionIsOpen_apply there, h]

theorem expressionIsOpen_of_error (there : context.values.expression = some stored)
    (h : evaluateStored environment context stored s = .error failure after) :
    ∃ line, expressionIsOpen environment context s =
      .ok false { after with log := after.log ++ [line] } := by
  rw [expressionIsOpen_apply there, h]
  exact ⟨_, rfl⟩

/-- The gate decides by the tree that is built of what is stored. -/
theorem decides_isOpen (environment : Environment) (context : CheckContext)
    (there : context.values.expression = some stored)
    (built : Node.build environment.registry (.record stored) = .ok tree) :
    tree.Decides environment.meaning context.evaluation
      (Gate.isOpen .expression environment context) := by
  intro s
  have asked := congrFun (evaluateStored_of_built context built) s
  rw [bind_apply] at asked
  unfold Check.leaves
  cases evaluated : tree.evaluate environment.meaning context.evaluation s with
  | error failure after =>
    rw [evaluated] at asked
    obtain ⟨line, closed⟩ := expressionIsOpen_of_error there asked
    refine ⟨false, [line], closed, iff_of_false nofun ?_⟩
    rintro ⟨operand, after, same, -⟩
    cases same
  | ok operand after =>
    have open_iff : operand.value.truthy = .ok true ↔ ∃ operand' after',
        EStateM.Result.ok operand after = .ok (ε := Failure) operand' after' ∧
          operand'.value.isTrue = true ∧ operand'.value.fits = true := by
      rw [Value.truthy_eq_true]
      constructor
      · exact fun both => ⟨operand, after, rfl, both⟩
      · rintro ⟨operand', after', same, both⟩
        cases same
        exact both
    have asked : evaluateStored environment context stored s =
        Check.ofExcept operand.value.truthy after := by rw [asked, evaluated]
    rw [← open_iff]
    cases told : operand.value.truthy with
    | ok b =>
      rw [told] at asked
      refine ⟨b, [], ?_, congrArg Except.ok, Except.ok.inj⟩
      show expressionIsOpen environment context s =
        .ok b { after with log := after.log ++ [] }
      rw [List.append_nil]
      exact expressionIsOpen_of_ok there asked
    | error failure =>
      rw [told] at asked
      obtain ⟨line, closed⟩ := expressionIsOpen_of_error there asked
      exact ⟨false, [line], closed, iff_of_false nofun nofun⟩

end Gate

/-! ## What is stored -/

/-- What was built under added node types is built again from what it is stored as. -/
theorem Node.build_storedEntries {types : List NodeType}
    (unlike : ∀ type ∈ types, type.signature.name ≠ constantName) {value : Value}
    (free : value.isTreeless = true) {tree : Node}
    (built : build (Registry.standard.extend types) value = .ok tree) :
    build (Registry.standard.extend types) (.record tree.storedEntries) = .ok tree := by
  have lawful := Registry.lawful_extend Registry.lawful_standard types
  have known : tree.Known (Registry.standard.extend types) :=
    known_of_build lawful value free tree built
  have constant : (Registry.standard.extend types).find? constantName = some .constant :=
    (Registry.find?_extend_of_ne unlike).trans Registry.find?_standard_constant
  rw [← tree.toStored_eq_record]
  exact build_toStored known constant

/-- A document that is there changes the typed values in the expression alone. -/
theorem GateValues.ofEntries_withExpression {a b : Entries} {stored : Entries}
    (others : ∀ gate ≠ Gate.expression, Entries.get a gate.key = Entries.get b gate.key)
    (own : Raw.toExpression (Entries.get a Gate.expression.key) = some stored) :
    ofEntries a = (ofEntries b).map ({ · with expression := some stored }) := by
  simp only [ofEntries, others .boolean (by decide), others .actor (by decide),
    others .group (by decide), others .percentageOfActors (by decide),
    others .percentageOfTime (by decide), own]
  cases Raw.toNames (Entries.get b Gate.actor.key) with
  | error failure => rfl
  | ok actors =>
    cases Raw.toNames (Entries.get b Gate.group.key) with
    | error failure => rfl
    | ok groups =>
      cases Raw.toNumber (Entries.get b Gate.percentageOfActors.key) with
      | error failure => rfl
      | ok share => cases Raw.toNumber (Entries.get b Gate.percentageOfTime.key) <;> rfl

/-- After an expression is rewritten, the values are the other ones with that expression. -/
theorem Records.Rewritten.typed_expression {records after : Records} {feature : String}
    {stored : Entries} (nonempty : stored ≠ [])
    (h : records.Rewritten feature Gate.expression.key (some (.document (.record stored))) after) :
    GateValues.ofEntries (after.readFeature feature) =
      (records.valuesBut feature .expression).map ({ · with expression := some stored }) := by
  refine GateValues.ofEntries_withExpression (fun gate different => ?_) ?_
  · have elsewhere : ¬(feature = feature ∧ gate.key = Gate.expression.key) := fun same =>
      different (Gate.key_injective same.2)
    rw [Records.get_readFeature, Records.get_readFeature, h.cells, Records.cell?_eraseCell,
      if_neg elsewhere, if_neg elsewhere]
  · rw [Records.get_readFeature, h.cells, if_pos ⟨rfl, rfl⟩]
    show Raw.nonEmpty? (.record stored) = some stored
    cases stored with
    | nil => exact absurd rfl nonempty
    | cons entry rest => rfl

namespace FlagSet

variable {store : String} {registry : Registry} {frame : Frame} {w : World} {s : ReferenceState}

theorem demand?_enableExpression {entries : Entries} {tree : Node}
    (built : Node.build registry (.record entries) = .ok tree) :
    (Action.enableExpression (.record entries)).demand? registry =
      some (.ok (.change .enable .expression (.wrapped (.expression tree)))) := by
  have wrapped : Wrapped.wrapExpression registry (.record entries) = .ok (.expression tree) := by
    show (Node.build registry (.record entries)).map _ = _
    rw [built]
    rfl
  show some (Change.enable.demandWrapped registry _) = _
  rw [wrapped]
  rfl

/-- A tree is stored beside the other values, if these can be read. -/
theorem gateValues_enableExpression (name : String) (instrumenter : Instrumenter)
    (meaning : Meaning) (h : w.Holds store frame s) (feature : String) {entries : Entries}
    {tree : Node} (built : Node.build registry (.record entries) = .ok tree)
    (short : tree.isShort = true) :
    ∃ w' w'', (Action.enableExpression (.record entries)).run
        (bare store name instrumenter registry meaning) feature w = .ok (.truth true) w' ∧
      (bare store name instrumenter registry meaning).gateValues feature w' =
        match s.records.valuesBut feature .expression with
        | .ok values => .ok { values with expression := some tree.storedEntries } w''
        | .error failure => .error failure w'' := by
  obtain ⟨after, filed, rewritten⟩ := Filing.enable_expression
    feature (Filing.heldDocument_expression short) s.records
  obtain ⟨w', ran, holds⟩ := run_bare name instrumenter meaning h
    (demand?_enableExpression built) filed
  obtain ⟨w'', asked⟩ := gateValues_bare name instrumenter registry meaning holds feature
  rw [rewritten.typed_expression tree.storedEntries_ne_nil] at asked
  refine ⟨w', w'', ran, ?_⟩
  rw [asked]
  cases s.records.valuesBut feature .expression <;> rfl

/-- After object notation without ready-made trees is enabled, the feature's
expression is what its tree is stored as, if the other values can be read;
and for anyone who asks then, the gate decides by that tree. -/
theorem enableExpression_decides (name : String) (instrumenter : Instrumenter) (meaning : Meaning)
    (types : List NodeType) (unlike : ∀ type ∈ types, type.signature.name ≠ constantName)
    (feature : String) {entries : Entries} {tree : Node}
    (free : (Value.record entries).isTreeless = true)
    (built : Node.build (Registry.standard.extend types) (.record entries) = .ok tree)
    (short : tree.isShort = true)
    (available : ∀ count operation, (w.store store).outage count operation = none) :
    ∃ w', (Action.enableExpression (.record entries)).run
        (bare store name instrumenter (Registry.standard.extend types) meaning) feature w =
          .ok (.truth true) w' ∧
      ((∃ w'', (Action.gateValue .expression).run
          (bare store name instrumenter (Registry.standard.extend types) meaning) feature w' =
            .ok (.value (Wrapped.expression tree).value) w'') ↔
        (w.store store).records.ReadableBut feature .expression) ∧
      ∀ values w'', (bare store name instrumenter (Registry.standard.extend types)
          meaning).gateValues feature w' = .ok values w'' →
        ∀ groups subject, tree.Decides meaning (CheckContext.mk feature values subject).evaluation
          (Gate.isOpen .expression ⟨Registry.standard.extend types, meaning, groups⟩
            ⟨feature, values, subject⟩) := by
  obtain ⟨w', w'', ran, asked⟩ := gateValues_enableExpression name instrumenter meaning
    (World.holds_self available) feature built short
  have again := Node.build_storedEntries unlike free built
  refine ⟨w', ran, ?_, fun values w₂ found groups subject => ?_⟩
  · show (∃ w₂, (do
      return Answer.value ((← gateValues _ feature).get .expression) : Run Answer) w' =
      .ok (.value tree.toStored) w₂) ↔
        ∃ values, (w.store store).records.valuesBut feature .expression = .ok values
    simp only [bind_apply, asked]
    cases (w.store store).records.valuesBut feature .expression with
    | error failure =>
      refine iff_of_false ?_ ?_
      · rintro ⟨w₂, answered⟩
        cases answered
      · rintro ⟨values, read⟩
        cases read
    | ok values =>
      refine iff_of_true ⟨w'', ?_⟩ ⟨values, rfl⟩
      rw [tree.toStored_eq_record]
      rfl
  · rw [asked] at found
    refine Gate.decides_isOpen _ _ ?_ again
    show values.expression = some tree.storedEntries
    cases read : (w.store store).records.valuesBut feature .expression with
    | error failure => rw [read] at found; cases found
    | ok others => rw [read] at found; cases found; rfl

/-- An operator to add. -/
def twice : Signature := ⟨"Twice", "Twice", ⟨1, some 1⟩, false⟩

/-- An added operator over a built-in one. -/
theorem enableExpression_decides_twice :
    ∃ w', (Action.enableExpression (.record
          [(.text "Twice", .list [.record [(.text "Property", .text "visits")]])])).run
        (bare "store" "memory" .none (Registry.standard.extend [.operator (.custom twice)])
          fun _ _ => pure (.fresh .null)) "search"
        (.fresh ⟨fun _ => .int 0, 0, .int 0, [], []⟩) = .ok (.truth true) w' ∧
      ((∃ w'', (Action.gateValue .expression).run
          (bare "store" "memory" .none (Registry.standard.extend [.operator (.custom twice)])
            fun _ _ => pure (.fresh .null)) "search" w' =
          .ok (.value (Wrapped.expression (.call (.custom twice)
            [.call (.builtin .property) [.constant (.text "visits")]])).value) w'') ↔
        Records.ReadableBut .empty "search" .expression) ∧
      ∀ values w'',
        (bare "store" "memory" .none (Registry.standard.extend [.operator (.custom twice)])
          fun _ _ => pure (.fresh .null)).gateValues "search" w' = .ok values w'' →
        ∀ groups subject,
          (Node.call (.custom twice)
            [.call (.builtin .property) [.constant (.text "visits")]]).Decides
            (fun _ _ => pure (.fresh .null)) (CheckContext.mk "search" values subject).evaluation
            (Gate.isOpen .expression ⟨Registry.standard.extend [.operator (.custom twice)],
              fun _ _ => pure (.fresh .null), groups⟩ ⟨"search", values, subject⟩) :=
  enableExpression_decides "memory" .none (fun _ _ => pure (.fresh .null)) _ (by decide) "search"
    rfl (Number.ok_of_toOption (by decide +kernel)) (by decide +kernel) (fun _ _ => rfl)

/-- An integer that is too large for a floating-point number. -/
def enormous : Scalar := .number (.int (Int.ofNat ((10 : Nat) ^ (400 : Nat))))

/-- A lone one evaluates to a true value, and still the gate is closed. -/
theorem isOpen_enormous :
    ∃ w' values w'' after,
      (Action.enableExpression (.record [(.text "Constant", .scalar enormous)])).run
        (bare "store" "memory" .none .standard fun _ _ => pure (.fresh .null)) "search"
        (.fresh ⟨fun _ => .int 0, 0, .int 0, [], []⟩) = .ok (.truth true) w' ∧
      (bare "store" "memory" .none .standard fun _ _ => pure (.fresh .null)).gateValues
        "search" w' = .ok values w'' ∧
      (Node.constant enormous).evaluate (fun _ _ => pure (.fresh .null))
          (CheckContext.mk "search" values none).evaluation ⟨fun _ => .int 0, 0, .int 0, [], []⟩ =
        .ok (.fresh (.scalar enormous)) ⟨fun _ => .int 0, 0, .int 0, [], []⟩ ∧
      (Value.scalar enormous).isTrue = true ∧
      Gate.isOpen .expression ⟨.standard, fun _ _ => pure (.fresh .null), .empty⟩
        ⟨"search", values, none⟩ ⟨fun _ => .int 0, 0, .int 0, [], []⟩ = .ok false after := by
  have available (count : Nat) (operation : String) : ((World.fresh
      ⟨fun _ => .int 0, 0, .int 0, [], []⟩).store "store").outage count operation = none := rfl
  have built : Node.build .standard (.record [(.text "Constant", .scalar enormous)]) =
      .ok (.constant enormous) := Number.ok_of_toOption (by decide +kernel)
  obtain ⟨w', w'', ran, asked⟩ := gateValues_enableExpression "memory" .none
    (fun _ _ => pure (.fresh .null)) (World.holds_self available) "search" built (by decide +kernel)
  obtain ⟨isOpen, lines, ended, opens⟩ := Gate.decides_isOpen
    ⟨.standard, fun _ _ => pure (.fresh .null), .empty⟩
    ⟨"search", { GateValues.closed with
      expression := some (Node.constant enormous).storedEntries }, none⟩ rfl built
    ⟨fun _ => .int 0, 0, .int 0, [], []⟩
  have closed : isOpen = false := by
    rw [Bool.eq_false_iff]
    intro isTrue
    obtain ⟨operand, after, same, -, fits⟩ := opens.1 isTrue
    cases same
    exact absurd fits (by decide +kernel)
  rw [closed] at ended
  exact ⟨w', _, w'', _, ran, asked, rfl, by decide +kernel, ended⟩

end FlagSet

end FeatureGates
