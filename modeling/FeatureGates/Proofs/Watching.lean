import FeatureGates.Proofs.Telling
import FeatureGates.Proofs.Usage

/-!
# Watched flags

Flags are watched if their adapter and the operations on their features
report to a recorder; to the same flags without one they are related by
`FlagSet.Watches`. A call to a watched adapter ends as the call to the other
does, and tells one event: what was called with which details, and its answer
or its failure (`Call.event`). So whatever is put together of such calls tells
the events of the calls that it makes, in order, each call being made from
where the one before has led.
-/

namespace FeatureGates

open Recording

variable {α : Type}

theorem Table.ofRows_append (rows more : List (String × α)) :
    ofRows (rows ++ more) = more.foldl (fun table row => table.put row.1 row.2) (ofRows rows) :=
  List.foldl_append ..

/-! ## Calls to an adapter -/

/-- How a run ended, without where. -/
def outcomeOf {σ : Type} : EStateM.Result Failure σ α → Except Failure α
  | .ok a _ => .ok a
  | .error failure _ => .error failure

/-- A call to an adapter, and how it ended. -/
structure Call where
  operation : String
  details : List (String × Value)
  outcome : Except Failure Value

namespace Call

/-- The field of its payload that an answered call has in addition. -/
def answer (call : Call) : List (String × Value) :=
  match call.outcome with
  | .ok value => [("result", value)]
  | .error _ => []

/-- The event of a call to the adapter of a name. -/
def event (adapter : String) (call : Call) : Event where
  name := Event.adapterOperation
  payload := .ofRows (Adapter.payloadOf call.operation adapter call.details ++ call.answer)
  failure := match call.outcome with
    | .ok _ => none
    | .error failure => some failure
  result := match call.outcome with
    | .ok value => value
    | .error _ => .null

end Call

namespace Adapter

variable (adapter : Adapter)

/-- The call that a read is, made in a world. -/
def readCall (r : Read α) (w : World) : Call :=
  ⟨r.name, r.details, (outcomeOf (adapter.read r w)).map r.shown⟩

/-- The call that a write is, made in a world. -/
def writeCall (feature : String) (write : Write) (w : World) : Call :=
  ⟨write.name, write.details feature, (outcomeOf (adapter.write feature write w)).map Value.bool⟩

/-- The calls that writes are which are made in turn, up to the first that fails. -/
def writeCalls (feature : String) : List Write → World → List Call
  | [], _ => []
  | write :: rest, w => adapter.writeCall feature write w ::
    match adapter.write feature write w with
    | .ok _ w' => writeCalls feature rest w'
    | .error _ _ => []

/-! ### Watched adapters -/

variable {adapter}

/-- What is watched by no one is the operation itself. -/
theorem watched_none (operation name : String) (details : List (String × Value))
    (shown : α → Value) (run : Run α) :
    watched .none operation name details shown run = run := by
  funext w
  have ran := Instrumenter.observe_none_apply Event.adapterOperation
    (payloadOf operation name details) shown
    (do
      let answer ← Observed.ofRun run
      Observed.note "result" (shown answer)
      return answer) w
  refine ran.trans ?_
  rw [Observed.ofRun_bind_apply]
  cases run w <;> rfl

/-- A watched operation tells the event of the call that it is. -/
theorem watched_tells (operation name : String) (details : List (String × Value))
    (shown : α → Value) {run : Run α} (uneventful : FeatureGates.Uneventful run) :
    Tells (watched .memory operation name details shown run)
      (watched .none operation name details shown run)
      fun w => [(Call.mk operation details ((outcomeOf (run w)).map shown)).event name] := by
  have body : FeatureGates.Uneventful (do
      let answer ← Observed.ofRun run
      Observed.note "result" (shown answer)
      return answer : Observed α) :=
    (Observed.ofRun_tells uneventful).bind_uneventful fun answer =>
      (Observed.note_tells "result" (shown answer)).bind_uneventful fun _ => Tells.pure answer
  refine (Instrumenter.observe_tells Event.adapterOperation (payloadOf operation name details)
    shown body).mono fun w => ?_
  rw [List.nil_append, Observed.ofRun_bind_apply]
  unfold Call.event Call.answer
  dsimp only
  cases run w with
  | ok a w' =>
    show _ = [Event.mk _ (.ofRows (_ ++ [("result", shown a)])) none (shown a)]
    rw [Table.ofRows_append]
    rfl
  | error failure w' =>
    show _ = [Event.mk _ (.ofRows (_ ++ [])) (some failure) .null]
    rw [List.append_nil]
    rfl

end Adapter

namespace FlagSet

/-- Two flag sets that differ by who watches: the first is recorded, with its adapter, the second
is watched by no one. -/
structure Watches (watched quiet : FlagSet) : Prop where
  recorded : watched.instrumenter = .memory
  unwatched : quiet.instrumenter = .none
  read {α : Type} (r : Read α) : Tells (watched.adapter.read r) (quiet.adapter.read r) fun w =>
    [(quiet.adapter.readCall r w).event quiet.adapter.name]
  write (feature : String) (write : Write) :
    Tells (watched.adapter.write feature write) (quiet.adapter.write feature write) fun w =>
      [(quiet.adapter.writeCall feature write w).event quiet.adapter.name]
  registry : watched.registry = quiet.registry
  meaning : watched.meaning = quiet.meaning
  name : watched.adapter.name = quiet.adapter.name
  cache : watched.adapter.cache? = quiet.adapter.cache?

/-- Flags behind an adapter, both reporting to one instrumenter. -/
def watchedBy (instrumenter : Instrumenter) (inner : Adapter) (registry : Registry)
    (meaning : Meaning) : FlagSet :=
  ⟨.instrumented instrumenter inner, instrumenter, registry, meaning⟩

theorem watches_watchedBy {inner : Adapter} (h : inner.Uneventful) (registry : Registry)
    (meaning : Meaning) :
    (watchedBy .memory inner registry meaning).Watches
      (watchedBy .none inner registry meaning) where
  recorded := rfl
  unwatched := rfl
  read r := by
    refine (Adapter.watched_tells r.name inner.name r.details r.shown (h.read r)).mono fun w => ?_
    have same : (watchedBy .none inner registry meaning).adapter.read r = inner.read r :=
      Adapter.watched_none r.name inner.name r.details r.shown (inner.read r)
    rw [Adapter.readCall, same]
    rfl
  write feature write := by
    refine (Adapter.watched_tells write.name inner.name (write.details feature) Value.bool
      (h.write feature write)).mono fun w => ?_
    have same : (watchedBy .none inner registry meaning).adapter.write feature write =
        inner.write feature write :=
      Adapter.watched_none write.name inner.name (write.details feature) Value.bool _
    rw [Adapter.writeCall, same]
    rfl
  registry := rfl
  meaning := rfl
  name := rfl
  cache := rfl

/-! ## What is asked of a watched adapter -/

/-- What is told when the values of a feature are asked for. -/
abbrev asking (flags : FlagSet) (feature : String) (w : World) : List Event :=
  [(flags.adapter.readCall (.get feature) w).event flags.adapter.name]

namespace Watches

variable {watched quiet : FlagSet} (h : watched.Watches quiet)

include h

theorem gateValues (feature : String) :
    Tells (watched.gateValues feature) (quiet.gateValues feature) (quiet.asking feature) :=
  (h.read (.get feature)).bind_uneventful fun _ => Run.uneventful_ofExcept _

theorem state (feature : String) :
    Tells (watched.state feature) (quiet.state feature) (quiet.asking feature) :=
  (h.gateValues feature).bind_uneventful fun _ => Tells.pure _

theorem enabledGates (feature : String) :
    Tells (watched.enabledGates feature) (quiet.enabledGates feature) (quiet.asking feature) :=
  (h.gateValues feature).bind_uneventful fun _ => Tells.pure _

theorem gatesOf (feature : String) (enabled : Bool) :
    Tells (Action.gatesOf watched feature enabled) (Action.gatesOf quiet feature enabled)
      (quiet.asking feature) := by
  cases enabled with
  | true => exact h.enabledGates feature
  | false => exact (h.enabledGates feature).bind_uneventful fun _ => Tells.pure _

theorem groupsThatAre (feature : String) (enabled : Bool) :
    Tells (watched.groupsThatAre enabled feature) (quiet.groupsThatAre enabled feature)
      (quiet.asking feature) :=
  (h.gateValues feature).bind_uneventful fun _ =>
    Tells.get_bind (fun _ _ => rfl) fun _ => Tells.pure _

theorem environment :
    Tells watched.environment quiet.environment fun _ => [] := by
  intro w events
  unfold FlagSet.environment
  rw [h.registry, h.meaning, List.append_nil]
  rfl

theorem meet (feature : String) (demand : Demand) :
    Tells (watched.meet feature demand) (quiet.meet feature demand) fun w =>
      (quiet.adapter.writeCalls feature demand.writes w).map (·.event quiet.adapter.name) := by
  have single (write : Write) (w : World) :
      quiet.adapter.writeCalls feature [write] w = [quiet.adapter.writeCall feature write w] := by
    unfold Adapter.writeCalls
    cases quiet.adapter.write feature write w <;> rfl
  cases demand with
  | add => exact (h.write feature .add).mono fun w => by rw [Demand.writes, single]; rfl
  | remove => exact (h.write feature .remove).mono fun w => by rw [Demand.writes, single]; rfl
  | clear => exact (h.write feature .clear).mono fun w => by rw [Demand.writes, single]; rfl
  | change c gate thing =>
    refine ((h.write feature .add).bind fun _ => h.write feature (c.toWrite gate thing)).mono
      fun w => ?_
    unfold sequel Demand.writes Adapter.writeCalls
    cases quiet.adapter.write feature .add w with
    | ok made w' =>
      dsimp only
      rw [single]
      rfl
    | error failure w' => rfl

theorem enter :
    Tells (Scope.enter watched.adapter) (Scope.enter quiet.adapter) fun _ => [] := by
  unfold Scope.enter
  rw [h.cache]
  cases quiet.adapter.cache? with
  | none => exact Tells.pure _
  | some cache =>
    refine Tells.get_bind (fun _ _ => rfl) fun w => ?_
    exact (Run.uneventful_modifyCache cache _).bind_uneventful fun _ => Tells.pure _

end Watches

theorem uneventful_leave (scope : Scope) : Uneventful scope.leave := by
  unfold Scope.leave
  cases scope.cache with
  | none => exact Tells.pure ()
  | some cache => exact Run.uneventful_modifyCache cache _

end FlagSet

end FeatureGates
