import FeatureGates.Proofs.Respecting

/-!
# Checks that do not look at what was seen or logged

Sightings and log lines are left behind for others to read. A check is
*oblivious* if its answer, its draws and its failures depend on the stream
of draws, the position in it and the clock alone (`Check.Oblivious`). Two
surroundings that agree in these are alike, and what a check does by itself
keeps them so (`Surroundings.kept_alike`): asking the gates is oblivious if
the added operators and the groups are (`Gate.oblivious_firstOpen`).
-/

namespace FeatureGates

variable {α β : Type}

/-- Two surroundings that a check could not tell apart, sightings and log aside. -/
structure Surroundings.Alike (s t : Surroundings) : Prop where
  stream : s.stream = t.stream
  drawn : s.drawn = t.drawn
  clock : s.clock = t.clock

namespace Surroundings

theorem Alike.refl (s : Surroundings) : s.Alike s := ⟨rfl, rfl, rfl⟩

theorem Alike.trans {s t u : Surroundings} (h : s.Alike t) (h' : t.Alike u) : s.Alike u :=
  ⟨h.stream.trans h'.stream, h.drawn.trans h'.drawn, h.clock.trans h'.clock⟩

theorem Alike.symm {s t : Surroundings} (h : s.Alike t) : t.Alike s :=
  ⟨h.stream.symm, h.drawn.symm, h.clock.symm⟩

/-- Drawing, reading the clock and logging do the same in surroundings that are alike. -/
theorem kept_alike : Check.Kept Alike where
  draw := by
    intro s t alike
    refine ⟨?_, alike.stream, congrArg (· + 1) alike.drawn, alike.clock⟩
    show s.stream s.drawn = t.stream t.drawn
    rw [alike.stream, alike.drawn]
  now := fun _ _ alike => ⟨alike.clock, alike⟩
  logLine := fun _ _ _ alike => ⟨rfl, alike.stream, alike.drawn, alike.clock⟩

end Surroundings

namespace Check

/-- In surroundings that are alike the check does the same. -/
def Oblivious (check : Check α) : Prop := Matches Surroundings.Alike Eq check check

theorem Oblivious.pure (a : α) : Oblivious (Pure.pure a) := Matches.pure rfl

end Check

/-! ## What is added to checks -/

/-- All of some arguments are oblivious. -/
def Arguments.Oblivious (args : Arguments) : Prop := ∀ arg ∈ args, Check.Oblivious arg

/-- Added operators make oblivious checks of oblivious arguments. -/
def Meaning.Oblivious (meaning : Meaning) : Prop :=
  ∀ signature args, Arguments.Oblivious args → Check.Oblivious (meaning signature args)

/-- The predicates of registered groups are oblivious. -/
def Groups.Oblivious (groups : Groups) : Prop :=
  ∀ name predicate, (groups.find? name).bind (·.predicate) = some predicate →
    ∀ thing, Check.Oblivious (predicate thing)

/-- What is added to checks from outside is oblivious. -/
structure Environment.Oblivious (environment : Environment) : Prop where
  meaning : environment.meaning.Oblivious
  groups : environment.groups.Oblivious

/-- Asking the gates is oblivious if the added operators and the groups are. -/
theorem Gate.oblivious_firstOpen {environment : Environment} (h : environment.Oblivious)
    (context : CheckContext) : Check.Oblivious (firstOpen environment context) :=
  respects_firstOpen Surroundings.kept_alike ⟨h.meaning, h.groups⟩ context

end FeatureGates
