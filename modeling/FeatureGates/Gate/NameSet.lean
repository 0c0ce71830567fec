/-!
# Sets of names

A set of names is its members in ascending order, each once. Two sets
with the same members are therefore equal (`NameSet.ext_mem`).
-/

namespace FeatureGates

structure NameSet where
  names : List String
  ascending : names.Pairwise (· < ·)
deriving DecidableEq

namespace NameSet

instance : Membership String NameSet := ⟨fun s name => name ∈ s.names⟩

def empty : NameSet := ⟨[], .nil⟩

def contains (s : NameSet) (name : String) : Bool := s.names.contains name

def size (s : NameSet) : Nat := s.names.length

def isEmpty (s : NameSet) : Bool := s.names.isEmpty

/-- Puts a name at its place in an ascending list. -/
def insertName (name : String) : List String → List String
  | [] => [name]
  | n :: rest =>
    if name < n then name :: n :: rest
    else if name = n then n :: rest
    else n :: insertName name rest

theorem mem_insertName {name x : String} {names : List String} :
    x ∈ insertName name names ↔ x = name ∨ x ∈ names := by
  induction names with
  | nil => simp [insertName]
  | cons n rest ih =>
    simp only [insertName]
    split
    · simp
    · split
      · rename_i h; subst h; simp
      · simp [ih, or_left_comm]

theorem lt_of_not_lt_of_ne {a b : String} (h : ¬a < b) (hne : a ≠ b) : b < a := by
  rcases String.le_total a b with le | le
  · exact absurd (String.le_antisymm le (String.not_lt.1 h)) hne
  · exact String.not_le.1 fun ge => hne (String.le_antisymm ge le)

theorem pairwise_insertName {name : String} {names : List String}
    (h : names.Pairwise (· < ·)) : (insertName name names).Pairwise (· < ·) := by
  induction names with
  | nil => simp [insertName]
  | cons n rest ih =>
    obtain ⟨first, others⟩ := List.pairwise_cons.1 h
    simp only [insertName]
    split
    · rename_i lt
      refine List.pairwise_cons.2 ⟨fun x hx => ?_, h⟩
      rcases List.mem_cons.1 hx with rfl | hx
      · exact lt
      · exact String.lt_trans lt (first x hx)
    · split
      · exact h
      · rename_i notLt ne
        refine List.pairwise_cons.2 ⟨fun x hx => ?_, ih others⟩
        rcases mem_insertName.1 hx with rfl | hx
        · exact lt_of_not_lt_of_ne notLt ne
        · exact first x hx

def insert (s : NameSet) (name : String) : NameSet :=
  ⟨insertName name s.names, pairwise_insertName s.ascending⟩

def ofList (names : List String) : NameSet := names.foldl insert empty

theorem mem_insert {s : NameSet} {name x : String} : x ∈ s.insert name ↔ x = name ∨ x ∈ s :=
  mem_insertName

theorem mem_foldl_insert {names : List String} {s : NameSet} {x : String} :
    x ∈ names.foldl insert s ↔ x ∈ names ∨ x ∈ s := by
  induction names generalizing s with
  | nil => simp
  | cons n rest ih => simp [ih, mem_insert, or_left_comm, or_assoc]

theorem mem_ofList {names : List String} {x : String} : x ∈ ofList names ↔ x ∈ names := by
  simp only [ofList, mem_foldl_insert]
  exact ⟨fun h => h.elim id fun no => (List.not_mem_nil no).elim, .inl⟩

theorem contains_iff {s : NameSet} {name : String} : s.contains name = true ↔ name ∈ s :=
  List.contains_iff_mem

/-- Two ascending lists with the same members are one list. -/
theorem eq_of_pairwise {a b : List String} (ha : a.Pairwise (· < ·)) (hb : b.Pairwise (· < ·))
    (h : ∀ x, x ∈ a ↔ x ∈ b) : a = b := by
  induction a generalizing b with
  | nil =>
    cases b with
    | nil => rfl
    | cons y b => exact absurd ((h y).2 (List.mem_cons_self ..)) (List.not_mem_nil)
  | cons x a ih =>
    cases b with
    | nil => exact absurd ((h x).1 (List.mem_cons_self ..)) (List.not_mem_nil)
    | cons y b =>
      obtain ⟨xFirst, ha'⟩ := List.pairwise_cons.1 ha
      obtain ⟨yFirst, hb'⟩ := List.pairwise_cons.1 hb
      have same : x = y := by
        rcases List.mem_cons.1 ((h x).1 (List.mem_cons_self ..)) with eq | inB
        · exact eq
        · rcases List.mem_cons.1 ((h y).2 (List.mem_cons_self ..)) with eq | inA
          · exact eq.symm
          · exact absurd (String.lt_trans (xFirst y inA) (yFirst x inB)) (String.lt_irrefl x)
      subst same
      refine congrArg (x :: ·) (ih ha' hb' fun z => ⟨fun hz => ?_, fun hz => ?_⟩)
      · rcases List.mem_cons.1 ((h z).1 (List.mem_cons_of_mem _ hz)) with rfl | hz'
        · exact absurd (xFirst z hz) (String.lt_irrefl z)
        · exact hz'
      · rcases List.mem_cons.1 ((h z).2 (List.mem_cons_of_mem _ hz)) with rfl | hz'
        · exact absurd (yFirst z hz) (String.lt_irrefl z)
        · exact hz'

theorem ext_mem {s t : NameSet} (h : ∀ x, x ∈ s ↔ x ∈ t) : s = t := by
  cases s; cases t
  simp only [mk.injEq]
  exact eq_of_pairwise ‹_› ‹_› h

end NameSet

end FeatureGates
