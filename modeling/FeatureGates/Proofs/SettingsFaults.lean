import Mathlib
import FeatureGates.Settings.Load

/-!
# What becomes of loading settings

A loader is given a way to read documents and a way to take settings from
their values (`Loader`). Of the reading it relies on one thing: a text has a
value or cannot be parsed; and of the taking: there are settings or there are
faults in certain fields (`Loader.Relied`).

Then loading ends with settings or with a fault of the settings, except for
three mishaps, which are none of either: the bytes of a file are no text, in
the one or the other, or the documents cannot be laid over one another, since
the lower one is nothing that a record can be made of (`Value.MakesRecord`) or
the upper one is no record. Alone a document that is no record is a fault like
any other; it is only in a merge that it is not looked at
(`Loader.accounted_iff`).
-/

namespace FeatureGates

/-! ## What a record can be made of -/

namespace Value

/-- Two elements, of which the first can be hashed. -/
def IsPair (value : Value) : Prop :=
  ∃ key item, value.elements? = some [key, item] ∧ key.unhashable? = none

/-- A record, or something of pairs. -/
def MakesRecord (value : Value) : Prop :=
  (∃ entries, value = .record entries) ∨
    ∃ pairs, value.elements? = some pairs ∧ ∀ pair ∈ pairs, pair.IsPair

/-- The kinds of failures that making a record of something else ends in. -/
def unmergeable : List Category := [.kind, .value, .member]

theorem asPair_of_isPair {value : Value} (h : value.IsPair) :
    ∃ key item, value.asPair = .ok (key, item) := by
  obtain ⟨key, item, elements, hashable⟩ := h
  refine ⟨key, item, ?_⟩
  simp only [asPair, elements, requireHashable, hashable]
  rfl

theorem asPair_of_not_isPair {value : Value} (h : ¬value.IsPair) :
    ∃ failure, value.asPair = .error failure ∧ failure.category ∈ unmergeable := by
  unfold asPair
  split
  · rename_i key item elements
    cases hashable : key.unhashable? with
    | none => exact absurd ⟨key, item, elements, hashable⟩ h
    | some kind =>
      simp only [requireHashable, hashable]
      exact ⟨.unhashable kind, rfl, by simp [unmergeable, Failure.category]⟩
  · exact ⟨_, rfl, by decide⟩
  · exact ⟨_, rfl, by decide⟩

theorem putPairs_of_isPair {pairs : List Value} (h : ∀ pair ∈ pairs, pair.IsPair)
    (entries : Entries) : ∃ made, putPairs entries pairs = .ok made := by
  induction pairs generalizing entries with
  | nil => exact ⟨entries, rfl⟩
  | cons pair rest ih =>
    obtain ⟨key, item, first⟩ := asPair_of_isPair (h pair List.mem_cons_self)
    obtain ⟨made, others⟩ := ih (fun other mem => h other (List.mem_cons_of_mem pair mem))
      (entries.put key item)
    refine ⟨made, ?_⟩
    rw [putPairs, first]
    exact others

theorem putPairs_of_not_isPair {pairs : List Value} {pair : Value} (mem : pair ∈ pairs)
    (h : ¬pair.IsPair) (entries : Entries) :
    ∃ failure, putPairs entries pairs = .error failure ∧ failure.category ∈ unmergeable := by
  induction pairs generalizing entries with
  | nil => cases mem
  | cons first rest ih =>
    by_cases own : first.IsPair
    · obtain ⟨key, item, ok⟩ := asPair_of_isPair own
      have mem : pair ∈ rest := by
        rcases List.mem_cons.1 mem with rfl | mem
        · exact absurd own h
        · exact mem
      rw [putPairs, ok]
      exact ih mem (entries.put key item)
    · obtain ⟨failure, error, among⟩ := asPair_of_not_isPair own
      rw [putPairs, error]
      exact ⟨failure, rfl, among⟩

theorem asEntries_of_makesRecord {value : Value} (h : value.MakesRecord) :
    ∃ entries, value.asEntries = .ok entries := by
  rcases h with ⟨entries, rfl⟩ | ⟨pairs, elements, all⟩
  · exact ⟨entries, rfl⟩
  · unfold asEntries
    split
    · exact ⟨_, rfl⟩
    · simp only [elements]
      exact putPairs_of_isPair all []

theorem asEntries_of_not_makesRecord {value : Value} (h : ¬value.MakesRecord) :
    ∃ failure, value.asEntries = .error failure ∧ failure.category ∈ unmergeable := by
  unfold asEntries
  split
  · exact absurd (.inl ⟨_, rfl⟩) h
  · split
    · rename_i pairs elements
      have some_ : ∃ pair ∈ pairs, ¬pair.IsPair := by
        by_cases all : ∀ pair ∈ pairs, pair.IsPair
        · exact absurd (.inr ⟨pairs, elements, all⟩) h
        · simpa using all
      obtain ⟨pair, mem, not⟩ := some_
      exact putPairs_of_not_isPair mem not []
    · exact ⟨_, rfl, by decide⟩

/-- Values can be laid over one another just if the lower one makes a record and the upper one
is one. -/
theorem deepMerge_cases (base upper : Value) :
    ((base.MakesRecord ∧ ∃ entries, upper = .record entries) ∧
      ∃ merged, base.deepMerge upper = .ok merged) ∨
    (¬(base.MakesRecord ∧ ∃ entries, upper = .record entries) ∧
      ∃ failure, base.deepMerge upper = .error failure ∧ failure.category ∈ unmergeable) := by
  by_cases made : base.MakesRecord
  · obtain ⟨entries, ok⟩ := asEntries_of_makesRecord made
    by_cases record : ∃ entries, upper = .record entries
    · obtain ⟨above, rfl⟩ := record
      refine .inl ⟨⟨made, above, rfl⟩, .record (mergeEntries entries above), ?_⟩
      rw [deepMerge, ok]
      rfl
    · refine .inr ⟨fun h => record h.2, .noMember upper.kind "items", ?_, ?_⟩
      · rw [deepMerge, ok]
        cases upper with
        | record above => exact absurd ⟨above, rfl⟩ record
        | _ => rfl
      · simp [unmergeable, Failure.category]
  · obtain ⟨failure, error, among⟩ := asEntries_of_not_makesRecord made
    refine .inr ⟨fun h => made h.1, failure, ?_, among⟩
    rw [deepMerge, error]
    rfl

end Value

/-! ## Loaders -/

/-- How documents are read, and how settings are taken from their values. -/
structure Loader where
  read : String → Except Failure Value
  validate : Value → Except Failure Settings

namespace Loader

def document (loader : Loader) (source : Source) : Except Failure Value := do
  let value ← loader.read (← source.text)
  return if value.isPresent then value else .emptyRecord

def load (loader : Loader) (base upper : Source) : Except Failure Settings := do
  let document ← loader.document base
  match upper with
  | .absent => loader.validate document
  | _ => loader.validate (← document.deepMerge (← loader.document upper))

/-- Settings are loaded from YAML. -/
def yaml : Loader := ⟨Yaml.read, Settings.ofValue⟩

theorem load_yaml : Settings.load = yaml.load := rfl

/-- A document has a value or cannot be parsed; of a value there are settings or faults. -/
structure Relied (loader : Loader) (base upper : Source) : Prop where
  read (text : String) : base.text = .ok text ∨ upper.text = .ok text →
    (∃ value, loader.read text = .ok value) ∨ loader.read text = .error (.config .unparsable)
  validate (value : Value) : (∃ settings, loader.validate value = .ok settings) ∨
    ∃ fields, loader.validate value = .error (.config (.invalid fields))

end Loader

theorem Settings.ofValue_cases (value : Value) : (∃ settings, ofValue value = .ok settings) ∨
    ∃ fields, ofValue value = .error (.config (.invalid fields)) := by
  simp only [ofValue]
  split
  · exact .inl ⟨_, rfl⟩
  · exact .inr ⟨_, rfl⟩

/-! ## What is accounted for -/

/-- Settings have been loaded, or it is said what is wrong with them. -/
def Settings.Accounted (outcome : Except Failure Settings) : Prop :=
  (∃ settings, outcome = .ok settings) ∨ ∃ failure, outcome = .error failure ∧
    failure.category = .configuration ∧
    ∃ code ∈ ["CONFIG_READ", "CONFIG_PARSE", "CONFIG_VALIDATION"], failure.code? = some code

theorem Settings.accounted_config (fault : ConfigFault) :
    Accounted (.error (.config fault)) := by
  refine .inr ⟨.config fault, rfl, rfl, ?_⟩
  cases fault with
  | unreadable => exact ⟨"CONFIG_READ", by decide, rfl⟩
  | unparsable => exact ⟨"CONFIG_PARSE", by decide, rfl⟩
  | invalid fields => exact ⟨"CONFIG_VALIDATION", by decide, rfl⟩

/-- Loading has failed otherwise: bytes could not be decoded, or documents not be merged. -/
def Settings.Unaccounted (outcome : Except Failure Settings) : Prop :=
  ∃ failure, outcome = .error failure ∧
    failure.category ∈ Category.decoding :: Value.unmergeable

theorem Settings.not_accounted_of_unaccounted {outcome : Except Failure Settings}
    (h : Unaccounted outcome) : ¬Accounted outcome := by
  obtain ⟨failure, rfl, among⟩ := h
  rintro (⟨settings, ok⟩ | ⟨other, same, configuration, -⟩)
  · cases ok
  · cases same
    rw [configuration] at among
    revert among
    decide

/-- A file whose bytes are no text. -/
def Source.IsGarbled (source : Source) : Prop :=
  ∃ bytes, source = .file bytes ∧ String.fromUTF8? bytes = none

theorem Source.text_cases (source : Source) :
    (source.IsGarbled ∧ source.text = .error .notUtf8) ∨
    (¬source.IsGarbled ∧ (source.text = .error (.config .unreadable) ∨
      ∃ text, source.text = .ok text)) := by
  cases source with
  | absent => exact .inr ⟨nofun, .inl rfl⟩
  | directory => exact .inr ⟨nofun, .inl rfl⟩
  | file bytes =>
    cases decoded : String.fromUTF8? bytes with
    | none => exact .inl ⟨⟨bytes, rfl, decoded⟩, by rw [text, decoded]⟩
    | some s =>
      refine .inr ⟨?_, .inr ⟨String.ofList (unifyBreaks s.toList), by rw [text, decoded]⟩⟩
      rintro ⟨_, ⟨⟩, none⟩
      cases decoded.symm.trans none

/-- The text of a file that holds the bytes of one. -/
theorem Source.text_utf8 (s : String) :
    (Source.file s.toUTF8).text = .ok (String.ofList (unifyBreaks s.toList)) := by
  have decoded : String.fromUTF8? s.toUTF8 = some s := dif_pos s.isValidUTF8
  rw [text, decoded]

namespace Loader

variable {loader : Loader} {base upper : Source}

/-- What keeps settings from being loaded and is not accounted for. -/
inductive Mishap (loader : Loader) (base upper : Source) : Prop
  | base : base.IsGarbled → Mishap loader base upper
  | upper {document : Value} : loader.document base = .ok document → upper.IsGarbled →
    Mishap loader base upper
  | merge {document laid : Value} : loader.document base = .ok document → upper ≠ .absent →
    loader.document upper = .ok laid →
    ¬(document.MakesRecord ∧ ∃ entries, laid = .record entries) → Mishap loader base upper

theorem document_of_text {source : Source} {text : String} (ok : source.text = .ok text) :
    loader.document source = (do
      let value ← loader.read text
      return if value.isPresent then value else .emptyRecord) := by
  rw [document, ok]
  rfl

theorem document_cases (source : Source)
    (reads : ∀ text, source.text = .ok text → (∃ value, loader.read text = .ok value) ∨
      loader.read text = .error (.config .unparsable)) :
    (source.IsGarbled ∧ loader.document source = .error .notUtf8) ∨
    (¬source.IsGarbled ∧ ((∃ value, loader.document source = .ok value) ∨
      ∃ fault, loader.document source = .error (.config fault))) := by
  rcases source.text_cases with ⟨garbled, error⟩ | ⟨clear, error | ⟨text, ok⟩⟩
  · exact .inl ⟨garbled, by rw [document, error]; rfl⟩
  · exact .inr ⟨clear, .inr ⟨.unreadable, by rw [document, error]; rfl⟩⟩
  · refine .inr ⟨clear, ?_⟩
    rcases reads text ok with ⟨value, read⟩ | unparsable
    · refine .inl ⟨if value.isPresent then value else .emptyRecord, ?_⟩
      rw [document_of_text ok, read]
      rfl
    · refine .inr ⟨.unparsable, ?_⟩
      rw [document_of_text ok, unparsable]
      rfl

theorem load_of_there {document : Value} (ok : loader.document base = .ok document)
    (there : upper ≠ .absent) : loader.load base upper =
      (do loader.validate (← document.deepMerge (← loader.document upper))) := by
  cases upper with
  | absent => exact absurd rfl there
  | _ =>
    rw [load, ok]
    rfl

theorem Relied.accounted_validate (relied : loader.Relied base upper) (value : Value) :
    Settings.Accounted (loader.validate value) := by
  rcases relied.validate value with ok | ⟨fields, error⟩
  · exact .inl ok
  · rw [error]
    exact Settings.accounted_config (.invalid fields)

/-- Loading with an upper file that is there, over a lower document that has been read. -/
theorem Relied.mishap_or_accounted_over (relied : loader.Relied base upper) {document : Value}
    (clear : ¬base.IsGarbled) (ok : loader.document base = .ok document)
    (there : upper ≠ .absent) :
    (loader.Mishap base upper ∧ Settings.Unaccounted (loader.load base upper)) ∨
    (¬loader.Mishap base upper ∧ Settings.Accounted (loader.load base upper)) := by
  rw [load_of_there ok there]
  rcases document_cases upper fun text ok => relied.read text (.inr ok) with
    ⟨garbled, error⟩ | ⟨clearOver, ⟨laid, okOver⟩ | ⟨fault, error⟩⟩
  · exact .inl ⟨.upper ok garbled, .notUtf8, by rw [error]; rfl, by decide⟩
  · rw [okOver]
    rcases document.deepMerge_cases laid with ⟨fit, merged, made⟩ | ⟨misfit, failure, error, among⟩
    · refine .inr ⟨?_, ?_⟩
      · intro mishap
        cases mishap with
        | base garbled => exact clear garbled
        | upper _ garbled => exact clearOver garbled
        | merge ok' _ okOver' misfit =>
          cases ok.symm.trans ok'
          cases okOver.symm.trans okOver'
          exact misfit fit
      · have validated : (do loader.validate (← document.deepMerge (← Except.ok laid))) =
            loader.validate merged := by
          show (do loader.validate (← document.deepMerge laid)) = _
          rw [made]
          rfl
        rw [validated]
        exact relied.accounted_validate merged
    · refine .inl ⟨.merge ok there okOver misfit, failure, ?_, List.mem_cons_of_mem _ among⟩
      show (do loader.validate (← document.deepMerge laid)) = _
      rw [error]
      rfl
  · refine .inr ⟨?_, by rw [error]; exact Settings.accounted_config fault⟩
    intro mishap
    cases mishap with
    | base garbled => exact clear garbled
    | upper _ garbled => exact clearOver garbled
    | merge _ _ okOver _ => cases error.symm.trans okOver

theorem Relied.mishap_or_accounted (relied : loader.Relied base upper) :
    (loader.Mishap base upper ∧ Settings.Unaccounted (loader.load base upper)) ∨
    (¬loader.Mishap base upper ∧ Settings.Accounted (loader.load base upper)) := by
  rcases document_cases base fun text ok => relied.read text (.inl ok) with
    ⟨garbled, error⟩ | ⟨clear, ⟨document, ok⟩ | ⟨fault, error⟩⟩
  · exact .inl ⟨.base garbled, .notUtf8, by rw [load, error]; rfl, by decide⟩
  · by_cases there : upper = .absent
    · subst there
      refine .inr ⟨?_, ?_⟩
      · intro mishap
        cases mishap with
        | base garbled => exact clear garbled
        | upper _ garbled => obtain ⟨bytes, none, -⟩ := garbled; cases none
        | merge _ there _ _ => exact there rfl
      · rw [load, ok]
        exact relied.accounted_validate document
    · exact relied.mishap_or_accounted_over clear ok there
  · refine .inr ⟨?_, by rw [load, error]; exact Settings.accounted_config fault⟩
    intro mishap
    cases mishap with
    | base garbled => exact clear garbled
    | upper ok _ => cases error.symm.trans ok
    | merge ok _ _ _ => cases error.symm.trans ok

/-- Loading settings is accounted for unless one of the mishaps happens; and then it is not. -/
theorem accounted_iff (relied : loader.Relied base upper) :
    (Settings.Accounted (loader.load base upper) ↔ ¬loader.Mishap base upper) ∧
      (Settings.Unaccounted (loader.load base upper) ↔ loader.Mishap base upper) := by
  rcases relied.mishap_or_accounted with ⟨mishap, unaccounted⟩ | ⟨fine, accounted⟩
  · have not := Settings.not_accounted_of_unaccounted unaccounted
    exact ⟨iff_of_false not (not_not_intro mishap), iff_of_true unaccounted mishap⟩
  · have not := fun h => Settings.not_accounted_of_unaccounted h accounted
    exact ⟨iff_of_true accounted fine, iff_of_false not fine⟩

/-- A list, with a record to be laid over it. -/
theorem accounted_iff_list :
    let base := Source.file "- a".toUTF8
    let upper := Source.file "x: 1".toUTF8
    (yaml.Relied base upper ∧ yaml.Mishap base upper) ∧
      (Settings.Accounted (Settings.load base upper) ↔ ¬yaml.Mishap base upper) ∧
      (Settings.Unaccounted (Settings.load base upper) ↔ yaml.Mishap base upper) := by
  intro base upper
  rw [load_yaml]
  have below : base.text = .ok "- a" := Source.text_utf8 "- a"
  have above : upper.text = .ok "x: 1" := Source.text_utf8 "x: 1"
  have relied : yaml.Relied base upper := by
    refine ⟨fun text found => .inl ?_, Settings.ofValue_cases⟩
    rcases found with found | found
    · cases below.symm.trans found
      exact ⟨.list [.text "a"], by cbv⟩
    · cases above.symm.trans found
      exact ⟨.record [(.text "x", .int 1)], by cbv⟩
  have read : yaml.document base = .ok (.list [.text "a"]) := by
    rw [document_of_text below]
    cbv
  have readOver : yaml.document upper = .ok (.record [(.text "x", .int 1)]) := by
    rw [document_of_text above]
    cbv
  have there : upper ≠ .absent := Source.noConfusion
  refine ⟨⟨relied, .merge read there readOver ?_⟩, accounted_iff relied⟩
  rintro ⟨⟨entries, none⟩ | ⟨pairs, elements, all⟩, -⟩
  · cases none
  · cases elements
    obtain ⟨key, item, two, -⟩ := all _ List.mem_cons_self
    simp [Value.elements?] at two

/-- A byte that is in no text. -/
theorem not_accounted_garbled :
    yaml.Relied (.file ⟨#[0xff]⟩) .absent ∧
      ¬Settings.Accounted (Settings.load (.file ⟨#[0xff]⟩) .absent) := by
  rw [load_yaml]
  refine ⟨⟨fun text found => ?_, Settings.ofValue_cases⟩, ?_⟩
  · rcases found with found | found <;> cases found
  · exact Settings.not_accounted_of_unaccounted ⟨.notUtf8, rfl, by decide⟩

end Loader

end FeatureGates
