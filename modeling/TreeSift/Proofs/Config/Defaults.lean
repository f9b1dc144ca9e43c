import TreeSift.Config.Layers
import TreeSift.Proofs.Results

/-! # Which defaults can be read

Defaults are kept apart from the program and may hold anything. They are readable
(`ReadableDefaults`) if they are no YAML, or a mapping whose sections are mappings, where whatever
counts as false stands for a mapping without entries. Main result: exactly the readable ones make a
layer (`exists_defaultsLayer_eq_ok_iff`). -/

namespace TreeSift.Config

open TreeSift.Document

/-- A value has entries to look names up in: it is a mapping, or counts as false by `truth`. -/
def HasEntries (value : Value) : Prop :=
  value.truth = false ∨ ∃ entries, value = .mapping entries

/-- **The value holds sections** that have entries: `HasEntries` of it, and of what it has for each
`Section`. -/
def HoldsSections (value : Value) : Prop :=
  value.truth = false ∨ ∃ entries, value = .mapping entries ∧
    ∀ (part : Section) (value : Value), lookupEntry (.text part.name) entries = some value →
      HasEntries value

/-- **Defaults can be read**: there are none, they are no YAML, or they hold a value that
`HoldsSections`. -/
def ReadableDefaults : Option String → Prop
  | none => True
  | some text =>
    Yaml.read text = .error .malformed ∨ ∃ value, Yaml.read text = .ok value ∧ HoldsSections value

variable {value : Value} {entries : Entries} {text? : Option String}

/-- What counts as false has no entries: `defaultEntries` gives the empty list. -/
theorem defaultEntries_of_truth_eq_false (h : value.truth = false) :
    defaultEntries value = .ok [] := by
  unfold defaultEntries
  rw [h]
  rfl

/-- A mapping has its own entries: `defaultEntries` gives them. -/
theorem defaultEntries_mapping (entries : Entries) : defaultEntries (.mapping entries) = .ok entries := by
  cases entries <;> rfl

/-- **Entries are found** by `defaultEntries` exactly in what `HasEntries`. -/
theorem exists_defaultEntries_eq_ok_iff :
    (∃ entries, defaultEntries value = .ok entries) ↔ HasEntries value := by
  constructor
  · rintro ⟨entries, h⟩
    unfold defaultEntries at h
    split at h
    · split at h
      · exact .inr ⟨_, rfl⟩
      · cases h
    · next htruth => exact .inl (Bool.eq_false_iff.2 htruth)
  · rintro (hfalse | ⟨entries, rfl⟩)
    · exact ⟨[], defaultEntries_of_truth_eq_false hfalse⟩
    · exact ⟨entries, defaultEntries_mapping entries⟩

/-- Null `HasEntries`, as far as they can be looked up. -/
theorem hasEntries_null : HasEntries .null := .inl rfl

/-- The defaults have a value by `defaultsValue` unless making it fails. -/
theorem exists_defaultsValue_eq_ok_iff :
    (∃ value, defaultsValue text? = .ok value ∧ HoldsSections value) ↔ ReadableDefaults text? := by
  have hnull : HoldsSections .null := .inl rfl
  cases text? with
  | none => exact iff_of_true ⟨_, rfl, hnull⟩ trivial
  | some text =>
    rw [defaultsValue, ReadableDefaults]
    cases Yaml.read text with
    | ok value => simp
    | error refusal =>
      cases refusal with
      | malformed => exact iff_of_true ⟨_, rfl, hnull⟩ (.inl rfl)
      | _ => simp

/-- The entries of a value make a layer exactly if it `HoldsSections`. -/
theorem exists_sections_iff :
    (∃ sections, defaultEntries value = .ok sections ∧ ∀ part : Section,
      ∃ entries, defaultEntries ((lookupEntry (.text part.name) sections).getD .null) =
        .ok entries) ↔ HoldsSections value := by
  simp only [exists_defaultEntries_eq_ok_iff]
  constructor
  · rintro ⟨sections, hsections, hparts⟩
    rcases exists_defaultEntries_eq_ok_iff.1 ⟨sections, hsections⟩ with hfalse | ⟨entries, rfl⟩
    · exact .inl hfalse
    · obtain rfl : entries = sections := by
        rw [defaultEntries_mapping] at hsections
        exact Except.ok.inj hsections
      refine .inr ⟨entries, rfl, fun part value hvalue => ?_⟩
      have hpart := hparts part
      rwa [hvalue] at hpart
  · rintro (hfalse | ⟨entries, rfl, hparts⟩)
    · exact ⟨[], defaultEntries_of_truth_eq_false hfalse, fun _ => hasEntries_null⟩
    · refine ⟨entries, defaultEntries_mapping entries, fun part => ?_⟩
      cases hlookup : lookupEntry (.text part.name) entries with
      | none => exact hasEntries_null
      | some value => exact hparts part value hlookup

/-- **Defaults make a layer exactly if they can be read**: `defaultsLayer` and `ReadableDefaults`.
-/
theorem exists_defaultsLayer_eq_ok_iff :
    (∃ defaults, defaultsLayer text? = .ok defaults) ↔ ReadableDefaults text? := by
  rw [← exists_defaultsValue_eq_ok_iff]
  simp only [defaultsLayer, bind_eq_ok_iff, ← exists_sections_iff]
  constructor
  · rintro ⟨defaults, value, hvalue, sections, hsections, scan, hscan, logging, hlogging, -⟩
    refine ⟨value, hvalue, sections, hsections, fun part => ?_⟩
    cases part with
    | scan => exact ⟨scan, hscan⟩
    | logging => exact ⟨logging, hlogging⟩
  · rintro ⟨value, hvalue, sections, hsections, hparts⟩
    obtain ⟨scan, hscan⟩ := hparts .scan
    obtain ⟨logging, hlogging⟩ := hparts .logging
    exact ⟨_, value, hvalue, sections, hsections, scan, hscan, logging, hlogging, rfl⟩

/-- **The defaults that come with the program can be read**: `packagedDefaults` are a mapping of
mappings. -/
theorem readableDefaults_packagedDefaults : ReadableDefaults (some packagedDefaults) := by
  have hok : (defaultsLayer (some packagedDefaults)).isOk = true := by decide +kernel
  exact exists_defaultsLayer_eq_ok_iff.1 (exists_eq_ok_of_isOk hok)

end TreeSift.Config
