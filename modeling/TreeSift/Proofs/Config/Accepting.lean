import TreeSift.Config.Load
import TreeSift.Proofs.Config.Defaults
import TreeSift.Proofs.Json.Named
import TreeSift.Proofs.Yaml.Blank

/-! # Which configuration files are accepted

A file is to be accepted if it is empty or holds a configuration, a mapping with known names alone
(`IsConfiguration`), and is to be found invalid otherwise: `Judges` says this of what loading comes
to. JSON files are judged so (`judges_json`). Main result: a YAML file is judged so exactly if its
text is `Regular` (`judges_iff`). Texts that hold something else that counts as false, such as
`false` or `[]`, are accepted although they hold no mapping, and some texts make loading break down:
those with unknown names of two kinds, and those whose tags do not fit. -/

/-- Whether a refusal says that a value is not valid, which `ConfigError` reports as such; otherwise
making the value breaks down. -/
def TreeSift.Yaml.Refusal.isInvalid : TreeSift.Yaml.Refusal → Bool
  | .codePoint code => code < 0x80000000
  | .emptyNumber | .beyondFloats | .notBoolean _ | .notTimestamp | .mappingForTimestamp | .endless =>
    false
  | _ => true

namespace TreeSift.Config

open TreeSift.Document
open TreeSift.Text (unifyLineEnds isBlankText)

/-! ## What is to be accepted -/

/-- **Whether an error says that what a file holds is not valid.** Otherwise the file cannot be read,
or loading it breaks down. -/
def ConfigError.isInvalid : ConfigError → Bool
  | .notFound _ | .file _ | .tooDeep _ | .mixedNames _ _ | .defaultsNotMapping _ => false
  | .refusedYaml refusal => refusal.isInvalid
  | .unwritable fault => fault == .integerTooLong
  | _ => true

/-- A section is null, or a mapping whose keys are the names of `part.settings` alone, if it is
there. -/
def AcceptsSection (part : Section) (value? : Option Value) : Prop :=
  ∀ value, value? = some value → value = .null ∨ ∃ settings, value = .mapping settings ∧
    ∀ entry ∈ settings, ∃ setting ∈ part.settings, entry.1 = .text setting.name

/-- **Entries of a configuration**: their keys are the names of sections, each of which
`AcceptsSection` holds of. -/
structure IsConfiguration (entries : Entries) : Prop where
  /-- Each key is the name of a section. -/
  names : ∀ entry ∈ entries, ∃ part : Section, entry.1 = .text part.name
  /-- Each section is acceptable. -/
  sections : ∀ part : Section, AcceptsSection part (lookupEntry (.text part.name) entries)

/-- A text is an empty document. In YAML, spaces and line breaks alone are blank, and so is a text
that `Yaml.read` reads as null. -/
def IsEmptyDocument : Format → String → Prop
  | .json, text => isBlankText text = true
  | .yaml, text => Yaml.isBlankText text = true ∨ Yaml.read text = .ok .null

/-- The value that a text holds in a format, if `Json.read` or `Yaml.read` gives one. -/
def valueOf? (format : Format) (text : String) : Option Value :=
  match format with
  | .json => (Json.read text).toOption
  | .yaml => (Yaml.read text).toOption

/-- **A text is to be accepted**: it `IsEmptyDocument`, or its value is a mapping that
`IsConfiguration`. -/
def IsAcceptable (format : Format) (text : String) : Prop :=
  IsEmptyDocument format text ∨
    ∃ entries, valueOf? format text = some (.mapping entries) ∧ IsConfiguration entries

/-- **A text is judged rightly**: what `IsAcceptable` has a result, and everything else an error
that `isInvalid`. -/
def Judges {α : Type} (format : Format) (text : String) (outcome : Except ConfigError α) : Prop :=
  ((∃ result, outcome = .ok result) ↔ IsAcceptable format text) ∧
    ∀ error, outcome = .error error → error.isInvalid = true

/-! ## Names -/

/-- The names are of one kind, as far as they stand side by side: `firstMixed?` finds no two. -/
def OneKind (names : List Scalar) : Prop :=
  firstMixed? names = none

/-- The names in a section that none of `part.settings` has. -/
def unknownSettings (part : Section) : Option Value → List Scalar
  | some (.mapping settings) => unknownNames (part.settings.map Setting.name) settings
  | _ => []

/-- The names of sections that `Section.all` does not have. -/
def unknownSections (entries : Entries) : List Scalar :=
  unknownNames (Section.all.map Section.name) entries

/-- **Unknown names are of one kind** where they are met first: among the sections, in the first
section, or in the second one. -/
structure OrderlyNames (entries : Entries) : Prop where
  /-- The unknown sections. -/
  sections : OneKind (unknownSections entries)
  /-- The unknown settings of scans, if the sections are known. -/
  scan : unknownSections entries = [] →
    OneKind (unknownSettings .scan (lookupEntry (.text Section.scan.name) entries))
  /-- The unknown settings of the log, if the ones of scans are acceptable. -/
  logging : unknownSections entries = [] →
    AcceptsSection .scan (lookupEntry (.text Section.scan.name) entries) →
      OneKind (unknownSettings .logging (lookupEntry (.text Section.logging.name) entries))

/-- **A YAML text is one that loading can judge**: it is not refused for reasons other than
`isInvalid`, it holds nothing that counts as false beside null and the empty mapping, and its
unknown names are `OrderlyNames`. -/
structure Regular (text : String) : Prop where
  /-- It is refused as invalid, if at all. -/
  refused : ∀ refusal, Yaml.read text = .error refusal → refusal.isInvalid = true
  /-- If it counts as false, it is empty. -/
  falsy : ∀ value, Yaml.read text = .ok value → value.truth = false →
    value = .null ∨ value = .mapping []
  /-- Its unknown names are of one kind. -/
  names : ∀ entries, Yaml.read text = .ok (.mapping entries) → OrderlyNames entries

variable {known : List String} {entries : Entries} {names : List Scalar} {part : Section}
  {value : Value} {value? : Option Value} {error : ConfigError}

/-- A key that is `sameKey` with a text is the text. -/
theorem sameKey_text_iff {name : String} {key : Scalar} :
    (Scalar.text name).sameKey key = true ↔ key = .text name := by
  rw [Scalar.sameKey, beq_iff_eq]
  cases key with
  | float x =>
    have hne : (Scalar.float x).keyForm ≠ .text name := by
      rw [Scalar.keyForm]
      split <;> simp
    exact iff_of_false (fun h => hne h.symm) (by simp)
  | text other => simp [Scalar.keyForm, eq_comm]
  | _ => simp [Scalar.keyForm]

/-- No name is unknown exactly if each key is a text in `known`. -/
theorem unknownNames_eq_nil_iff :
    unknownNames known entries = [] ↔
      ∀ entry ∈ entries, ∃ name ∈ known, entry.1 = .text name := by
  simp only [unknownNames, List.filter_eq_nil_iff, List.mem_map, Bool.not_eq_true',
    Bool.not_eq_false, List.any_eq_true, sameKey_text_iff, forall_exists_index, and_imp,
    forall_apply_eq_imp_iff₂]

/-- No section is unknown exactly if each key is the name of a `Section`. -/
theorem unknownSections_eq_nil_iff :
    unknownSections entries = [] ↔ ∀ entry ∈ entries, ∃ part : Section, entry.1 = .text part.name := by
  rw [unknownSections, unknownNames_eq_nil_iff]
  refine forall₂_congr fun entry _ => ?_
  constructor
  · rintro ⟨name, hname, heq⟩
    obtain ⟨part, -, rfl⟩ := List.mem_map.1 hname
    exact ⟨part, heq⟩
  · rintro ⟨part, heq⟩
    exact ⟨part.name, List.mem_map_of_mem (by cases part <;> decide), heq⟩

/-- What keeps the digits of a scalar from being written is `integerTooLong`. -/
theorem eq_integerTooLong_of_digitFault? {scalar : Scalar} {fault : WriteFault}
    (h : scalar.digitFault? = some fault) : fault = .integerTooLong := by
  unfold Scalar.digitFault? at h
  split at h
  · split at h
    · cases h
    · exact (Option.some.inj h).symm
  · cases h

/-- **Unknown names are reported as invalid exactly if they are of one kind**: `sortNames` lists
them, or one of them is too long to be written, which counts as invalid too; else it fails as
`mixedNames`. -/
theorem isInvalid_of_sortNames {report : List Scalar → ConfigError}
    (hreport : ∀ names, (report names).isInvalid = true) (names : List Scalar) :
    ∃ error, (do throw (report (← sortNames names)) : Except ConfigError Layer) = .error error ∧
      (error.isInvalid = true ↔ OneKind names) := by
  rw [sortNames, OneKind]
  cases hmixed : firstMixed? names with
  | some pair => exact ⟨_, rfl, iff_of_false (by simp [ConfigError.isInvalid]) nofun⟩
  | none =>
    cases hfault : names.findSome? Scalar.digitFault? with
    | none => exact ⟨_, rfl, iff_of_true (hreport _) rfl⟩
    | some fault =>
      obtain ⟨scalar, -, hscalar⟩ := List.exists_of_findSome?_eq_some hfault
      obtain rfl := eq_integerTooLong_of_digitFault? hscalar
      exact ⟨_, rfl, iff_of_true rfl rfl⟩

/-! ## Entries -/

/-- Settings are those of a section exactly if none of their names is in `unknownNames`. -/
theorem unknownNames_settings_eq_nil_iff {settings : Entries} :
    unknownNames (part.settings.map Setting.name) settings = [] ↔
      AcceptsSection part (some (.mapping settings)) := by
  rw [unknownNames_eq_nil_iff, AcceptsSection]
  simp [Value.null]

/-- A section that `AcceptsSection` holds of has no `unknownSettings`. -/
theorem unknownSettings_eq_nil (h : AcceptsSection part value?) : unknownSettings part value? = [] := by
  unfold unknownSettings
  split
  · exact unknownNames_settings_eq_nil_iff.2 h
  · rfl

/-- **A section gives a layer exactly if it is acceptable**, and is found invalid otherwise exactly
if its `unknownSettings` are of one kind. -/
theorem sectionLayer_cases (part : Section) (value? : Option Value) :
    (AcceptsSection part value? ∧ ∃ layer, sectionLayer part value? = .ok layer) ∨
      (¬AcceptsSection part value? ∧ ∃ error, sectionLayer part value? = .error error ∧
        (error.isInvalid = true ↔ OneKind (unknownSettings part value?))) := by
  -- a section is missing, null, a mapping or something else
  unfold sectionLayer
  split
  · exact .inl ⟨nofun, _, rfl⟩
  · exact .inl ⟨fun value hvalue => .inl (Option.some.inj hvalue).symm, _, rfl⟩
  · next settings =>
    split
    · next hnil => exact .inl ⟨unknownNames_settings_eq_nil_iff.1 hnil, _, rfl⟩
    · next name names hcons =>
      refine .inr ⟨fun haccepts => ?_, ?_⟩
      · rw [unknownNames_settings_eq_nil_iff.2 haccepts] at hcons
        cases hcons
      · rw [unknownSettings, hcons]
        exact isInvalid_of_sortNames (fun _ => rfl) _
  · next value hnull hmapping =>
    refine .inr ⟨fun haccepts => ?_, _, rfl, iff_of_true rfl ?_⟩
    · rcases haccepts value rfl with rfl | ⟨settings, rfl, -⟩
      · exact hnull rfl
      · exact hmapping settings rfl
    · rw [unknownSettings]
      · rfl
      · rintro settings heq
        exact hmapping settings (Option.some.inj heq)

/-- **Entries give a layer exactly if they are those of a configuration**, and are found invalid
otherwise exactly if they have `OrderlyNames`. -/
theorem fileLayer_cases (entries : Entries) :
    (IsConfiguration entries ∧ ∃ layer, fileLayer entries = .ok layer) ∨
      (¬IsConfiguration entries ∧ ∃ error, fileLayer entries = .error error ∧
        (error.isInvalid = true ↔ OrderlyNames entries)) := by
  rw [fileLayer, ← unknownSections]
  -- the names are checked in this order: sections, settings of scans, settings of logging
  cases hsections : unknownSections entries with
  | cons name names =>
    refine .inr ⟨fun hconfiguration => ?_, ?_⟩
    · rw [unknownSections_eq_nil_iff.2 hconfiguration.names] at hsections
      cases hsections
    · obtain ⟨error, herror, hinvalid⟩ :=
        isInvalid_of_sortNames (fun _ => rfl : ∀ names, (ConfigError.unknownSections names).isInvalid =
          true) (name :: names)
      refine ⟨error, herror, hinvalid.trans ⟨fun hkind => ⟨?_, ?_, ?_⟩, fun h => ?_⟩⟩
      · rwa [hsections]
      · rw [hsections]
        nofun
      · rw [hsections]
        nofun
      · rw [← hsections]
        exact h.sections
  | nil =>
    have hkind : OneKind (unknownSections entries) := by rw [hsections]; rfl
    have hnames := unknownSections_eq_nil_iff.1 hsections
    dsimp only
    rcases sectionLayer_cases .scan (lookupEntry (.text Section.scan.name) entries) with
      ⟨hscan, scan, hlayer⟩ | ⟨hscan, error, herror, hinvalid⟩
    · rw [hlayer, ok_bind]
      have hnone : OneKind (unknownSettings .scan (lookupEntry (.text Section.scan.name) entries)) := by
        rw [unknownSettings_eq_nil hscan]
        rfl
      rcases sectionLayer_cases .logging (lookupEntry (.text Section.logging.name) entries) with
        ⟨hlogging, logging, hlayer'⟩ | ⟨hlogging, error, herror, hinvalid⟩
      · rw [hlayer', ok_bind]
        refine .inl ⟨⟨hnames, fun part => ?_⟩, _, rfl⟩
        cases part with
        | scan => exact hscan
        | logging => exact hlogging
      · rw [herror]
        refine .inr ⟨fun h => hlogging (h.sections .logging), error, rfl, hinvalid.trans ?_⟩
        exact ⟨fun h => ⟨hkind, fun _ => hnone, fun _ _ => h⟩, fun h => h.logging hsections hscan⟩
    · rw [herror]
      refine .inr ⟨fun h => hscan (h.sections .scan), error, rfl, hinvalid.trans ?_⟩
      exact ⟨fun h => ⟨hkind, fun _ => h, fun _ haccepts => absurd haccepts hscan⟩,
        fun h => h.scan hsections⟩

/-- Texts are `OneKind`: each can be compared with each. -/
theorem oneKind_of_forall_text (h : ∀ name ∈ names, ∃ text, name = .text text) : OneKind names := by
  rw [OneKind]
  induction names with
  | nil => rfl
  | cons first names ih =>
    obtain ⟨hfirst, hrest⟩ := List.forall_mem_cons.1 h
    cases names with
    | nil => rfl
    | cons second names =>
      obtain ⟨a, rfl⟩ := hfirst
      obtain ⟨b, rfl⟩ := hrest second List.mem_cons_self
      exact ih hrest

/-- Unknown names among texts are `OneKind`. -/
theorem oneKind_unknownNames (h : ∀ entry ∈ entries, ∃ text, entry.1 = .text text) :
    OneKind (unknownNames known entries) :=
  oneKind_of_forall_text fun name hname => by
    obtain ⟨entry, hentry, rfl⟩ := List.mem_map.1 (List.mem_of_mem_filter hname)
    exact h entry hentry

/-- The value that `lookupEntry` finds stands in an entry. -/
theorem exists_mem_of_lookupEntry {key : Scalar} (h : lookupEntry key entries = some value) :
    ∃ entry ∈ entries, entry.2 = value := by
  induction entries with
  | nil => cases h
  | cons entry entries ih =>
    rw [lookupEntry] at h
    split at h
    · exact ⟨entry, List.mem_cons_self, Option.some.inj h⟩
    · obtain ⟨other, hother, hvalue⟩ := ih h
      exact ⟨other, List.mem_cons_of_mem entry hother, hvalue⟩

/-- **Names in JSON are orderly**, since what is `Named` has texts for keys. -/
theorem orderlyNames_of_named (h : Json.Named (.mapping entries)) : OrderlyNames entries := by
  obtain ⟨⟩ | ⟨⟩ | ⟨hnames, hvalues⟩ := h
  have hsettings : ∀ part : Section,
      OneKind (unknownSettings part (lookupEntry (.text part.name) entries)) := by
    intro part
    unfold unknownSettings
    split
    · next settings hlookup =>
      obtain ⟨entry, hentry, hvalue⟩ := exists_mem_of_lookupEntry hlookup
      obtain ⟨⟩ | ⟨⟩ | ⟨hnames', -⟩ := hvalue ▸ hvalues entry hentry
      exact oneKind_unknownNames hnames'
    · rfl
  exact ⟨oneKind_unknownNames hnames, fun _ => hsettings .scan, fun _ _ => hsettings .logging⟩

/-! ## Files -/

variable {format : Format} {path : Path} {text : String} {sources : Sources} {defaults : Layer}

/-- The nesting of a text is within the levels that its reader goes down: `Json.read` fails neither
as `listTooDeep` nor as `objectTooDeep`. -/
def IsShallow : Format → String → Prop
  | .json, text => Json.read text ≠ .error .listTooDeep ∧ Json.read text ≠ .error .objectTooDeep
  | .yaml, _ => True

/-- What loading a file that can be read comes to: `parseFile`, then `fileLayer`, and the layers put
together. -/
theorem load_eq (hexists : sources.tree.pathExists path = .ok true)
    (htext : sources.tree.readText path = .ok text)
    (hdefaults : defaultsLayer sources.defaults? = .ok defaults) :
    load sources (some path) false = (do
      let layer ← parseFile path (unifyLineEnds text) >>= fileLayer
      return .ofLayers [layer, defaults]) := by
  have hread : readFile sources.tree path = parseFile path (unifyLineEnds text) := by
    rw [readFile, hexists, htext]
    rfl
  rw [load, loadFile, hread]
  cases parseFile path (unifyLineEnds text) with
  | error error => rfl
  | ok entries =>
    simp only [ok_bind, hdefaults]
    cases fileLayer entries <;> rfl

/-- A text that gives an error `Judges` rightly exactly if it is not to be accepted and the error
`isInvalid`. -/
theorem judges_error_iff {α : Type} :
    Judges format text (.error error : Except ConfigError α) ↔
      ¬IsAcceptable format text ∧ error.isInvalid = true := by
  simp [Judges]

/-- A text that gives a result `Judges` rightly exactly if it `IsAcceptable`. -/
theorem judges_ok_iff {α : Type} {result : α} :
    Judges format text (.ok result : Except ConfigError α) ↔ IsAcceptable format text := by
  simp [Judges]

/-- What is made of a result does not matter to `Judges`. -/
theorem judges_bind_pure_iff {α β : Type} {outcome : Except ConfigError α} {f : α → β} :
    Judges format text (do return f (← outcome)) ↔ Judges format text outcome := by
  cases outcome with
  | error error => rw [error_bind, judges_error_iff, judges_error_iff]
  | ok result => rw [ok_bind]; exact judges_ok_iff.trans judges_ok_iff.symm

/-- The names of a configuration are `OrderlyNames`, since none is unknown. -/
theorem IsConfiguration.orderlyNames (h : IsConfiguration entries) : OrderlyNames entries := by
  have hsettings : ∀ part : Section,
      OneKind (unknownSettings part (lookupEntry (.text part.name) entries)) := fun part => by
    rw [unknownSettings_eq_nil (h.sections part)]
    rfl
  refine ⟨?_, fun _ => hsettings .scan, fun _ _ => hsettings .logging⟩
  rw [unknownSections_eq_nil_iff.2 h.names]
  rfl

/-- A mapping without entries `IsConfiguration`. -/
theorem isConfiguration_nil : IsConfiguration [] :=
  ⟨by simp, fun _ => nofun⟩

/-- **Entries are judged rightly exactly if their unknown names are orderly**: `fileLayer` and
`OrderlyNames`. -/
theorem judges_fileLayer_iff (h : IsAcceptable format text ↔ IsConfiguration entries) :
    Judges format text (fileLayer entries) ↔ OrderlyNames entries := by
  rcases fileLayer_cases entries with ⟨hconfiguration, layer, hlayer⟩ | ⟨hnot, error, herror, hiff⟩
  · rw [hlayer, judges_ok_iff, h]
    exact iff_of_true hconfiguration hconfiguration.orderlyNames
  · rw [herror, judges_error_iff, h, hiff]
    exact and_iff_right hnot

/-! ## JSON -/

/-- A JSON text that is not blank `IsAcceptable` exactly if its value is a mapping that
`IsConfiguration`. -/
theorem isAcceptable_json_iff (hblank : isBlankText text = false) :
    IsAcceptable .json text ↔
      ∃ entries, Json.read text = .ok (.mapping entries) ∧ IsConfiguration entries := by
  rw [IsAcceptable, IsEmptyDocument, hblank, valueOf?]
  cases Json.read text <;> simp [Except.toOption]

/-- **JSON texts are judged rightly**, as far as they are not nested too deeply: `IsShallow` is all
that is asked. -/
theorem judges_parseFile_json (hformat : formatOf path = .ok .json) (hshallow : IsShallow .json text) :
    Judges .json text (parseFile path text >>= fileLayer) := by
  rw [parseFile, hformat, ok_bind]
  -- blank texts never get to the reader
  by_cases hblank : isBlankText text = true
  · obtain ⟨layer, hlayer⟩ : ∃ layer, fileLayer [] = .ok layer := ⟨_, rfl⟩
    have hvalue : jsonValue path text = .ok (.mapping []) := by rw [jsonValue, if_pos hblank]
    simp only [hvalue, ok_bind]
    exact judges_ok_iff.2 (.inl hblank)
  · have haccept := isAcceptable_json_iff (Bool.eq_false_iff.2 hblank)
    simp only [jsonValue, if_neg hblank]
    obtain ⟨hlist, hobject⟩ := hshallow
    cases hread : Json.read text with
    | error refusal =>
      have hnot : ¬IsAcceptable .json text := by simp [haccept, hread]
      cases refusal with
      | malformed fault => exact judges_error_iff.2 ⟨hnot, rfl⟩
      | integerTooLong digits => exact judges_error_iff.2 ⟨hnot, rfl⟩
      | listTooDeep => exact absurd hread hlist
      | objectTooDeep => exact absurd hread hobject
    | ok value =>
      cases value with
      | mapping entries =>
        exact (judges_fileLayer_iff (by simp [haccept, hread])).2
          (orderlyNames_of_named (Json.named_of_read hread))
      | _ => exact judges_error_iff.2 ⟨by simp [haccept, hread], rfl⟩

/-! ## YAML -/

/-- A YAML text `IsAcceptable` exactly if it is read as null or as a mapping that `IsConfiguration`.
-/
theorem isAcceptable_yaml_iff :
    IsAcceptable .yaml text ↔ Yaml.read text = .ok .null ∨
      ∃ entries, Yaml.read text = .ok (.mapping entries) ∧ IsConfiguration entries := by
  have hempty : IsEmptyDocument .yaml text ↔ Yaml.read text = .ok .null :=
    or_iff_right_of_imp Yaml.read_of_isBlankText
  rw [IsAcceptable, hempty, valueOf?]
  cases Yaml.read text <;> simp [Except.toOption]

/-- A text that is refused is `Regular` exactly if its refusal `isInvalid`. -/
theorem regular_iff_of_refused {refusal : Yaml.Refusal} (hread : Yaml.read text = .error refusal) :
    Regular text ↔ refusal.isInvalid = true := by
  constructor
  · exact fun h => h.refused refusal hread
  · intro hinvalid
    refine ⟨fun other hother => ?_, fun value hvalue => ?_, fun entries hentries => ?_⟩
    · rw [hread] at hother
      exact Except.error.inj hother ▸ hinvalid
    · rw [hread] at hvalue
      cases hvalue
    · rw [hread] at hentries
      cases hentries

/-- A text that is read is `Regular` exactly if its value is null or the empty mapping where it
counts as false, and has `OrderlyNames` where it is a mapping. -/
theorem regular_iff_of_read (hread : Yaml.read text = .ok value) :
    Regular text ↔ (value.truth = false → value = .null ∨ value = .mapping []) ∧
      ∀ entries, value = .mapping entries → OrderlyNames entries := by
  constructor
  · exact fun h => ⟨h.falsy value hread, fun entries hentries => h.names entries (hentries ▸ hread)⟩
  · rintro ⟨hfalsy, hnames⟩
    refine ⟨fun refusal hrefused => ?_, fun other hother => ?_, fun entries hentries => ?_⟩
    · rw [hread] at hrefused
      cases hrefused
    · rw [hread] at hother
      exact Except.ok.inj hother ▸ hfalsy
    · rw [hread] at hentries
      exact hnames entries (Except.ok.inj hentries)

/-- A mapping that counts as false, by `truth`, has no entries. -/
theorem eq_nil_of_truth_eq_false (h : (Value.mapping entries).truth = false) : entries = [] := by
  simpa [Value.truth] using h

/-- **YAML texts are judged rightly exactly if they are regular**: `Judges` and `Regular` of one
text. -/
theorem judges_parseFile_yaml_iff (hformat : formatOf path = .ok .yaml) :
    Judges .yaml text (parseFile path text >>= fileLayer) ↔ Regular text := by
  rw [parseFile, hformat, ok_bind]
  simp only [yamlValue]
  cases hread : Yaml.read text with
  | error refusal =>
    have hnot : ¬IsAcceptable .yaml text := by simp [isAcceptable_yaml_iff, hread]
    rw [regular_iff_of_refused hread]
    cases refusal with
    | malformed => exact iff_of_true (judges_error_iff.2 ⟨hnot, rfl⟩) rfl
    | _ => exact judges_error_iff.trans (and_iff_right hnot)
  | ok value =>
    have haccept : IsAcceptable .yaml text ↔
        value = .null ∨ ∃ entries, value = .mapping entries ∧ IsConfiguration entries := by
      simp [isAcceptable_yaml_iff, hread]
    rw [regular_iff_of_read hread]
    -- a value that counts as false is taken for no settings before anyone asks what it is
    by_cases htruth : value.truth = true
    · simp only [htruth, if_true, ok_bind, Bool.true_eq_false, false_imp_iff, true_and]
      have hnull : value ≠ .null := by
        rintro rfl
        cases htruth
      cases value with
      | mapping entries =>
        refine (judges_fileLayer_iff (haccept.trans ?_)).trans (by simp)
        simp [Value.null]
      | _ => exact iff_of_true (judges_error_iff.2 ⟨by simp [haccept, hnull], rfl⟩) nofun
    · -- the text is accepted, whatever it holds
      obtain ⟨layer, hlayer⟩ : ∃ layer, fileLayer [] = .ok layer := ⟨_, rfl⟩
      rw [Bool.not_eq_true] at htruth
      simp only [htruth, Bool.false_eq_true, if_false, ok_bind, forall_const]
      refine judges_ok_iff.trans (haccept.trans ?_)
      constructor
      · rintro (rfl | ⟨entries, rfl, -⟩)
        · exact ⟨.inl rfl, nofun⟩
        · obtain rfl := eq_nil_of_truth_eq_false htruth
          refine ⟨.inr rfl, fun entries hentries => ?_⟩
          exact Value.mapping.inj hentries ▸ isConfiguration_nil.orderlyNames
      · rintro ⟨rfl | rfl, -⟩
        · exact .inl rfl
        · exact .inr ⟨[], rfl, isConfiguration_nil⟩

/-! ## Both formats -/

/-- **A file that can be read is judged rightly exactly if it is JSON or its text is regular YAML.**
Nothing but the file counts, as long as the defaults can be read. -/
theorem judges_iff (hexists : sources.tree.pathExists path = .ok true)
    (htext : sources.tree.readText path = .ok text)
    (hformat : Format.ofSuffix? path.suffix = some format)
    (hshallow : IsShallow format (unifyLineEnds text))
    (hdefaults : ReadableDefaults sources.defaults?) :
    Judges format (unifyLineEnds text) (load sources (some path) false) ↔
      (format = .yaml → Regular (unifyLineEnds text)) := by
  obtain ⟨defaults, hlayer⟩ := exists_defaultsLayer_eq_ok_iff.2 hdefaults
  have hof : formatOf path = .ok format := by rw [formatOf, hformat]
  rw [load_eq hexists htext hlayer, judges_bind_pure_iff]
  cases format with
  | json => exact iff_of_true (judges_parseFile_json hof hshallow) nofun
  | yaml => rw [judges_parseFile_yaml_iff hof, forall_prop_of_true rfl]

/-- The name `c.yaml`, of a YAML file. -/
def yamlName : Name :=
  ⟨"c.yaml", by decide⟩

/-- A text that holds `false`, which is no mapping. -/
def falseText : String :=
  "false\n"

/-- A file tree with `falseText` in a YAML file, beside the defaults that come with the program. -/
def falseSources : Sources where
  tree := ⟨[([yamlName], .file falseText)], by decide⟩

/-- The path of the YAML file in `falseSources`. -/
def yamlPath : Path :=
  .ofText yamlName.text

/-- Whether a text is read as `false`. -/
def holdsFalse (text : String) : Bool :=
  match Yaml.read text with
  | .ok (.scalar (.bool false)) => true
  | _ => false

/-- Such a text has `false` for its value. -/
theorem read_of_holdsFalse (h : holdsFalse text = true) :
    Yaml.read text = .ok (.scalar (.bool false)) := by
  unfold holdsFalse at h
  split at h
  · assumption
  · cases h

theorem pathExists_falseSources : falseSources.tree.pathExists yamlPath = .ok true := by
  decide +kernel

theorem readText_falseSources : falseSources.tree.readText yamlPath = .ok falseText := by
  decide +kernel

theorem ofSuffix?_yamlPath : Format.ofSuffix? yamlPath.suffix = some .yaml := by
  decide +kernel

/-- The file with `false` is judged rightly exactly if its text is regular. -/
theorem judges_falseText :
    falseSources.tree.pathExists yamlPath = .ok true ∧
      falseSources.tree.readText yamlPath = .ok falseText ∧
        Format.ofSuffix? yamlPath.suffix = some .yaml ∧ ReadableDefaults falseSources.defaults? ∧
          (Judges .yaml (unifyLineEnds falseText) (load falseSources (some yamlPath) false) ↔
            Regular (unifyLineEnds falseText)) := by
  refine ⟨pathExists_falseSources, readText_falseSources, ofSuffix?_yamlPath,
    readableDefaults_packagedDefaults, ?_⟩
  have hiff := judges_iff pathExists_falseSources readText_falseSources ofSuffix?_yamlPath trivial
    readableDefaults_packagedDefaults
  rwa [forall_prop_of_true rfl] at hiff

/-- **A file that holds `false` is accepted**, although it holds no mapping. -/
theorem not_judges_falseText :
    ¬Judges .yaml (unifyLineEnds falseText) (load falseSources (some yamlPath) false) := by
  have hholds : holdsFalse (unifyLineEnds falseText) = true := by decide +kernel
  have hread := read_of_holdsFalse hholds
  have hparse : parseFile yamlPath (unifyLineEnds falseText) = .ok [] := by
    have hformat : formatOf yamlPath = .ok .yaml := by rw [formatOf, ofSuffix?_yamlPath]
    rw [parseFile, hformat, ok_bind, yamlValue, hread]
    rfl
  obtain ⟨defaults, hdefaults⟩ :=
    exists_defaultsLayer_eq_ok_iff.2 readableDefaults_packagedDefaults
  have hload : ∃ configuration, load falseSources (some yamlPath) false = .ok configuration := by
    rw [load_eq pathExists_falseSources readText_falseSources hdefaults, hparse]
    exact ⟨_, rfl⟩
  intro hjudges
  rcases isAcceptable_yaml_iff.1 (hjudges.1.1 hload) with hnull | ⟨entries, hentries, -⟩
  · rw [hread] at hnull
    cases hnull
  · rw [hread] at hentries
    cases hentries

end TreeSift.Config
