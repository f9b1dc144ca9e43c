import TreeSift.Pattern.List
import TreeSift.Proofs.Regex.Refusing
import TreeSift.Proofs.Results

/-! # Compiling pattern lists

Only a marked regular expression can fail to compile (`Pattern.compile_eq_error_iff`), and a list
fails with the error of the first one in it that does (`PatternList.compileAll_eq_error_iff`).
Otherwise it compiles to one pattern for every text, in order (`PatternList.compilesInOrder_compileAll`).

A regular expression is not always refused as malformed: bounds of repetitions that are too great and
flags that exclude each other are refused in ways of their own, so a list can fail in more than one
way (`PatternList.CompilesInOrder.failsOneWay_iff`). What a text has to hold for this is said by
`Pattern.Refuses.refusedFor`. -/

namespace TreeSift

/-! ## Markers -/

/-- **How a marker is taken off**: a closed marker that holds something gives its `kind` and what it
holds, and any other text is a glob as it stands. -/
inductive PatternSource.Strips : List Char → PatternSource → Prop where
  /-- A closed marker that holds something. -/
  | marked (kind : PatternKind) {body : List Char} (hne : body ≠ []) :
      Strips (kind.opening ++ body ++ markerEnd) ⟨kind, body⟩
  /-- Any other text. -/
  | plain {raw : List Char}
      (h : ∀ (kind : PatternKind) body, body ≠ [] → raw ≠ kind.opening ++ body ++ markerEnd) :
      Strips raw ⟨.ant, raw⟩

namespace PatternKind

variable {kind : PatternKind} {raw body : List Char}

/-- What is between `kind.opening` and `markerEnd` is what `unwrap` gives. -/
theorem unwrap_eq (kind : PatternKind) (body : List Char) :
    kind.unwrap (kind.opening ++ body ++ markerEnd) = body := by
  rw [unwrap, List.append_assoc, List.drop_left, markerEnd, List.dropLast_concat]

/-- A text is marked exactly if it has the ends of a marker and something between them: `marks` as
an equation. -/
theorem marks_iff :
    kind.marks raw = true ↔ ∃ body, body ≠ [] ∧ raw = kind.opening ++ body ++ markerEnd := by
  rw [marks, Bool.and_eq_true, Bool.and_eq_true, decide_eq_true_eq, List.isPrefixOf_iff_prefix,
    List.isSuffixOf_iff_suffix]
  constructor
  · rintro ⟨⟨hlength, rest, rfl⟩, front, hfront⟩
    -- what comes after the opening is long enough to end with the end of the marker
    rw [List.length_append] at hlength
    have hends : markerEnd <:+ rest :=
      List.suffix_of_suffix_length_le ⟨front, hfront⟩ (List.suffix_append ..) (by omega)
    obtain ⟨body, rfl⟩ := hends
    rw [List.length_append] at hlength
    refine ⟨body, fun hnil => ?_, (List.append_assoc ..).symm⟩
    rw [hnil, List.length_nil] at hlength
    omega
  · rintro ⟨body, hne, rfl⟩
    have hpos := List.length_pos_iff.2 hne
    refine ⟨⟨?_, body ++ markerEnd, (List.append_assoc ..).symm⟩, kind.opening ++ body, rfl⟩
    simp only [List.length_append]
    omega

/-- No text is marked as both kinds: the two openings differ. -/
theorem not_marks_regex_of_ant (body : List Char) :
    PatternKind.regex.marks (PatternKind.ant.opening ++ body ++ markerEnd) = false := by
  rw [Bool.eq_false_iff]
  intro h
  obtain ⟨other, -, hraw⟩ := marks_iff.1 h
  cases hraw

end PatternKind

namespace PatternSource

variable {raw : List Char}

/-- **The marker is taken off** by `ofRaw`, as `Strips` says. -/
theorem strips_ofRaw (raw : List Char) : Strips raw (ofRaw raw) := by
  rw [ofRaw]
  by_cases hregex : PatternKind.regex.marks raw = true
  · obtain ⟨body, hne, rfl⟩ := PatternKind.marks_iff.1 hregex
    rw [if_pos hregex, PatternKind.unwrap_eq]
    exact .marked .regex hne
  · rw [if_neg hregex]
    by_cases hant : PatternKind.ant.marks raw = true
    · obtain ⟨body, hne, rfl⟩ := PatternKind.marks_iff.1 hant
      rw [if_pos hant, PatternKind.unwrap_eq]
      exact .marked .ant hne
    · rw [if_neg hant]
      refine .plain fun kind body hne hraw => ?_
      have hmarks : kind.marks raw = true := PatternKind.marks_iff.2 ⟨body, hne, hraw⟩
      cases kind with
      | ant => exact hant hmarks
      | regex => exact hregex hmarks

/-- There is one way to take it off: `Strips` determines its source, which is `ofRaw raw`. -/
theorem strips_iff {source : PatternSource} : Strips raw source ↔ ofRaw raw = source := by
  constructor
  · rintro (⟨kind, hne⟩ | h)
    · cases kind with
      | ant =>
          rw [ofRaw, PatternKind.not_marks_regex_of_ant, if_neg (by decide),
            if_pos (PatternKind.marks_iff.2 ⟨_, hne, rfl⟩), PatternKind.unwrap_eq]
      | regex => rw [ofRaw, if_pos (PatternKind.marks_iff.2 ⟨_, hne, rfl⟩), PatternKind.unwrap_eq]
    · have hnot (kind : PatternKind) : kind.marks raw = false := by
        rw [Bool.eq_false_iff]
        intro hmarks
        obtain ⟨body, hne, hraw⟩ := PatternKind.marks_iff.1 hmarks
        exact h kind body hne hraw
      exact ofRaw_eq_of_not_marks (hnot .regex) (hnot .ant)
  · rintro rfl
    exact strips_ofRaw raw

end PatternSource

/-! ## Single patterns -/

/-- Why the source of a regular expression is refused by `Regex.compile`, if it is. -/
def Regex.refusal? (source : String) : Option Regex.Refusal :=
  match Regex.compile source with
  | .ok _ => none
  | .error refusal => some refusal

/-- A source has a `refusal?` exactly if it does not compile. -/
theorem Regex.refusal?_eq_some_iff {source : String} {refusal : Regex.Refusal} :
    Regex.refusal? source = some refusal ↔ Regex.compile source = .error refusal := by
  rw [refusal?]
  cases Regex.compile source <;> simp

open PatternSource (Strips strips_iff strips_ofRaw)

namespace Pattern

variable {raw : String} {pattern : Pattern} {error : PatternError}

/-- **What a pattern text compiles to**: a glob of its text, or the regular expression that
`Regex.compile` makes of it. -/
inductive Compiles : String → Pattern → Prop where
  /-- A glob, with the tokens of its text. -/
  | glob {raw : String} {text : List Char} (hsource : Strips raw.toList ⟨.ant, text⟩) :
      Compiles raw (ofGlob text)
  /-- A regular expression. -/
  | regex {raw : String} {text : List Char} {expression : Regex}
      (hsource : Strips raw.toList ⟨.regex, text⟩)
      (hcompile : Regex.compile (String.ofList text) = .ok expression) :
      Compiles raw (.regex text expression)

/-- **Why a pattern text does not compile**: it is a closed marker around the source of a regular
expression, and `Regex.refusal?` of this source is the one in `error`. -/
def Refuses (raw : String) (error : PatternError) : Prop :=
  error.source ≠ [] ∧ raw.toList = PatternKind.regex.opening ++ error.source ++ markerEnd ∧
    Regex.compile (String.ofList error.source) = .error error.refusal

/-- What is refused has the marker of a regular expression: `ofRaw` gives the kind `.regex` and the
source in `error`. -/
theorem Refuses.ofRaw_eq (h : Refuses raw error) :
    PatternSource.ofRaw raw.toList = ⟨.regex, error.source⟩ := by
  obtain ⟨hne, hraw, -⟩ := h
  rw [hraw]
  exact strips_iff.1 (.marked .regex hne)

/-- Why a text is refused shows in it: `Regex.RefusedFor` says which letters it holds. -/
theorem Refuses.refusedFor (h : Refuses raw error) :
    Regex.RefusedFor error.source error.refusal := by
  have hrefused := Regex.refusedFor_of_compile h.2.2
  rwa [String.toList_ofList] at hrefused

/-- What `Compiles` is not refused. -/
theorem Compiles.not_refuses (h : Compiles raw pattern) : ¬Refuses raw error := by
  intro hrefuses
  have hsource := hrefuses.ofRaw_eq
  cases h with
  | glob hglob =>
      rw [strips_iff.1 hglob] at hsource
      cases hsource
  | regex hregex hcompile =>
      rw [strips_iff.1 hregex] at hsource
      cases hsource
      rw [hrefuses.2.2] at hcompile
      cases hcompile

/-- **Globs are never refused**, marked or not, and neither are markers that are not closed or hold
nothing: `ofRaw` gives the kind `.ant` to all of them. -/
theorem not_refuses_of_kind_eq_ant (h : (PatternSource.ofRaw raw.toList).kind = .ant) :
    ¬Refuses raw error := by
  intro hrefuses
  rw [hrefuses.ofRaw_eq] at h
  cases h

/-- A pattern keeps the text without the marker as its `source`. -/
theorem Compiles.source_eq (h : Compiles raw pattern) :
    pattern.source = (PatternSource.ofRaw raw.toList).text := by
  cases h with
  | glob hsource => rw [strips_iff.1 hsource, ofGlob, source]
  | regex hsource => rw [strips_iff.1 hsource, source]

/-- **A pattern text compiles, or it does not, for these reasons**: `compile` gives what `Compiles`
or what `Refuses` says. -/
theorem compile_cases (raw : String) :
    (∃ pattern, compile raw = .ok pattern ∧ Compiles raw pattern) ∨
      ∃ error, compile raw = .error error ∧ Refuses raw error := by
  have hstrips := strips_ofRaw raw.toList
  rw [compile]
  cases hsource : PatternSource.ofRaw raw.toList with
  | mk kind text =>
      rw [hsource] at hstrips
      cases kind with
      | ant => exact .inl ⟨_, rfl, .glob hstrips⟩
      | regex =>
          cases hcompile : Regex.compile (String.ofList text) with
          | ok expression =>
              exact .inl ⟨_, by simp only [ofSource, hcompile], .regex hstrips hcompile⟩
          | error refusal =>
              refine .inr ⟨⟨text, refusal⟩, by simp only [ofSource, hcompile], ?_⟩
              generalize hraw : raw.toList = chars at hstrips
              cases hstrips with
              | marked _ hne => exact ⟨hne, hraw, hcompile⟩

/-- Only a marked regular expression can fail to compile: an error of `compile` is one of `Refuses`.
-/
theorem compile_eq_error_iff : compile raw = .error error ↔ Refuses raw error := by
  constructor
  · intro h
    rcases compile_cases raw with ⟨pattern, hcompile, -⟩ | ⟨other, hcompile, hrefuses⟩
    · rw [h] at hcompile
      cases hcompile
    · rw [h] at hcompile
      cases hcompile
      exact hrefuses
  · intro h
    rw [compile, h.ofRaw_eq]
    simp only [ofSource, h.2.2]

/-- What `compile` gives is what a text `Compiles` to. -/
theorem compiles_of_compile (h : compile raw = .ok pattern) : Compiles raw pattern := by
  rcases compile_cases raw with ⟨other, hcompile, hcompiles⟩ | ⟨error, hcompile, -⟩
  · rw [h] at hcompile
    cases hcompile
    exact hcompiles
  · rw [h] at hcompile
    cases hcompile

/-- What compiles is what nothing `Refuses`. -/
theorem exists_compile_eq_ok_iff :
    (∃ pattern, compile raw = .ok pattern) ↔ ∀ error, ¬Refuses raw error := by
  constructor
  · rintro ⟨pattern, hcompile⟩ error
    exact (compiles_of_compile hcompile).not_refuses
  · intro h
    rcases compile_cases raw with ⟨pattern, hcompile, -⟩ | ⟨error, -, hrefuses⟩
    · exact ⟨pattern, hcompile⟩
    · exact absurd hrefuses (h error)

end Pattern

/-! ## Lists of patterns -/

namespace PatternList

open Pattern (Refuses compile_eq_error_iff compiles_of_compile exists_compile_eq_ok_iff
  not_refuses_of_kind_eq_ant)

/-- **The first text of a list that does not compile**, and the `error` for it. -/
def FirstRefused (raws : List String) (error : PatternError) : Prop :=
  ∃ front raw back, raws = front ++ raw :: back ∧ (∀ other ∈ front, ∀ e, ¬Refuses other e) ∧
    Refuses raw error

/-- **What comes of compiling a list of texts**: a pattern for each in order, or the error of the
first one refused. -/
structure CompilesInOrder (raws : List String) (outcome : Except PatternError PatternList) : Prop where
  /-- Patterns are one for every text, in order, and what the texts compile to. -/
  compiles : ∀ patterns, outcome = .ok patterns → List.Forall₂ Pattern.Compiles raws patterns
  /-- Their texts are those without the markers. -/
  sources_eq : ∀ patterns, outcome = .ok patterns →
    patterns.sources = raws.map fun raw => String.ofList (PatternSource.ofRaw raw.toList).text
  /-- There are patterns exactly if no text is refused. -/
  exists_iff : (∃ patterns, outcome = .ok patterns) ↔ ∀ raw ∈ raws, ∀ error, ¬Refuses raw error
  /-- There is an error exactly if it is that of the first text that is refused. -/
  error_iff : ∀ error, outcome = .error error ↔ FirstRefused raws error
  /-- Globs always compile; a marker that is not closed or holds nothing makes one. -/
  of_ant : (∀ raw ∈ raws, (PatternSource.ofRaw raw.toList).kind = .ant) →
    ∃ patterns, outcome = .ok patterns
  /-- Why this text is refused shows in it. -/
  refusedFor : ∀ error, outcome = .error error → Regex.RefusedFor error.source error.refusal

variable {raws : List String} {raw : String} {error : PatternError}

/-- The first refused text of a list is the first one, or the first one of the others if nothing
`Refuses` this. -/
theorem firstRefused_cons :
    FirstRefused (raw :: raws) error ↔
      Refuses raw error ∨ (∀ e, ¬Refuses raw e) ∧ FirstRefused raws error := by
  constructor
  · rintro ⟨front, found, back, hsplit, hfront, hrefuses⟩
    cases front with
    | nil =>
        cases hsplit
        exact .inl hrefuses
    | cons first front =>
        cases hsplit
        exact .inr ⟨hfront _ List.mem_cons_self, front, found, back, rfl,
          fun other hother => hfront other (List.mem_cons_of_mem _ hother), hrefuses⟩
  · rintro (hrefuses | ⟨hraw, front, found, back, rfl, hfront, hrefuses⟩)
    · exact ⟨[], raw, raws, rfl, by simp, hrefuses⟩
    · refine ⟨raw :: front, found, back, rfl, fun other hother => ?_, hrefuses⟩
      rcases List.mem_cons.1 hother with rfl | hother
      · exact hraw
      · exact hfront other hother

/-- A list fails exactly with the error of the first text that is refused: `compileAll` and
`FirstRefused`. -/
theorem compileAll_eq_error_iff : compileAll raws = .error error ↔ FirstRefused raws error := by
  induction raws with
  | nil =>
      refine iff_of_false (fun h => nomatch h) ?_
      rintro ⟨front, raw, back, hsplit, -⟩
      simp at hsplit
  | cons raw raws ih =>
      rw [firstRefused_cons, ← ih, ← exists_compile_eq_ok_iff, ← compile_eq_error_iff, compileAll,
        compileAll, List.mapM_cons]
      cases Pattern.compile raw with
      | error other => simp [bind, Except.bind]
      | ok pattern => cases raws.mapM Pattern.compile <;> simp [bind, Except.bind, pure, Except.pure]

/-- Patterns of `compileAll` are what the texts compile to, one after the other. -/
theorem compiles_of_compileAll {patterns : PatternList} (h : compileAll raws = .ok patterns) :
    List.Forall₂ Pattern.Compiles raws patterns :=
  (mapM_eq_ok_iff.1 h).imp fun _ _ => compiles_of_compile

/-- The `sources` of patterns are their texts without the markers. -/
theorem sources_eq_of_compiles {patterns : PatternList}
    (h : List.Forall₂ Pattern.Compiles raws patterns) :
    patterns.sources = raws.map fun raw => String.ofList (PatternSource.ofRaw raw.toList).text := by
  induction h with
  | nil => rfl
  | cons hcompiles _ ih =>
      rw [List.map_cons, ← ih, ← hcompiles.source_eq]
      rfl

/-- Of texts that patterns compile from, nothing `Refuses` any. -/
theorem not_refuses_of_compiles {patterns : PatternList}
    (h : List.Forall₂ Pattern.Compiles raws patterns) (hraw : raw ∈ raws) : ¬Refuses raw error := by
  induction h with
  | nil => cases hraw
  | cons hcompiles _ ih =>
      rcases List.mem_cons.1 hraw with rfl | hraw
      · exact hcompiles.not_refuses
      · exact ih hraw

/-- A list of which no text is refused compiles by `compileAll`. -/
theorem exists_compileAll_eq_ok (h : ∀ raw ∈ raws, ∀ error, ¬Refuses raw error) :
    ∃ patterns, compileAll raws = .ok patterns := by
  cases hcompile : compileAll raws with
  | ok patterns => exact ⟨patterns, rfl⟩
  | error error =>
      obtain ⟨front, raw, back, rfl, -, hrefuses⟩ := compileAll_eq_error_iff.1 hcompile
      exact absurd hrefuses (h raw (by simp) error)

/-- **A list compiles as a whole, or the first text that is refused decides**: `compileAll` has an
outcome of `CompilesInOrder`. -/
theorem compilesInOrder_compileAll (raws : List String) :
    CompilesInOrder raws (compileAll raws) where
  compiles _ := compiles_of_compileAll
  sources_eq _ h := sources_eq_of_compiles (compiles_of_compileAll h)
  exists_iff := ⟨fun ⟨_, h⟩ _ hraw _ => not_refuses_of_compiles (compiles_of_compileAll h) hraw,
    exists_compileAll_eq_ok⟩
  error_iff _ := compileAll_eq_error_iff
  of_ant hant := exists_compileAll_eq_ok fun raw hraw _ => not_refuses_of_kind_eq_ant (hant raw hraw)
  refusedFor _ h := by
    obtain ⟨_, _, _, -, -, hrefuses⟩ := compileAll_eq_error_iff.1 h
    exact hrefuses.refusedFor

/-- **The one way in which compiling may fail**: there are patterns, one for every text, or the
first text that is refused is `malformed`. -/
def FailsOneWay (raws : List String) (outcome : Except PatternError PatternList) : Prop :=
  (∃ patterns, outcome = .ok patterns ∧ List.Forall₂ Pattern.Compiles raws patterns) ∨
    ∃ error fault, outcome = .error error ∧ FirstRefused raws error ∧ error.refusal = .malformed fault

/-- The outcome of a list `FailsOneWay` exactly if no first text is refused for a reason other than
`malformed`. -/
theorem CompilesInOrder.failsOneWay_iff {outcome : Except PatternError PatternList}
    (h : CompilesInOrder raws outcome) :
    FailsOneWay raws outcome ↔
      ∀ error, FirstRefused raws error → ∃ fault, error.refusal = .malformed fault := by
  constructor
  · rintro (⟨patterns, hpatterns, -⟩ | ⟨other, fault, hother, -, hfault⟩) error herror
    · rw [(h.error_iff error).2 herror] at hpatterns
      cases hpatterns
    · rw [(h.error_iff error).2 herror] at hother
      cases hother
      exact ⟨fault, hfault⟩
  · intro hmalformed
    cases houtcome : outcome with
    | ok patterns => exact .inl ⟨patterns, rfl, h.compiles patterns houtcome⟩
    | error error =>
        have hfirst := (h.error_iff error).1 houtcome
        obtain ⟨fault, hfault⟩ := hmalformed error hfirst
        exact .inr ⟨error, fault, rfl, hfirst, hfault⟩

end PatternList

end TreeSift
