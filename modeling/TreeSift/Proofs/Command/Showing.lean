import TreeSift.Command.Run
import TreeSift.Proofs.Screen.Tables

/-! # Results that are shown as they are

The command that scans shows the paths of a result in tables, as texts with markup. It shows a result
as it is exactly if markup leaves all of its paths alone and finds no fault in its warnings
(`showsVerbatim_iff`): a path that means something to markup is shown altered, or not at all. -/

namespace TreeSift.Command

open TreeSift.Config (Sources load loggingFault?)
open TreeSift.Screen

/-! ## What is shown -/

/-- The text that stands for a path: the base directory, `""`, is shown as a dot. -/
def shownPath (path : String) : String :=
  if path.isEmpty then "." else path

/-- The tables that are shown of a result, by their titles, with their paths: those excluded only if
`showExcluded`. -/
def sections (result : ScanResult) (showExcluded : Bool) : List (String × List String) :=
  [("Included files", result.includedFiles), ("Included directories", result.includedDirectories)] ++
    if showExcluded then
      [("Excluded files", result.excludedFiles), ("Excluded directories", result.excludedDirectories)]
    else []

/-- The paths that are shown of a result, in all of its `sections`. -/
def shownPaths (result : ScanResult) (showExcluded : Bool) : List String :=
  (sections result showExcluded).flatMap (·.2)

/-- The panel of counts that is shown of a result: its `resultCounts`, below a title. -/
def countPanel (result : ScanResult) : Lines :=
  panel "Scan Complete" ((resultCounts result).map fun entry => (entry.1, toString entry.2))

/-- The lines that a warning is shown in on `screen`, unless its markup has a fault. -/
def warningLines (screen : Extent) (warning : ScanWarning) : Except MarkupFault Lines :=
  paragraph screen ("[yellow]Warning:[/yellow] " ++ warning.message)

/-- **A result that is shown as it is**: the command ends well and prints a table that `Tabulates`
every list of paths; then come the `countPanel` and the `warningLines`. -/
def ShowsVerbatim (screen : Extent) (result : ScanResult) (showExcluded : Bool) (ended : Except Breakdown Outcome) :
    Prop :=
  ∃ tables warnings,
    ended = .ok {
      exitCode := 0
      output := String.join ((tables ++ [countPanel result] ++ warnings).map Lines.text) } ∧
    List.Forall₂ (fun part lines => Tabulates part.1 (part.2.map shownPath) lines)
      (sections result showExcluded) tables ∧
    List.Forall₂ (fun warning lines => warningLines screen warning = .ok lines) result.warnings warnings

variable {screen : Extent} {result : ScanResult} {showExcluded : Bool}

/-- A result is shown in tables, counts and warnings: `showResult` written out by `sections`. -/
theorem showResult_eq (screen : Extent) (result : ScanResult) (showExcluded : Bool) :
    showResult screen result showExcluded =
      ((sections result showExcluded).map fun part => pathTable screen part.1 part.2) ++
        [.ok (countPanel result)] ++ result.warnings.map (warningLines screen) := by
  cases showExcluded <;> rfl

/-- Pieces are printed by `Outcome.printing` exactly if all of them can be shown. -/
theorem printing_eq_ok_iff {exitCode : Nat} {pieces : List (Except MarkupFault Lines)}
    {outcome : Outcome} :
    Outcome.printing exitCode pieces = .ok outcome ↔
      ∃ shown, pieces.mapM id = .ok shown ∧
        outcome = { exitCode, output := String.join (shown.map Lines.text) } := by
  rw [Outcome.printing]
  cases pieces.mapM id with
  | error fault => simp
  | ok shown => simp [eq_comm]

/-- Two lists of pieces can be shown exactly if each of them can: `mapM` of `++`. -/
theorem mapM_append_eq_ok_iff {front back : List (Except MarkupFault Lines)} {shown : List Lines} :
    (front ++ back).mapM id = .ok shown ↔
      ∃ first later, front.mapM id = .ok first ∧ back.mapM id = .ok later ∧ shown = first ++ later := by
  rw [List.mapM_append, bind_eq_ok_iff]
  constructor
  · rintro ⟨first, hfirst, hrest⟩
    obtain ⟨later, hlater, hshown⟩ := bind_eq_ok_iff.1 hrest
    cases hshown
    exact ⟨first, later, hfirst, hlater, rfl⟩
  · rintro ⟨first, later, hfirst, hlater, rfl⟩
    exact ⟨first, hfirst, bind_eq_ok_iff.2 ⟨later, hlater, rfl⟩⟩

/-- What is printed of a result are its tables, its counts and its warnings, if all of them can be
shown. -/
theorem printing_showResult_iff {outcome : Outcome} :
    Outcome.printing 0 (showResult screen result showExcluded) = .ok outcome ↔
      ∃ tables warnings,
        List.Forall₂ (fun part lines => pathTable screen part.1 part.2 = .ok lines)
          (sections result showExcluded) tables ∧
        List.Forall₂ (fun warning lines => warningLines screen warning = .ok lines) result.warnings
          warnings ∧
        outcome = {
          exitCode := 0
          output := String.join ((tables ++ [countPanel result] ++ warnings).map Lines.text) } := by
  have hpanel : [(.ok (countPanel result) : Except MarkupFault Lines)].mapM id =
      .ok [countPanel result] := rfl
  rw [printing_eq_ok_iff, showResult_eq]
  constructor
  · rintro ⟨shown, hshown, rfl⟩
    obtain ⟨front, warnings, hfront, hwarnings, rfl⟩ := mapM_append_eq_ok_iff.1 hshown
    obtain ⟨tables, counts, htables, hcounts, rfl⟩ := mapM_append_eq_ok_iff.1 hfront
    rw [hpanel] at hcounts
    cases hcounts
    rw [mapM_eq_ok_iff, List.forall₂_map_left_iff] at htables hwarnings
    exact ⟨tables, warnings, htables, hwarnings, rfl⟩
  · rintro ⟨tables, warnings, htables, hwarnings, rfl⟩
    refine ⟨_, mapM_append_eq_ok_iff.2 ⟨_, warnings, mapM_append_eq_ok_iff.2
      ⟨tables, _, ?_, hpanel, rfl⟩, ?_, rfl⟩, rfl⟩
    · exact mapM_eq_ok_iff.2 (List.forall₂_map_left_iff.2 htables)
    · exact mapM_eq_ok_iff.2 (List.forall₂_map_left_iff.2 hwarnings)

/-! ## Marks in what is shown -/

/-- The marks of a text that is printed are those of its lines: `markCount` of `String.join`. -/
theorem markCount_join (pieces : List Lines) :
    markCount (String.join (pieces.map Lines.text)).toList =
      markCount (pieces.flatMap List.flatten) := by
  rw [String.toList_join, List.flatMap_map]
  refine markCount_flatMap_congr fun lines _ => ?_
  rw [Lines.text, String.toList_ofList, ← List.flatMap_id]
  refine markCount_flatMap_congr fun line _ => ?_
  rw [markCount_append]
  rfl

/-- The texts that a section shows: `shownPath` of each of its paths. -/
def sectionTexts (part : String × List String) : List Char :=
  (part.2.map shownPath).flatMap String.toList

/-- The titles of the `sections` are such as `IsTitle` allows. -/
theorem isTitle_of_mem_sections {part : String × List String}
    (h : part ∈ sections result showExcluded) : IsTitle part.1 := by
  have htitles : ∀ title ∈ ["Included files", "Included directories", "Excluded files",
      "Excluded directories"], IsTitle title := by
    simp only [IsTitle, OneLine]
    decide +kernel
  refine htitles _ ?_
  cases showExcluded <;> simp [sections] at h ⊢ <;> grind

/-! ## Paths -/

/-- A text without marks satisfies `IsPlain`: markup finds nothing to begin with. -/
theorem isPlain_of_markCount_eq_zero {text : List Char} (h : markCount text = 0) : IsPlain text where
  untagged := by
    rintro front first body back rfl
    simp [isMark] at h
  unescaped := by
    rintro ⟨front, back, rfl⟩
    simp [isMark] at h
  emojiFree := by
    rintro front between back rfl
    simp [isMark] at h

/-- A path is as plain as the text `shownPath path` that stands for it. -/
theorem isPlain_shownPath_iff {path : String} :
    IsPlain (shownPath path).toList ↔ IsPlain path.toList := by
  rw [shownPath]
  split
  · next hempty =>
    rw [String.isEmpty_iff.1 hempty]
    exact iff_of_true (isPlain_of_markCount_eq_zero (by decide))
      (isPlain_of_markCount_eq_zero (by decide))
  · rfl

/-- The text `shownPath path` of a visible path is visible, and not empty. -/
theorem visible_shownPath {path : String} (h : Visible path.toList) :
    Visible (shownPath path).toList ∧ (shownPath path).toList ≠ [] := by
  rw [shownPath]
  split
  · exact ⟨visible_iff.2 (by decide), by decide⟩
  · next hne => exact ⟨h, fun hnil => hne (String.isEmpty_iff.2 (String.toList_eq_nil_iff.1 hnil))⟩

/-- A path of one of the `sections` is among the `shownPaths`. -/
theorem mem_shownPaths {part : String × List String} {path : String}
    (hpart : part ∈ sections result showExcluded) (hpath : path ∈ part.2) :
    path ∈ shownPaths result showExcluded :=
  List.mem_flatMap.2 ⟨part, hpart, hpath⟩

/-- The texts of a section of visible paths are `Visible`. -/
theorem visible_of_mem_map {part : String × List String}
    (hvisible : ∀ path ∈ shownPaths result showExcluded, Visible path.toList)
    (hpart : part ∈ sections result showExcluded) :
    ∀ text ∈ part.2.map shownPath, Visible text.toList ∧ text.toList ≠ [] := by
  intro text htext
  obtain ⟨path, hpath, rfl⟩ := List.mem_map.1 htext
  exact visible_shownPath (hvisible path (mem_shownPaths hpart hpath))

/-! ## Tables of paths -/

/-- Plain paths are shown as they are: there are `tables` that are `Tabulates` each. -/
theorem exists_tables (hvisible : ∀ path ∈ shownPaths result showExcluded, Visible path.toList)
    (hplain : ∀ path ∈ shownPaths result showExcluded, IsPlain path.toList) :
    ∃ tables, List.Forall₂ (fun part lines => pathTable screen part.1 part.2 = .ok lines ∧
      Tabulates part.1 (part.2.map shownPath) lines) (sections result showExcluded) tables := by
  refine exists_forall₂_iff.2 fun part hpart => ?_
  have htexts := visible_of_mem_map hvisible hpart
  refine exists_table_tabulates screen part.1 (fun text htext => (htexts text htext).1)
    (fun text htext => (htexts text htext).2) fun text htext => ?_
  obtain ⟨path, hpath, rfl⟩ := List.mem_map.1 htext
  exact isPlain_shownPath_iff.2 (hplain path (mem_shownPaths hpart hpath))

/-- Paths whose tables have all their marks satisfy `IsPlain`. -/
theorem isPlain_of_tables {tables : List Lines}
    (hvisible : ∀ path ∈ shownPaths result showExcluded, Visible path.toList)
    (h : List.Forall₂ (fun part lines => pathTable screen part.1 part.2 = .ok lines)
      (sections result showExcluded) tables)
    (hcount : markCount ((sections result showExcluded).flatMap sectionTexts) ≤
      markCount (tables.flatMap List.flatten)) :
    ∀ path ∈ shownPaths result showExcluded, IsPlain path.toList := by
  have hle : ∀ part ∈ sections result showExcluded, ∀ lines, pathTable screen part.1 part.2 = .ok lines →
      markCount lines.flatten ≤ markCount (sectionTexts part) := fun part hpart lines hlines =>
    markCount_table_le (isTitle_of_mem_sections hpart)
      (fun text htext => (visible_of_mem_map hvisible hpart text htext).1) hlines
  intro path hpath
  obtain ⟨part, hpart, hmem⟩ := List.mem_flatMap.1 hpath
  obtain ⟨lines, hlines, hall⟩ := exists_le_of_forall₂ h hle hcount part hpart
  exact isPlain_shownPath_iff.1 (isPlain_of_table (isTitle_of_mem_sections hpart)
    (fun text htext => (visible_of_mem_map hvisible hpart text htext).1) hlines hall _
    (List.mem_map_of_mem hmem))

/-- **A result of visible paths is shown as it is** exactly if all paths are `IsPlain` and all
warnings can be shown. -/
theorem showsVerbatim_printing_iff
    (hvisible : ∀ path ∈ shownPaths result showExcluded, Visible path.toList) :
    ShowsVerbatim screen result showExcluded (Outcome.printing 0 (showResult screen result showExcluded)) ↔
      (∀ path ∈ shownPaths result showExcluded, IsPlain path.toList) ∧
        ∀ warning ∈ result.warnings, ∃ lines, warningLines screen warning = .ok lines := by
  constructor
  · rintro ⟨tables, warnings, hended, htables, hwarnings⟩
    refine ⟨?_, exists_forall₂_iff.1 ⟨warnings, hwarnings⟩⟩
    · obtain ⟨drawn, warnings', hdrawn, hwarnings', houtcome⟩ := printing_showResult_iff.1 hended
      -- the warnings are the same, so that the tables have the same marks
      obtain rfl : warnings = warnings' := by
        have h := mapM_eq_ok_iff.2 hwarnings
        rw [mapM_eq_ok_iff.2 hwarnings'] at h
        cases h
        rfl
      have hmarks := congrArg (fun outcome => markCount outcome.output.toList) houtcome
      simp only [markCount_join, List.flatMap_append, markCount_append] at hmarks
      have htexts : markCount (tables.flatMap List.flatten) =
          markCount ((sections result showExcluded).flatMap sectionTexts) :=
        markCount_eq_of_forall₂ htables fun part hpart lines hlines =>
          hlines.markCount_eq (isTitle_of_mem_sections hpart)
      exact isPlain_of_tables hvisible hdrawn (by omega)
  · rintro ⟨hplain, hwarnings⟩
    obtain ⟨tables, htables⟩ := exists_tables hvisible hplain
    obtain ⟨warnings, hwarnings⟩ := exists_forall₂_iff.2 hwarnings
    refine ⟨tables, warnings, printing_showResult_iff.2 ⟨tables, warnings, ?_, hwarnings, rfl⟩, ?_,
      hwarnings⟩
    · exact htables.imp fun _ _ h => h.1
    · exact htables.imp fun _ _ h => h.2

/-! ## The command -/

/-- **A command line whose scan has a result**: `Request.ofArguments?` makes `options` of it, its
configuration can be loaded and used, and the scan ends with `result`. -/
def Finds (sources : Sources) (words : List String) (options : ScanOptions) (result : ScanResult) :
    Prop :=
  ∃ base configuration, Request.ofArguments? words = some (.scan base options) ∧
    load sources options.config? true = .ok configuration ∧ loggingFault? configuration = none ∧
    scanResult sources.tree base options configuration = .ok result

variable {sources : Sources} {words : List String} {options : ScanOptions}

/-- A command line that `Finds` a result prints what `showResult` makes of it. -/
theorem run_eq_of_finds (h : Finds sources words options result) :
    run sources words = Outcome.printing 0 (showResult sources.screen result options.showExcluded) := by
  obtain ⟨base, configuration, hrequest, hload, hlogging, hresult⟩ := h
  rw [run, hrequest]
  simp only [runScan, hload, hlogging, hresult]

/-- **The command that scans shows a result of visible paths as it is** exactly if all of these are
`IsPlain` and all warnings can be shown. -/
theorem showsVerbatim_iff (hfinds : Finds sources words options result)
    (hvisible : ∀ path ∈ shownPaths result options.showExcluded, Visible path.toList) :
    ShowsVerbatim sources.screen result options.showExcluded (run sources words) ↔
      (∀ path ∈ shownPaths result options.showExcluded, IsPlain path.toList) ∧
        ∀ warning ∈ result.warnings, ∃ lines, warningLines sources.screen warning = .ok lines := by
  rw [run_eq_of_finds hfinds]
  exact showsVerbatim_printing_iff hvisible

/-! ## A name in brackets -/

/-- The scan that a command line asks for, if it has a result: what `Finds` says, computed. -/
def finding? (sources : Sources) (words : List String) : Option (ScanOptions × ScanResult) :=
  match Request.ofArguments? words with
  | some (.scan base options) =>
    match load sources options.config? true with
    | .ok configuration =>
      if loggingFault? configuration = none then
        (scanResult sources.tree base options configuration).toOption.map fun result =>
          (options, result)
      else none
    | .error _ => none
  | _ => none

/-- What `finding?` computes is what a command line `Finds`. -/
theorem finds_of_finding? (h : finding? sources words = some (options, result)) :
    Finds sources words options result := by
  rw [finding?] at h
  split at h
  · next base told hrequest =>
    split at h
    · next configuration hload =>
      split at h
      · next hlogging =>
        obtain ⟨found, hfound, heq⟩ := Option.map_eq_some_iff.1 h
        cases heq
        refine ⟨base, configuration, hrequest, hload, hlogging, ?_⟩
        cases hresult : scanResult sources.tree base options configuration with
        | error breakdown =>
            rw [hresult] at hfound
            cases hfound
        | ok value =>
            rw [hresult] at hfound
            cases hfound
            rfl
      · cases h
    · cases h
  · cases h

/-- The name of the directory in `bracketSources`. -/
def tableName : Name where
  text := "t"
  isEntryName_text := by decide

/-- A name that begins with a letter in brackets: `[a]b`. -/
def bracketName : Name where
  text := "[a]b"
  isEntryName_text := by decide

/-- The entries of `bracketSources`: a directory with a file named `bracketName`. -/
def bracketEntries : List (Location × Entry) :=
  [([tableName], .directory none), ([bracketName, tableName], .file "")]

theorem nodup_bracketEntries : (bracketEntries.map Prod.fst).Nodup := by decide

/-- A directory with a file named `bracketName`, and nothing to configure a scan. -/
def bracketSources : Sources where
  tree := ⟨bracketEntries, nodup_bracketEntries⟩

/-- A command line that asks for a scan of the directory in `bracketSources`. -/
def bracketWords : List String :=
  ["scan", "--no-default-excludes", "t"]

/-- The file named `bracketName` is found, and nothing else but the directory. -/
theorem finding_bracketSources : (finding? bracketSources bracketWords).any (fun found =>
    shownPaths found.2 found.1.showExcluded = ["[a]b", ""]) = true := by
  decide +kernel

/-- A scan of `bracketSources` has a result: the command line `Finds` it. -/
theorem exists_finds_bracketSources : ∃ options result,
    Finds bracketSources bracketWords options result ∧
      shownPaths result options.showExcluded = ["[a]b", ""] := by
  obtain ⟨⟨options, result⟩, hfound, hpaths⟩ := (Option.any_eq_true _ _).1 finding_bracketSources
  exact ⟨options, result, finds_of_finding? hfound, of_decide_eq_true hpaths⟩

/-- The paths of `bracketSources` are `Visible`. -/
theorem visible_bracketPaths : ∀ path ∈ ["[a]b", ""], Visible path.toList := by
  simp only [visible_iff]
  decide

/-- The letter in brackets is a tag, so that `[a]b` does not satisfy `IsPlain`. -/
theorem not_isPlain_bracketName : ¬IsPlain "[a]b".toList := fun h => by
  have hbody := h.untagged [] 'a' [] ['b'] (by decide) (by decide) (by decide)
  cases hbody

/-- The result of `bracketSources` is shown as it is exactly if its paths are `IsPlain`. -/
theorem showsVerbatim_bracketSources : ∃ options result,
    Finds bracketSources bracketWords options result ∧
      (∀ path ∈ shownPaths result options.showExcluded, Visible path.toList) ∧
      (ShowsVerbatim bracketSources.screen result options.showExcluded (run bracketSources bracketWords) ↔
        (∀ path ∈ shownPaths result options.showExcluded, IsPlain path.toList) ∧
          ∀ warning ∈ result.warnings, ∃ lines, warningLines bracketSources.screen warning = .ok lines) := by
  obtain ⟨options, result, hfinds, hpaths⟩ := exists_finds_bracketSources
  have hvisible := hpaths ▸ visible_bracketPaths
  exact ⟨options, result, hfinds, hvisible, showsVerbatim_iff hfinds hvisible⟩

/-- **A file whose name begins with a letter in brackets is not shown as it is**: `ShowsVerbatim`
fails on `bracketSources`. -/
theorem not_showsVerbatim_bracketSources : ∃ options result,
    Finds bracketSources bracketWords options result ∧
      (∀ path ∈ shownPaths result options.showExcluded, Visible path.toList) ∧
      ¬ShowsVerbatim bracketSources.screen result options.showExcluded (run bracketSources bracketWords) := by
  obtain ⟨options, result, hfinds, hpaths⟩ := exists_finds_bracketSources
  have hvisible := hpaths ▸ visible_bracketPaths
  refine ⟨options, result, hfinds, hvisible, fun hshows => ?_⟩
  rw [run_eq_of_finds hfinds] at hshows
  have hplain := ((showsVerbatim_printing_iff hvisible).1 hshows).1
  rw [hpaths] at hplain
  exact not_isPlain_bracketName (hplain _ List.mem_cons_self)

end TreeSift.Command
