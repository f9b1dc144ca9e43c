import TreeSift.Proofs.Pattern.Splitting
import TreeSift.Proofs.Scan.Specification
import TreeSift.Scan.Listing
import TreeSift.Scan.Session

/-! # Listings and scanners

A listing takes its patterns from comma-separated texts, and a new scanner takes them from lists. A
listing finds what a scanner finds that is given the entries of the texts (`listing_eq_map_find`), so
joining the entries of a list with commas and giving the list itself come to the same
(`commaLists_agree`). -/

namespace TreeSift

open TreeSift.Text (trimText trimText_trimText)

/-- Entries that `compileTrimmed` trims may be trimmed already: `trimText` twice is `trimText` once.
-/
@[simp] theorem PatternList.compileTrimmed_map_trimText (raws : List String) :
    compileTrimmed (raws.map trimText) = compileTrimmed raws := by
  rw [compileTrimmed, compileTrimmed, List.map_map]
  exact congrArg compileAll (List.map_congr_left fun raw _ => trimText_trimText raw)

namespace Scanner

/-- **What a new scanner finds** below a directory that is given lists of pattern texts: the outcome
of `Scanner.create` and then `Scanner.scan`. -/
def find (tree : FileTree) (directory : Path) (caseSensitive : Bool) (includes excludes : List String) :
    Except ListingError ScanResult := do
  let scanner ← (create { basedir := some directory, caseSensitive } (.texts includes)
    (.texts excludes) none true).mapError .pattern
  (scanner.scan tree).1.mapError .scan

variable {tree : FileTree} {directory : Path} {caseSensitive : Bool} {includes excludes : List String}

/-- A scanner finds the same whether or not the entries of its lists are trimmed before: `find`
trims them anyway. -/
@[simp] theorem find_map_trimText :
    find tree directory caseSensitive (includes.map trimText) (excludes.map trimText) =
      find tree directory caseSensitive includes excludes := by
  simp [find, create, PatternInput.compile]

end Scanner

/-- **A listing shows what a scanner finds** with the entries of the texts: `listing` is
`Scanner.find` on what `splitOptional` gives, and then `ListingRequest.names`. -/
theorem listing_eq_map_find (tree : FileTree) (request : ListingRequest) :
    listing tree request =
      (Scanner.find tree request.directory request.caseSensitive (splitOptional request.includes)
        (splitOptional request.excludes)).map request.names := by
  have hshown (outcome : Except ScanFailure ScanResult) :
      ((outcome.mapError ListingError.scan).bind fun result => pure (request.names result)) =
        (outcome.mapError .scan).map request.names := by
    cases outcome <;> rfl
  rw [listing, Scanner.find, Scanner.create, PatternInput.compile, PatternInput.compile]
  cases PatternList.compileTrimmed (splitOptional request.includes) with
  | error error => rfl
  | ok includes =>
      cases PatternList.compileTrimmed (splitOptional request.excludes) with
      | error error => rfl
      | ok excludes => exact hshown _

/-- A request for relative paths, whose `includes` and `excludes` are lists joined with commas. -/
def joinedRequest (shown : String) (directory : Path) (caseSensitive : Bool)
    (includes excludes : List String) : ListingRequest where
  shown
  directory
  includes := some (joinWithCommas includes)
  excludes := some (joinWithCommas excludes)
  includeBasedir := false
  caseSensitive

section Joined

variable {includes excludes : List String}
  (hincludes : ∀ entry ∈ includes, IsListEntry entry) (hexcludes : ∀ entry ∈ excludes, IsListEntry entry)

include hincludes hexcludes

/-- **A listing with joined lists**, of whatever kinds, shows what `Scanner.find` finds with the
lists themselves. -/
theorem listing_joinedRequest (tree : FileTree) (shown : String) (directory : Path)
    (caseSensitive files directories : Bool) :
    listing tree { joinedRequest shown directory caseSensitive includes excludes with
        files, directories } =
      (Scanner.find tree directory caseSensitive includes excludes).map fun result =>
        (if files then result.includedFiles else []) ++
          if directories then result.includedDirectories else [] := by
  rw [listing_eq_map_find]
  simp only [joinedRequest, splitOptional, Option.map_some, Option.getD_some]
  rw [splitList_joinWithCommas hincludes, splitList_joinWithCommas hexcludes,
    Scanner.find_map_trimText]
  rfl

/-- The files that are listed with joined lists are the `includedFiles` that `Scanner.find` finds.
-/
theorem fileNames_joinedRequest (tree : FileTree) (shown : String) (directory : Path)
    (caseSensitive : Bool) :
    fileNames tree (joinedRequest shown directory caseSensitive includes excludes) =
      (Scanner.find tree directory caseSensitive includes excludes).map (·.includedFiles) := by
  rw [fileNames, listing_joinedRequest hincludes hexcludes]
  simp

/-- The directories that are listed with joined lists are the `includedDirectories` that
`Scanner.find` finds. -/
theorem directoryNames_joinedRequest (tree : FileTree) (shown : String) (directory : Path)
    (caseSensitive : Bool) :
    directoryNames tree (joinedRequest shown directory caseSensitive includes excludes) =
      (Scanner.find tree directory caseSensitive includes excludes).map (·.includedDirectories) := by
  rw [directoryNames, listing_joinedRequest hincludes hexcludes]
  simp

/-- **Comma-separated texts and lists agree**: texts are made of entries that can stand between commas,
joining two texts with a comma puts their entries one after the other, entries come back trimmed from the
text that joins them, and `fileNames` and `directoryNames` that are given joined lists show the included
files and directories that a scanner finds which is given the lists. -/
theorem commaLists_agree :
    (∀ text, ∀ entry ∈ splitList text, trimText entry = entry ∧ IsListEntry entry) ∧
      (∀ first later, splitList (first ++ "," ++ later) = splitList first ++ splitList later) ∧
        (∀ entries, (∀ entry ∈ entries, IsListEntry entry) →
          splitList (joinWithCommas entries) = entries.map trimText) ∧
          ∀ tree shown directory caseSensitive,
            fileNames tree (joinedRequest shown directory caseSensitive includes excludes) =
                (Scanner.find tree directory caseSensitive includes excludes).map (·.includedFiles) ∧
              directoryNames tree (joinedRequest shown directory caseSensitive includes excludes) =
                (Scanner.find tree directory caseSensitive includes excludes).map
                  (·.includedDirectories) :=
  ⟨fun _ _ => isListEntry_of_mem_splitList, splitList_append_comma, fun _ => splitList_joinWithCommas,
    fun tree shown directory caseSensitive =>
      ⟨fileNames_joinedRequest hincludes hexcludes tree shown directory caseSensitive,
        directoryNames_joinedRequest hincludes hexcludes tree shown directory caseSensitive⟩⟩

end Joined

/-- Include patterns with blanks around them and around the marker `%ant[...]`. -/
def paddedIncludes : List String :=
  [" *\n", "\t%ant[d/*] "]

/-- Exclude patterns with blanks around them and the marker `%ant[...]`. -/
def paddedExcludes : List String :=
  ["\n%ant[x]\u3000"]

/-- A scanner that is given such patterns has a result on `smallTree`. -/
theorem exists_find_padded : ∃ result, Scanner.find Scanner.smallTree (.ofText "/") true paddedIncludes
    paddedExcludes = .ok result := by
  let settings : ScanSettings :=
    { basedir := some (.ofText "/"), includes := [.ofGlob "*".toList, .ofGlob "d/*".toList],
      excludes := [.ofGlob "x".toList] }
  have hfind : Scanner.find Scanner.smallTree (.ofText "/") true paddedIncludes paddedExcludes =
      (Scanner.outcome settings true Scanner.smallTree).mapError .scan := rfl
  obtain ⟨result, hresult⟩ : ∃ result, Scanner.outcome settings true Scanner.smallTree = .ok result :=
    Scanner.exists_outcome_smallTree rfl (by decide) (by decide)
  exact ⟨result, by rw [hfind, hresult, Except.mapError]⟩

/-- Both ways to give such patterns have the same result on `smallTree`. -/
theorem commaLists_agree_padded :
    (∀ entry ∈ paddedIncludes, IsListEntry entry) ∧ (∀ entry ∈ paddedExcludes, IsListEntry entry) ∧
      ∃ result, Scanner.find Scanner.smallTree (.ofText "/") true paddedIncludes paddedExcludes =
          .ok result ∧
        fileNames Scanner.smallTree (joinedRequest "/" (.ofText "/") true paddedIncludes
          paddedExcludes) = .ok result.includedFiles ∧
        directoryNames Scanner.smallTree (joinedRequest "/" (.ofText "/") true paddedIncludes
          paddedExcludes) = .ok result.includedDirectories := by
  have hincludes : ∀ entry ∈ paddedIncludes, IsListEntry entry := by decide
  have hexcludes : ∀ entry ∈ paddedExcludes, IsListEntry entry := by decide
  obtain ⟨result, hresult⟩ := exists_find_padded
  obtain ⟨-, -, -, hlisting⟩ := commaLists_agree hincludes hexcludes
  obtain ⟨hfiles, hdirectories⟩ := hlisting Scanner.smallTree "/" (.ofText "/") true
  exact ⟨hincludes, hexcludes, result, hresult, by rw [hfiles, hresult, Except.map],
    by rw [hdirectories, hresult, Except.map]⟩

end TreeSift
