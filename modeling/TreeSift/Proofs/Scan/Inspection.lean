import TreeSift.Proofs.Scan.Links

/-! # Entries that cannot be examined

Examining an entry asks a host twice: what stands at the path itself, and what is there behind links
(`Host.inspect`). Errors of the second answer count as no, and so do those of the first that say that
nothing can be reached. Any other error of the first answer is passed on
(`Host.answersInspection`), and it ends a scan. On a file tree that happens to entries with a path
text that is too long, and to no others (`Scanner.too_long_of_outcome`). -/

namespace TreeSift

/-! ## What a host answers -/

/-- **What a host answers about paths**: `status` gives what stands at a path text, behind links or
itself, or the number of an error. It may be any errno at all, such as one of missing rights. -/
structure Host where
  /-- The answer; links at the end of the path are followed if the first argument holds. -/
  status : Bool → String → Except Errno Entry

/-- A file tree as a `Host`: it looks up the text and answers with its own error numbers. -/
def FileTree.host (tree : FileTree) : Host where
  status followLast text := (tree.lookup followLast text).map Prod.snd

namespace Host

open FileTree (hasNul)

/-- Answers whether `test` holds of what stands at `path`, and passes on an error that is not one of
`isUnreachable`. -/
def query (host : Host) (followLast : Bool) (path : Path) (test : Entry → Bool) :
    Except FileError Bool :=
  if hasNul path.text then .ok false
  else
    match host.status followLast path.text with
    | .ok entry => .ok (test entry)
    | .error errno =>
      if errno.isUnreachable then .ok false else .error (.system errno (.text path.text))

/-- Classifies the entry at `path`: first `query` for a link, whose error is passed on, and then for
a directory, whose error counts as a no. -/
def inspect (host : Host) (path : Path) : Except FileError EntryInfo := do
  let isLink ← host.query false path Entry.isLink
  let isDirectory :=
    match host.query true path Entry.isDirectory with
    | .ok answer => answer
    | .error _ => false
  return { path, isLink, isDirectory }

/-- **When a host can say whether a path is a link**: nothing is asked, something stands there, or
the error satisfies `isUnreachable`. -/
def KnowsLink (host : Host) (path : Path) : Prop :=
  hasNul path.text = true ∨ (∃ entry, host.status false path.text = .ok entry) ∨
    ∃ errno, host.status false path.text = .error errno ∧ errno.isUnreachable = true

/-- **What comes of examining a path**: a result exactly if the host `KnowsLink`, what it says of
links and directories, and else the error of the first question. -/
structure AnswersInspection (host : Host) (path : Path) : Prop where
  /-- There is an answer exactly if the host can say whether the path is a link. -/
  exists_iff : (∃ info, host.inspect path = .ok info) ↔ host.KnowsLink path
  /-- The answer is about the path. -/
  path_eq : ∀ info, host.inspect path = .ok info → info.path = path
  /-- It is a link if one stands there. -/
  isLink_iff : ∀ info, host.inspect path = .ok info →
    (info.isLink = true ↔ hasNul path.text = false ∧
      ∃ entry, host.status false path.text = .ok entry ∧ entry.isLink = true)
  /-- It is a directory if one is found behind links, and not if nothing or no answer is. -/
  isDirectory_iff : ∀ info, host.inspect path = .ok info →
    (info.isDirectory = true ↔ hasNul path.text = false ∧
      ∃ entry, host.status true path.text = .ok entry ∧ entry.isDirectory = true)
  /-- What is passed on is an error about the path itself. -/
  error_eq : ∀ error, host.inspect path = .error error →
    ∃ errno, host.status false path.text = .error errno ∧ errno.isUnreachable = false ∧
      error = .system errno (.text path.text)

variable {host : Host} {path : Path} {followLast : Bool} {test : Entry → Bool}

/-- The answer of `query` is yes exactly if `test` holds of what stands there. -/
theorem query_eq_true_iff :
    host.query followLast path test = .ok true ↔
      hasNul path.text = false ∧
        ∃ entry, host.status followLast path.text = .ok entry ∧ test entry = true := by
  rw [query]
  by_cases hnul : hasNul path.text = true
  · simp [hnul]
  · rw [if_neg hnul]
    cases hstatus : host.status followLast path.text with
    | ok entry => simp [hnul]
    | error errno => by_cases hunreachable : errno.isUnreachable = true <;> simp [hunreachable]

/-- A `query` is answered unless its error says more than `isUnreachable`. -/
theorem exists_query_eq_ok_iff :
    (∃ answer, host.query followLast path test = .ok answer) ↔
      hasNul path.text = true ∨ (∃ entry, host.status followLast path.text = .ok entry) ∨
        ∃ errno, host.status followLast path.text = .error errno ∧ errno.isUnreachable = true := by
  rw [query]
  by_cases hnul : hasNul path.text = true
  · simp [hnul]
  · rw [if_neg hnul]
    cases hstatus : host.status followLast path.text with
    | ok entry => simp
    | error errno => by_cases hunreachable : errno.isUnreachable = true <;> simp [hunreachable, hnul]

/-- An error of `query` is that of `status`, with the path as its text, and does not satisfy
`isUnreachable`. -/
theorem of_query_eq_error {error : FileError} (h : host.query followLast path test = .error error) :
    ∃ errno, host.status followLast path.text = .error errno ∧ errno.isUnreachable = false ∧
      error = .system errno (.text path.text) := by
  rw [query] at h
  by_cases hnul : hasNul path.text = true
  · rw [if_pos hnul] at h
    cases h
  · rw [if_neg hnul] at h
    cases hstatus : host.status followLast path.text with
    | ok entry =>
        rw [hstatus] at h
        cases h
    | error errno =>
        rw [hstatus] at h
        by_cases hunreachable : errno.isUnreachable = true
        · simp [hunreachable] at h
        · simp only [if_neg hunreachable, Except.error.injEq] at h
          exact ⟨errno, rfl, by simpa using hunreachable, h.symm⟩

/-- The second question does not fail an `inspect`: its error makes the entry no directory. -/
theorem exists_inspect_eq_ok {isLink : Bool}
    (hlink : host.query false path Entry.isLink = .ok isLink) :
    ∃ isDirectory, host.inspect path = .ok ⟨path, isLink, isDirectory⟩ ∧
      (isDirectory = true ↔ host.query true path Entry.isDirectory = .ok true) := by
  rw [inspect, hlink]
  cases host.query true path Entry.isDirectory with
  | error error => exact ⟨false, rfl, by simp⟩
  | ok answer => exact ⟨answer, rfl, by simp⟩

/-- **Examining a path fails only if the host cannot say whether it is a link**: every host
`AnswersInspection`, whatever its errors are. -/
theorem answersInspection (host : Host) (path : Path) : host.AnswersInspection path := by
  cases hlink : host.query false path Entry.isLink with
  | error error =>
      have hinspect : host.inspect path = .error error := by
        rw [inspect, hlink]
        rfl
      have hunknown : ¬host.KnowsLink path := fun h => by
        obtain ⟨answer, hanswer⟩ := exists_query_eq_ok_iff.2 h
        rw [hlink] at hanswer
        cases hanswer
      refine ⟨iff_of_false ?_ hunknown, ?_, ?_, ?_, ?_⟩
      · simp [hinspect]
      · simp [hinspect]
      · simp [hinspect]
      · simp [hinspect]
      · intro other hother
        rw [hinspect] at hother
        cases hother
        exact of_query_eq_error hlink
  | ok isLink =>
      obtain ⟨isDirectory, hinspect, hdirectory⟩ := exists_inspect_eq_ok hlink
      have hknown : host.KnowsLink path := exists_query_eq_ok_iff.1 ⟨isLink, hlink⟩
      -- there is one answer, so what is said of all is said of it
      have hinfo (P : EntryInfo → Prop) (h : P ⟨path, isLink, isDirectory⟩) :
          ∀ info, host.inspect path = .ok info → P info := by
        intro info hinfo
        rw [hinspect] at hinfo
        cases hinfo
        exact h
      refine ⟨iff_of_true ⟨_, hinspect⟩ hknown, hinfo _ rfl, hinfo _ ?_, hinfo _ ?_, ?_⟩
      · rw [← query_eq_true_iff, hlink]
        simp
      · rw [← query_eq_true_iff]
        exact hdirectory
      · simp [hinspect]

end Host

/-- **An entry of a file tree is examined as on a host**: `FileTree.inspect` is `Host.inspect` of
`tree.host`. -/
theorem FileTree.inspect_host (tree : FileTree) (path : Path) :
    tree.host.inspect path = tree.inspect path := by
  have hquery (followLast : Bool) (test : Entry → Bool) :
      tree.host.query followLast path test = tree.query followLast path test := by
    simp only [Host.query, query, host]
    cases tree.lookup followLast path.text <;> rfl
  rw [Host.inspect, inspect, hquery, hquery]
  rfl

/-! ## Entries that end a scan -/

namespace ScanPlan

variable {plan : ScanPlan} {tree : FileTree}

/-- An entry that ends `collect` as `.unreadable` is one of `paths`, and `inspect` fails on it. -/
theorem exists_inspect_of_collect {paths : List RelativePath} {error : FileError}
    (h : plan.collect tree paths = .error (.unreadable error)) :
    ∃ path ∈ paths, tree.inspect (plan.place path) = .error error := by
  induction paths with
  | nil => cases h
  | cons path paths ih =>
      rw [collect, examine] at h
      cases hlook : plan.look tree path with
      | error halt =>
          rw [hlook] at h
          cases h
          refine ⟨path, List.mem_cons_self, ?_⟩
          -- the patterns fail with errors of their own
          rw [look] at hlook
          split at hlook
          · next hinfo =>
            cases hlook
            exact hinfo
          · split at hlook
            · cases hlook
            · split at hlook
              · split at hlook <;> cases hlook
              · cases hlook
      | ok looked =>
          rw [hlook] at h
          cases hcollect : plan.collect tree paths with
          | error halt =>
              rw [hcollect] at h
              cases h
              obtain ⟨other, hother, hinspect⟩ := ih hcollect
              exact ⟨other, List.mem_cons_of_mem path hother, hinspect⟩
          | ok found =>
              rw [hcollect] at h
              cases h

/-- An entry that ends `survey` as `.unreadable` is one that it visits, and `inspect` fails on it.
-/
theorem exists_inspect_of_survey {error : FileError}
    (h : plan.survey tree = .error (.unreadable error)) :
    ∃ path ∈ plan.visited tree, tree.inspect (plan.place path) = .error error := by
  rw [survey, ← visited] at h
  cases hclass : plan.settings.classify "" with
  | error crossed =>
      rw [hclass] at h
      cases h
  | ok classification =>
      rw [hclass] at h
      cases hcollect : plan.collect tree (plan.visited tree) with
      | error halt =>
          rw [hcollect] at h
          cases h
          exact exists_inspect_of_collect hcollect
      | ok found =>
          rw [hcollect] at h
          cases h

/-- **An entry that is visited and cannot be examined has a path text that is too long**: it has
more than `maxPathBytes`, and the error is `nameTooLong`. -/
theorem too_long_of_inspect (hbase : plan.base.IsNormal) {path : RelativePath} {error : FileError}
    (hvisited : path ∈ plan.visited tree) (h : tree.inspect (plan.place path) = .error error) :
    maxPathBytes < (plan.place path).text.utf8ByteSize ∧
      error = .system Errno.nameTooLong (.text (plan.place path).text) := by
  obtain ⟨hne, hreach⟩ := mem_descendants_iff.1 hvisited
  obtain ⟨name, parent, rfl⟩ := List.exists_cons_of_ne_nil hne
  obtain ⟨-, ⟨names, hlist, hname⟩, -⟩ := reachesBy_cons.1 hreach
  have hnormal : (plan.place parent).IsNormal := isNormal_below hbase parent
  have hsize : ¬(plan.place (name :: parent)).text.utf8ByteSize ≤ maxPathBytes := fun hsize => by
    obtain ⟨info, hinfo⟩ := (FileTree.inspect_isOk_iff hnormal hlist hname).2 hsize
    rw [place, RelativePath.below] at h
    rw [place, h] at hinfo
    cases hinfo
  have herror : tree.inspect (plan.place (name :: parent)) =
      .error (.system Errno.nameTooLong (.text (plan.place (name :: parent)).text)) :=
    FileTree.inspect_child_eq_error hnormal (FileTree.list_eq_ok_iff.1 hlist).1 hsize
  rw [h] at herror
  cases herror
  exact ⟨Nat.lt_of_not_le hsize, rfl⟩

end ScanPlan

namespace Scanner

variable {settings : ScanSettings} {prune : Bool} {tree : FileTree} {text : String}

/-- A scan that fails as `.unreadable` has come to an entry whose path text has more than
`maxPathBytes`. -/
theorem too_long_of_outcome (hbase : settings.basedir = some (.ofText text))
    (hcheck : checkBasedir tree settings.basedir = none) {error : FileError}
    (houtcome : outcome settings prune tree = .error (.unreadable error)) :
    ∃ path ∈ (planFrom settings prune (.ofText text)).visited tree,
      maxPathBytes < ((planFrom settings prune (.ofText text)).place path).text.utf8ByteSize ∧
        error = .system Errno.nameTooLong
          (.text ((planFrom settings prune (.ofText text)).place path).text) := by
  rw [hbase] at hcheck
  cases hsurvey : (planFrom settings prune (.ofText text)).survey tree with
  | ok found =>
      rw [outcome_eq_ok hbase hcheck hsurvey] at houtcome
      cases houtcome
  | error halt =>
      obtain ⟨failure, hfailure, hsame⟩ := outcome_eq_error hbase hcheck hsurvey
      rw [hfailure] at houtcome
      cases houtcome
      obtain rfl := (hsame error).1 rfl
      obtain ⟨path, hvisited, hinspect⟩ := ScanPlan.exists_inspect_of_survey hsurvey
      exact ⟨path, hvisited,
        ScanPlan.too_long_of_inspect (Path.isNormal_ofText text) hvisited hinspect⟩

/-- **What errors about entries come to**: each host `AnswersInspection`, and a scan of `tree` has a
result unless it comes to what cannot be examined. -/
structure Examines (settings : ScanSettings) (prune : Bool) (text : String) (tree : FileTree) :
    Prop where
  /-- On every host, an inspection fails only if the host cannot say whether a path is a link. -/
  answersInspection : ∀ (host : Host) (path : Path), host.AnswersInspection path
  /-- Entries of the file tree are examined as on a host. -/
  inspect_host : ∀ path, tree.host.inspect path = tree.inspect path
  /-- A scan has a result exactly if everything reachable can be examined. -/
  exists_result_iff : (∃ result, outcome settings prune tree = .ok result) ↔
    ∀ path, (planFrom settings prune (.ofText text)).Reachable tree path →
      (planFrom settings prune (.ofText text)).Examinable tree path
  /-- No error about an entry ends it, but where it comes to a path text that is too long. -/
  too_long : ∀ error, outcome settings prune tree = .error (.unreadable error) →
    ∃ path ∈ (planFrom settings prune (.ofText text)).visited tree,
      maxPathBytes < ((planFrom settings prune (.ofText text)).place path).text.utf8ByteSize ∧
        error = .system Errno.nameTooLong
          (.text ((planFrom settings prune (.ofText text)).place path).text)

/-- **Errors about entries are answers**, but for one: that it cannot be said of a path whether it
is a link. Every scan from a directory `Examines`. -/
theorem examines (hbase : settings.basedir = some (.ofText text))
    (hcheck : checkBasedir tree settings.basedir = none) : Examines settings prune text tree where
  answersInspection := Host.answersInspection
  inspect_host := tree.inspect_host
  exists_result_iff := exists_outcome_eq_ok_iff hbase hcheck
  too_long _ := too_long_of_outcome hbase hcheck

/-- A scan of `smallTree` from the root `Examines` its entries. -/
theorem examines_smallTree :
    checkBasedir smallTree rootSettings.basedir = none ∧ Examines rootSettings true "/" smallTree := by
  have hcheck : checkBasedir smallTree rootSettings.basedir = none := by decide +kernel
  exact ⟨hcheck, examines rfl hcheck⟩

/-- **An error escapes an inspection and ends a scan**: on `wideTree` the text of a path behind 15
links is too long. -/
theorem not_exists_inspect_wideTree :
    checkBasedir LoopedTree.wideTree wideSettings.basedir = none ∧
      (¬∃ info, LoopedTree.wideTree.inspect (NestedTree.placeOf LoopedTree.wideName 16) = .ok info) ∧
      ¬∃ result, outcome wideSettings true LoopedTree.wideTree = .ok result := by
  have hcheck : checkBasedir LoopedTree.wideTree wideSettings.basedir = none :=
    checkBasedir_eq_none_iff.2 LoopedTree.isDirectory_wideTree
  refine ⟨hcheck, ?_, not_exists_outcome_wideTree rfl rfl rfl rfl (.inr rfl)⟩
  have hsize : ¬(NestedTree.placeOf LoopedTree.wideName 16).text.utf8ByteSize ≤ maxPathBytes := by
    rw [NestedTree.utf8ByteSize_text_placeOf, LoopedTree.utf8ByteSize_wideName, maxPathBytes]
    decide
  have herror : LoopedTree.wideTree.inspect (NestedTree.placeOf LoopedTree.wideName 16) =
      .error (.system Errno.nameTooLong (.text (NestedTree.placeOf LoopedTree.wideName 16).text)) :=
    FileTree.inspect_child_eq_error
      (ScanPlan.isNormal_below (Path.isNormal_ofText LoopedTree.wideName.text) _)
      (NestedTree.hasNul_text_placeOf LoopedTree.wideName 15) hsize
  rintro ⟨info, hinfo⟩
  rw [herror] at hinfo
  cases hinfo

end Scanner

end TreeSift
