import TreeSift.Proofs.Scan.RelativePath
import TreeSift.Scan.Scanner

/-! # Scans without a conductor

Without a conductor nothing changes the file tree, and a walk adds to its tally what a plain function
of the tree computes: `ScanPlan.survey` looks at one entry after the other, a directory before its
contents (`ScanPlan.descendants`), and puts together what it finds. `outcome_eq_ok` says that
this is the outcome of a scan. -/

namespace TreeSift

/-! ## Tallies one after the other -/

namespace Tally

/-- What was found `first`, and then what was found `later`: the lists of both appended. -/
def append (first later : Tally) : Tally where
  records := first.records ++ later.records
  notFollowed := first.notFollowed ++ later.notFollowed
  warnings := first.warnings ++ later.warnings

instance : Append Tally :=
  ⟨append⟩

variable (first later last : Tally)

@[simp] theorem records_append : (first ++ later).records = first.records ++ later.records := rfl

@[simp] theorem notFollowed_append :
    (first ++ later).notFollowed = first.notFollowed ++ later.notFollowed := rfl

@[simp] theorem warnings_append : (first ++ later).warnings = first.warnings ++ later.warnings := rfl

@[simp] theorem empty_append : ({} : Tally) ++ first = first := rfl

@[simp] theorem append_empty : first ++ ({} : Tally) = first :=
  (Tally.mk.injEq ..).mpr
    ⟨List.append_nil _, List.append_nil _, List.append_nil _⟩

/-- Tallies are put together part by part: `++` appends each of the three lists. -/
theorem mk_append_mk (records records' : List ScanRecord) (notFollowed notFollowed' : List String)
    (warnings warnings' : List ScanWarning) :
    (⟨records, notFollowed, warnings⟩ ++ ⟨records', notFollowed', warnings'⟩ : Tally) =
      ⟨records ++ records', notFollowed ++ notFollowed', warnings ++ warnings'⟩ := rfl

/-- The `records` come at the end of a tally. -/
theorem append_records (tally : Tally) (records : List ScanRecord) :
    tally ++ ({ records } : Tally) = { tally with records := tally.records ++ records } :=
  (Tally.mk.injEq ..).mpr ⟨rfl, List.append_nil _, List.append_nil _⟩

/-- The paths in `notFollowed` come at the end of a tally. -/
theorem append_notFollowed (tally : Tally) (notFollowed : List String) :
    tally ++ ({ notFollowed } : Tally) =
      { tally with notFollowed := tally.notFollowed ++ notFollowed } :=
  (Tally.mk.injEq ..).mpr ⟨List.append_nil _, rfl, List.append_nil _⟩

/-- The `warnings` come at the end of a tally. -/
theorem append_warnings (tally : Tally) (warnings : List ScanWarning) :
    tally ++ ({ warnings } : Tally) = { tally with warnings := tally.warnings ++ warnings } :=
  (Tally.mk.injEq ..).mpr ⟨List.append_nil _, List.append_nil _, rfl⟩

/-- It does not matter which of three tallies are put together first: `++` is associative. -/
theorem append_assoc : first ++ later ++ last = first ++ (later ++ last) :=
  (Tally.mk.injEq ..).mpr
    ⟨List.append_assoc .., List.append_assoc .., List.append_assoc ..⟩

end Tally

/-! ## Looking at entries -/

namespace ScanPlan

/-- Where the entry at `path` lies on the file tree: below the base of the plan. -/
def place (plan : ScanPlan) (path : RelativePath) : Path :=
  RelativePath.below plan.base path

/-- The warning about the directory at `path` if it cannot be listed, and else none. -/
def listingWarnings (plan : ScanPlan) (tree : FileTree) (path : RelativePath) : List ScanWarning :=
  match tree.list (plan.place path) with
  | .ok _ => []
  | .error error => [⟨RelativePath.text path, Walk.listingWarning (plan.place path) error⟩]

/-- The entries of the directory at `path`, in the order of their names, and none if it cannot be
listed. -/
def entriesOf (plan : ScanPlan) (tree : FileTree) (path : RelativePath) : List RelativePath :=
  match tree.list (plan.place path) with
  | .ok names => names.map (· :: path)
  | .error _ => []

/-- What is noted about the entry at `path`, and whether it is a directory that is entered. -/
def look (plan : ScanPlan) (tree : FileTree) (path : RelativePath) : Except Halt (Tally × Bool) :=
  match tree.inspect (plan.place path) with
  | .error error => .error (.unreadable error)
  | .ok info =>
    match plan.settings.classify (RelativePath.text path) with
    | .error error => .error (.undecided error)
    | .ok classification =>
      let record : ScanRecord := ⟨info.isDirectory, RelativePath.text path, classification⟩
      if info.isDirectory then
        match Walk.enters plan path info.isLink classification with
        | .error error => .error (.undecided error)
        | .ok entered =>
          let notFollowed :=
            if info.isLink && !plan.settings.followLinks then [RelativePath.text path] else []
          .ok ({ records := [record], notFollowed }, entered)
      else .ok ({ records := [record] }, false)

/-- The entry at `path` is a directory that is entered: `look` says so. -/
def entersAt (plan : ScanPlan) (tree : FileTree) (path : RelativePath) : Bool :=
  match plan.look tree path with
  | .ok (_, entered) => entered
  | .error _ => false

/-- **What an entry adds to the tally**: what `look` notes of it, and the `listingWarnings` if it is
entered in vain. -/
def examine (plan : ScanPlan) (tree : FileTree) (path : RelativePath) : Except Halt Tally := do
  let (noted, entered) ← plan.look tree path
  return noted ++ { warnings := if entered then plan.listingWarnings tree path else [] }

/-- What `paths` add to the tally, one after the other; the first one that cannot be examined ends
it. -/
def collect (plan : ScanPlan) (tree : FileTree) : List RelativePath → Except Halt Tally
  | [] => .ok {}
  | path :: paths => do
    let found ← plan.examine tree path
    return found ++ (← collect plan tree paths)

/-- **The entries below a directory** down to a depth, each before its contents, which are there if
`entersAt` holds of it. -/
def descendants (plan : ScanPlan) (tree : FileTree) : Nat → RelativePath → List RelativePath
  | 0, _ => []
  | depth + 1, path =>
    (plan.entriesOf tree path).flatMap fun child =>
      child :: if plan.entersAt tree child then descendants plan tree depth child else []

/-- **What a scan finds**: the record of the base directory, and what is collected from its
`descendants`. -/
def survey (plan : ScanPlan) (tree : FileTree) : Except Halt Tally := do
  let classification ← (plan.settings.classify "").mapError .undecided
  let found ← plan.collect tree (plan.descendants tree Walk.walkBudget [])
  return { records := [⟨true, "", classification⟩], warnings := plan.listingWarnings tree [] } ++ found

/-- What the directory at `path` holds down to a depth, with the warning if it cannot be listed. -/
def hold (plan : ScanPlan) (tree : FileTree) (depth : Nat) (path : RelativePath) :
    Except Halt Tally := do
  let found ← plan.collect tree (plan.descendants tree depth path)
  return { warnings := plan.listingWarnings tree path } ++ found

variable {plan : ScanPlan} {tree : FileTree}

/-- Two runs of entries, one after the other: `collect` turns `++` of lists into `++` of tallies. -/
theorem collect_append (first later : List RelativePath) :
    plan.collect tree (first ++ later) = (do
      let found ← plan.collect tree first
      return found ++ (← plan.collect tree later)) := by
  induction first with
  | nil =>
      cases h : plan.collect tree later <;> simp [collect, bind, Except.bind, pure, Except.pure, h]
  | cons path paths ih =>
      rw [List.cons_append, collect, ih, collect]
      cases plan.examine tree path with
      | error => rfl
      | ok found =>
          cases plan.collect tree paths with
          | error => rfl
          | ok others =>
              cases plan.collect tree later with
              | error => rfl
              | ok last => exact congrArg Except.ok (Tally.append_assoc ..).symm

/-- What `inspect` counts as a directory is what `isDirectory` says yes to. -/
theorem isDirectory_inspect {place : Path} {info : EntryInfo} (h : tree.inspect place = .ok info) :
    info.isDirectory = true ↔ tree.isDirectory place = .ok true := by
  rw [FileTree.inspect] at h
  cases hlink : tree.isLink place with
  | error error => simp [hlink, bind, Except.bind] at h
  | ok isLink =>
      cases hdirectory : tree.isDirectory place <;>
        simp [hlink, hdirectory, bind, Except.bind, pure, Except.pure] at h <;> subst h <;> simp

/-- What `inspect` says of a link is what `isLink` answers. -/
theorem isLink_inspect {place : Path} {info : EntryInfo} (h : tree.inspect place = .ok info) :
    tree.isLink place = .ok info.isLink := by
  rw [FileTree.inspect] at h
  cases hlink : tree.isLink place with
  | error error => simp [hlink, bind, Except.bind] at h
  | ok isLink =>
      simp only [hlink, bind, Except.bind, pure, Except.pure, Except.ok.injEq] at h
      rw [← h]

/-- Only directories are entered: `entersAt` holds of nothing else. -/
theorem isDirectory_of_entersAt {path : RelativePath} (h : plan.entersAt tree path = true) :
    tree.isDirectory (plan.place path) = .ok true := by
  rw [entersAt, look] at h
  cases hinfo : tree.inspect (plan.place path) with
  | error error => simp [hinfo] at h
  | ok info =>
      refine (isDirectory_inspect hinfo).1 ?_
      cases hdirectory : info.isDirectory with
      | true => rfl
      | false =>
          rw [hinfo] at h
          cases hclass : plan.settings.classify (RelativePath.text path) <;>
            simp [hclass, hdirectory] at h

/-- What `look` notes about an entry and what the entry holds are what it and all below it add. -/
theorem collect_visited (depth : Nat) (child : RelativePath) :
    plan.collect tree
        (child :: if plan.entersAt tree child then plan.descendants tree depth child else []) =
      (do
        let (noted, entered) ← plan.look tree child
        return noted ++ (← bif entered then plan.hold tree depth child else .ok {})) := by
  rw [collect, examine, entersAt]
  cases plan.look tree child with
  | error => rfl
  | ok looked =>
      obtain ⟨noted, entered⟩ := looked
      -- what lies below comes after the warning of the directory itself
      cases entered with
      | false =>
          show Except.ok (noted ++ ({} : Tally) ++ ({} : Tally)) = Except.ok (noted ++ ({} : Tally))
          rw [Tally.append_empty]
      | true =>
          simp only [hold, if_true]
          cases plan.collect tree (plan.descendants tree depth child) with
          | error => rfl
          | ok found => exact congrArg Except.ok (Tally.append_assoc ..)

end ScanPlan

/-! ## Walks add what is collected -/

namespace Walk

/-- **A walk adds to the tally** what `outcome` says, and leaves the tree as it is, or it ends with
the halt of `outcome`. -/
structure Adds (tree : FileTree) (walk : Walk Unit) (outcome : Except Halt Tally) : Prop where
  /-- What is found comes at the end of the tally. -/
  run_eq : ∀ found, outcome = .ok found → ∀ state : WalkState, state.tree = tree →
    walk.run state = (.ok (), { state with tally := state.tally ++ found })
  /-- What ends the outcome ends the walk. -/
  run_halts : ∀ halt, outcome = .error halt → ∀ state : WalkState, state.tree = tree →
    ∃ reached, walk.run state = (.error halt, reached)

variable {plan : ScanPlan} {tree : FileTree}

/-- A walk that goes on with another one runs this from the state where it has got to, or has
halted: `>>=` written out. -/
theorem run_bind {α β : Type} (first : Walk α) (next : α → Walk β) (state : WalkState) :
    (first >>= next).run state =
      match first.run state with
      | (.ok value, reached) => (next value).run reached
      | (.error halt, reached) => (.error halt, reached) := by
  cases hrun : first.run state with
  | mk outcome reached =>
      have hbind : (first >>= next).run state =
          (ExceptT.bindCont next (first.run state).1) (first.run state).2 := rfl
      rw [hbind, hrun]
      cases outcome <;> rfl

@[simp] theorem run_pure {α : Type} (value : α) (state : WalkState) :
    (pure value : Walk α).run state = (.ok value, state) := rfl

@[simp] theorem run_throw {α : Type} (halt : Halt) (state : WalkState) :
    (throw halt : Walk α).run state = (.error halt, state) := rfl

@[simp] theorem run_get (state : WalkState) : (get : Walk WalkState).run state = (.ok state, state) :=
  rfl

@[simp] theorem run_modify (change : WalkState → WalkState) (state : WalkState) :
    (modify change : Walk Unit).run state = (.ok (), change state) := rfl

/-- A walk that does nothing adds the empty tally. -/
theorem adds_pure : Adds tree (pure ()) (.ok {}) where
  run_eq found hfound state _ := by
    cases hfound
    rw [run_pure, Tally.append_empty]
  run_halts _ hhalt := by cases hhalt

/-- The walk that adds the tally `noted`, and does nothing else. -/
def note (noted : Tally) : Walk Unit :=
  modify fun state => { state with tally := state.tally ++ noted }

/-- The walk `note noted` adds `noted`. -/
theorem adds_note (noted : Tally) : Adds tree (note noted) (.ok noted) where
  run_eq found hfound state _ := by
    cases hfound
    rfl
  run_halts _ hhalt := by cases hhalt

/-- Walks that run alike on `tree` add the same. -/
theorem Adds.congr {walk other : Walk Unit} {outcome : Except Halt Tally}
    (hadds : Adds tree walk outcome)
    (hrun : ∀ state : WalkState, state.tree = tree → other.run state = walk.run state) :
    Adds tree other outcome where
  run_eq found hfound state htree := by
    rw [hrun state htree, hadds.run_eq found hfound state htree]
  run_halts halt hhalt state htree := by
    rw [hrun state htree]
    exact hadds.run_halts halt hhalt state htree

/-- A walk that always halts on `tree` adds what the error of its `halt` does. -/
theorem adds_error {walk : Walk Unit} {halt : Halt}
    (hrun : ∀ state : WalkState, state.tree = tree →
      ∃ reached, walk.run state = (.error halt, reached)) :
    Adds tree walk (.error halt) where
  run_eq _ hfound := by cases hfound
  run_halts _ hhalt state htree := by
    cases hhalt
    exact hrun state htree

/-- One walk after another adds first what the one adds, then what the other adds: `Adds` is kept by
`do first; later`. -/
theorem Adds.andThen {first later : Walk Unit} {found others : Except Halt Tally}
    (hfirst : Adds tree first found) (hlater : Adds tree later others) :
    Adds tree (do first; later) (do
      let found ← found
      return found ++ (← others)) := by
  -- if the first walk halts, the second one does not start
  cases found with
  | error halt =>
      refine ⟨fun _ h => (nomatch h), fun other h state htree => ?_⟩
      obtain ⟨reached, hrun⟩ := hfirst.run_halts halt rfl state htree
      cases h
      exact ⟨reached, by rw [run_bind, hrun]⟩
  | ok found =>
      have hboth (state : WalkState) (htree : state.tree = tree) :
          (first >>= fun _ => later).run state =
            later.run { state with tally := state.tally ++ found } := by
        rw [run_bind, hfirst.run_eq found rfl state htree]
      cases others with
      | error halt =>
          refine ⟨fun _ h => (nomatch h), fun other h state htree => ?_⟩
          cases h
          rw [hboth state htree]
          exact hlater.run_halts halt rfl _ htree
      | ok others =>
          refine ⟨fun both h state htree => ?_, fun _ h => (nomatch h)⟩
          cases h
          have hrun := hlater.run_eq others rfl { state with tally := state.tally ++ found } htree
          rw [hboth state htree, hrun, Tally.append_assoc]

/-- An answer of the patterns is handed on, or ends the walk as `.undecided`. -/
theorem run_ofAnswer {α : Type} (answer : Except CrossedGroup α) (state : WalkState) :
    (ofAnswer answer).run state =
      match answer with
      | .ok value => (.ok value, state)
      | .error error => (.error (.undecided error), state) := by
  cases answer <;> rfl

/-- An entry is noted with the class that `classify` finds, or the walk ends where the patterns fail
to say it. -/
theorem run_record (plan : ScanPlan) (isDirectory : Bool) (path : RelativePath) (state : WalkState) :
    (record plan isDirectory path).run state =
      match plan.settings.classify (RelativePath.text path) with
      | .ok classification =>
        (.ok classification, { state with tally := state.tally ++
          { records := [⟨isDirectory, RelativePath.text path, classification⟩] } })
      | .error error => (.error (.undecided error), state) := by
  simp only [record, run_bind, run_ofAnswer]
  cases plan.settings.classify (RelativePath.text path) with
  | error => rfl
  | ok =>
      simp only [run_modify, run_pure, Tally.append_records]

/-- A directory behind a link is noted in `notFollowed`. -/
theorem run_skipLink (path : RelativePath) (state : WalkState) :
    (skipLink path).run state =
      (.ok (), { state with tally := state.tally ++
        { notFollowed := [RelativePath.text path] } }) := by
  simp only [skipLink, run_modify, Tally.append_notFollowed]

/-- A directory that cannot be listed leaves a warning with the text of its error. -/
theorem run_warn (path : RelativePath) (place : Path) (error : FileError) (state : WalkState) :
    (warn path place error).run state =
      (.ok (), { state with tally := state.tally ++
        { warnings := [⟨RelativePath.text path, listingWarning place error⟩] } }) := by
  simp only [warn, run_modify, Tally.append_warnings]

/-- A directory is noted by `record`, and then entered by `descend` if `enters` says so. -/
theorem run_directory (descend : RelativePath → Walk Unit) (info : EntryInfo) (path : RelativePath)
    (state : WalkState) :
    (directory descend plan info path).run state =
      match plan.settings.classify (RelativePath.text path) with
      | .error error => (.error (.undecided error), state)
      | .ok classification =>
        let noted : Tally :=
          { records := [⟨true, RelativePath.text path, classification⟩],
            notFollowed :=
              if info.isLink && !plan.settings.followLinks then [RelativePath.text path] else [] }
        let reached := { state with tally := state.tally ++ noted }
        match enters plan path info.isLink classification with
        | .error error => (.error (.undecided error), reached)
        | .ok entered => if entered then (descend path).run reached else (.ok (), reached) := by
  simp only [directory, run_bind, run_record]
  cases plan.settings.classify (RelativePath.text path) with
  | error => rfl
  | ok classification =>
      -- a link that is not followed is noted between the record and the entering
      by_cases hskip : (info.isLink && !plan.settings.followLinks) = true
      · simp only [if_pos hskip, run_bind, run_skipLink, run_ofAnswer, Tally.append_assoc]
        cases enters plan path info.isLink classification with
        | error => rfl
        | ok entered => cases entered <;> rfl
      · simp only [if_neg hskip, run_bind, run_ofAnswer]
        cases enters plan path info.isLink classification with
        | error => rfl
        | ok entered => cases entered <;> rfl

/-- What is done about an entry that `inspect` has examined: a file is noted, and a directory as
`directory` does. -/
def visit (descend : RelativePath → Walk Unit) (plan : ScanPlan) (info : EntryInfo)
    (path : RelativePath) : Walk Unit :=
  if info.isDirectory then directory descend plan info path
  else do let _ ← record plan false path

/-- An entry is noted, and entered if it is open, as `look` says: `visit` and `look` do the same. -/
theorem run_visit {descend : RelativePath → Walk Unit} {path : RelativePath} {info : EntryInfo}
    (hinfo : tree.inspect (plan.place path) = .ok info) (state : WalkState) :
    match plan.look tree path with
    | .ok (noted, entered) =>
      (visit descend plan info path).run state =
        (if entered then descend path else pure ()).run { state with tally := state.tally ++ noted }
    | .error halt =>
      ∃ tally, (visit descend plan info path).run state = (.error halt, { state with tally }) := by
  obtain ⟨place, isLink, isDirectory⟩ := info
  rw [ScanPlan.look, hinfo]
  cases hclass : plan.settings.classify (RelativePath.text path) with
  | error error =>
      refine ⟨state.tally, ?_⟩
      cases isDirectory with
      | false => simp only [visit, run_bind, run_record, hclass, if_false, Bool.false_eq_true]
      | true => simp only [visit, run_directory, hclass, if_true]
  | ok classification =>
      cases isDirectory with
      | false =>
          simp only [visit, run_bind, run_record, hclass, if_false, Bool.false_eq_true]
      | true =>
          simp only [visit, run_directory, hclass, if_true]
          cases enters plan path isLink classification with
          | error error => exact ⟨_, rfl⟩
          | ok entered => cases entered <;> rfl

/-- An entry adds what `look` notes about it and, if it is entered, what it holds. -/
theorem adds_visit {descend : RelativePath → Walk Unit} {info : EntryInfo} {path : RelativePath}
    {below : Except Halt Tally} (hinfo : tree.inspect (plan.place path) = .ok info)
    (hdescend : plan.entersAt tree path = true → Adds tree (descend path) below) :
    Adds tree (visit descend plan info path) (do
      let (noted, entered) ← plan.look tree path
      return noted ++ (← bif entered then below else .ok {})) := by
  have hrun := @run_visit plan tree descend path info hinfo
  cases hlook : plan.look tree path with
  | error halt =>
      refine adds_error fun state _ => ?_
      have hhalts := hrun state
      rw [hlook] at hhalts
      obtain ⟨tally, hhalts⟩ := hhalts
      exact ⟨_, hhalts⟩
  | ok looked =>
      obtain ⟨noted, entered⟩ := looked
      have hbelow : Adds tree (if entered then descend path else pure ())
          (bif entered then below else .ok {}) := by
        cases entered with
        | false => exact adds_pure
        | true => exact hdescend (by simp only [ScanPlan.entersAt, hlook])
      refine Adds.congr ((adds_note noted).andThen hbelow) fun state _ => ?_
      have hgoes := hrun state
      rw [hlook] at hgoes
      exact hgoes

/-- Without a conductor every entry is answered with `.proceed`. -/
theorem run_conduct (hconductor : plan.conductor? = none) (visit : Visit) (state : WalkState) :
    (conduct plan visit).run state = (.ok .proceed, state) := by
  simp only [conduct, hconductor]
  rfl

/-- A conductor is shown the visit, changes the file tree to that of its reaction, and lets the walk
go on or ends it. -/
theorem run_conduct_of_conductor {conductor : Conductor}
    (hconductor : plan.conductor? = some conductor) (visit : Visit) (state : WalkState) :
    (conduct plan visit).run state =
      let reaction := conductor.react state.visits visit state.tree
      let reached := { state with tree := reaction.tree, visits := state.visits ++ [visit] }
      match reaction.outcome with
      | .error raise => (.error (.raised raise), reached)
      | .ok .abort => (.error .aborted, reached)
      | .ok action => (.ok action, reached) := by
  simp only [conduct, hconductor]
  change (match (conductor.react state.visits visit state.tree).outcome with
    | .error raise => (throw (Halt.raised raise) : Walk ScanAction)
    | .ok .abort => throw Halt.aborted
    | .ok action => pure action).run _ = _
  cases (conductor.react state.visits visit state.tree).outcome with
  | error raise => rfl
  | ok action => cases action <;> rfl

/-- An entry is passed over if its kind is to be skipped: `contents` goes on with the later ones. -/
theorem run_contents_skip {state : WalkState} {descend : RelativePath → Walk Unit}
    {parent : RelativePath} {name : Name} {names : List Name} {info : EntryInfo}
    {skipFiles skipDirectories : Bool}
    (hinfo : state.tree.inspect (plan.place (name :: parent)) = .ok info)
    (hskip : (if info.isDirectory then skipDirectories else skipFiles) = true) :
    (contents descend plan parent (name :: names) skipFiles skipDirectories).run state =
      (contents descend plan parent names skipFiles skipDirectories).run state := by
  rw [ScanPlan.place] at hinfo
  simp only [contents, run_bind, run_get, hinfo]
  rw [if_pos hskip]

/-- An entry that is not passed over is shown, noted and perhaps entered before `contents` goes on
with the later ones. -/
theorem run_contents_visit {state : WalkState} {descend : RelativePath → Walk Unit}
    {parent : RelativePath} {name : Name} {names : List Name} {info : EntryInfo}
    {skipFiles skipDirectories : Bool}
    (hinfo : state.tree.inspect (plan.place (name :: parent)) = .ok info)
    (hskip : ¬(if info.isDirectory then skipDirectories else skipFiles) = true) :
    (contents descend plan parent (name :: names) skipFiles skipDirectories).run state =
      (do
        let action ← conduct plan ⟨info.isDirectory, RelativePath.text (name :: parent),
          plan.place (name :: parent)⟩
        visit descend plan info (name :: parent)
        contents descend plan parent names (skipFiles || action == ScanAction.noMoreFiles)
          (skipDirectories || action == ScanAction.noMoreDirectories)).run state := by
  rw [ScanPlan.place] at hinfo ⊢
  simp only [contents, run_bind, run_get, hinfo]
  rw [if_neg hskip]
  simp only [run_bind]
  cases (conduct plan ⟨info.isDirectory, RelativePath.text (name :: parent),
    RelativePath.below plan.base (name :: parent)⟩).run state with
  | mk outcome reached =>
      cases outcome with
      | error halt => rfl
      | ok action =>
          by_cases hdirectory : info.isDirectory = true
          · simp only [visit, if_pos hdirectory, run_bind]
          · simp only [visit, if_neg hdirectory, run_bind, run_record]
            cases plan.settings.classify (RelativePath.text (name :: parent)) <;> rfl

/-- Without a conductor the entries of a directory are visited one after the other: each by `visit`.
-/
theorem run_contents_cons (hconductor : plan.conductor? = none) {state : WalkState}
    {descend : RelativePath → Walk Unit} {parent : RelativePath} {name : Name} {names : List Name}
    {info : EntryInfo} (hinfo : state.tree.inspect (plan.place (name :: parent)) = .ok info) :
    (contents descend plan parent (name :: names) false false).run state =
      (do
        visit descend plan info (name :: parent)
        contents descend plan parent names false false).run state := by
  -- nothing is skipped, as no answer has asked for it
  rw [run_contents_visit hinfo (by cases info.isDirectory <;> simp), run_bind, run_conduct hconductor]
  rfl

/-- **The entries of a directory** add what they and all below them add, by induction on `names`. -/
theorem adds_contents (hconductor : plan.conductor? = none) {depth : Nat}
    {descend : RelativePath → Walk Unit} {parent : RelativePath} {names : List Name}
    (hdescend : ∀ name ∈ names, plan.entersAt tree (name :: parent) = true →
      Adds tree (descend (name :: parent)) (plan.hold tree depth (name :: parent))) :
    Adds tree (contents descend plan parent names false false)
      (plan.collect tree ((names.map (· :: parent)).flatMap fun child =>
        child :: if plan.entersAt tree child then plan.descendants tree depth child else [])) := by
  induction names with
  | nil => exact adds_pure
  | cons name names ih =>
      -- the first entry with all below it, and then the others
      rw [List.map_cons, List.flatMap_cons, ScanPlan.collect_append, ScanPlan.collect_visited]
      have hrest := ih fun other hother => hdescend other (List.mem_cons_of_mem name hother)
      cases hinfo : tree.inspect (plan.place (name :: parent)) with
      | error error =>
          have hlook : plan.look tree (name :: parent) = .error (.unreadable error) := by
            simp only [ScanPlan.look, hinfo]
          rw [hlook]
          refine adds_error fun state htree => ⟨state, ?_⟩
          rw [← htree, ScanPlan.place] at hinfo
          simp only [contents, run_bind, run_get, hinfo, run_throw]
      | ok info =>
          have hfirst := adds_visit hinfo (hdescend name List.mem_cons_self)
          exact (hfirst.andThen hrest).congr fun state htree =>
            run_contents_cons hconductor (htree ▸ hinfo)

/-- **A directory adds what it holds**, down to a depth that no directory below it exceeds, by
induction on the budget of `enter`. -/
theorem adds_enter (hconductor : plan.conductor? = none) (depth : Nat) {path : RelativePath}
    (hdirectory : tree.isDirectory (plan.place path) = .ok true)
    (hdepth : path.length + depth = walkBudget) :
    Adds tree (enter plan depth path) (plan.hold tree depth path) := by
  induction depth generalizing path with
  | zero =>
      -- no directory is as deep as the budget
      have hlength := length_lt_walkBudget hdirectory
      omega
  | succ depth ih =>
      rw [ScanPlan.hold, ScanPlan.descendants, ScanPlan.listingWarnings, ScanPlan.entriesOf]
      cases hlist : tree.list (plan.place path) with
      | error error =>
          refine Adds.congr ((adds_note _).andThen adds_pure) fun state htree => ?_
          rw [← htree, ScanPlan.place] at hlist
          simp only [enter, run_bind, run_get, hlist, run_warn]
          rfl
      | ok names =>
          have hdescend : ∀ name ∈ names, plan.entersAt tree (name :: path) = true →
              Adds tree (enter plan depth (name :: path)) (plan.hold tree depth (name :: path)) :=
            fun name _ henters => ih (ScanPlan.isDirectory_of_entersAt henters) (by simp; omega)
          have hnothing (outcome : Except Halt Tally) : (do
              let found ← outcome
              return ({ warnings := [] } : Tally) ++ found) = outcome := by
            cases outcome <;> rfl
          rw [hnothing]
          refine (adds_contents hconductor hdescend).congr fun state htree => ?_
          rw [← htree, ScanPlan.place] at hlist
          simp only [enter, run_bind, run_get, hlist]

/-- **A walk adds what a survey finds**: `root` without a conductor `Adds` the outcome of `survey`.
-/
theorem adds_root (plan : ScanPlan) (hconductor : plan.conductor? = none)
    (hdirectory : tree.isDirectory plan.base = .ok true) :
    Adds tree (root plan) (plan.survey tree) := by
  have henter : Adds tree (enter plan walkBudget []) (plan.hold tree walkBudget []) :=
    adds_enter hconductor _ hdirectory (by simp)
  cases hclass : plan.settings.classify "" with
  | error error =>
      have hsurvey : plan.survey tree = .error (.undecided error) := by
        rw [ScanPlan.survey, hclass]
        rfl
      rw [hsurvey]
      refine adds_error fun state htree => ⟨state, ?_⟩
      simp only [root, run_bind, run_conduct hconductor, run_record, RelativePath.text, hclass]
  | ok classification =>
      let noted : Tally := { records := [⟨true, "", classification⟩] }
      have hsurvey : plan.survey tree = (do
          let found ← .ok noted
          return found ++ (← plan.hold tree walkBudget [])) := by
        rw [ScanPlan.survey, hclass, ScanPlan.hold]
        cases plan.collect tree (plan.descendants tree walkBudget []) <;> rfl
      rw [hsurvey]
      refine Adds.congr ((adds_note noted).andThen henter) fun state htree => ?_
      subst htree
      simp only [root, run_bind, run_conduct hconductor, run_record, RelativePath.text,
        hclass]
      rfl

end Walk

/-! ## Scans have the outcome of a survey -/

namespace ScanPlan

variable {plan : ScanPlan} {tree : FileTree}

/-- Nothing but a conductor aborts a scan: `look` never ends as `.aborted`. -/
theorem look_ne_aborted (path : RelativePath) : plan.look tree path ≠ .error .aborted := by
  rw [look]
  cases tree.inspect (plan.place path) with
  | error error => simp
  | ok info =>
      cases plan.settings.classify (RelativePath.text path) with
      | error error => simp
      | ok classification =>
          cases hdirectory : info.isDirectory with
          | false => simp [hdirectory]
          | true =>
              cases henters : Walk.enters plan path info.isLink classification <;>
                simp [hdirectory, henters]

/-- No entry aborts a survey: `collect` never ends as `.aborted`. -/
theorem collect_ne_aborted (paths : List RelativePath) :
    plan.collect tree paths ≠ .error .aborted := by
  induction paths with
  | nil => exact fun h => nomatch h
  | cons path paths ih =>
      intro h
      rw [collect, examine] at h
      cases hlook : plan.look tree path with
      | error halt =>
          rw [hlook] at h
          cases h
          exact look_ne_aborted path hlook
      | ok looked =>
          rw [hlook] at h
          cases hcollect : plan.collect tree paths with
          | error halt =>
              rw [hcollect] at h
              exact ih (hcollect.trans h)
          | ok found =>
              rw [hcollect] at h
              exact nomatch h

/-- No survey is aborted: `survey` never ends as `.aborted`. -/
theorem survey_ne_aborted : plan.survey tree ≠ .error .aborted := by
  intro h
  rw [survey] at h
  cases hclass : plan.settings.classify "" with
  | error error =>
      rw [hclass] at h
      exact nomatch h
  | ok classification =>
      rw [hclass] at h
      cases hcollect : plan.collect tree (plan.descendants tree Walk.walkBudget []) with
      | error halt =>
          rw [hcollect] at h
          exact collect_ne_aborted _ (hcollect.trans h)
      | ok found =>
          rw [hcollect] at h
          exact nomatch h

end ScanPlan

namespace Scanner

variable {settings : ScanSettings} {prune : Bool} {tree : FileTree} {base : Path}

/-- What a scan without a conductor tells its caller: the answer of `scan`. -/
def outcome (settings : ScanSettings) (prune : Bool) (tree : FileTree) :
    Except ScanFailure ScanResult :=
  ((ofSettings settings none prune).scan tree).1

/-- The plan of a scan without a conductor from `base`. -/
def planFrom (settings : ScanSettings) (prune : Bool) (base : Path) : ScanPlan :=
  (ofSettings settings none prune).plan base

/-- **The base directories that can be used** are the directories: `checkBasedir` finds no problem
with them. -/
theorem checkBasedir_eq_none_iff :
    checkBasedir tree (some base) = none ↔ tree.isDirectory base = .ok true := by
  rw [checkBasedir, checkShownBasedir]
  constructor
  · intro h
    cases hexists : tree.pathExists base with
    | error error => simp [hexists] at h
    | ok present =>
        cases hdirectory : tree.isDirectory base with
        | error error => cases present <;> simp [hexists, hdirectory] at h
        | ok isDirectory => cases present <;> cases isDirectory <;> simp [hexists, hdirectory] at h ⊢
  · intro h
    obtain ⟨hnul, location, entry, hlookup, -⟩ := FileTree.query_eq_true_iff.1 h
    have hexists : tree.pathExists base = .ok true :=
      FileTree.query_eq_true_iff.2 ⟨hnul, location, entry, hlookup, rfl⟩
    simp [hexists, h]

/-- A scan from a base directory that `checkBasedir` accepts is the `run` from it. -/
theorem outcome_eq_run (hbase : settings.basedir = some base)
    (hcheck : checkBasedir tree (some base) = none) :
    outcome settings prune tree = ((ofSettings settings none prune).run tree base).1 := by
  rw [outcome, scan]
  simp only [ofSettings, hbase, hcheck]

/-- **A scan has the result of a survey** that succeeds: that of the tally `found`. -/
theorem outcome_eq_ok (hbase : settings.basedir = some base)
    (hcheck : checkBasedir tree (some base) = none) {found : Tally}
    (hsurvey : (planFrom settings prune base).survey tree = .ok found) :
    outcome settings prune tree = .ok found.result := by
  have hadds := Walk.adds_root (planFrom settings prune base) rfl
    (checkBasedir_eq_none_iff.1 hcheck)
  have hrun := hadds.run_eq found hsurvey { tree, visits := [] } rfl
  rw [outcome_eq_run hbase hcheck, run]
  simp only [planFrom] at hrun
  rw [show (ofSettings settings none prune).visits = [] from rfl, hrun, Tally.empty_append]

/-- A scan fails where a `survey` does, and as `.unreadable` if the survey does. -/
theorem outcome_eq_error (hbase : settings.basedir = some base)
    (hcheck : checkBasedir tree (some base) = none) {halt : Halt}
    (hsurvey : (planFrom settings prune base).survey tree = .error halt) :
    ∃ failure, outcome settings prune tree = .error failure ∧
      ∀ error, failure = .unreadable error ↔ halt = .unreadable error := by
  have hadds := Walk.adds_root (planFrom settings prune base) rfl
    (checkBasedir_eq_none_iff.1 hcheck)
  obtain ⟨reached, hrun⟩ := hadds.run_halts halt hsurvey { tree, visits := [] } rfl
  rw [outcome_eq_run hbase hcheck, run]
  simp only [planFrom] at hrun
  rw [show (ofSettings settings none prune).visits = [] from rfl, hrun]
  cases halt with
  | aborted => exact absurd hsurvey ScanPlan.survey_ne_aborted
  | raised raise => cases raise <;> exact ⟨_, rfl, by simp⟩
  | unreadable error => exact ⟨_, rfl, by simp⟩
  | undecided error => exact ⟨_, rfl, by simp⟩

end Scanner

end TreeSift
