import Mathlib.Data.List.Forall2
import TreeSift.Proofs.Scan.Survey

/-! # Scans with a conductor

What a conductor is shown and what becomes of the file tree is a matter of its reactions alone:
`Conductor.Steers` puts them together, one visit after the other, up to the one that ends the walk.
`Walk.leads_root` says that a walk keeps in step with its conductor. What it has noted are the
visits that the conductor has let pass, so a scan that is aborted has the result of those before the
last one (`Scanner.conducted_run`). -/

namespace TreeSift

/-! ## What a conductor makes of a file tree -/

/-- How a reaction ends a walk: as `.aborted` for the answer `.abort`, as `.raised` if it raises
something, and else not. -/
def Reaction.halt? (reaction : Reaction) : Option Halt :=
  match reaction.outcome with
  | .error raise => some (.raised raise)
  | .ok .abort => some .aborted
  | .ok _ => none

/-- **What a conductor does** from a file tree on, after earlier visits: the visits that it is
shown, the file tree that it leaves, and how its last reaction ends the walk, as `Reaction.halt?`
says. -/
inductive Conductor.Steers (conductor : Conductor) (earlier : List Visit) (tree : FileTree) :
    List Visit → FileTree → Option Halt → Prop where
  /-- It has been shown nothing. -/
  | start : Steers conductor earlier tree [] tree none
  /-- It has let the others pass, and reacts to one more visit. -/
  | visit {shown : List Visit} {reached : FileTree}
      (hshown : Steers conductor earlier tree shown reached none) (visit : Visit) :
      Steers conductor earlier tree (shown ++ [visit])
        (conductor.react (earlier ++ shown) visit reached).tree
        (conductor.react (earlier ++ shown) visit reached).halt?

/-- **What the result of a scan says about visits**: it has their names, each in the `list` for its
kind and class, and tells only of directories among them. -/
structure ScanResult.Gathers (result : ScanResult) (settings : ScanSettings) (visits : List Visit) :
    Prop where
  /-- A list has the names of the visits to files or directories of a class. -/
  list_eq : ∀ isDirectory c, result.list isDirectory c =
    sortTexts ((visits.filter fun visit => visit.isDirectory == isDirectory &&
      (settings.classify visit.name).toOption == some c).map (·.name))
  /-- Links that are not followed are visits to directories. -/
  mem_notFollowedLinks : ∀ name ∈ result.notFollowedLinks,
    settings.followLinks = false ∧ ∃ visit ∈ visits, visit.isDirectory = true ∧ visit.name = name
  /-- Warnings are about visits to directories. -/
  mem_warnings : ∀ warning ∈ result.warnings,
    ∃ visit ∈ visits, visit.isDirectory = true ∧ visit.name = warning.path

/-- A record notes a visit: it has its name and kind, and the class that `classify` finds. -/
structure ScanRecord.Notes (record : ScanRecord) (settings : ScanSettings) (visit : Visit) :
    Prop where
  /-- The kinds agree. -/
  isDirectory_eq : record.isDirectory = visit.isDirectory
  /-- The names agree. -/
  name_eq : record.name = visit.name
  /-- The class is that of the name. -/
  classify_eq : settings.classify visit.name = .ok record.classification

/-- What has been noted of visits is the names of those of a kind and class: `names` filters the
visits as it filters records. -/
theorem Tally.names_eq_of_notes {settings : ScanSettings} {visits : List Visit} {tally : Tally}
    (h : List.Forall₂ (fun visit record => ScanRecord.Notes record settings visit) visits
      tally.records) (isDirectory : Bool) (c : Classification) :
    tally.names isDirectory c =
      (visits.filter fun visit => visit.isDirectory == isDirectory &&
        (settings.classify visit.name).toOption == some c).map (·.name) := by
  rw [names]
  generalize tally.records = records at h ⊢
  induction h with
  | nil => rfl
  | @cons visit record visits records hnotes _ ih =>
      have hclass : (settings.classify visit.name).toOption = some record.classification := by
        rw [hnotes.classify_eq]
        rfl
      -- a visit and its record are kept by the same test
      have hsame : (record.isDirectory == isDirectory && record.classification == c) =
          (visit.isDirectory == isDirectory &&
            (settings.classify visit.name).toOption == some c) := by
        rw [hclass, hnotes.isDirectory_eq]
        rfl
      rw [List.filter_cons, List.filter_cons, hsame]
      split
      · rw [List.map_cons, List.map_cons, ih, hnotes.name_eq]
      · exact ih

namespace Walk

/-! ## What walks lead to -/

/-- **What a walk leads to** from states that satisfy `before`: if it returns, a state that
satisfies `after`, and if it halts, one that satisfies `halted`. -/
def Leads {α : Type} (before : WalkState → Prop) (walk : Walk α) (after : α → WalkState → Prop)
    (halted : Halt → WalkState → Prop) : Prop :=
  ∀ state, before state →
    match walk.run state with
    | (.ok value, reached) => after value reached
    | (.error halt, reached) => halted halt reached

variable {α β : Type} {before : WalkState → Prop} {halted : Halt → WalkState → Prop}

/-- A walk that returns at once leads from `before` to where it starts. -/
theorem leads_pure (value : α) {after : α → WalkState → Prop}
    (h : ∀ state, before state → after value state) : Leads before (pure value) after halted :=
  h

/-- A walk that halts at once has to be allowed to by `halted`. -/
theorem leads_throw (halt : Halt) {after : α → WalkState → Prop}
    (h : ∀ state, before state → halted halt state) : Leads before (throw halt) after halted :=
  h

/-- One walk after another leads on from `between`, where the first one has got to. -/
theorem Leads.bind {first : Walk α} {next : α → Walk β} {between : α → WalkState → Prop}
    {after : β → WalkState → Prop} (hfirst : Leads before first between halted)
    (hnext : ∀ value, Leads (between value) (next value) after halted) :
    Leads before (first >>= next) after halted := by
  intro state hstate
  have hreached := hfirst state hstate
  rw [run_bind]
  cases hrun : first.run state with
  | mk outcome reached =>
      rw [hrun] at hreached
      cases outcome with
      | ok value => exact hnext value reached hreached
      | error halt => exact hreached

/-- A walk that looks at the state first leads on from there: `get` binds the state that satisfies
`before`. -/
theorem leads_get_bind {next : WalkState → Walk β} {after : β → WalkState → Prop}
    (hnext : ∀ state, before state → Leads before (next state) after halted) :
    Leads before (get >>= next) after halted := by
  intro state hstate
  rw [run_bind, run_get]
  exact hnext state hstate state hstate

/-- A walk may start from `fewer` states and be promised less. -/
theorem Leads.weaken {walk : Walk α} {fewer : WalkState → Prop}
    {after weaker : α → WalkState → Prop} (h : Leads before walk after halted)
    (hbefore : ∀ state, fewer state → before state)
    (hafter : ∀ value state, after value state → weaker value state) :
    Leads fewer walk weaker halted := by
  intro state hstate
  have hreached := h state (hbefore state hstate)
  cases hrun : walk.run state with
  | mk outcome reached =>
      rw [hrun] at hreached
      cases outcome with
      | ok value => exact hafter value reached hreached
      | error halt => exact hreached

/-! ## Walks keep in step with the conductor -/

/-- **A walk is in step with the conductor**: the visits `shown` have passed and been noted, and
`pending` ones have only been shown. -/
structure InStep (plan : ScanPlan) (conductor : Conductor) (start : WalkState)
    (shown pending : List Visit) (halt? : Option Halt) (state : WalkState) : Prop where
  /-- The conductor remembers all of them. -/
  visits_eq : state.visits = start.visits ++ (shown ++ pending)
  /-- The file tree is what the conductor has left. -/
  steers : conductor.Steers start.visits start.tree (shown ++ pending) state.tree halt?
  /-- Each visit that has passed is noted. -/
  notes : List.Forall₂ (fun visit record => ScanRecord.Notes record plan.settings visit) shown
    state.tally.records
  /-- Links that are not followed are visits to directories. -/
  notFollowed : ∀ name ∈ state.tally.notFollowed, plan.settings.followLinks = false ∧
    ∃ visit ∈ shown, visit.isDirectory = true ∧ visit.name = name
  /-- Warnings are about visits to directories. -/
  warnings : ∀ warning ∈ state.tally.warnings,
    ∃ visit ∈ shown, visit.isDirectory = true ∧ visit.name = warning.path

/-- All visits that have been shown are noted: the state is `InStep` with none pending. -/
def AtRest (plan : ScanPlan) (conductor : Conductor) (start state : WalkState) : Prop :=
  ∃ shown, InStep plan conductor start shown [] none state

/-- All visits that have been shown are noted, the latest of them one to the directory at `path`. -/
def AtDirectory (plan : ScanPlan) (conductor : Conductor) (start : WalkState) (path : RelativePath)
    (state : WalkState) : Prop :=
  ∃ shown, InStep plan conductor start shown [] none state ∧
    ∃ visit ∈ shown, visit.isDirectory = true ∧ visit.name = RelativePath.text path

/-- The visit has been shown and is not noted yet: the state is `InStep` with it pending. -/
def Awaits (plan : ScanPlan) (conductor : Conductor) (start : WalkState) (visit : Visit)
    (state : WalkState) : Prop :=
  ∃ shown, InStep plan conductor start shown [visit] none state

/-- **How a walk may halt**: if the conductor halts it, then by its reaction to the last visit,
which stays pending. -/
def HaltsInStep (plan : ScanPlan) (conductor : Conductor) (start : WalkState) (halt : Halt)
    (state : WalkState) : Prop :=
  match halt with
  | .aborted | .raised _ =>
    ∃ shown visit, InStep plan conductor start shown [visit] (some halt) state
  | .unreadable _ | .undecided _ => ∃ shown pending, InStep plan conductor start shown pending none state

variable {plan : ScanPlan} {conductor : Conductor} {start : WalkState}

/-- A conductor is shown the visit by `conduct`, and its reaction lets the walk go on or ends it. -/
theorem run_conduct_some (hconductor : plan.conductor? = some conductor) (visit : Visit)
    (state : WalkState) :
    let reaction := conductor.react state.visits visit state.tree
    let reached := { state with tree := reaction.tree, visits := state.visits ++ [visit] }
    (∃ action, reaction.halt? = none ∧ (conduct plan visit).run state = (.ok action, reached)) ∨
      ∃ halt, reaction.halt? = some halt ∧ (halt = .aborted ∨ ∃ raise, halt = .raised raise) ∧
        (conduct plan visit).run state = (.error halt, reached) := by
  intro reaction reached
  have hrun (outcome : Except ConductorRaise ScanAction) : reaction.outcome = outcome →
      (conduct plan visit).run state =
        match outcome with
        | .error raise => (.error (.raised raise), reached)
        | .ok .abort => (.error .aborted, reached)
        | .ok action => (.ok action, reached) := by
    rintro rfl
    exact run_conduct_of_conductor hconductor visit state
  cases houtcome : reaction.outcome with
  | error raise =>
      exact .inr ⟨_, by simp [Reaction.halt?, houtcome], .inr ⟨raise, rfl⟩, hrun _ houtcome⟩
  | ok action =>
      cases action with
      | abort => exact .inr ⟨_, by simp [Reaction.halt?, houtcome], .inl rfl, hrun _ houtcome⟩
      | proceed => exact .inl ⟨_, by simp [Reaction.halt?, houtcome], hrun _ houtcome⟩
      | noMoreFiles => exact .inl ⟨_, by simp [Reaction.halt?, houtcome], hrun _ houtcome⟩
      | noMoreDirectories => exact .inl ⟨_, by simp [Reaction.halt?, houtcome], hrun _ houtcome⟩

/-- A visit is shown to the conductor: `conduct` leads from `AtRest` to `Awaits`. -/
theorem leads_conduct (hconductor : plan.conductor? = some conductor) (visit : Visit) :
    Leads (AtRest plan conductor start) (conduct plan visit)
      (fun _ => Awaits plan conductor start visit) (HaltsInStep plan conductor start) := by
  rintro state ⟨shown, hstep⟩
  have hvisits : state.visits = start.visits ++ shown := by
    rw [hstep.visits_eq, List.append_nil]
  have hsteers := hstep.steers
  rw [List.append_nil] at hsteers
  have hvisited := hsteers.visit visit
  rw [← hvisits] at hvisited
  -- the visit is pending, whatever the reaction to it
  have hall : state.visits ++ [visit] = start.visits ++ (shown ++ [visit]) := by
    rw [hvisits, List.append_assoc]
  rcases run_conduct_some hconductor visit state with
    ⟨action, hhalt, hrun⟩ | ⟨halt, hhalt, hcases, hrun⟩
  · rw [hhalt] at hvisited
    rw [hrun]
    exact ⟨shown, hall, hvisited, hstep.notes, hstep.notFollowed, hstep.warnings⟩
  · rw [hhalt] at hvisited
    rw [hrun]
    rcases hcases with rfl | ⟨raise, rfl⟩
    · exact ⟨shown, visit, hall, hvisited, hstep.notes, hstep.notFollowed, hstep.warnings⟩
    · exact ⟨shown, visit, hall, hvisited, hstep.notes, hstep.notFollowed, hstep.warnings⟩

/-- A visit that has been shown is noted: `record` leads from `Awaits` to `AtRest`. -/
theorem leads_record (plan : ScanPlan) (conductor : Conductor) (start : WalkState) (visit : Visit)
    {path : RelativePath} (hname : visit.name = RelativePath.text path) :
    Leads (Awaits plan conductor start visit) (record plan visit.isDirectory path)
      (fun _ state => AtRest plan conductor start state ∧
        (visit.isDirectory = true → AtDirectory plan conductor start path state))
      (HaltsInStep plan conductor start) := by
  rintro state ⟨shown, hstep⟩
  rw [run_record]
  cases hclass : plan.settings.classify (RelativePath.text path) with
  | error error => exact ⟨shown, [visit], hstep⟩
  | ok classification =>
      have hmore {P : Visit → Prop} (h : ∃ other ∈ shown, P other) :
          ∃ other ∈ shown ++ [visit], P other := by
        obtain ⟨other, hother, hP⟩ := h
        exact ⟨other, List.mem_append_left _ hother, hP⟩
      have hnotes : ScanRecord.Notes ⟨visit.isDirectory, RelativePath.text path, classification⟩
          plan.settings visit := ⟨rfl, hname.symm, by rw [hname, hclass]⟩
      let noted : Tally := { records := [⟨visit.isDirectory, RelativePath.text path, classification⟩] }
      -- the visit is noted now, and joins those that have passed
      have hreached : InStep plan conductor start (shown ++ [visit]) [] none
          { state with tally := state.tally ++ noted } := by
        refine ⟨?_, ?_, List.rel_append hstep.notes (.cons hnotes .nil), fun name hmem => ?_,
          fun warning hmem => ?_⟩
        · rw [List.append_nil]
          exact hstep.visits_eq
        · rw [List.append_nil]
          exact hstep.steers
        · rw [Tally.notFollowed_append, List.append_nil] at hmem
          obtain ⟨hfollow, hvisit⟩ := hstep.notFollowed name hmem
          exact ⟨hfollow, hmore hvisit⟩
        · rw [Tally.warnings_append, List.append_nil] at hmem
          exact hmore (hstep.warnings warning hmem)
      exact ⟨⟨_, hreached⟩, fun hdirectory =>
        ⟨_, hreached, visit, List.mem_append_right _ List.mem_cons_self, hdirectory, hname⟩⟩

/-- A directory behind a link is noted by `skipLink` where links are not followed. -/
theorem leads_skipLink {path : RelativePath} (hfollow : plan.settings.followLinks = false) :
    Leads (AtDirectory plan conductor start path) (skipLink path)
      (fun _ => AtDirectory plan conductor start path) (HaltsInStep plan conductor start) := by
  rintro state ⟨shown, hstep, hvisit⟩
  rw [run_skipLink]
  refine ⟨shown, ⟨hstep.visits_eq, hstep.steers, ?_, fun name hmem => ?_, fun warning hmem => ?_⟩,
    hvisit⟩
  · rw [Tally.records_append, List.append_nil]
    exact hstep.notes
  · rcases List.mem_append.1 hmem with hmem | hmem
    · exact hstep.notFollowed name hmem
    · rw [List.mem_singleton.1 hmem]
      exact ⟨hfollow, hvisit⟩
  · rw [Tally.warnings_append, List.append_nil] at hmem
    exact hstep.warnings warning hmem

/-- A directory that cannot be listed leaves a warning: `warn` leads from `AtDirectory` to `AtRest`.
-/
theorem leads_warn (path : RelativePath) (place : Path) (error : FileError) :
    Leads (AtDirectory plan conductor start path) (warn path place error)
      (fun _ => AtRest plan conductor start) (HaltsInStep plan conductor start) := by
  rintro state ⟨shown, hstep, hvisit⟩
  rw [run_warn]
  refine ⟨shown, hstep.visits_eq, hstep.steers, ?_, fun name hmem => ?_, fun warning hmem => ?_⟩
  · rw [Tally.records_append, List.append_nil]
    exact hstep.notes
  · rw [Tally.notFollowed_append, List.append_nil] at hmem
    exact hstep.notFollowed name hmem
  · rcases List.mem_append.1 hmem with hmem | hmem
    · exact hstep.warnings warning hmem
    · rw [List.mem_singleton.1 hmem]
      exact hvisit

/-- The patterns answer, or the walk halts as `.undecided`, with nothing pending. -/
theorem leads_ofAnswer {answer : Except CrossedGroup α} (hbefore : ∀ state, before state →
      AtRest plan conductor start state) :
    Leads before (ofAnswer answer) (fun _ => before) (HaltsInStep plan conductor start) := by
  intro state hstate
  rw [run_ofAnswer]
  cases answer with
  | ok value => exact hstate
  | error error =>
      obtain ⟨shown, hstep⟩ := hbefore state hstate
      exact ⟨shown, [], hstep⟩

/-- What is `AtDirectory` is `AtRest`: where a directory has been noted, all has been. -/
theorem AtDirectory.atRest {path : RelativePath} {state : WalkState}
    (h : AtDirectory plan conductor start path state) : AtRest plan conductor start state :=
  let ⟨shown, hstep, _⟩ := h
  ⟨shown, hstep⟩

/-- A directory is noted, and entered by `descend` if `enters` says so. -/
theorem leads_directory {descend : RelativePath → Walk Unit} {info : EntryInfo}
    {path : RelativePath} {visit : Visit} (hname : visit.name = RelativePath.text path)
    (hdirectory : visit.isDirectory = true)
    (hdescend : Leads (AtDirectory plan conductor start path) (descend path)
      (fun _ => AtRest plan conductor start) (HaltsInStep plan conductor start)) :
    Leads (Awaits plan conductor start visit) (directory descend plan info path)
      (fun _ => AtRest plan conductor start) (HaltsInStep plan conductor start) := by
  have hrecord := leads_record plan conductor start visit hname
  rw [hdirectory] at hrecord
  refine Leads.bind (hrecord.weaken (fun _ => id) fun _ _ h => h.2 rfl) fun classification => ?_
  have henter : Leads (AtDirectory plan conductor start path) (do
      if ← ofAnswer (enters plan path info.isLink classification) then descend path)
      (fun _ => AtRest plan conductor start) (HaltsInStep plan conductor start) := by
    refine (leads_ofAnswer fun _ => AtDirectory.atRest).bind fun entered => ?_
    cases entered with
    | false => exact leads_pure () fun _ => AtDirectory.atRest
    | true => exact hdescend
  by_cases hskip : (info.isLink && !plan.settings.followLinks) = true
  · have hfollow : plan.settings.followLinks = false := by simpa using (Bool.and_eq_true_iff.1 hskip).2
    simp only [if_pos hskip]
    exact (leads_skipLink hfollow).bind fun _ => henter
  · simp only [if_neg hskip]
    exact henter

/-- The entries of a directory are shown and noted, one after the other: `contents` keeps `AtRest`.
-/
theorem leads_contents (hconductor : plan.conductor? = some conductor)
    {descend : RelativePath → Walk Unit}
    (hdescend : ∀ path, Leads (AtDirectory plan conductor start path) (descend path)
      (fun _ => AtRest plan conductor start) (HaltsInStep plan conductor start))
    (parent : RelativePath) (names : List Name) (skipFiles skipDirectories : Bool) :
    Leads (AtRest plan conductor start) (contents descend plan parent names skipFiles skipDirectories)
      (fun _ => AtRest plan conductor start) (HaltsInStep plan conductor start) := by
  induction names generalizing skipFiles skipDirectories with
  | nil => exact leads_pure () fun _ => id
  | cons name names ih =>
      -- the invariant does not say what is on the file tree, so any state may be looked at
      refine leads_get_bind fun state _ => ?_
      cases state.tree.inspect (RelativePath.below plan.base (name :: parent)) with
      | error error => exact leads_throw _ fun state ⟨shown, hstep⟩ => ⟨shown, [], hstep⟩
      | ok info =>
          simp only
          by_cases hskip : (if info.isDirectory then skipDirectories else skipFiles) = true
          · rw [if_pos hskip]
            exact ih skipFiles skipDirectories
          · rw [if_neg hskip]
            refine (leads_conduct hconductor _).bind fun action => ?_
            by_cases hdirectory : info.isDirectory = true
            · simp only [if_pos hdirectory]
              exact (leads_directory rfl hdirectory (hdescend _)).bind fun _ => ih _ _
            · simp only [if_neg hdirectory]
              have hfile : info.isDirectory = false := by simpa using hdirectory
              have hrecord := leads_record plan conductor start ⟨false, RelativePath.text (name :: parent),
                RelativePath.below plan.base (name :: parent)⟩ rfl
              rw [hfile]
              exact (hrecord.weaken (fun _ => id) fun _ _ h => h.1).bind fun _ => ih _ _

/-- **A directory is listed, and what it holds is shown and noted**: `enter` leads from
`AtDirectory` to `AtRest`, by induction on the budget. -/
theorem leads_enter (hconductor : plan.conductor? = some conductor) (budget : Nat)
    (path : RelativePath) :
    Leads (AtDirectory plan conductor start path) (enter plan budget path)
      (fun _ => AtRest plan conductor start) (HaltsInStep plan conductor start) := by
  induction budget generalizing path with
  | zero => exact leads_pure () fun _ => AtDirectory.atRest
  | succ budget ih =>
      refine leads_get_bind fun state _ => ?_
      cases state.tree.list (RelativePath.below plan.base path) with
      | error error => exact leads_warn path _ error
      | ok names =>
          exact (leads_contents hconductor ih path names false false).weaken
            (fun _ => AtDirectory.atRest) fun _ _ => id

/-- **A walk keeps in step with its conductor**: `root` leads from the start to `AtRest`, or to a
state that `HaltsInStep`. -/
theorem leads_root (hconductor : plan.conductor? = some conductor) (tree : FileTree)
    (visits : List Visit) :
    Leads (fun state => state = { tree, visits }) (root plan)
      (fun _ => AtRest plan conductor { tree, visits })
      (HaltsInStep plan conductor { tree, visits }) := by
  -- at the start nothing has been shown, and nothing is noted
  have hstart : AtRest plan conductor { tree, visits } { tree, visits } :=
    ⟨[], by simp, .start, .nil, by simp, by simp⟩
  have hrecord := leads_record plan conductor { tree, visits } ⟨true, "", plan.base⟩
    (show "" = RelativePath.text [] from rfl)
  have hvisit : Leads (AtRest plan conductor { tree, visits }) (root plan)
      (fun _ => AtRest plan conductor { tree, visits })
      (HaltsInStep plan conductor { tree, visits }) :=
    (leads_conduct hconductor _).bind fun _ =>
      (hrecord.weaken (fun _ => id) fun _ _ h => h.2 rfl).bind fun _ =>
        leads_enter hconductor walkBudget []
  exact hvisit.weaken (fun _ h => h ▸ hstart) fun _ _ => id

end Walk

/-! ## Scans keep in step with the conductor -/

/-- The result of a walk `InStep` with its conductor `Gathers` the visits that have passed. -/
theorem Walk.InStep.gathers {plan : ScanPlan} {conductor : Conductor} {start state : WalkState}
    {shown pending : List Visit} {halt? : Option Halt}
    (h : InStep plan conductor start shown pending halt? state) :
    state.tally.result.Gathers plan.settings shown where
  list_eq isDirectory c := by
    rw [Tally.list_result, Tally.names_eq_of_notes h.notes]
  mem_notFollowedLinks name hname := h.notFollowed name (mem_sortTexts.1 hname)
  mem_warnings := h.warnings

namespace Scanner

variable {scanner : Scanner} {conductor : Conductor} {tree : FileTree} {base : Path}

/-- **What a conductor has to do with a scan** that has shown it `shown` and has perhaps been halted
by its reaction to the last visit, as `halt?` says. -/
structure Conducted (scanner : Scanner) (conductor : Conductor) (tree : FileTree)
    (shown : List Visit) (halt? : Option Halt) : Prop where
  /-- The conductor remembers the visits. -/
  visits_eq : (scanner.scan tree).2.1.visits = scanner.visits ++ shown
  /-- The file tree is what its reactions leave. -/
  steers : conductor.Steers scanner.visits tree shown (scanner.scan tree).2.2 halt?
  /-- If it lets all visits pass, a result tells of all of them. -/
  passed : halt? = none → ∀ result, (scanner.scan tree).1 = .ok result →
    result.Gathers scanner.settings shown
  /-- **If it aborts the scan, there is a result**, which tells of the visits before the last. -/
  aborted : halt? = some .aborted → ∃ result, (scanner.scan tree).1 = .ok result ∧
    (scanner.scan tree).2.1.phase = .scanned ∧ (scanner.scan tree).2.1.result? = some result ∧
      result.Gathers scanner.settings shown.dropLast
  /-- If it raises something, the scan fails with this, and there is no result. After an error the
  scanner is as it was before its first scan. -/
  raised : ∀ raise, halt? = some (.raised raise) →
    (scanner.scan tree).1 = .error (.raised raise) ∧ (scanner.scan tree).2.1.result? = none ∧
      ∀ text, raise = .error text → (scanner.scan tree).2.1.phase = .notYetScanned

/-- A scan from a base directory that `checkBasedir` accepts is a `run`. -/
theorem scan_eq_run (hbase : scanner.settings.basedir = some base)
    (hcheck : checkBasedir tree (some base) = none) :
    scanner.scan tree = scanner.run tree base := by
  rw [scan]
  simp only [hbase, hcheck]

/-- A base directory that `checkBasedir` refuses refuses the scan, which changes nothing. -/
theorem scan_of_problem {problem : BasedirProblem}
    (hcheck : checkBasedir tree scanner.settings.basedir = some problem) :
    scanner.scan tree = (.error (.basedir problem), scanner, tree) := by
  rw [scan]
  cases hbase : scanner.settings.basedir with
  | none =>
      rw [hbase] at hcheck
      cases hcheck
      rfl
  | some base =>
      rw [hbase] at hcheck
      rw [hcheck]

/-- Where `checkBasedir` finds no problem, there is a base directory. -/
theorem exists_basedir (hcheck : checkBasedir tree scanner.settings.basedir = none) :
    ∃ base, scanner.settings.basedir = some base ∧ checkBasedir tree (some base) = none := by
  cases hbase : scanner.settings.basedir with
  | none =>
      rw [hbase] at hcheck
      exact nomatch hcheck
  | some base =>
      rw [hbase] at hcheck
      exact ⟨base, rfl, hcheck⟩

/-- Where a scan has a result, `checkBasedir` has found no problem. -/
theorem checkBasedir_of_scan {result : ScanResult} (hscan : (scanner.scan tree).1 = .ok result) :
    checkBasedir tree scanner.settings.basedir = none := by
  cases hcheck : checkBasedir tree scanner.settings.basedir with
  | none => rfl
  | some problem =>
      rw [scan_of_problem hcheck] at hscan
      cases hscan

/-- A scan whose walk was `InStep` with its conductor is so itself: the conductor remembers the visits,
and the file tree is what its reactions leave. -/
theorem steers_of_inStep {plan : ScanPlan} {start state : WalkState} {shown pending : List Visit}
    {halt? : Option Halt} (hstep : Walk.InStep plan conductor start shown pending halt? state)
    {outcome : Except ScanFailure ScanResult} {after : Scanner}
    (hscan : scanner.scan tree = (outcome, after, state.tree))
    (hstart : start.visits = scanner.visits ∧ start.tree = tree)
    (hafter : after.visits = state.visits) :
    (scanner.scan tree).2.1.visits = scanner.visits ++ (shown ++ pending) ∧
      conductor.Steers scanner.visits tree (shown ++ pending) (scanner.scan tree).2.2 halt? := by
  obtain ⟨hvisits, htree⟩ := hstart
  rw [hscan, ← hvisits, ← htree]
  exact ⟨hafter.trans hstep.visits_eq, hstep.steers⟩

/-- A scan that fails before the conductor halts it has let all visits pass: it is `Conducted` with
no halt. -/
theorem conducted_of_error {plan : ScanPlan} {start state : WalkState} {shown pending : List Visit}
    (hstep : Walk.InStep plan conductor start shown pending none state) {failure : ScanFailure}
    {after : Scanner} (hscan : scanner.scan tree = (.error failure, after, state.tree))
    (hstart : start.visits = scanner.visits ∧ start.tree = tree)
    (hafter : after.visits = state.visits) :
    scanner.Conducted conductor tree (shown ++ pending) none := by
  obtain ⟨hvisits, hsteers⟩ := steers_of_inStep hstep hscan hstart hafter
  refine ⟨hvisits, hsteers, fun _ result hresult => ?_, by simp, by simp⟩
  rw [hscan] at hresult
  cases hresult

/-- A scan that fails with what its conductor raises is `Conducted`, if there is no result then and
an error has taken it back to the phase `notYetScanned`. -/
theorem conducted_of_raised {plan : ScanPlan} {start state : WalkState} {shown pending : List Visit}
    {raise : ConductorRaise}
    (hstep : Walk.InStep plan conductor start shown pending (some (.raised raise)) state)
    {after : Scanner} (hscan : scanner.scan tree = (.error (.raised raise), after, state.tree))
    (hstart : start.visits = scanner.visits ∧ start.tree = tree)
    (hafter : after.visits = state.visits) (hresult : after.result? = none)
    (hphase : ∀ text, raise = .error text → after.phase = .notYetScanned) :
    scanner.Conducted conductor tree (shown ++ pending) (some (.raised raise)) := by
  obtain ⟨hvisits, hsteers⟩ := steers_of_inStep hstep hscan hstart hafter
  refine ⟨hvisits, hsteers, by simp, by simp, fun other hother => ?_⟩
  cases hother
  rw [hscan]
  exact ⟨rfl, hresult, hphase⟩

/-- **A scan keeps in step with its conductor**: some visits are shown to it, and what it does about
them makes the scan `Conducted`. -/
theorem exists_conducted (hbase : scanner.settings.basedir = some base)
    (hcheck : checkBasedir tree (some base) = none)
    (hconductor : scanner.conductor? = some conductor) :
    ∃ shown halt?, scanner.Conducted conductor tree shown halt? := by
  have hscan := scan_eq_run hbase hcheck
  have hplan : (scanner.plan base).conductor? = some conductor := hconductor
  have hleads := Walk.leads_root hplan tree scanner.visits _ rfl
  rw [run] at hscan
  cases hrun : (Walk.root (scanner.plan base)).run { tree, visits := scanner.visits } with
  | mk ended state =>
      rw [hrun] at hscan hleads
      -- however the run ends, it is in step: only what has passed depends on the end
      cases ended with
      | ok done =>
          obtain ⟨shown, hstep⟩ := hleads
          obtain ⟨hvisits, hsteers⟩ := steers_of_inStep hstep hscan ⟨rfl, rfl⟩ rfl
          rw [List.append_nil] at hvisits hsteers
          refine ⟨shown, none, hvisits, hsteers, fun _ result hresult => ?_, by simp, by simp⟩
          rw [hscan] at hresult
          cases hresult
          exact hstep.gathers
      | error halt =>
          cases halt with
          | aborted =>
              obtain ⟨shown, visit, hstep⟩ := hleads
              obtain ⟨hvisits, hsteers⟩ := steers_of_inStep hstep hscan ⟨rfl, rfl⟩ rfl
              refine ⟨_, some .aborted, hvisits, hsteers, by simp, fun _ => ?_, by simp⟩
              rw [hscan, List.dropLast_concat]
              exact ⟨_, rfl, rfl, rfl, hstep.gathers⟩
          | raised raise =>
              obtain ⟨shown, visit, hstep⟩ := hleads
              cases raise with
              | error text =>
                  exact ⟨_, _, conducted_of_raised hstep hscan ⟨rfl, rfl⟩ rfl rfl fun _ _ => rfl⟩
              | exit text =>
                  exact ⟨_, _, conducted_of_raised hstep hscan ⟨rfl, rfl⟩ rfl rfl (by simp)⟩
          | unreadable error =>
              obtain ⟨shown, pending, hstep⟩ := hleads
              exact ⟨_, none, conducted_of_error hstep hscan ⟨rfl, rfl⟩ rfl⟩
          | undecided error =>
              obtain ⟨shown, pending, hstep⟩ := hleads
              exact ⟨_, none, conducted_of_error hstep hscan ⟨rfl, rfl⟩ rfl⟩

end Scanner

end TreeSift
