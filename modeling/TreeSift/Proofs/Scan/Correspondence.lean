import TreeSift.Proofs.Scan.Conducted
import TreeSift.Proofs.Scan.Specification

/-! # Visits and what is found

Whatever a conductor does to the file tree, a walk comes to entries in the order of visits, and so to
none of them twice (`Walk.comesTo_root`). What has been noted are the visits that have passed, so the
lists of a result hold the names of these, each once (`Scanner.visits_correspond`). -/

namespace TreeSift

/-! ## No entry is visited twice -/

namespace Walk

/-- **A walk comes to entries of a region**, in the order of `Precedes`, whatever state it starts
from and however it ends. -/
def ComesTo {α : Type} (region : RelativePath → Prop) (walk : Walk α) : Prop :=
  ∀ state, ∃ paths : List RelativePath,
    (walk.run state).2.visits.map Visit.name =
        state.visits.map Visit.name ++ paths.map RelativePath.text ∧
      paths.Pairwise RelativePath.Precedes ∧ ∀ path ∈ paths, region path

variable {α β : Type} {region inner outer : RelativePath → Prop} {plan : ScanPlan}

/-- A walk that leaves the visits alone comes to nothing, so that any `region` will do. -/
theorem comesTo_of_visits_eq {walk : Walk α}
    (h : ∀ state, (walk.run state).2.visits = state.visits) : ComesTo region walk :=
  fun state => ⟨[], by rw [h state]; simp, List.Pairwise.nil, fun path hpath => nomatch hpath⟩

/-- A walk that comes to entries of `inner` stays in a larger region. -/
theorem ComesTo.mono {walk : Walk α} (h : ComesTo inner walk)
    (hregion : ∀ path, inner path → outer path) : ComesTo outer walk := by
  intro state
  obtain ⟨paths, hvisits, horder, hpaths⟩ := h state
  exact ⟨paths, hvisits, horder, fun path hpath => hregion path (hpaths path hpath)⟩

/-- One walk after another comes to the entries of both, if all of `outer` follows all of `inner`.
-/
theorem ComesTo.bind {first : Walk α} {next : α → Walk β} (hfirst : ComesTo inner first)
    (hnext : ∀ value, ComesTo outer (next value))
    (horder : ∀ path other, inner path → outer other → RelativePath.Precedes path other) :
    ComesTo (fun path => inner path ∨ outer path) (first >>= next) := by
  intro state
  obtain ⟨paths, hvisits, hsorted, hpaths⟩ := hfirst state
  rw [run_bind]
  cases hrun : first.run state with
  | mk outcome reached =>
      rw [hrun] at hvisits
      cases outcome with
      | error halt => exact ⟨paths, hvisits, hsorted, fun path hpath => .inl (hpaths path hpath)⟩
      | ok value =>
          obtain ⟨others, hvisits', hsorted', hothers⟩ := hnext value reached
          refine ⟨paths ++ others, ?_, ?_, fun path hpath => ?_⟩
          · rw [hvisits', hvisits, List.map_append, List.append_assoc]
          · exact List.pairwise_append.2 ⟨hsorted, hsorted', fun path hpath other hother =>
              horder path other (hpaths path hpath) (hothers other hother)⟩
          · exact (List.mem_append.1 hpath).imp (hpaths path) (hothers path)

/-- A walk after one that comes to nothing has the `region` to itself. -/
theorem ComesTo.bind_of_none {first : Walk α} {next : α → Walk β}
    (hfirst : ∀ state, (first.run state).2.visits = state.visits)
    (hnext : ∀ value, ComesTo region (next value)) : ComesTo region (first >>= next) := by
  have hnone : ComesTo (fun _ => False) first := comesTo_of_visits_eq hfirst
  exact (hnone.bind hnext fun _ _ hpath => hpath.elim).mono fun _ hpath =>
    hpath.resolve_left id

/-- A walk may look at the state first: `get` shows nothing. -/
theorem comesTo_get_bind {next : WalkState → Walk β} (hnext : ∀ state, ComesTo region (next state)) :
    ComesTo region (get >>= next) :=
  ComesTo.bind_of_none (fun _ => rfl) hnext

/-- A conductor is shown the entry at hand: `conduct` comes to `path` alone. -/
theorem comesTo_conduct (isDirectory : Bool) (path : RelativePath) (place : Path) :
    ComesTo (· = path) (conduct plan ⟨isDirectory, RelativePath.text path, place⟩) := by
  intro state
  cases hconductor : plan.conductor? with
  | none =>
      rw [run_conduct hconductor]
      exact ⟨[], by simp, List.Pairwise.nil, fun path hpath => nomatch hpath⟩
  | some conductor =>
      refine ⟨[path], ?_, List.pairwise_singleton _ path, fun other hother =>
        List.mem_singleton.1 hother⟩
      rcases run_conduct_some hconductor ⟨isDirectory, RelativePath.text path, place⟩ state with
        ⟨action, -, hrun⟩ | ⟨halt, -, -, hrun⟩ <;>
      · rw [hrun, List.map_append]
        rfl

/-- The patterns are shown nothing: `ofAnswer` leaves the visits alone. -/
theorem visits_ofAnswer (answer : Except CrossedGroup α) (state : WalkState) :
    ((ofAnswer answer).run state).2.visits = state.visits := by
  rw [run_ofAnswer]
  cases answer <;> rfl

/-- What is noted is not shown: `record` leaves the visits alone. -/
theorem visits_record (isDirectory : Bool) (path : RelativePath) (state : WalkState) :
    ((record plan isDirectory path).run state).2.visits = state.visits := by
  rw [run_record]
  cases plan.settings.classify (RelativePath.text path) <;> rfl

/-- A directory that has been shown is entered: `directory` comes to what `descend` comes to. -/
theorem comesTo_directory {descend : RelativePath → Walk Unit} {path : RelativePath}
    (hdescend : ComesTo region (descend path)) (info : EntryInfo) :
    ComesTo region (directory descend plan info path) := by
  refine ComesTo.bind_of_none (visits_record true path) fun classification => ?_
  have henter : ComesTo region (do
      if ← ofAnswer (enters plan path info.isLink classification) then descend path) := by
    refine ComesTo.bind_of_none (visits_ofAnswer _) fun entered => ?_
    cases entered with
    | false => exact comesTo_of_visits_eq fun _ => rfl
    | true => exact hdescend
  by_cases hskip : (info.isLink && !plan.settings.followLinks) = true
  · simp only [if_pos hskip]
    exact ComesTo.bind_of_none (fun state => by rw [run_skipLink]) fun _ => henter
  · simp only [if_neg hskip]
    exact henter

/-- An entry is shown before what lies below it, and that before what `rest` comes to: later entries
of its directory. -/
theorem comesTo_entry {below : Walk α} {rest : ScanAction → Walk β} {name : Name}
    {parent : RelativePath} {names : List Name} (hlater : ∀ other ∈ names, name.text < other.text)
    (isDirectory : Bool) (place : Path)
    (hbelow : ComesTo (fun other => name :: parent <:+ other ∧ name :: parent ≠ other) below)
    (hrest : ∀ action, ComesTo (fun path => ∃ other ∈ names, other :: parent <:+ path)
      (rest action)) :
    ComesTo (fun path => ∃ other ∈ name :: names, other :: parent <:+ path) (do
      let action ← conduct plan ⟨isDirectory, RelativePath.text (name :: parent), place⟩
      let _ ← below
      rest action) := by
  -- what lies at or below the entry comes before what lies at or below a later one
  have hbefore {path other : RelativePath} (hpath : name :: parent <:+ path)
      (hother : ∃ later ∈ names, later :: parent <:+ other) : RelativePath.Precedes path other := by
    obtain ⟨later, hmem, hsuffix⟩ := hother
    exact RelativePath.precedes_of_text_lt (hlater later hmem) hpath hsuffix
  have hnext (action : ScanAction) := hbelow.bind (fun _ => hrest action)
    fun path other hpath hother => hbefore hpath.1 hother
  refine ((comesTo_conduct isDirectory (name :: parent) place).bind hnext ?_).mono ?_
  · rintro path other rfl (⟨hsuffix, hne⟩ | hother)
    · exact RelativePath.precedes_of_suffix hsuffix hne
    · exact hbefore (List.suffix_refl _) hother
  · rintro path (rfl | ⟨hsuffix, -⟩ | ⟨other, hother, hsuffix⟩)
    · exact ⟨name, List.mem_cons_self, List.suffix_refl _⟩
    · exact ⟨name, List.mem_cons_self, hsuffix⟩
    · exact ⟨other, List.mem_cons_of_mem name hother, hsuffix⟩

/-- **The entries of a directory** are shown in the order of their names, each before what lies
below it, by induction on `names`. -/
theorem comesTo_contents {descend : RelativePath → Walk Unit} {parent : RelativePath}
    {names : List Name} (hnames : names.Pairwise fun a b => a.text < b.text)
    (hdescend : ∀ path, ComesTo (fun other => path <:+ other ∧ path ≠ other) (descend path))
    (skipFiles skipDirectories : Bool) :
    ComesTo (fun path => ∃ name ∈ names, name :: parent <:+ path)
      (contents descend plan parent names skipFiles skipDirectories) := by
  -- on the names that are left, whatever kinds of entries the conductor has had skipped
  induction names generalizing skipFiles skipDirectories with
  | nil => exact comesTo_of_visits_eq fun _ => rfl
  | cons name names ih =>
      obtain ⟨hlater, hothers⟩ := List.pairwise_cons.1 hnames
      refine comesTo_get_bind fun state => ?_
      cases state.tree.inspect (RelativePath.below plan.base (name :: parent)) with
      | error error => exact comesTo_of_visits_eq fun _ => rfl
      | ok info =>
          simp only
          by_cases hskip : (if info.isDirectory then skipDirectories else skipFiles) = true
          · rw [if_pos hskip]
            refine (ih hothers skipFiles skipDirectories).mono ?_
            rintro path ⟨other, hother, hsuffix⟩
            exact ⟨other, List.mem_cons_of_mem name hother, hsuffix⟩
          · rw [if_neg hskip]
            by_cases hdirectory : info.isDirectory = true
            · simp only [if_pos hdirectory]
              exact comesTo_entry hlater info.isDirectory _
                (comesTo_directory (hdescend _) info) fun _ => ih hothers _ _
            · simp only [if_neg hdirectory]
              exact comesTo_entry hlater info.isDirectory _
                (comesTo_of_visits_eq (visits_record false _)) fun _ => ih hothers _ _

/-- **A directory that is entered** is searched below itself: `enter` comes to entries with `path`
as a proper suffix. -/
theorem comesTo_enter (plan : ScanPlan) (budget : Nat) (path : RelativePath) :
    ComesTo (fun other => path <:+ other ∧ path ≠ other) (enter plan budget path) := by
  induction budget generalizing path with
  | zero => exact comesTo_of_visits_eq fun _ => rfl
  | succ budget ih =>
      refine comesTo_get_bind fun state => ?_
      cases hlist : state.tree.list (RelativePath.below plan.base path) with
      | error error => exact comesTo_of_visits_eq fun _ => by rw [run_warn]
      | ok names =>
          refine (comesTo_contents (FileTree.ascending_of_list hlist) ih false false).mono ?_
          rintro other ⟨name, -, hsuffix⟩
          refine ⟨(List.suffix_cons name path).trans hsuffix, ?_⟩
          rintro rfl
          exact Nat.not_succ_le_self _ hsuffix.length_le

/-- **A walk comes to entries in the order of visits**, so to none of them twice: `root` shows a
list in which each entry `Precedes` all later ones. -/
theorem comesTo_root (plan : ScanPlan) : ComesTo (fun _ => True) (root plan) := by
  have henter : ComesTo (fun other => [] <:+ other ∧ [] ≠ other) (do
      let _ ← record plan true []
      enter plan walkBudget []) :=
    ComesTo.bind_of_none (visits_record true []) fun _ => comesTo_enter plan _ []
  have hconduct : ComesTo (· = []) (conduct plan ⟨true, "", plan.base⟩) :=
    comesTo_conduct true [] plan.base
  have hroot := hconduct.bind (fun _ => henter) fun path other hpath hother =>
    hpath ▸ RelativePath.precedes_of_suffix hother.1 hother.2
  exact hroot.mono fun _ _ => trivial

end Walk

/-! ## What the lists of a result hold -/

/-- The files or the directories in a result, whatever their class: three lists put together. -/
def ScanResult.ofKind (result : ScanResult) (isDirectory : Bool) : List String :=
  result.list isDirectory .included ++ result.list isDirectory .excluded ++
    result.list isDirectory .notIncluded

/-- **What a result holds of visits**: all of them, once each, in the `list` for their kind and
class, and nothing else. -/
structure ScanResult.Holds (result : ScanResult) (visits : List Visit) : Prop where
  /-- The lists for a kind hold the names of the visits to entries of this kind. -/
  ofKind_perm : ∀ isDirectory, (result.ofKind isDirectory).Perm
    ((visits.filter fun visit => visit.isDirectory == isDirectory).map (·.name))
  /-- The six lists hold the names of the visits. -/
  perm : (result.ofKind false ++ result.ofKind true).Perm (visits.map (·.name))
  /-- No name is in two of them, or in one of them twice. -/
  nodup : (result.ofKind false ++ result.ofKind true).Nodup
  /-- A link that is not followed is in one list of directories. -/
  existsUnique_list : ∀ name ∈ result.notFollowedLinks, ∃! c, name ∈ result.list true c

/-- Of the members of a list, each is kept by the filter for its class: `classOf` has one of three
values. -/
theorem filter_class_perm {α : Type} (classOf : α → Classification) (xs : List α) :
    (xs.filter (classOf · == .included) ++ xs.filter (classOf · == .excluded) ++
      xs.filter (classOf · == .notIncluded)).Perm xs := by
  induction xs with
  | nil => exact List.Perm.refl []
  | cons x xs ih =>
      refine List.Perm.trans ?_ (ih.cons x)
      cases hclass : classOf x with
      | included => simp [hclass]
      | excluded => simp [hclass]
      | notIncluded =>
          rw [List.filter_cons_of_neg (by simp [hclass]), List.filter_cons_of_neg (by simp [hclass]),
            List.filter_cons_of_pos (by simp [hclass])]
          exact List.perm_middle

/-- Every record is in the list for its class: the three `names` of a kind are, in some order, those
of its records. -/
theorem Tally.names_perm (tally : Tally) (isDirectory : Bool) :
    (tally.names isDirectory .included ++ tally.names isDirectory .excluded ++
        tally.names isDirectory .notIncluded).Perm
      ((tally.records.filter (·.isDirectory == isDirectory)).map (·.name)) := by
  have hnames (c : Classification) : tally.names isDirectory c =
      ((tally.records.filter (·.isDirectory == isDirectory)).filter fun record : ScanRecord =>
        record.classification == c).map (·.name) := by
    rw [names, List.filter_filter]
    exact congrArg _ (List.filter_congr fun record _ => Bool.and_comm ..)
  rw [hnames, hnames, hnames, ← List.map_append, ← List.map_append]
  exact (filter_class_perm ScanRecord.classification _).map _

/-- The lists of a result for a kind hold what has been noted of this kind: `ofKind` is a
permutation of it. -/
theorem Tally.ofKind_perm (tally : Tally) (isDirectory : Bool) :
    (tally.result.ofKind isDirectory).Perm
      ((tally.records.filter (·.isDirectory == isDirectory)).map (·.name)) := by
  have hlist (c : Classification) :
      (tally.result.list isDirectory c).Perm (tally.names isDirectory c) := by
    rw [list_result, sortTexts]
    exact List.mergeSort_perm ..
  exact (((hlist .included).append (hlist .excluded)).append (hlist .notIncluded)).trans
    (tally.names_perm isDirectory)

/-- Records have the names of the visits that they note, kind by kind. -/
theorem map_name_of_notes {settings : ScanSettings} {visits : List Visit}
    {records : List ScanRecord}
    (h : List.Forall₂ (fun visit record => ScanRecord.Notes record settings visit) visits records)
    (isDirectory : Bool) :
    (records.filter (·.isDirectory == isDirectory)).map (·.name) =
      (visits.filter (·.isDirectory == isDirectory)).map (·.name) := by
  induction h with
  | nil => rfl
  | @cons visit record visits records hnotes _ ih =>
      rw [List.filter_cons, List.filter_cons, hnotes.isDirectory_eq]
      split
      · rw [List.map_cons, List.map_cons, ih, hnotes.name_eq]
      · exact ih

/-- A name in no two lists for a kind, as `ofKind` has no duplicates, has one class. -/
theorem ScanResult.eq_of_mem_list {result : ScanResult} {isDirectory : Bool}
    (hnodup : (result.ofKind isDirectory).Nodup) {name : String} {c c' : Classification}
    (h : name ∈ result.list isDirectory c) (h' : name ∈ result.list isDirectory c') : c = c' := by
  simp only [ofKind, List.nodup_append, List.mem_append] at hnodup
  obtain ⟨⟨-, -, hincluded⟩, -, hnotIncluded⟩ := hnodup
  cases c <;> cases c' <;> grind

/-- **A walk in step with its conductor** has a result that `Holds` the visits that have passed. -/
theorem Walk.InStep.holds {plan : ScanPlan} {conductor : Conductor} {start state : WalkState}
    {shown pending : List Visit} {halt? : Option Halt}
    (h : InStep plan conductor start shown pending halt? state)
    (hnodup : (shown.map Visit.name).Nodup) : state.tally.result.Holds shown := by
  have hkind (isDirectory : Bool) : (state.tally.result.ofKind isDirectory).Perm
      ((shown.filter (·.isDirectory == isDirectory)).map (·.name)) := by
    rw [← map_name_of_notes h.notes]
    exact state.tally.ofKind_perm isDirectory
  have hperm : (state.tally.result.ofKind false ++ state.tally.result.ofKind true).Perm
      (shown.map Visit.name) := by
    refine ((hkind false).append (hkind true)).trans ?_
    rw [← List.map_append]
    have hfiles : shown.filter (·.isDirectory == false) =
        shown.filter (fun visit => !(visit.isDirectory == true)) :=
      List.filter_congr fun visit _ => by cases visit.isDirectory <;> rfl
    rw [hfiles]
    exact (List.perm_append_comm.trans (List.filter_append_perm _ shown)).map _
  have hdistinct := hperm.nodup_iff.2 hnodup
  refine ⟨hkind, hperm, hdistinct, fun name hname => ?_⟩
  -- the link is a visit to a directory, so it is in a list, and only in one as none is in two
  obtain ⟨-, visit, hvisit, hdirectory, rfl⟩ := h.notFollowed name (mem_sortTexts.1 hname)
  have hmem : visit.name ∈ state.tally.result.ofKind true :=
    (hkind true).mem_iff.2 (List.mem_map_of_mem (List.mem_filter.2 ⟨hvisit, by simp [hdirectory]⟩))
  obtain ⟨c, hlist⟩ : ∃ c, visit.name ∈ state.tally.result.list true c := by
    rcases List.mem_append.1 hmem with hmem | hmem
    · rcases List.mem_append.1 hmem with hmem | hmem
      · exact ⟨.included, hmem⟩
      · exact ⟨.excluded, hmem⟩
    · exact ⟨.notIncluded, hmem⟩
  exact ⟨c, hlist, fun c' hlist' =>
    ScanResult.eq_of_mem_list (List.nodup_append.1 hdistinct).2.1 hlist' hlist⟩

/-! ## Scans -/

/-- A reaction aborts a walk exactly if its `outcome` is the answer `.abort`. -/
theorem Reaction.halt?_eq_aborted_iff {reaction : Reaction} :
    reaction.halt? = some .aborted ↔ reaction.outcome = .ok .abort := by
  rw [halt?]
  cases reaction.outcome with
  | error text => simp
  | ok action => cases action <;> simp

/-- The visit before a halt is the only one that has not passed: what `Steers` before it does not
halt. -/
theorem Conductor.Steers.of_concat {conductor : Conductor} {earlier shown : List Visit}
    {tree reached : FileTree} {visit : Visit} {halt? : Option Halt}
    (h : conductor.Steers earlier tree (shown ++ [visit]) reached halt?) :
    ∃ before, conductor.Steers earlier tree shown before none ∧
      halt? = (conductor.react (earlier ++ shown) visit before).halt? := by
  generalize hall : shown ++ [visit] = all at h
  cases h with
  | start => simp at hall
  | visit hshown visit =>
      obtain ⟨rfl, hvisit⟩ := List.append_inj' hall rfl
      cases hvisit
      exact ⟨_, hshown, rfl⟩

namespace Walk

variable {plan : ScanPlan} {conductor : Conductor} {start state : WalkState}

/-- The visits of a walk have distinct names, whatever the conductor does: also if one is still
pending. -/
theorem InStep.nodup {shown pending : List Visit} {halt? : Option Halt} {ended : Except Halt Unit}
    (h : InStep plan conductor start shown pending halt? state)
    (hrun : (root plan).run start = (ended, state)) :
    ((shown ++ pending).map Visit.name).Nodup := by
  obtain ⟨paths, hvisits, horder, -⟩ := comesTo_root plan start
  rw [hrun, h.visits_eq, List.map_append, List.append_cancel_left_eq] at hvisits
  rw [hvisits]
  exact RelativePath.nodup_map_text horder

end Walk

namespace Scanner

variable {scanner : Scanner} {conductor : Conductor} {tree : FileTree}

/-- **Visits correspond to what a result holds**, whatever the conductor does: if a scan has a
result, no name has been visited twice, and the result `Holds` the visits that have passed. If the
conductor has aborted the scan, these are all visits but the last one. -/
theorem visits_correspond (hconductor : scanner.conductor? = some conductor) {result : ScanResult}
    (hscan : (scanner.scan tree).1 = .ok result) :
    ∃ passed last reached,
      (scanner.scan tree).2.1.visits = scanner.visits ++ (passed ++ last) ∧
        ((passed ++ last).map Visit.name).Nodup ∧
          conductor.Steers scanner.visits tree passed reached none ∧
            (last = [] ∨ ∃ visit, last = [visit] ∧
              (conductor.react (scanner.visits ++ passed) visit reached).outcome = .ok .abort) ∧
                result.Holds passed := by
  obtain ⟨base, hbase, hcheck⟩ := exists_basedir (checkBasedir_of_scan hscan)
  have hplan : (scanner.plan base).conductor? = some conductor := hconductor
  have hleads := Walk.leads_root hplan tree scanner.visits _ rfl
  rw [scan_eq_run hbase hcheck, run] at hscan ⊢
  cases hrun : (Walk.root (scanner.plan base)).run { tree, visits := scanner.visits } with
  | mk ended state =>
      rw [hrun] at hscan hleads
      -- a result is told of at the end, and after an abort, where the last visit has not passed
      cases ended with
      | ok done =>
          obtain ⟨shown, hstep⟩ := hleads
          have hnodup := hstep.nodup hrun
          have hsteers := hstep.steers
          rw [List.append_nil] at hsteers
          cases hscan
          refine ⟨shown, [], state.tree, hstep.visits_eq, hnodup, hsteers, .inl rfl, ?_⟩
          rw [List.append_nil] at hnodup
          exact hstep.holds hnodup
      | error halt =>
          cases halt with
          | aborted =>
              obtain ⟨shown, visit, hstep⟩ := hleads
              obtain ⟨reached, hsteers, hhalt⟩ := hstep.steers.of_concat
              have hnodup := hstep.nodup hrun
              cases hscan
              refine ⟨shown, [visit], reached, hstep.visits_eq, hnodup, hsteers,
                .inr ⟨visit, rfl, Reaction.halt?_eq_aborted_iff.1 hhalt.symm⟩, hstep.holds ?_⟩
              rw [List.map_append] at hnodup
              exact (List.nodup_append.1 hnodup).1
          | raised raise => cases raise <;> cases hscan
          | unreadable error => cases hscan
          | undecided error => cases hscan

/-- A scanner whose conductor takes away the directory of `smallTree` when it is shown the file
there, and aborts the scan. -/
def removingScanner : Scanner :=
  ofSettings rootSettings
    (some (.ofTables [("d/f", .abort)] [] [("d/f", .ofText "/d")])) true

/-- A scan by `removingScanner` that is aborted while entries are taken away has a result that holds
what has passed. -/
theorem visits_correspond_smallTree :
    ∃ result conductor passed last reached, removingScanner.conductor? = some conductor ∧
      (removingScanner.scan smallTree).1 = .ok result ∧
        (removingScanner.scan smallTree).2.1.visits = [] ++ (passed ++ last) ∧
          ((passed ++ last).map Visit.name).Nodup ∧
            conductor.Steers [] smallTree passed reached none ∧
              (last = [] ∨ ∃ visit, last = [visit] ∧
                (conductor.react ([] ++ passed) visit reached).outcome = .ok .abort) ∧
                  result.Holds passed := by
  have hisOk : (removingScanner.scan smallTree).1.isOk = true := by decide +kernel
  obtain ⟨result, hscan⟩ := exists_eq_ok_of_isOk hisOk
  obtain ⟨passed, last, reached, h⟩ := @visits_correspond removingScanner _ _ rfl _ hscan
  exact ⟨result, _, passed, last, reached, rfl, hscan, h⟩

end Scanner

end TreeSift
