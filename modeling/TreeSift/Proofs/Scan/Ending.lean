import TreeSift.Proofs.Scan.Conducted
import TreeSift.Proofs.Scan.Reach

/-! # Scans end

A walk calls itself for each directory that it enters, also behind links, and nothing keeps track of
where it has been. It ends all the same: the way to a directory spends links, of which no more than
`maxLinks` are followed, or goes down in the tree, so no way below a base directory is long
(`ScanPlan.bounds_of_lists`), and the calls of a walk are well-founded
(`ScanPlan.wellFounded_calls`).

So it is not its budget that ends a walk. Whatever a conductor makes of the file tree meanwhile, the
walk does what the recursion without a budget does (`Walk.recurs_enter`), of which there is only one
(`Walk.existsUnique_recurs`). -/

namespace TreeSift

/-! ## Ways below a base directory -/

namespace FileTree

variable {tree : FileTree} {base : Path}

/-- The way to a place below `base` goes through `base`: a `Route` to it is one to `base` and one on
from there, whose links add up. -/
theorem route_below_iff (hbase : base.IsNormal) {path : RelativePath} {used : Nat}
    {there : Location} :
    Route tree used [] (stepsOf (RelativePath.below base path).text) there ↔
      ∃ before after mid, used = before + after ∧ Route tree before [] (stepsOf base.text) mid ∧
        Route tree after mid (path.reverse.map .enter) there := by
  induction path generalizing used there with
  | nil =>
      constructor
      · intro h
        exact ⟨used, 0, there, rfl, h, .done⟩
      · rintro ⟨before, after, mid, rfl, hbefore, hafter⟩
        cases hafter
        exact hbefore
  | cons name parent ih =>
      obtain ⟨steps, hsteps, hsame⟩ :=
        exists_steps_child tree (ScanPlan.isNormal_below hbase parent) name
      rw [RelativePath.below, hsteps, List.reverse_cons, List.map_append]
      -- the last step is taken from where the way to the directory ends
      constructor
      · intro h
        obtain ⟨toParent, last, inner, rfl, hparent, hlast⟩ := h.split
        obtain ⟨before, after, mid, rfl, hbefore, hafter⟩ := ih.1 ((hsame _ _).1 hparent)
        exact ⟨before, after + last, mid, Nat.add_assoc .., hbefore, hafter.append hlast⟩
      · rintro ⟨before, after, mid, rfl, hbefore, hafter⟩
        obtain ⟨toParent, last, inner, rfl, hparent, hlast⟩ := hafter.split
        rw [← Nat.add_assoc]
        exact ((hsame _ _).2 (ih.2 ⟨before, toParent, mid, rfl, hbefore, hparent⟩)).append hlast

/-- Where `isLink` holds of an entry, the way through the entry follows at least one link: `0 <
last`. -/
theorem pos_of_isLink {path : Path} (hpath : path.IsNormal) {name : Name} {used last : Nat}
    {inner there : Location} (hlink : tree.isLink (path.child name.text) = .ok true)
    (hparent : Route tree used [] (stepsOf path.text) inner) (hused : used ≤ maxLinks)
    (hlast : Route tree last inner [.enter name] there) : 0 < last := by
  cases hlast with
  | link _ _ => exact Nat.succ_pos _
  | down hentry _ =>
      -- one would find the directory, and not a link
      obtain ⟨steps, hsteps, hsame⟩ := exists_steps_child tree hpath name
      have hwalk := walk_enter_of_route ((hsame _ _).2 hparent) hentry hused
      obtain ⟨-, location, entry, hlookup, hisLink⟩ := query_eq_true_iff.1 hlink
      obtain ⟨-, hfound⟩ := lookup_eq_ok_iff.1 hlookup
      rw [hsteps, hwalk] at hfound
      cases hfound
      cases hisLink

end FileTree

namespace ScanPlan

variable {plan : ScanPlan} {tree : FileTree} {path : RelativePath}

/-- How many links are on the way to the entry at `path`, itself included and the base directory
aside. -/
def linksOn (plan : ScanPlan) (tree : FileTree) (path : RelativePath) : Nat :=
  path.tails.countP fun ancestor => !ancestor.isEmpty && plan.linkAt tree ancestor

theorem linksOn_cons {name : Name} {parent : RelativePath} :
    plan.linksOn tree (name :: parent) =
      plan.linksOn tree parent + if plan.linkAt tree (name :: parent) then 1 else 0 := by
  rw [linksOn, List.tails, List.countP_cons]
  simp [linksOn]

/-- **A way below the base directory follows the links that are on it**: their number, `linksOn`, is
at most that of the links that the `Route` uses there. -/
theorem linksOn_le_of_route (hbase : plan.base.IsNormal) {before after : Nat}
    {mid there : Location} (hbefore : FileTree.Route tree before [] (stepsOf plan.base.text) mid)
    (hafter : FileTree.Route tree after mid (path.reverse.map .enter) there)
    (hused : before + after ≤ maxLinks) : plan.linksOn tree path ≤ after := by
  induction path generalizing after there with
  | nil => exact Nat.zero_le _
  | cons name parent ih =>
      rw [List.reverse_cons, List.map_append] at hafter
      -- the way to an entry is the way to its directory and a step, which may follow a link
      obtain ⟨toParent, last, inner, rfl, hparent, hlast⟩ := hafter.split
      have hlinks := ih hparent (by omega)
      rw [linksOn_cons]
      by_cases hlink : plan.linkAt tree (name :: parent) = true
      · have hroute : FileTree.Route tree (before + toParent) []
            (stepsOf (RelativePath.below plan.base parent).text) inner :=
          (FileTree.route_below_iff hbase).2 ⟨before, toParent, mid, rfl, hbefore, hparent⟩
        have hthere := linkAt_eq_true.1 hlink
        rw [place, RelativePath.below] at hthere
        have hpos := FileTree.pos_of_isLink (isNormal_below hbase parent) hthere hroute (by omega)
          hlast
        rw [if_pos hlink]
        omega
      · rw [if_neg hlink]
        omega

/-- **Directories are not far below the base directory**: the links on the way are at most
`maxLinks`, and between two of them no directory is passed twice, so that there are fewer than
`(maxLinks + 1) * tree.directoryCount` names. -/
theorem bounds_of_isDirectory (hbase : plan.base.IsNormal)
    (hdirectory : tree.isDirectory (plan.place path) = .ok true) :
    plan.linksOn tree path ≤ maxLinks ∧ path.length < (maxLinks + 1) * tree.directoryCount := by
  obtain ⟨-, -, there, fault, -, used, hused, hroute⟩ :=
    FileTree.isDirectory_eq_true_iff.1 hdirectory
  obtain ⟨before, after, mid, rfl, hbefore, hafter⟩ := (FileTree.route_below_iff hbase).1 hroute
  have hlinks := linksOn_le_of_route hbase hbefore hafter hused
  have hlength := hafter.length_le
  have hbelow := tree.directoriesBelow_lt mid.length
  have hmul : after * tree.directoryCount ≤ maxLinks * tree.directoryCount :=
    Nat.mul_le_mul_right _ (by omega)
  rw [List.length_reverse] at hlength
  rw [Nat.add_mul, Nat.one_mul]
  exact ⟨by omega, by omega⟩

/-- What a directory lists is one step further: the bounds of `bounds_of_isDirectory`, with `≤` for
the names. -/
theorem bounds_of_lists (hbase : plan.base.IsNormal) {name : Name} {parent : RelativePath}
    (hlists : plan.Lists tree parent name) :
    plan.linksOn tree parent ≤ maxLinks ∧
      (name :: parent).length ≤ (maxLinks + 1) * tree.directoryCount := by
  obtain ⟨names, hlist, -⟩ := hlists
  exact bounds_of_isDirectory hbase (FileTree.isDirectory_of_list hlist)

/-! ## Calls -/

/-- **The calls of a walk**: from the directory at `parent` it calls itself for the entries that it
enters. -/
def Calls (plan : ScanPlan) (tree : FileTree) (child parent : RelativePath) : Prop :=
  ∃ name, child = name :: parent ∧ plan.Lists tree parent name ∧ plan.entersAt tree child = true

/-- **No walk calls itself for ever**: the relation `Calls` is well-founded, by the bound on the
names of a directory. -/
theorem wellFounded_calls (plan : ScanPlan) (tree : FileTree) : WellFounded (plan.Calls tree) := by
  -- links and directories of the tree stand for the names on the way, so they limit its length
  let deepest := (maxLinks + 1) * (tree.directoryCount + 1) + 1
  refine Subrelation.wf ?_ (measure fun path => deepest - path.length).wf
  rintro child parent ⟨name, rfl, -, henters⟩
  have hlength : (name :: parent).length < deepest :=
    length_lt_of_isDirectory (isDirectory_of_entersAt henters)
  rw [List.length_cons] at hlength
  show deepest - (parent.length + 1) < deepest - parent.length
  omega

end ScanPlan

namespace Walk

variable {plan : ScanPlan} {tree : FileTree}

/-! ## Walks that agree -/

/-- **Walks that agree on a file tree**: from every state that has `tree`, they do the same, and
leave the tree as it is. -/
def Agree {α : Type} (tree : FileTree) (walk other : Walk α) : Prop :=
  ∀ state : WalkState, state.tree = tree →
    walk.run state = other.run state ∧ (walk.run state).2.tree = tree

section Agree

variable {α β : Type}

/-- A walk that leaves the tree as it is does `Agree` with itself. -/
theorem agree_of_tree {walk : Walk α}
    (h : ∀ state : WalkState, (walk.run state).2.tree = state.tree) : Agree tree walk walk :=
  fun state htree => ⟨rfl, (h state).trans htree⟩

/-- Walks `Agree` if what they do first does, and what they do next for each value of it. -/
theorem Agree.bind {first first' : Walk α} {next next' : α → Walk β}
    (hfirst : Agree tree first first') (hnext : ∀ value, Agree tree (next value) (next' value)) :
    Agree tree (first >>= next) (first' >>= next') := by
  intro state htree
  obtain ⟨hsame, hreached⟩ := hfirst state htree
  rw [run_bind, run_bind, ← hsame]
  cases hrun : first.run state with
  | mk outcome reached =>
      rw [hrun] at hreached
      cases outcome with
      | ok value => exact hnext value reached hreached
      | error halt => exact ⟨rfl, hreached⟩

/-- After `get`, one may go on as with a state that has the tree. -/
theorem agree_get_bind {next next' : WalkState → Walk β}
    (hnext : ∀ state : WalkState, state.tree = tree → Agree tree (next state) (next' state)) :
    Agree tree (get >>= next) (get >>= next') := by
  intro state htree
  rw [run_bind, run_bind, run_get]
  exact hnext state htree state htree

/-- The step `record` does not change the tree. -/
theorem agree_record (isDirectory : Bool) (path : RelativePath) :
    Agree tree (record plan isDirectory path) (record plan isDirectory path) :=
  agree_of_tree fun state => by
    rw [run_record]
    cases plan.settings.classify (RelativePath.text path) <;> rfl

variable {descend other : RelativePath → Walk Unit} {path : RelativePath}

/-- The steps `visit` about a directory agree if `descend` and `other` do in it, should it be
entered. -/
theorem agree_visit {info : EntryInfo} (hinfo : tree.inspect (plan.place path) = .ok info)
    (hdescend : plan.entersAt tree path = true → Agree tree (descend path) (other path)) :
    Agree tree (visit descend plan info path) (visit other plan info path) := by
  by_cases hdirectory : info.isDirectory = true
  · intro state htree
    rw [visit, if_pos hdirectory, visit, if_pos hdirectory, run_directory, run_directory]
    cases hclass : plan.settings.classify (RelativePath.text path) with
    | error error => exact ⟨rfl, htree⟩
    | ok classification =>
        dsimp only
        cases henters : enters plan path info.isLink classification with
        | error error => exact ⟨rfl, htree⟩
        | ok entered =>
            cases entered with
            | false => exact ⟨rfl, htree⟩
            | true =>
                have hentered : plan.entersAt tree path = true := by
                  simp only [ScanPlan.entersAt, ScanPlan.look, hinfo, hclass, hdirectory, henters,
                    if_true]
                exact hdescend hentered _ htree
  · rw [visit, if_neg hdirectory, visit, if_neg hdirectory]
    exact (agree_record false path).bind fun _ => agree_of_tree fun _ => rfl

/-- The steps `contents` about entries agree if `descend` and `other` do in those that are entered.
-/
theorem agree_contents (hconductor : plan.conductor? = none) {parent : RelativePath}
    {names : List Name}
    (hdescend : ∀ name ∈ names, plan.entersAt tree (name :: parent) = true →
      Agree tree (descend (name :: parent)) (other (name :: parent))) :
    Agree tree (contents descend plan parent names false false)
      (contents other plan parent names false false) := by
  induction names with
  | nil => exact agree_of_tree fun _ => rfl
  | cons name names ih =>
      have hrest := ih fun name' hname' => hdescend name' (List.mem_cons_of_mem name hname')
      intro state htree
      cases hinfo : tree.inspect (plan.place (name :: parent)) with
      | error error =>
          rw [← htree, ScanPlan.place] at hinfo
          have hthrow (descend : RelativePath → Walk Unit) :
              (contents descend plan parent (name :: names) false false).run state =
                (.error (.unreadable error), state) := by
            simp only [contents, run_bind, run_get, hinfo, run_throw]
          rw [hthrow, hthrow]
          exact ⟨rfl, htree⟩
      | ok info =>
          have hfirst := agree_visit hinfo (hdescend name List.mem_cons_self)
          rw [run_contents_cons hconductor (htree ▸ hinfo),
            run_contents_cons hconductor (htree ▸ hinfo)]
          exact (hfirst.bind fun _ => hrest) state htree

end Agree

/-! ## The recursion without a budget -/

/-- **Lists a directory and visits what it holds**; `descend` is what is done in the directories
below that are entered. -/
def explore (descend : RelativePath → Walk Unit) (plan : ScanPlan) (path : RelativePath) :
    Walk Unit := do
  let place := RelativePath.below plan.base path
  match (← get).tree.list place with
  | .error error => warn path place error
  | .ok names => contents descend plan path names false false

/-- **The recursion of a walk**: what `descend` does in a directory is to `explore` it, with
`descend` again for the directories below. -/
def Recurs (plan : ScanPlan) (descend : RelativePath → Walk Unit) : Prop :=
  ∀ path, descend path = explore descend plan path

/-- Visits the base directory, with `descend` for what lies below it. -/
def rootBy (descend : RelativePath → Walk Unit) (plan : ScanPlan) : Walk Unit := do
  let _ ← conduct plan ⟨true, "", plan.base⟩
  let _ ← record plan true []
  descend []

/-- With a budget that is not spent, a directory is explored: `enter` unfolds once. -/
theorem enter_succ (budget : Nat) (path : RelativePath) :
    enter plan (budget + 1) path = explore (enter plan budget) plan path := rfl

/-- **What is done in a directory is a matter of the calls for the directories below**: `explore`
agrees with itself if `descend` and `other` agree on all that `Calls` relates to `path`. -/
theorem agree_explore (hconductor : plan.conductor? = none)
    {descend other : RelativePath → Walk Unit} {path : RelativePath}
    (hdescend : ∀ child, plan.Calls tree child path → Agree tree (descend child) (other child)) :
    Agree tree (explore descend plan path) (explore other plan path) := by
  refine agree_get_bind fun state htree => ?_
  cases hlist : state.tree.list (RelativePath.below plan.base path) with
  | error error => exact agree_of_tree fun _ => rfl
  | ok names =>
      refine agree_contents hconductor fun name hname henters => ?_
      exact hdescend _ ⟨name, rfl, ⟨names, htree ▸ hlist, hname⟩, henters⟩

/-- Entries are visited alike if `descend` and `other` do the same in each that is not too deep to
be a directory. -/
theorem contents_congr {descend other : RelativePath → Walk Unit} {parent : RelativePath}
    (h : parent.length + 1 < walkBudget → ∀ name, descend (name :: parent) = other (name :: parent))
    (names : List Name) (skipFiles skipDirectories : Bool) :
    contents descend plan parent names skipFiles skipDirectories =
      contents other plan parent names skipFiles skipDirectories := by
  induction names generalizing skipFiles skipDirectories with
  | nil => rfl
  | cons name names ih =>
      rw [contents, contents]
      refine bind_congr fun state => ?_
      cases hinfo : state.tree.inspect (RelativePath.below plan.base (name :: parent)) with
      | error error => rfl
      | ok info =>
          simp only [ih]
          by_cases hdirectory : info.isDirectory = true
          · -- what is done in a directory is all that the two differ in
            have hlength := length_lt_walkBudget ((ScanPlan.isDirectory_inspect hinfo).1 hdirectory)
            simp only [if_pos hdirectory, directory, h hlength name]
          · simp only [if_neg hdirectory]

/-- A directory is explored alike if `descend` and `other` do the same in what is not too deep below
it. -/
theorem explore_congr {descend other : RelativePath → Walk Unit} {path : RelativePath}
    (h : path.length + 1 < walkBudget → ∀ name, descend (name :: path) = other (name :: path)) :
    explore descend plan path = explore other plan path := by
  rw [explore, explore]
  simp only [contents_congr h]

/-- **Budgets that suffice make no difference**: both reach `walkBudget`, and no directory is deeper
than that. -/
theorem enter_eq_enter {budget more : Nat} {path : RelativePath}
    (hbudget : walkBudget ≤ path.length + (budget + 1))
    (hmore : walkBudget ≤ path.length + (more + 1)) :
    enter plan (budget + 1) path = enter plan (more + 1) path := by
  induction budget generalizing more path with
  | zero =>
      rw [enter_succ, enter_succ]
      exact explore_congr fun hdeeper => absurd hdeeper (by omega)
  | succ budget ih =>
      rw [enter_succ, enter_succ]
      refine explore_congr fun hdeeper name => ?_
      obtain ⟨more, rfl⟩ : ∃ less, more = less + 1 := ⟨more - 1, by omega⟩
      refine ih ?_ ?_
      · rw [List.length_cons]
        omega
      · rw [List.length_cons]
        omega

/-- **The budget is never spent**: `enter` with `walkBudget` does the recursion without one, also
under a conductor that changes the file tree. -/
theorem recurs_enter (plan : ScanPlan) : Recurs plan (enter plan walkBudget) := by
  intro path
  refine (enter_succ maxPathBytes path).trans (explore_congr fun _ name => ?_)
  -- one step down, one less than the budget is as good
  exact enter_eq_enter (by simp [walkBudget, maxPathBytes]) (by simp [walkBudget, maxPathBytes])

/-- What `Recurs` does the same as all else that does, by induction on how much deeper a directory
can be. -/
theorem Recurs.eq {descend other : RelativePath → Walk Unit} (hdescend : Recurs plan descend)
    (hother : Recurs plan other) (path : RelativePath) : descend path = other path := by
  induction hdepth : walkBudget - path.length generalizing path with
  | zero =>
      rw [hdescend path, hother path]
      exact explore_congr fun hdeeper => absurd hdeeper (by omega)
  | succ depth ih =>
      rw [hdescend path, hother path]
      refine explore_congr fun _ name => ih (name :: path) ?_
      rw [List.length_cons]
      omega

/-- **There is one recursion**: `enter plan walkBudget`, and all that `Recurs` is equal to it. -/
theorem existsUnique_recurs (plan : ScanPlan) : ∃! descend, Recurs plan descend :=
  ⟨enter plan walkBudget, recurs_enter plan, fun _ hother => funext (hother.eq (recurs_enter plan))⟩

/-- **A walk does the recursion**: `root` is `rootBy` what `Recurs`. -/
theorem root_eq {descend : RelativePath → Walk Unit} (hdescend : Recurs plan descend) :
    root plan = rootBy descend plan := by
  rw [root, rootBy, hdescend.eq (recurs_enter plan)]

/-! ## What is noted on the way -/

/-- **What a walk has noted** is about entries that a survey visits: the tree is as it was, and
every record names one of `[] :: plan.visited tree`. -/
structure Noted (plan : ScanPlan) (tree : FileTree) (state : WalkState) : Prop where
  /-- The tree is what it was. -/
  tree_eq : state.tree = tree
  /-- Each record is about an entry that is visited. -/
  exists_path : ∀ record ∈ state.tally.records,
    ∃ path ∈ [] :: plan.visited tree, record.name = RelativePath.text path

/-- A walk that keeps what is noted `Noted`, whether it returns or halts. -/
def Keeps {α : Type} (plan : ScanPlan) (tree : FileTree) (walk : Walk α) : Prop :=
  Leads (Noted plan tree) walk (fun _ => Noted plan tree) (fun _ => Noted plan tree)

section Keeps

variable {path : RelativePath} {state : WalkState}

/-- More may be noted if each record is about an entry of `[] :: plan.visited tree`. -/
theorem Noted.append (h : Noted plan tree state) {noted : Tally}
    (hnoted : ∀ record ∈ noted.records,
      ∃ path ∈ [] :: plan.visited tree, record.name = RelativePath.text path) :
    Noted plan tree { state with tally := state.tally ++ noted } where
  tree_eq := h.tree_eq
  exists_path record hrecord := by
    rcases List.mem_append.1 hrecord with hrecord | hrecord
    · exact h.exists_path record hrecord
    · exact hnoted record hrecord

/-- Entries that are visited are noted: `record` keeps what is `Noted`. -/
theorem keeps_record (isDirectory : Bool) (hpath : path ∈ [] :: plan.visited tree) :
    Keeps plan tree (record plan isDirectory path) := by
  intro state hstate
  rw [run_record]
  cases plan.settings.classify (RelativePath.text path) with
  | error error => exact hstate
  | ok classification =>
      exact hstate.append fun record hrecord => ⟨path, hpath, by rw [List.mem_singleton.1 hrecord]⟩

/-- Directories that are visited are noted: `visit` keeps what is `Noted` if `descend` does where it
enters. -/
theorem keeps_visit {descend : RelativePath → Walk Unit} {info : EntryInfo}
    (hpath : path ∈ [] :: plan.visited tree) (hinfo : tree.inspect (plan.place path) = .ok info)
    (hdescend : plan.entersAt tree path = true → Keeps plan tree (descend path)) :
    Keeps plan tree (visit descend plan info path) := by
  by_cases hdirectory : info.isDirectory = true
  · intro state hstate
    rw [visit, if_pos hdirectory, run_directory]
    cases hclass : plan.settings.classify (RelativePath.text path) with
    | error error => exact hstate
    | ok classification =>
        dsimp only
        have hreached {notFollowed : List String} : Noted plan tree { state with
            tally := state.tally ++
              ⟨[⟨true, RelativePath.text path, classification⟩], notFollowed, []⟩ } :=
          hstate.append fun record hrecord => ⟨path, hpath, by rw [List.mem_singleton.1 hrecord]⟩
        -- the directory is noted before it is asked whether to enter it
        cases henters : enters plan path info.isLink classification with
        | error error => exact hreached
        | ok entered =>
            cases entered with
            | false => exact hreached
            | true =>
                have hentered : plan.entersAt tree path = true := by
                  simp only [ScanPlan.entersAt, ScanPlan.look, hinfo, hclass, hdirectory, henters,
                    if_true]
                exact hdescend hentered _ hreached
  · rw [visit, if_neg hdirectory]
    exact (keeps_record false hpath).bind fun _ => leads_pure () fun _ h => h

/-- The entries of a directory are noted: `contents` keeps what is `Noted` if `descend` does in
those that are entered. -/
theorem keeps_contents (hconductor : plan.conductor? = none) {descend : RelativePath → Walk Unit}
    {names : List Name} (hnames : ∀ name ∈ names, name :: path ∈ plan.visited tree)
    (hdescend : ∀ name ∈ names, plan.entersAt tree (name :: path) = true →
      Keeps plan tree (descend (name :: path))) :
    Keeps plan tree (contents descend plan path names false false) := by
  induction names with
  | nil => exact leads_pure () fun _ h => h
  | cons name names ih =>
      have hrest := ih (fun other hother => hnames other (List.mem_cons_of_mem name hother))
        fun other hother => hdescend other (List.mem_cons_of_mem name hother)
      have hname := List.mem_cons_of_mem [] (hnames name List.mem_cons_self)
      intro state hstate
      cases hinfo : tree.inspect (plan.place (name :: path)) with
      | error error =>
          rw [← hstate.tree_eq, ScanPlan.place] at hinfo
          simp only [contents, run_bind, run_get, hinfo, run_throw]
          exact hstate
      | ok info =>
          have hfirst := keeps_visit hname hinfo (hdescend name List.mem_cons_self)
          rw [run_contents_cons hconductor (hstate.tree_eq ▸ hinfo)]
          exact (hfirst.bind fun _ => hrest) state hstate

/-- What `enter` notes in a directory is about entries that are visited, by induction on the budget.
-/
theorem keeps_enter (hconductor : plan.conductor? = none) (budget : Nat)
    (hreach : plan.ReachesBy tree (plan.entersAt tree · = true) path)
    (henters : path ≠ [] → plan.entersAt tree path = true) :
    Keeps plan tree (enter plan budget path) := by
  induction budget generalizing path with
  | zero => exact leads_pure () fun _ h => h
  | succ budget ih =>
      refine leads_get_bind fun state hstate => ?_
      cases hlist : state.tree.list (RelativePath.below plan.base path) with
      | error error =>
          intro state hstate
          rw [run_warn]
          exact hstate.append fun _ hnone => nomatch hnone
      | ok names =>
          rw [hstate.tree_eq] at hlist
          have hreached (name : Name) (hname : name ∈ names) :=
            ScanPlan.reachesBy_cons.2 ⟨hreach, ⟨names, hlist, hname⟩, henters⟩
          exact keeps_contents hconductor
            (fun name hname => ScanPlan.mem_descendants_iff.2
              ⟨List.cons_ne_nil name path, hreached name hname⟩)
            fun name hname hentered => ih (hreached name hname) fun _ => hentered

/-- **What a walk notes is about entries that are visited**, also if it halts: `root` keeps what is
`Noted`. -/
theorem keeps_root (hconductor : plan.conductor? = none) : Keeps plan tree (root plan) := by
  have hconduct : Keeps plan tree (conduct plan ⟨true, "", plan.base⟩) := fun state hstate => by
    rw [run_conduct hconductor]
    exact hstate
  refine hconduct.bind fun _ => (keeps_record true List.mem_cons_self).bind fun _ => ?_
  exact keeps_enter hconductor _ ScanPlan.reachesBy_nil fun h => absurd rfl h

end Keeps

end Walk

/-! ## Scans end -/

/-- **A scan that ends**, and how far it gets: what it calls, the recursion that it does, and bounds
on the links and names of all that it visits. -/
structure ScanPlan.Ends (plan : ScanPlan) (tree : FileTree) : Prop where
  /-- No directory leads to deeper and deeper calls. -/
  wellFounded_calls : WellFounded (plan.Calls tree)
  /-- These are all the calls: what is done in a directory is a matter of what is done in those. -/
  agree_explore : ∀ descend other path,
    (∀ child, plan.Calls tree child path → Walk.Agree tree (descend child) (other child)) →
      Walk.Agree tree (Walk.explore descend plan path) (Walk.explore other plan path)
  /-- There is one recursion without a budget. -/
  existsUnique_recurs : ∃! descend, Walk.Recurs plan descend
  /-- The walk does this recursion. -/
  run_root_eq : ∀ descend, Walk.Recurs plan descend → ∀ state : WalkState, state.tree = tree →
    (Walk.root plan).run state = (Walk.rootBy descend plan).run state
  /-- All that it notes is about entries that are visited, also if it halts. -/
  exists_path : ∀ visits, ∀ record ∈ ((Walk.root plan).run { tree, visits }).2.tally.records,
    ∃ path ∈ [] :: plan.visited tree, record.name = RelativePath.text path
  /-- Few of the directories above a visited entry are links. -/
  linksOn_le : ∀ path ∈ [] :: plan.visited tree, plan.linksOn tree path.tail ≤ maxLinks
  /-- No visited entry is far below the base directory. -/
  length_le : ∀ path ∈ [] :: plan.visited tree,
    path.length ≤ (maxLinks + 1) * tree.directoryCount

/-- On the way to an entry that is visited there are at most `maxLinks` links and `(maxLinks + 1) *
tree.directoryCount` names. -/
theorem ScanPlan.bounds_of_mem_visited {plan : ScanPlan} {tree : FileTree}
    (hbase : plan.base.IsNormal) {path : RelativePath} (hpath : path ∈ [] :: plan.visited tree) :
    plan.linksOn tree path.tail ≤ maxLinks ∧
      path.length ≤ (maxLinks + 1) * tree.directoryCount := by
  rcases List.mem_cons.1 hpath with rfl | hpath
  · exact ⟨Nat.zero_le _, Nat.zero_le _⟩
  · obtain ⟨hne, hreach⟩ := mem_descendants_iff.1 hpath
    obtain ⟨name, parent, rfl⟩ := List.exists_cons_of_ne_nil hne
    exact bounds_of_lists hbase (reachesBy_cons.1 hreach).2.1

/-- **Every scan without a conductor ends**, however the links of the file tree are arranged: `Ends`
holds for all settings, base directories and trees. -/
theorem Scanner.ends_planFrom (settings : ScanSettings) (prune : Bool) (text : String)
    (tree : FileTree) : (planFrom settings prune (.ofText text)).Ends tree where
  wellFounded_calls := ScanPlan.wellFounded_calls ..
  agree_explore _ _ _ := Walk.agree_explore rfl
  existsUnique_recurs := Walk.existsUnique_recurs _
  run_root_eq _ hdescend state _ := by rw [Walk.root_eq hdescend]
  exists_path visits := by
    have hkeeps : Walk.Keeps _ tree (Walk.root (planFrom settings prune (.ofText text))) :=
      Walk.keeps_root rfl
    replace hkeeps := hkeeps { tree, visits } ⟨rfl, fun _ hnone => nomatch hnone⟩
    cases hrun : (Walk.root (planFrom settings prune (.ofText text))).run { tree, visits } with
    | mk outcome reached =>
        rw [hrun] at hkeeps
        cases outcome with
        | ok done => exact hkeeps.exists_path
        | error halt => exact hkeeps.exists_path
  linksOn_le _ hpath := (ScanPlan.bounds_of_mem_visited (Path.isNormal_ofText text) hpath).1
  length_le _ hpath := (ScanPlan.bounds_of_mem_visited (Path.isNormal_ofText text) hpath).2

end TreeSift
