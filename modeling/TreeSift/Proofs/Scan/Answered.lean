import TreeSift.Proofs.Scan.Conducted
import TreeSift.Proofs.Scan.Tour

/-! # Scans under answers

A conductor that answers by relative path and leaves the file tree alone leads a walk through the
tour that its answers make of the entries (`Walk.follows_root`), and without a conductor every answer
is to go on. So a scan is told by its tour: what has been visited was shown to the conductor, and
what has passed is in the result (`Scanner.scan_answered`). -/

namespace TreeSift

/-- What is answered about the entry with a relative path: always `.proceed` without a conductor. -/
def answerOf (answer? : Option (String → ScanAction)) : String → ScanAction :=
  answer?.getD fun _ => .proceed

/-- What is shown to a conductor, if there is one: all `visits`, or none. -/
def shownTo (answer? : Option (String → ScanAction)) (visits : List Visit) : List Visit :=
  match answer? with
  | none => []
  | some _ => visits

@[simp] theorem answerOf_some (answer : String → ScanAction) : answerOf (some answer) = answer := rfl

@[simp] theorem shownTo_some (answer : String → ScanAction) (visits : List Visit) :
    shownTo (some answer) visits = visits := rfl

theorem shownTo_append (answer? : Option (String → ScanAction)) (visits later : List Visit) :
    shownTo answer? (visits ++ later) = shownTo answer? visits ++ shownTo answer? later := by
  cases answer? <;> rfl

namespace ScanPlan

variable (plan : ScanPlan) (tree : FileTree)

/-- An entry as a conductor is shown it: its kind, its `text` and its place. -/
def visitAt (path : RelativePath) : Visit :=
  ⟨plan.directoryAt tree path, RelativePath.text path, plan.place path⟩

end ScanPlan

namespace Tour

/-- How a walk ends that goes through a tour: as its `halt?` says, or without an error. -/
def ended (tour : Tour) : Except Halt Unit :=
  match tour.halt? with
  | none => .ok ()
  | some halt => .error halt

variable {plan : ScanPlan} {tree : FileTree} {answer : String → ScanAction} {tour : Tour}
  {path : RelativePath}

/-- An entry that has been visited is among the `passed` ones, unless the answer was `.abort`. -/
theorem passed_concat (visited : List RelativePath) (halt? : Option Halt) :
    (Tour.mk (visited ++ [path]) halt?).passed answer =
      (Tour.mk visited halt?).passed answer ++
        if answer (RelativePath.text path) = .abort then [] else [path] := by
  rw [passed, passed, List.filter_append]
  by_cases habort : answer (RelativePath.text path) = .abort <;> simp [habort]

end Tour

namespace Walk

/-! ## What a walk does at an entry -/

variable {plan : ScanPlan} {tree : FileTree} {answer? : Option (String → ScanAction)}

/-- A conductor that answers is shown the entry, and its answer lets the walk go on, or aborts it if
it is `.abort`. -/
theorem run_conduct_answered (hconductor : plan.conductor? = answer?.map Conductor.answering)
    (visit : Visit) (state : WalkState) :
    (conduct plan visit).run state =
      if answerOf answer? visit.name = .abort then
        (.error .aborted, { state with visits := state.visits ++ shownTo answer? [visit] })
      else
        (.ok (answerOf answer? visit.name),
          { state with visits := state.visits ++ shownTo answer? [visit] }) := by
  cases answer? with
  | none =>
      rw [run_conduct hconductor, if_neg (by simp [answerOf]), shownTo, List.append_nil]
      rfl
  | some answer =>
      simp only [run_conduct_of_conductor hconductor, Conductor.answering]
      split
      · next heq => cases heq
      · next heq => exact (if_pos (Except.ok.inj heq)).symm
      · next hne heq =>
        cases heq
        exact (if_neg hne).symm

/-! ## Walks follow tours -/

/-- **What a walk has come to** when it has followed a tour: the tree as it was, the tally of what
has `passed`, and the visits that were shown. -/
structure Stands (plan : ScanPlan) (tree : FileTree) (answer? : Option (String → ScanAction))
    (earlier : List Visit) (tour : Tour) (state : WalkState) : Prop where
  /-- The file tree is as it was. -/
  tree_eq : state.tree = tree
  /-- A conductor has been shown what has been visited. -/
  visits_eq : state.visits = earlier ++ shownTo answer? (tour.visited.map (plan.visitAt tree))
  /-- What has passed is noted, unless there will be no result. -/
  tally_eq : tour.HasResult → state.tally = plan.tallyOf tree (tour.passed (answerOf answer?))

/-- **A walk follows tours** from the state that `Stands` for one to a state that stands for `tour`:
it ends as this one does. -/
def Follows (plan : ScanPlan) (tree : FileTree) (answer? : Option (String → ScanAction))
    (earlier : List Visit) (walk : Walk Unit) (state : WalkState) (tour : Tour) : Prop :=
  ∃ reached, walk.run state = (tour.ended, reached) ∧
    Stands plan tree answer? earlier tour reached

/-- **A walk into a directory** that has just been visited follows a tour through its `descendants`.
It starts with the warning about the directory, if there is one. -/
def Descends (plan : ScanPlan) (tree : FileTree) (answer? : Option (String → ScanAction))
    (earlier : List Visit) (depth : Nat) (walk : Walk Unit) (path : RelativePath) : Prop :=
  ∀ (tour : Tour) (state : WalkState), tour.halt? = none → path ∈ tour.visited →
    (∀ other ∈ tour.visited, path <:+ other → other = path) →
      Stands plan tree answer? earlier tour
        { state with tally := state.tally ++ { warnings := plan.listingWarnings tree path } } →
          Follows plan tree answer? earlier walk state
            (Tour.steps plan tree (answerOf answer?) (plan.descendants tree depth path) tour)

variable {earlier : List Visit} {tour : Tour} {state : WalkState}

/-- A walk that does nothing stays where it `Stands`. -/
theorem follows_pure (h : Stands plan tree answer? earlier tour state) (hhalt : tour.halt? = none) :
    Follows plan tree answer? earlier (pure ()) state tour :=
  ⟨state, by rw [Tour.ended, hhalt]; rfl, h⟩

/-- A walk that goes on `Follows` on, unless the first part of it has come to a halt. -/
theorem Follows.bind {first next : Walk Unit} {between after : Tour}
    (hfirst : Follows plan tree answer? earlier first state between)
    (hnext : between.halt? = none → ∀ reached, Stands plan tree answer? earlier between reached →
      Follows plan tree answer? earlier next reached after)
    (hhalted : between.halt? ≠ none → after = between) :
    Follows plan tree answer? earlier (first >>= fun _ => next) state after := by
  obtain ⟨reached, hrun, hstands⟩ := hfirst
  cases hhalt : between.halt? with
  | none =>
      obtain ⟨last, hlast, hstands⟩ := hnext hhalt reached hstands
      refine ⟨last, ?_, hstands⟩
      rw [run_bind, hrun, Tour.ended, hhalt]
      exact hlast
  | some halt =>
      rw [hhalted (by simp [hhalt])]
      refine ⟨reached, ?_, hstands⟩
      rw [run_bind, hrun, Tour.ended, hhalt]

/-- What is shown of an entry is `visitAt` its path. -/
theorem visitAt_eq {path : RelativePath} {info : EntryInfo}
    (hinfo : tree.inspect (plan.place path) = .ok info) :
    (⟨info.isDirectory, RelativePath.text path, plan.place path⟩ : Visit) =
      plan.visitAt tree path := by
  rw [ScanPlan.visitAt, (ScanPlan.inspect_eq_ok hinfo).1]

/-- **A visit** that does not abort the walk is followed by what lies below the entry, if `entersAt`
holds of it. -/
theorem follows_visit {descend : RelativePath → Walk Unit} {path : RelativePath} {info : EntryInfo}
    {depth : Nat} (hne : path ≠ []) (hinfo : tree.inspect (plan.place path) = .ok info)
    (hhalt : tour.halt? = none) (hanswer : answerOf answer? (RelativePath.text path) ≠ .abort)
    (hfresh : ∀ other ∈ tour.visited, ¬path <:+ other)
    (hstands : Stands plan tree answer? earlier tour state)
    (hdescend : plan.entersAt tree path = true →
      Descends plan tree answer? earlier depth (descend path) path) :
    Follows plan tree answer? earlier (visit descend plan info path)
      { state with visits := state.visits ++ shownTo answer? [plan.visitAt tree path] }
      (Tour.steps plan tree (answerOf answer?)
        (if plan.entersAt tree path then plan.descendants tree depth path else [])
        ⟨tour.visited ++ [path], plan.haltAt tree (answerOf answer?) path⟩) := by
  have hshown : state.visits ++ shownTo answer? [plan.visitAt tree path] =
      earlier ++ shownTo answer? ((tour.visited ++ [path]).map (plan.visitAt tree)) := by
    rw [hstands.visits_eq, List.map_append, shownTo_append, List.append_assoc]
    rfl
  have hrun := @run_visit _ _ descend _ _ hinfo
    { state with visits := state.visits ++ shownTo answer? [plan.visitAt tree path] }
  cases hlook : plan.look tree path with
  | error halt =>
      rw [hlook] at hrun
      obtain ⟨tally, hrun⟩ := hrun
      have hhaltAt : plan.haltAt tree (answerOf answer?) path = some halt := by
        rw [ScanPlan.haltAt, if_neg hanswer, hlook]
      rw [hhaltAt, Tour.steps_of_halted (by simp)]
      refine ⟨_, hrun, hstands.tree_eq, hshown, fun hresult => ?_⟩
      -- an entry that cannot be looked at does not abort the walk
      rcases hresult with hresult | hresult <;> cases hresult
      exact absurd hlook (ScanPlan.look_ne_aborted path)
  | ok looked =>
      obtain ⟨noted, entered⟩ := looked
      rw [hlook] at hrun
      have hhaltAt : plan.haltAt tree (answerOf answer?) path = none := by
        rw [ScanPlan.haltAt, if_neg hanswer, hlook]
      have hentered : plan.entersAt tree path = entered := by simp only [ScanPlan.entersAt, hlook]
      have htally : state.tally ++ noted ++
          { warnings := if entered then plan.listingWarnings tree path else [] } =
            plan.tallyOf tree
              ((Tour.mk (tour.visited ++ [path]) none).passed (answerOf answer?)) := by
        rw [Tour.passed_concat, if_neg hanswer, ScanPlan.tallyOf_append,
          ScanPlan.tallyOf_singleton hne hlook, Tally.append_assoc, hstands.tally_eq (.inl hhalt)]
        rfl
      rw [hhaltAt, hentered, Follows, hrun]
      cases entered with
      | false =>
          exact follows_pure ⟨hstands.tree_eq, hshown, fun _ =>
            (Tally.append_empty _).symm.trans htally⟩ rfl
      | true =>
          refine hdescend hentered ⟨tour.visited ++ [path], none⟩ _ rfl (by simp)
            (fun other hother hsuffix => ?_) ⟨hstands.tree_eq, hshown, fun _ => htally⟩
          rcases List.mem_append.1 hother with hother | hother
          · exact absurd hsuffix (hfresh other hother)
          · exact List.mem_singleton.1 hother

/-- Where an entry has been visited and perhaps what lies below it, an answer has been `Asked` in
the directory if it had been before or is the one about the entry. -/
theorem asked_iff {answer : String → ScanAction} {name : Name} {parent : RelativePath}
    {before after : Tour} {more : List RelativePath}
    (hvisited : after.visited = before.visited ++ (name :: parent) :: more)
    (hmore : ∀ other ∈ more, name :: parent <:+ other.tail) (action : ScanAction) :
    after.Asked answer parent action ↔
      before.Asked answer parent action ∨ answer (RelativePath.text (name :: parent)) = action := by
  simp only [Tour.Asked, hvisited, List.mem_append, List.mem_cons]
  constructor
  · rintro ⟨other, hother | rfl | hother, hsibling, hanswer⟩
    · exact .inl ⟨other, hother, hsibling, hanswer⟩
    · exact .inr hanswer
    · -- what lies below the entry is in no directory above it
      obtain ⟨first, rest, rfl⟩ : ∃ first rest, other = first :: rest := by
        cases other with
        | nil => cases hsibling
        | cons first rest => exact ⟨first, rest, rfl⟩
      cases hsibling
      exact absurd (hmore _ hother).length_le (Nat.not_succ_le_self _)
  · rintro (⟨other, hother, hsibling, hanswer⟩ | hanswer)
    · exact ⟨other, .inl hother, hsibling, hanswer⟩
    · exact ⟨name :: parent, .inr (.inl rfl), rfl, hanswer⟩

/-- What a `step` asks is what the flag for the kind says. -/
theorem skips_iff (tour : Tour) (answer : String → ScanAction) (parent : RelativePath)
    (isDirectory : Bool) :
    (if isDirectory then decide (tour.Asked answer parent .noMoreDirectories)
      else decide (tour.Asked answer parent .noMoreFiles)) = true ↔
        tour.Asked answer parent (.skipping isDirectory) := by
  cases isDirectory with
  | false => exact decide_eq_true_iff
  | true => exact decide_eq_true_iff

/-- The flags say what was `Asked` before or is answered now. -/
theorem flag_eq {answer : String → ScanAction} {name : Name} {parent : RelativePath}
    {before after : Tour} {action : ScanAction}
    (h : after.Asked answer parent action ↔
      before.Asked answer parent action ∨ answer (RelativePath.text (name :: parent)) = action) :
    (decide (before.Asked answer parent action) ||
      answer (RelativePath.text (name :: parent)) == action) =
        decide (after.Asked answer parent action) := by
  rw [Bool.eq_iff_iff, decide_eq_true_iff, h, Bool.or_eq_true, decide_eq_true_iff, beq_iff_eq]

/-- Different entries of a directory have nothing in common below them: a path has one suffix of
each length. -/
theorem eq_of_suffix_of_suffix {name other : Name} {parent path : RelativePath}
    (h : name :: parent <:+ path) (hother : other :: parent <:+ path) : name = other := by
  have hsuffix := List.suffix_of_suffix_length_le h hother (Nat.le_refl _)
  exact (List.cons.inj (hsuffix.eq_of_length rfl)).1

/-- Where an entry has been visited and perhaps what lies below it, nothing has been visited below a
later entry of the directory, as names come in the order of their `text`. -/
theorem fresh_of_text_lt {name later : Name} {parent : RelativePath} {before after : Tour}
    {more : List RelativePath}
    (hvisited : after.visited = before.visited ++ (name :: parent) :: more)
    (hmore : ∀ other ∈ more, name :: parent <:+ other.tail) (hlt : name.text < later.text)
    (hfresh : ∀ other ∈ before.visited, ¬later :: parent <:+ other) :
    ∀ other ∈ after.visited, ¬later :: parent <:+ other := by
  intro other hother hsuffix
  rw [hvisited] at hother
  rcases List.mem_append.1 hother with hother | hother
  · exact hfresh other hother hsuffix
  · have hat : name :: parent <:+ other := by
      rcases List.mem_cons.1 hother with rfl | hother
      · exact List.suffix_refl _
      · exact (hmore other hother).trans (List.tail_suffix other)
    rw [eq_of_suffix_of_suffix hat hsuffix] at hlt
    exact String.lt_irrefl _ hlt

/-- **An entry and what comes after it.** The entry is shown to the conductor and visited, and so is
what lies below it; unless that ends the walk, `rest` goes on from a tour that has visited nothing
else. -/
theorem follows_entry (hconductor : plan.conductor? = answer?.map Conductor.answering)
    {descend : RelativePath → Walk Unit} {rest : ScanAction → Walk Unit} {path : RelativePath}
    {later : List RelativePath} {info : EntryInfo} {depth : Nat} (hne : path ≠ [])
    (hinfo : tree.inspect (plan.place path) = .ok info) (hhalt : tour.halt? = none)
    (hfresh : ∀ other ∈ tour.visited, ¬path <:+ other)
    (hstands : Stands plan tree answer? earlier tour state)
    (hdescend : plan.entersAt tree path = true →
      Descends plan tree answer? earlier depth (descend path) path)
    (hrest : ∀ between reached, between.halt? = none →
      (∃ more, between.visited = tour.visited ++ path :: more ∧ ∀ other ∈ more, path <:+ other.tail) →
        Stands plan tree answer? earlier between reached →
          Follows plan tree answer? earlier (rest (answerOf answer? (RelativePath.text path))) reached
            (Tour.steps plan tree (answerOf answer?) later between)) :
    Follows plan tree answer? earlier (do
        let action ← conduct plan (plan.visitAt tree path)
        visit descend plan info path
        rest action) state
      (Tour.steps plan tree (answerOf answer?) later
        (Tour.steps plan tree (answerOf answer?)
          (if plan.entersAt tree path then plan.descendants tree depth path else [])
            ⟨tour.visited ++ [path], plan.haltAt tree (answerOf answer?) path⟩)) := by
  rw [Follows, run_bind, run_conduct_answered hconductor]
  have hname : (plan.visitAt tree path).name = RelativePath.text path := rfl
  rw [hname]
  by_cases habort : answerOf answer? (RelativePath.text path) = .abort
  · -- the entry has been shown, but it is not noted
    rw [if_pos habort, Tour.haltAt_eq_aborted_iff.2 habort, Tour.steps_halted, Tour.steps_halted]
    refine ⟨_, rfl, hstands.tree_eq, ?_, fun _ => ?_⟩
    · rw [List.map_append, shownTo_append, ← List.append_assoc, ← hstands.visits_eq]
      rfl
    · rw [Tour.passed_concat, if_pos habort, List.append_nil]
      exact hstands.tally_eq (.inl hhalt)
  · rw [if_neg habort]
    -- the tour goes on behind the entry and everything below it
    have hvisit := follows_visit hne hinfo hhalt habort hfresh hstands hdescend
    refine hvisit.bind (fun hbetween reached hreached => ?_) Tour.steps_of_halted
    obtain ⟨more, hmore, hvisited⟩ := Tour.exists_visited_steps plan tree (answerOf answer?)
      (if plan.entersAt tree path then plan.descendants tree depth path else [])
      ⟨tour.visited ++ [path], plan.haltAt tree (answerOf answer?) path⟩
    rw [List.append_assoc, List.singleton_append] at hvisited
    exact hrest _ reached hbetween ⟨more, hvisited, fun other hother =>
      Tour.suffix_tail_of_mem_below (hmore.subset hother)⟩ hreached

/-- **The entries of a directory** are visited as a tour says, by induction on `names`. The flags
say what has been `Asked` in the directory. -/
theorem follows_contents (hconductor : plan.conductor? = answer?.map Conductor.answering)
    {depth : Nat} {descend : RelativePath → Walk Unit} {parent : RelativePath} {names : List Name}
    (hnames : names.Pairwise fun a b => a.text < b.text)
    (hdescend : ∀ name ∈ names, plan.entersAt tree (name :: parent) = true →
      Descends plan tree answer? earlier depth (descend (name :: parent)) (name :: parent))
    (hhalt : tour.halt? = none) (hparent : parent ∈ tour.visited)
    (hfresh : ∀ name ∈ names, ∀ other ∈ tour.visited, ¬name :: parent <:+ other)
    (hstands : Stands plan tree answer? earlier tour state) :
    Follows plan tree answer? earlier
      (contents descend plan parent names
        (decide (tour.Asked (answerOf answer?) parent .noMoreFiles))
        (decide (tour.Asked (answerOf answer?) parent .noMoreDirectories))) state
      (Tour.steps plan tree (answerOf answer?) ((names.map (· :: parent)).flatMap fun child =>
        child :: if plan.entersAt tree child then plan.descendants tree depth child else [])
          tour) := by
  -- on the names that are left: tour and state move on together, and the later names stay fresh
  induction names generalizing tour state with
  | nil => exact follows_pure hstands hhalt
  | cons name names ih =>
      obtain ⟨hlater, hnames⟩ := List.pairwise_cons.1 hnames
      have hrest (tour : Tour) (state : WalkState) := @ih tour state hnames
        fun other hother => hdescend other (List.mem_cons_of_mem name hother)
      have hunvisited : ∀ other ∈ tour.visited, ¬name :: parent <:+ other :=
        hfresh name List.mem_cons_self
      have hfresh' : ∀ later ∈ names, ∀ other ∈ tour.visited, ¬later :: parent <:+ other :=
        fun later hlater => hfresh later (List.mem_cons_of_mem name hlater)
      have htail : (name :: parent).tail ∈ tour.visited := hparent
      rw [List.map_cons, List.flatMap_cons, List.cons_append, Tour.steps_cons, Tour.steps_append]
      cases hinfo : tree.inspect (plan.place (name :: parent)) with
      | error error =>
          -- an entry that cannot be examined ends the walk, and the tour with it
          rw [Tour.step_of_error hhalt htail hinfo, Tour.steps_halted, Tour.steps_halted]
          refine ⟨state, ?_, hstands.tree_eq, hstands.visits_eq, fun hresult => ?_⟩
          · rw [← hstands.tree_eq, ScanPlan.place] at hinfo
            simp only [contents, run_bind, run_get, hinfo, run_throw]
            rfl
          · rcases hresult with hresult | hresult <;> cases hresult
      | ok info =>
          have hinfo' := hinfo
          rw [← hstands.tree_eq] at hinfo'
          have hskips := skips_iff tour (answerOf answer?) parent info.isDirectory
          by_cases hasked : tour.Asked (answerOf answer?) parent (.skipping info.isDirectory)
          -- entries of this kind are skipped: neither the walk nor the tour notes anything
          · rw [Tour.step_of_asked hhalt htail hinfo hasked, Tour.steps_below_of_not_mem hunvisited,
              Follows, run_contents_skip hinfo' (hskips.2 hasked)]
            exact hrest tour state hhalt hparent hfresh' hstands
          · rw [Tour.step_of_not_asked hhalt htail hinfo hasked, Follows,
              run_contents_visit hinfo' (mt hskips.1 hasked), visitAt_eq hinfo]
            refine follows_entry hconductor (List.cons_ne_nil name parent) hinfo hhalt hunvisited
              hstands (hdescend name List.mem_cons_self) fun between reached hbetween hmore hreached => ?_
            obtain ⟨more, hvisited, hbelow⟩ := hmore
            -- the flags take in what has been answered about this entry
            rw [flag_eq (asked_iff hvisited hbelow _), flag_eq (asked_iff hvisited hbelow _)]
            refine hrest between reached hbetween ?_ (fun later hmem => ?_) hreached
            · rw [hvisited]
              exact List.mem_append_left _ hparent
            · exact fresh_of_text_lt hvisited hbelow (hlater later hmem) (hfresh' later hmem)

/-- **A directory that is entered** is followed through a tour of what lies below it: `enter` with
the budget that the depth leaves `Descends`. -/
theorem descends_enter (hconductor : plan.conductor? = answer?.map Conductor.answering) (depth : Nat)
    {path : RelativePath} (hdirectory : tree.isDirectory (plan.place path) = .ok true)
    (hdepth : path.length + depth = walkBudget) :
    Descends plan tree answer? earlier depth (enter plan depth path) path := by
  induction depth generalizing path with
  | zero =>
      -- no directory is as deep as the budget
      have hlength := length_lt_walkBudget hdirectory
      omega
  | succ depth ih =>
      intro tour state hhalt hpath hfresh hstands
      have htree := hstands.tree_eq
      rw [ScanPlan.descendants, ScanPlan.entriesOf]
      rw [ScanPlan.listingWarnings] at hstands
      cases hlist : tree.list (plan.place path) with
      | error error =>
          rw [hlist] at hstands
          refine ⟨_, ?_, hstands⟩
          rw [← htree, ScanPlan.place] at hlist
          simp only [enter, run_bind, run_get, hlist, run_warn, List.flatMap_nil, Tour.steps_nil]
          rw [Tour.ended, hhalt]
          rfl
      | ok names =>
          have hstands : Stands plan tree answer? earlier tour state := by
            rw [hlist, Tally.append_empty] at hstands
            exact hstands
          -- nothing in the directory has been visited, so nothing has been answered there
          have hasked (action : ScanAction) : ¬tour.Asked (answerOf answer?) path action := by
            rintro ⟨other, hother, hsibling, -⟩
            cases other with
            | nil => cases hsibling
            | cons name parent =>
                cases hsibling
                have heq := hfresh _ hother (List.suffix_cons name path)
                exact Nat.not_succ_le_self _ (Nat.le_of_eq (congrArg List.length heq))
          have hcontents := @follows_contents plan tree answer? earlier tour state hconductor depth
            (enter plan depth) path names (FileTree.ascending_of_list hlist)
            (fun name _ henters => ih (ScanPlan.isDirectory_of_entersAt henters) (by simp; omega))
            hhalt hpath (fun name _ other hother hsuffix => ?_) hstands
          · rw [decide_eq_false (hasked _), decide_eq_false (hasked _)] at hcontents
            obtain ⟨reached, hrun, hreached⟩ := hcontents
            refine ⟨reached, ?_, hreached⟩
            rw [← htree, ScanPlan.place] at hlist
            simp only [enter, run_bind, run_get, hlist]
            exact hrun
          · have heq := hfresh other hother ((List.suffix_cons name path).trans hsuffix)
            rw [heq] at hsuffix
            exact Nat.not_succ_le_self _ hsuffix.length_le

/-- **A walk follows the tour through everything**: `root` ends as the `full` tour does. -/
theorem follows_root (hconductor : plan.conductor? = answer?.map Conductor.answering)
    (hdirectory : tree.isDirectory (plan.place []) = .ok true) (earlier : List Visit) :
    Follows plan tree answer? earlier (root plan) { tree, visits := earlier }
      (Tour.full plan tree (answerOf answer?)) := by
  have hvisit : (⟨true, "", plan.base⟩ : Visit) = plan.visitAt tree [] := by
    rw [ScanPlan.visitAt, ScanPlan.directoryAt_eq_true.2 hdirectory]
    rfl
  rw [Follows, Tour.full, Tour.start]
  simp only [root, run_bind, run_conduct_answered hconductor]
  rw [hvisit]
  by_cases habort : answerOf answer? "" = .abort
  · -- the base directory has been shown, but it is not noted
    rw [if_pos habort, Tour.haltAtBase_eq_aborted_iff.2 habort, Tour.steps_halted]
    refine ⟨_, rfl, rfl, rfl, fun _ => ?_⟩
    rw [Tour.passed, List.filter_cons_of_neg (by simpa [RelativePath.text] using habort)]
    rfl
  · rw [if_neg habort]
    simp only [run_record, RelativePath.text]
    cases hclass : plan.settings.classify "" with
    | error error =>
        have hhalt : plan.haltAtBase (answerOf answer?) = some (.undecided error) := by
          rw [ScanPlan.haltAtBase, if_neg habort, hclass]
        rw [hhalt, Tour.steps_halted]
        refine ⟨_, rfl, rfl, rfl, fun hresult => ?_⟩
        rcases hresult with hresult | hresult <;> cases hresult
    | ok c =>
        have hhalt : plan.haltAtBase (answerOf answer?) = none := by
          rw [ScanPlan.haltAtBase, if_neg habort, hclass]
        have hdescends : Descends plan tree answer? earlier walkBudget
            (enter plan walkBudget []) [] :=
          descends_enter hconductor _ hdirectory (by simp)
        rw [hhalt]
        refine hdescends ⟨[[]], none⟩ _ rfl List.mem_cons_self (fun other hother _ => ?_)
          ⟨rfl, rfl, fun _ => ?_⟩
        · exact List.mem_singleton.1 hother
        · rw [Tour.passed, List.filter_cons_of_pos (by simpa [RelativePath.text] using habort),
            List.filter_nil, ScanPlan.tallyOf_nil_singleton hdirectory hclass]
          rfl

end Walk

/-! ## Scans follow tours -/

namespace ScanPlan

/-- The plan with `conductor?` in place of its own. -/
def conductedBy (plan : ScanPlan) (conductor? : Option Conductor) : ScanPlan :=
  { plan with conductor? }

/-- What would be visited below a directory does not depend on the conductor: `descendants` asks
none. -/
theorem descendants_conductedBy (plan : ScanPlan) (tree : FileTree) (conductor? : Option Conductor)
    (depth : Nat) (start : RelativePath) :
    (plan.conductedBy conductor?).descendants tree depth start =
      plan.descendants tree depth start := by
  induction depth generalizing start with
  | zero => rfl
  | succ depth ih =>
      rw [descendants, descendants]
      simp only [ih]
      rfl

/-- What would be visited does not depend on the conductor: `visited` asks none. -/
theorem visited_conductedBy (plan : ScanPlan) (tree : FileTree) (conductor? : Option Conductor) :
    (plan.conductedBy conductor?).visited tree = plan.visited tree :=
  plan.descendants_conductedBy tree conductor? _ []

/-- What is noted does not depend on the conductor: `tallyOf` asks none. -/
theorem tallyOf_conductedBy (plan : ScanPlan) (tree : FileTree) (conductor? : Option Conductor)
    (paths : List RelativePath) :
    (plan.conductedBy conductor?).tallyOf tree paths = plan.tallyOf tree paths := rfl

/-- What is shown does not depend on the conductor: `visitAt` asks none. -/
theorem visitAt_conductedBy (plan : ScanPlan) (tree : FileTree) (conductor? : Option Conductor) :
    (plan.conductedBy conductor?).visitAt tree = plan.visitAt tree := rfl

end ScanPlan

namespace Tour

/-- A `full` tour depends on the answers, not on who gives them. -/
theorem full_conductedBy (plan : ScanPlan) (tree : FileTree) (conductor? : Option Conductor)
    (answer : String → ScanAction) :
    full (plan.conductedBy conductor?) tree answer = full plan tree answer := by
  rw [full, ScanPlan.visited_conductedBy]
  rfl

/-- What a scan tells its caller that has followed a tour and found the tally `found`: its result,
unless the `halt?` of the tour is a failure. -/
def outcome (tour : Tour) (found : Tally) : Except ScanFailure ScanResult :=
  match tour.halt? with
  | none | some .aborted => .ok found.result
  | some (.raised raise) => .error (.raised raise)
  | some (.unreadable error) => .error (.unreadable error)
  | some (.undecided error) => .error (.undecided error)

/-- A scan has a result exactly if its tour `HasResult`, and then it is that of the tally. -/
theorem outcome_eq_ok_iff {tour : Tour} {found : Tally} {result : ScanResult} :
    tour.outcome found = .ok result ↔ tour.HasResult ∧ found.result = result := by
  rw [outcome, HasResult]
  cases tour.halt? with
  | none => simp
  | some halt => cases halt <;> simp

end Tour

namespace Scanner

/-- A scanner under the answers of `answer?`, or without a conductor. -/
def answered (settings : ScanSettings) (answer? : Option (String → ScanAction)) (prune : Bool) :
    Scanner :=
  ofSettings settings (answer?.map Conductor.answering) prune

variable {settings : ScanSettings} {prune : Bool} {tree : FileTree} {base : Path}

/-- **A scan under answers follows its tour**: what the `full` tour visits has been shown to the
conductor, what has `passed` is told of, and the file tree stays as it is. -/
theorem scan_answered (answer? : Option (String → ScanAction))
    (hbase : settings.basedir = some base) (hcheck : checkBasedir tree (some base) = none) :
    let plan := planFrom settings prune base
    let tour := Tour.full plan tree (answerOf answer?)
    ((answered settings answer? prune).scan tree).1 =
        tour.outcome (plan.tallyOf tree (tour.passed (answerOf answer?))) ∧
      ((answered settings answer? prune).scan tree).2.1.visits =
          shownTo answer? (tour.visited.map (plan.visitAt tree)) ∧
        ((answered settings answer? prune).scan tree).2.2 = tree := by
  intro plan tour
  have hdirectory := checkBasedir_eq_none_iff.1 hcheck
  obtain ⟨reached, hrun, htree, hvisits, htally⟩ := @Walk.follows_root
    (plan.conductedBy (answer?.map Conductor.answering)) tree answer? rfl hdirectory []
  rw [Tour.full_conductedBy] at hrun hvisits htally
  rw [ScanPlan.visitAt_conductedBy] at hvisits
  rw [ScanPlan.tallyOf_conductedBy] at htally
  have hscan : (answered settings answer? prune).scan tree =
      (answered settings answer? prune).run tree base := scan_eq_run hbase hcheck
  have hwalk : (Walk.root ((answered settings answer? prune).plan base)).run
      { tree, visits := (answered settings answer? prune).visits } = (tour.ended, reached) := hrun
  rw [hscan, run, hwalk, Tour.ended, Tour.outcome]
  -- only a tour that ends or is aborted has a result to tell of
  cases hhalt : tour.halt? with
  | none =>
      rw [← htally (.inl hhalt)]
      exact ⟨rfl, hvisits, htree⟩
  | some halt =>
      cases halt with
      | aborted =>
          rw [← htally (.inr hhalt)]
          exact ⟨rfl, hvisits, htree⟩
      | raised raise => cases raise <;> exact ⟨rfl, hvisits, htree⟩
      | unreadable error => exact ⟨rfl, hvisits, htree⟩
      | undecided error => exact ⟨rfl, hvisits, htree⟩

end Scanner

end TreeSift
