import TreeSift.Proofs.Scan.Specification

/-! # Tours

A conductor that answers by relative path cuts entries out of what a scan without one visits, in the
order in which they come. A `Tour` goes through these entries one by one: an entry is passed over if
its directory has not been visited or if an earlier answer in this directory asked to skip its kind,
and nothing more is visited after an answer that aborts (`Tour.mem_visited_iff`). -/

namespace TreeSift

/-- The answer that skips the later entries of a kind: `noMoreDirectories` if `isDirectory`, else
`noMoreFiles`. -/
def ScanAction.skipping (isDirectory : Bool) : ScanAction :=
  if isDirectory then .noMoreDirectories else .noMoreFiles

/-- **How far a scan has got**: the entries `visited`, latest last, and the `halt?` that ended it,
if one did. -/
structure Tour where
  /-- The entries that have been visited, in the order of visits. -/
  visited : List RelativePath
  /-- Why it ends before it is done. -/
  halt? : Option Halt

namespace ScanPlan

variable (plan : ScanPlan) (tree : FileTree) (answer : String → ScanAction)

/-- How the visit to `path` ends a scan: it does if the answer is `.abort`, or if the entry cannot
be looked at. -/
def haltAt (path : RelativePath) : Option Halt :=
  if answer (RelativePath.text path) = .abort then some .aborted
  else
    match plan.look tree path with
    | .error halt => some halt
    | .ok _ => none

/-- How the visit to the base directory ends a scan: it does if the answer about `""` is `.abort`,
or if its class is not found. -/
def haltAtBase : Option Halt :=
  if answer "" = .abort then some .aborted
  else
    match plan.settings.classify "" with
    | .error error => some (.undecided error)
    | .ok _ => none

end ScanPlan

namespace Tour

/-- An entry of the directory at `parent` is among `visited`, and was answered with `action`. -/
def Asked (tour : Tour) (answer : String → ScanAction) (parent : RelativePath)
    (action : ScanAction) : Prop :=
  ∃ path ∈ tour.visited, path.tail? = some parent ∧ answer (RelativePath.text path) = action

instance (tour : Tour) (answer : String → ScanAction) (parent : RelativePath)
    (action : ScanAction) : Decidable (tour.Asked answer parent action) :=
  inferInstanceAs (Decidable (∃ path ∈ tour.visited,
    path.tail? = some parent ∧ answer (RelativePath.text path) = action))

/-- The entries that have been noted: all of `visited` but one that was answered with `.abort`. -/
def passed (tour : Tour) (answer : String → ScanAction) : List RelativePath :=
  tour.visited.filter fun path => answer (RelativePath.text path) != .abort

/-- A scan that ends so has a result: its `halt?` is `none` or `.aborted`. -/
def HasResult (tour : Tour) : Prop :=
  tour.halt? = none ∨ tour.halt? = some .aborted

/-- **What becomes of the next entry**: it is passed over, or visited, or `inspect` fails on it and
ends the tour. -/
def step (plan : ScanPlan) (tree : FileTree) (answer : String → ScanAction) (tour : Tour)
    (path : RelativePath) : Tour :=
  if tour.halt? ≠ none ∨ path.tail ∉ tour.visited then tour
  else
    match tree.inspect (plan.place path) with
    | .error error => { tour with halt? := some (.unreadable error) }
    | .ok info =>
      if tour.Asked answer path.tail (.skipping info.isDirectory) then tour
      else ⟨tour.visited ++ [path], plan.haltAt tree answer path⟩

/-- What becomes of `paths`, one after the other: `step` folded over them. -/
def steps (plan : ScanPlan) (tree : FileTree) (answer : String → ScanAction)
    (paths : List RelativePath) (tour : Tour) : Tour :=
  paths.foldl (step plan tree answer) tour

/-- The tour that has visited the base directory, `[]`, and nothing else. -/
def start (plan : ScanPlan) (answer : String → ScanAction) : Tour :=
  ⟨[[]], plan.haltAtBase answer⟩

/-- **The tour through everything** that a scan without a conductor visits: `steps` along
`plan.visited tree`. -/
def full (plan : ScanPlan) (tree : FileTree) (answer : String → ScanAction) : Tour :=
  steps plan tree answer (plan.visited tree) (start plan answer)

variable {plan : ScanPlan} {tree : FileTree} {answer : String → ScanAction} {tour : Tour}
  {path : RelativePath} {paths : List RelativePath}

/-! ## Steps -/

/-- Whatever a `step` does, it is one of three things: nothing, an error of `inspect`, or a visit
with its `haltAt`. -/
theorem step_cases (plan : ScanPlan) (tree : FileTree) (answer : String → ScanAction) (tour : Tour)
    (path : RelativePath) :
    step plan tree answer tour path = tour ∨
      (∃ error, tour.halt? = none ∧ tree.inspect (plan.place path) = .error error ∧
        step plan tree answer tour path = { tour with halt? := some (.unreadable error) }) ∨
      (tour.halt? = none ∧ path.tail ∈ tour.visited ∧
        ¬tour.Asked answer path.tail (.skipping (plan.directoryAt tree path)) ∧
          step plan tree answer tour path =
            ⟨tour.visited ++ [path], plan.haltAt tree answer path⟩) := by
  rw [step]
  by_cases hover : tour.halt? ≠ none ∨ path.tail ∉ tour.visited
  · rw [if_pos hover]
    exact .inl rfl
  · rw [if_neg hover]
    obtain ⟨hhalt, htail⟩ : tour.halt? = none ∧ path.tail ∈ tour.visited := by simpa using hover
    cases hinfo : tree.inspect (plan.place path) with
    | error error => exact .inr (.inl ⟨error, hhalt, rfl, rfl⟩)
    | ok info =>
        simp only
        rw [(ScanPlan.inspect_eq_ok hinfo).1]
        split
        · exact .inl rfl
        · exact .inr (.inr ⟨hhalt, htail, ‹_›, rfl⟩)

/-- After a halt no `step` visits anything. -/
theorem step_of_halted (h : tour.halt? ≠ none) : step plan tree answer tour path = tour := by
  rw [step, if_pos (.inl h)]

/-- Below a directory that is not among `visited`, no `step` visits anything. -/
theorem step_of_not_mem (h : path.tail ∉ tour.visited) :
    step plan tree answer tour path = tour := by
  rw [step, if_pos (.inr h)]

section Step

variable (hhalt : tour.halt? = none) (htail : path.tail ∈ tour.visited)

include hhalt htail

/-- An entry on which `inspect` fails ends a tour as `.unreadable`. -/
theorem step_of_error {error : FileError} (hinfo : tree.inspect (plan.place path) = .error error) :
    step plan tree answer tour path = { tour with halt? := some (.unreadable error) } := by
  rw [step, if_neg (by simp [hhalt, htail]), hinfo]

variable {info : EntryInfo} (hinfo : tree.inspect (plan.place path) = .ok info)

include hinfo

/-- An entry is passed over if an answer in its directory has `Asked` to skip its kind. -/
theorem step_of_asked (hasked : tour.Asked answer path.tail (.skipping info.isDirectory)) :
    step plan tree answer tour path = tour := by
  rw [step, if_neg (by simp [hhalt, htail]), hinfo]
  exact if_pos hasked

/-- An entry is visited if no answer in its directory has `Asked` to skip its kind. -/
theorem step_of_not_asked (hasked : ¬tour.Asked answer path.tail (.skipping info.isDirectory)) :
    step plan tree answer tour path =
      ⟨tour.visited ++ [path], plan.haltAt tree answer path⟩ := by
  rw [step, if_neg (by simp [hhalt, htail]), hinfo]
  exact if_neg hasked

end Step

@[simp] theorem steps_nil : steps plan tree answer [] tour = tour := rfl

@[simp] theorem steps_cons :
    steps plan tree answer (path :: paths) tour =
      steps plan tree answer paths (step plan tree answer tour path) := rfl

@[simp] theorem steps_append {later : List RelativePath} :
    steps plan tree answer (paths ++ later) tour =
      steps plan tree answer later (steps plan tree answer paths tour) :=
  List.foldl_append

/-- Where no `step` does anything, `steps` does nothing. -/
theorem steps_eq_self (h : ∀ path ∈ paths, step plan tree answer tour path = tour) :
    steps plan tree answer paths tour = tour := by
  induction paths with
  | nil => rfl
  | cons path paths ih =>
      obtain ⟨hpath, hpaths⟩ := List.forall_mem_cons.1 h
      rw [steps_cons, hpath, ih hpaths]

/-- After a halt `steps` does nothing. -/
theorem steps_of_halted (h : tour.halt? ≠ none) : steps plan tree answer paths tour = tour :=
  steps_eq_self fun _ _ => step_of_halted h

/-- A tour with a `halt` stays as it is: `steps_of_halted` at its two fields. -/
@[simp] theorem steps_halted (visited : List RelativePath) (halt : Halt) :
    steps plan tree answer paths ⟨visited, some halt⟩ = ⟨visited, some halt⟩ :=
  steps_of_halted (by simp)

/-- **Visits come one after the other**, among the entries at hand and in their order: `steps`
appends a sublist of `paths` to `visited`. -/
theorem exists_visited_steps (plan : ScanPlan) (tree : FileTree) (answer : String → ScanAction)
    (paths : List RelativePath) (tour : Tour) :
    ∃ more, more.Sublist paths ∧
      (steps plan tree answer paths tour).visited = tour.visited ++ more := by
  induction paths generalizing tour with
  | nil => exact ⟨[], List.Sublist.refl [], (List.append_nil _).symm⟩
  | cons path paths ih =>
      obtain ⟨more, hmore, hvisited⟩ := ih (step plan tree answer tour path)
      rw [steps_cons, hvisited]
      rcases step_cases plan tree answer tour path with
        hstep | ⟨error, -, -, hstep⟩ | ⟨-, -, -, hstep⟩ <;> rw [hstep]
      · exact ⟨more, hmore.cons path, rfl⟩
      · exact ⟨more, hmore.cons path, rfl⟩
      · exact ⟨path :: more, hmore.cons_cons path, by simp⟩

/-- What holds at the start and is kept by every `step` holds after `steps`. -/
theorem steps_induction {P : Tour → Prop} (hstart : P tour)
    (hstep : ∀ tour, ∀ path ∈ paths, P tour → P (step plan tree answer tour path)) :
    P (steps plan tree answer paths tour) := by
  induction paths generalizing tour with
  | nil => exact hstart
  | cons path paths ih =>
      obtain ⟨hpath, hpaths⟩ : (∀ tour, P tour → P (step plan tree answer tour path)) ∧
          ∀ tour, ∀ other ∈ paths, P tour → P (step plan tree answer tour other) :=
        ⟨fun tour => hstep tour path List.mem_cons_self,
          fun tour other hother => hstep tour other (List.mem_cons_of_mem path hother)⟩
      exact ih (hpath tour hstart) hpaths

/-- What is in `descendants tree depth start` is in the directory at `start` or in one below it:
`start <:+ path.tail`. -/
theorem suffix_tail_of_mem_descendants {depth : Nat} {start : RelativePath}
    (h : path ∈ plan.descendants tree depth start) : start <:+ path.tail := by
  cases depth with
  | zero => simp [ScanPlan.descendants] at h
  | succ depth =>
      rw [ScanPlan.descendants, List.mem_flatMap] at h
      obtain ⟨child, hchild, hpath⟩ := h
      obtain ⟨name, rfl, -⟩ := ScanPlan.mem_entriesOf.1 hchild
      obtain ⟨inner, rfl⟩ := ScanPlan.suffix_of_mem_visits hpath
      cases inner with
      | nil => exact List.suffix_refl start
      | cons first inner => exact ⟨inner ++ [name], by simp⟩

/-- What a scan visits below an entry lies below it, whether or not `entersAt` holds of it. -/
theorem suffix_tail_of_mem_below {depth : Nat} {start : RelativePath}
    (h : path ∈ if plan.entersAt tree start then plan.descendants tree depth start else []) :
    start <:+ path.tail := by
  split at h
  · exact suffix_tail_of_mem_descendants h
  · cases h

/-- Below an entry where nothing has been visited, `steps` does nothing. -/
theorem steps_below_of_not_mem {depth : Nat} {start : RelativePath}
    (h : ∀ other ∈ tour.visited, ¬start <:+ other) :
    steps plan tree answer
      (if plan.entersAt tree start then plan.descendants tree depth start else []) tour = tour :=
  steps_eq_self fun _ hpath => step_of_not_mem fun hmem =>
    h _ hmem (suffix_tail_of_mem_below hpath)

/-! ## Halts -/

/-- A visit aborts a scan exactly if it is answered so: `haltAt` is `.aborted` only for the answer
`.abort`. -/
theorem haltAt_eq_aborted_iff :
    plan.haltAt tree answer path = some .aborted ↔ answer (RelativePath.text path) = .abort := by
  rw [ScanPlan.haltAt]
  split
  · exact iff_of_true rfl ‹_›
  · refine iff_of_false (fun h => ?_) ‹_›
    cases hlook : plan.look tree path with
    | error halt =>
        rw [hlook] at h
        cases h
        exact ScanPlan.look_ne_aborted path hlook
    | ok looked => simp [hlook] at h

/-- The visit to the base directory aborts a scan exactly if the answer about `""` is `.abort`. -/
theorem haltAtBase_eq_aborted_iff :
    plan.haltAtBase answer = some .aborted ↔ answer "" = .abort := by
  rw [ScanPlan.haltAtBase]
  split
  · exact iff_of_true rfl ‹_›
  · refine iff_of_false (fun h => ?_) ‹_›
    cases hclass : plan.settings.classify "" <;> simp [hclass] at h

/-- Whether a tour has been aborted is seen from the answers: it has exactly if `answer` gives
`.abort` for some entry of `visited`. -/
def AbortsByAnswer (answer : String → ScanAction) (tour : Tour) : Prop :=
  tour.halt? = some .aborted ↔ ∃ path ∈ tour.visited, answer (RelativePath.text path) = .abort

/-- Before a tour ends, no entry of `visited` was answered with `.abort`. -/
theorem AbortsByAnswer.ne_abort (h : AbortsByAnswer answer tour) (hhalt : tour.halt? = none) :
    ∀ path ∈ tour.visited, answer (RelativePath.text path) ≠ .abort := by
  intro path hpath habort
  have haborted := h.2 ⟨path, hpath, habort⟩
  rw [hhalt] at haborted
  cases haborted

/-- A `step` keeps `AbortsByAnswer`. -/
theorem AbortsByAnswer.step (h : AbortsByAnswer answer tour) :
    AbortsByAnswer answer (step plan tree answer tour path) := by
  rcases step_cases plan tree answer tour path with
    hstep | ⟨error, hhalt, -, hstep⟩ | ⟨hhalt, -, -, hstep⟩ <;> rw [hstep]
  · exact h
  · refine iff_of_false (by simp) ?_
    rintro ⟨other, hother, habort⟩
    exact h.ne_abort hhalt other hother habort
  · rw [AbortsByAnswer, haltAt_eq_aborted_iff]
    constructor
    · exact fun habort => ⟨path, List.mem_append_right _ List.mem_cons_self, habort⟩
    · rintro ⟨other, hother, habort⟩
      rcases List.mem_append.1 hother with hother | hother
      · exact absurd habort (h.ne_abort hhalt other hother)
      · rwa [List.mem_singleton.1 hother] at habort

/-- **Only answers abort a tour**: `AbortsByAnswer` holds after `steps` from the `start`. -/
theorem abortsByAnswer_steps (paths : List RelativePath) :
    AbortsByAnswer answer (steps plan tree answer paths (start plan answer)) := by
  refine steps_induction ?_ fun _ _ _ h => h.step
  rw [AbortsByAnswer, start, haltAtBase_eq_aborted_iff]
  simp [RelativePath.text]

/-- Where every entry of `plan.visited tree` can be looked at, the `full` tour has a result under
any answers. -/
theorem hasResult_full (hbase : ∃ c, plan.settings.classify "" = .ok c)
    (hlooks : ∀ path ∈ plan.visited tree, ∃ looked, plan.look tree path = .ok looked) :
    (full plan tree answer).HasResult := by
  refine steps_induction ?_ fun tour path hpath h => ?_
  · obtain ⟨c, hclass⟩ := hbase
    rw [HasResult, start, ScanPlan.haltAtBase, hclass]
    split
    · exact .inr rfl
    · exact .inl rfl
  · obtain ⟨looked, hlook⟩ := hlooks path hpath
    rcases step_cases plan tree answer tour path with
      hstep | ⟨error, -, hinfo, -⟩ | ⟨-, -, -, hstep⟩
    · rwa [hstep]
    · obtain ⟨info, hok⟩ := (ScanPlan.exists_look_eq_ok_iff.1 ⟨looked, hlook⟩).1
      rw [hinfo] at hok
      cases hok
    · rw [hstep, HasResult, ScanPlan.haltAt, hlook]
      split
      · exact .inr rfl
      · exact .inl rfl

/-! ## What a tour visits -/

/-- The base directory is always among the `visited` of a `full` tour. -/
theorem nil_mem_visited : [] ∈ (full plan tree answer).visited := by
  obtain ⟨more, -, hvisited⟩ :=
    exists_visited_steps plan tree answer (plan.visited tree) (start plan answer)
  rw [full, hvisited]
  exact List.mem_append_left _ List.mem_cons_self

/-- A `full` tour visits entries that a scan without a conductor visits, in their order. -/
theorem visited_sublist : (full plan tree answer).visited.Sublist ([] :: plan.visited tree) := by
  obtain ⟨more, hmore, hvisited⟩ :=
    exists_visited_steps plan tree answer (plan.visited tree)
      (start plan answer)
  rw [full, hvisited]
  exact hmore.cons_cons []

/-- A `full` tour visits in order: its `visited` are pairwise in the relation `Precedes`. -/
theorem precedes_visited : (full plan tree answer).visited.Pairwise RelativePath.Precedes :=
  ScanPlan.precedes_nil_cons_visited.sublist visited_sublist

/-- **The tour at an entry**: up to there it has visited what `Precedes` the entry, and the rest of
it goes on from the `step` there. -/
theorem exists_split (answer : String → ScanAction) (h : path ∈ plan.visited tree) :
    ∃ before later,
      full plan tree answer = steps plan tree answer later (step plan tree answer before path) ∧
        AbortsByAnswer answer before ∧
          (∀ other, other ∈ before.visited ↔
            other ∈ (full plan tree answer).visited ∧ RelativePath.Precedes other path) ∧
              ∀ other ∈ later, RelativePath.Precedes path other := by
  obtain ⟨front, back, hsplit⟩ := List.append_of_mem h
  have horder : ([] :: front ++ path :: back).Pairwise RelativePath.Precedes := by
    rw [List.cons_append, ← hsplit]
    exact ScanPlan.precedes_nil_cons_visited
  obtain ⟨-, hback, hfront⟩ := List.pairwise_append.1 horder
  have hfull : full plan tree answer = steps plan tree answer (path :: back)
      (steps plan tree answer front (start plan answer)) := by
    rw [full, hsplit, steps_append]
  -- what is visited lies within the paths that have been gone through, in their order
  obtain ⟨early, hearly, hbefore⟩ :=
    exists_visited_steps plan tree answer front (start plan answer)
  obtain ⟨late, hlate, hvisited⟩ := exists_visited_steps plan tree answer (path :: back)
    (steps plan tree answer front (start plan answer))
  refine ⟨_, back, hfull, abortsByAnswer_steps front, fun other => ?_, (List.pairwise_cons.1 hback).1⟩
  rw [hfull, hvisited, List.mem_append]
  constructor
  · intro hother
    refine ⟨.inl hother, hfront other ?_ path List.mem_cons_self⟩
    rw [hbefore] at hother
    exact (hearly.cons_cons []).subset hother
  · rintro ⟨hother | hother, hprecedes⟩
    · exact hother
    · -- what is visited from the entry on does not precede it
      rcases List.mem_cons.1 (hlate.subset hother) with rfl | hother
      · exact absurd hprecedes (RelativePath.not_precedes_self other)
      · exact absurd hprecedes ((List.pairwise_cons.1 hback).1 other hother).asymm

/-- An entry that a `full` tour visits, it visits in the `step` there, with no halt before and no
answer that has `Asked` to skip it. -/
theorem step_of_mem_visited (h : path ∈ plan.visited tree)
    (hvisited : path ∈ (full plan tree answer).visited) :
    ∃ before later,
      full plan tree answer = steps plan tree answer later
        ⟨before.visited ++ [path], plan.haltAt tree answer path⟩ ∧
        before.halt? = none ∧ path.tail ∈ before.visited ∧
          ¬before.Asked answer path.tail (.skipping (plan.directoryAt tree path)) ∧
            AbortsByAnswer answer before ∧
              ∀ other, other ∈ before.visited ↔
                other ∈ (full plan tree answer).visited ∧ RelativePath.Precedes other path := by
  obtain ⟨before, later, hfull, haborts, hbefore, hlater⟩ := exists_split answer h
  have hnot : path ∉ before.visited := fun hpath =>
    RelativePath.not_precedes_self path ((hbefore path).1 hpath).2
  have hstep : path ∈ (step plan tree answer before path).visited := by
    obtain ⟨late, hlate, hsplit⟩ :=
      exists_visited_steps plan tree answer later (step plan tree answer before path)
    rw [hfull, hsplit] at hvisited
    refine (List.mem_append.1 hvisited).resolve_right fun hlate' => ?_
    exact RelativePath.not_precedes_self path (hlater path (hlate.subset hlate'))
  rcases step_cases plan tree answer before path with
    heq | ⟨error, -, -, heq⟩ | ⟨hhalt, htail, hasked, heq⟩
  · exact absurd (heq ▸ hstep) hnot
  · rw [heq] at hstep
    exact absurd hstep hnot
  · rw [heq] at hfull
    exact ⟨before, later, hfull, hhalt, htail, hasked, haborts, hbefore⟩

/-- **Which entries a tour visits**, if it has a result: those whose directory it visits, unless an
answer in the directory asked before to skip their kind or an answer anywhere was `.abort` before.
-/
theorem mem_visited_iff (hresult : (full plan tree answer).HasResult) (h : path ∈ plan.visited tree) :
    path ∈ (full plan tree answer).visited ↔
      path.tail ∈ (full plan tree answer).visited ∧
        (∀ other ∈ (full plan tree answer).visited, other.tail? = some path.tail →
          RelativePath.Precedes other path →
            answer (RelativePath.text other) ≠ .skipping (plan.directoryAt tree path)) ∧
          ∀ other ∈ (full plan tree answer).visited, RelativePath.Precedes other path →
            answer (RelativePath.text other) ≠ .abort := by
  have hne : path ≠ [] := (ScanPlan.mem_descendants_iff.1 h).1
  constructor
  · intro hvisited
    obtain ⟨before, later, -, hhalt, htail, hasked, haborts, hbefore⟩ := step_of_mem_visited h hvisited
    refine ⟨((hbefore _).1 htail).1, fun other hother hsibling hprecedes hanswer => ?_,
      fun other hother hprecedes => ?_⟩
    · exact hasked ⟨other, (hbefore other).2 ⟨hother, hprecedes⟩, hsibling, hanswer⟩
    · exact haborts.ne_abort hhalt other ((hbefore other).2 ⟨hother, hprecedes⟩)
  · rintro ⟨htail, hasked, habort⟩
    obtain ⟨before, later, hfull, haborts, hbefore, -⟩ := exists_split answer h
    -- the tour has got there, as only an answer could have ended it
    have hhalt : before.halt? = none := by
      refine Classical.not_not.1 fun hhalt => ?_
      have heq : full plan tree answer = before := by
        rw [hfull, step_of_halted hhalt, steps_of_halted hhalt]
      rw [heq] at hresult habort
      obtain ⟨other, hother, hanswer⟩ := haborts.1 (hresult.resolve_left hhalt)
      exact habort other hother ((hbefore other).1 hother).2 hanswer
    have hparent : path.tail ∈ before.visited := (hbefore _).2 ⟨htail, RelativePath.tail_precedes hne⟩
    cases hinfo : tree.inspect (plan.place path) with
    | error error =>
        rw [hfull, step_of_error hhalt hparent hinfo, steps_of_halted (by simp)] at hresult
        rcases hresult with hresult | hresult <;> cases hresult
    | ok info =>
        have hnot : ¬before.Asked answer path.tail (.skipping info.isDirectory) := by
          rintro ⟨other, hother, hsibling, hanswer⟩
          obtain ⟨hother, hprecedes⟩ := (hbefore other).1 hother
          rw [(ScanPlan.inspect_eq_ok hinfo).1] at hanswer
          exact hasked other hother hsibling hprecedes hanswer
        obtain ⟨late, -, hvisited⟩ :=
          exists_visited_steps plan tree answer later (step plan tree answer before path)
        rw [hfull, hvisited, step_of_not_asked hhalt hparent hinfo hnot]
        simp

/-- What has `passed` could be looked at: `plan.look` gives its class and whether it is entered. -/
theorem look_of_mem_passed (hresult : (full plan tree answer).HasResult) (hne : path ≠ [])
    (h : path ∈ (full plan tree answer).passed answer) :
    ∃ looked, plan.look tree path = .ok looked := by
  obtain ⟨hvisited, hpassed⟩ := List.mem_filter.1 h
  have hpassed : answer (RelativePath.text path) ≠ .abort := by simpa using hpassed
  have hmem : path ∈ plan.visited tree :=
    (List.mem_cons.1 (visited_sublist.subset hvisited)).resolve_left hne
  obtain ⟨before, later, hfull, -⟩ := step_of_mem_visited hmem hvisited
  cases hlook : plan.look tree path with
  | ok looked => exact ⟨looked, rfl⟩
  | error halt =>
      have hhalt : plan.haltAt tree answer path = some halt := by
        rw [ScanPlan.haltAt, if_neg hpassed, hlook]
      rw [hfull, hhalt, steps_of_halted (by simp)] at hresult
      rcases hresult with hresult | hresult
      · cases hresult
      · cases hresult
        exact absurd hlook (ScanPlan.look_ne_aborted path)

end Tour

end TreeSift
