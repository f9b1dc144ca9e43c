import TreeSift.Proofs.Scan.Survey

/-! # Scans are independent of what came before

All that a scan keeps of the scans before it is what its conductor remembers. `Conductor.resume`
makes this a part of the conductor, and a scanner then scans as a new one does with the same
settings (`Scanner.run_eq_run_ofSettings`). -/

namespace TreeSift

/-- **The conductor that goes on** after it has been shown the visits `earlier`: it reacts to
`visits` as the given one does to `earlier ++ visits`. -/
def Conductor.resume (conductor : Conductor) (earlier : List Visit) : Conductor where
  react visits visit tree := conductor.react (earlier ++ visits) visit tree

/-- The plan whose conductor goes on after the visits `earlier`. -/
def ScanPlan.resume (plan : ScanPlan) (earlier : List Visit) : ScanPlan :=
  { plan with conductor? := plan.conductor?.map (·.resume earlier) }

/-- The state of a walk whose conductor has been shown the visits `earlier` before. -/
def WalkState.after (state : WalkState) (earlier : List Visit) : WalkState :=
  { state with visits := earlier ++ state.visits }

namespace Walk

/-- **A walk after earlier visits goes as another one** without them: both halt alike, and their
states differ only in the visits that come first. -/
def Resumes {α : Type} (earlier : List Visit) (walk fresh : Walk α) : Prop :=
  ∀ state : WalkState,
    walk.run (state.after earlier) = ((fresh.run state).1, (fresh.run state).2.after earlier)

variable {α β : Type} {earlier : List Visit} {plan : ScanPlan}

/-- Walks that return the same `value` at once go alike. -/
theorem resumes_pure (value : α) : Resumes earlier (pure value : Walk α) (pure value) :=
  fun _ => rfl

/-- Walks that `throw` the same halt at once go alike. -/
theorem resumes_throw (halt : Halt) : Resumes earlier (throw halt : Walk α) (throw halt) :=
  fun _ => rfl

/-- Walks that go alike may be followed by walks that do: `Resumes` is kept by `>>=`. -/
theorem Resumes.bind {first fresh : Walk α} {next other : α → Walk β}
    (hfirst : Resumes earlier first fresh) (hnext : ∀ value, Resumes earlier (next value) (other value)) :
    Resumes earlier (first >>= next) (fresh >>= other) := by
  intro state
  rw [run_bind, run_bind, hfirst state]
  cases hrun : fresh.run state with
  | mk outcome reached =>
      cases outcome with
      | ok value => exact hnext value reached
      | error halt => rfl

/-- Walks may `get` the state first, if they go alike whatever it is. -/
theorem resumes_get_bind {next other : WalkState → Walk β}
    (hnext : ∀ state, Resumes earlier (next (state.after earlier)) (other state)) :
    Resumes earlier (get >>= next) (get >>= other) := by
  intro state
  rw [run_bind, run_bind, run_get, run_get]
  exact hnext state state

/-- What is added to the tally does not depend on earlier visits: `change` sees the tally alone. -/
theorem resumes_modify (change : Tally → Tally) :
    Resumes earlier (modify fun state => { state with tally := change state.tally })
      (modify fun state => { state with tally := change state.tally }) :=
  fun _ => rfl

/-- Walks that take the answer of a pattern go alike: `ofAnswer` does not look at the state. -/
theorem resumes_ofAnswer (answer : Except CrossedGroup α) :
    Resumes earlier (ofAnswer answer) (ofAnswer answer) := by
  cases answer with
  | ok value => exact resumes_pure value
  | error error => exact resumes_throw _

/-- The step `record` notes an entry alike. -/
theorem resumes_record (isDirectory : Bool) (path : RelativePath) :
    Resumes earlier (record plan isDirectory path) (record (plan.resume earlier) isDirectory path) :=
  (resumes_ofAnswer _).bind fun classification =>
    (resumes_modify fun tally =>
      { tally with
        records := tally.records ++ [⟨isDirectory, RelativePath.text path, classification⟩] }).bind
      fun _ => resumes_pure classification

/-- A conductor that goes on is shown a visit as one that has been shown the earlier ones: `conduct`
gives both the same list. -/
theorem resumes_conduct (visit : Visit) :
    Resumes earlier (conduct plan visit) (conduct (plan.resume earlier) visit) := by
  intro state
  cases hconductor : plan.conductor? with
  | none =>
      have hresumed : (plan.resume earlier).conductor? = none := by
        rw [ScanPlan.resume, hconductor]
        rfl
      rw [run_conduct hconductor, run_conduct hresumed]
  | some conductor =>
      have hresumed : (plan.resume earlier).conductor? = some (conductor.resume earlier) := by
        rw [ScanPlan.resume, hconductor]
        rfl
      -- both conductors react to the earlier visits followed by those of the walk
      rw [run_conduct_of_conductor hconductor, run_conduct_of_conductor hresumed]
      simp only [WalkState.after, Conductor.resume, List.append_assoc]
      cases (conductor.react (earlier ++ state.visits) visit state.tree).outcome with
      | error raise => rfl
      | ok action => cases action <;> rfl

/-- The step `directory` notes and enters a directory alike. -/
theorem resumes_directory {descend other : RelativePath → Walk Unit}
    (hdescend : ∀ path, Resumes earlier (descend path) (other path)) (info : EntryInfo)
    (path : RelativePath) :
    Resumes earlier (directory descend plan info path)
      (directory other (plan.resume earlier) info path) := by
  refine (resumes_record true path).bind fun classification => ?_
  have henter : Resumes earlier
      (do if ← ofAnswer (enters plan path info.isLink classification) then descend path)
      (do if ← ofAnswer (enters plan path info.isLink classification) then other path) := by
    refine (resumes_ofAnswer _).bind fun entered => ?_
    cases entered with
    | false => exact resumes_pure ()
    | true => exact hdescend path
  by_cases hskip : (info.isLink && !plan.settings.followLinks) = true
  · have hresumed : (info.isLink && !(plan.resume earlier).settings.followLinks) = true := hskip
    simp only [if_pos hskip, if_pos hresumed]
    exact (resumes_modify fun tally =>
      { tally with notFollowed := tally.notFollowed ++ [RelativePath.text path] }).bind fun _ => henter
  · have hresumed : ¬(info.isLink && !(plan.resume earlier).settings.followLinks) = true := hskip
    simp only [if_neg hskip, if_neg hresumed]
    exact henter

/-- The loop `contents` shows and notes the entries of a directory alike. -/
theorem resumes_contents {descend other : RelativePath → Walk Unit}
    (hdescend : ∀ path, Resumes earlier (descend path) (other path)) (parent : RelativePath)
    (names : List Name) (skipFiles skipDirectories : Bool) :
    Resumes earlier (contents descend plan parent names skipFiles skipDirectories)
      (contents other (plan.resume earlier) parent names skipFiles skipDirectories) := by
  induction names generalizing skipFiles skipDirectories with
  | nil => exact resumes_pure ()
  | cons name names ih =>
      have hplace : RelativePath.below (plan.resume earlier).base (name :: parent) =
          RelativePath.below plan.base (name :: parent) := rfl
      rw [contents, contents, hplace]
      refine resumes_get_bind fun state => ?_
      -- both see the same file tree
      have htree : (state.after earlier).tree = state.tree := rfl
      rw [htree]
      cases state.tree.inspect (RelativePath.below plan.base (name :: parent)) with
      | error error => exact resumes_throw _
      | ok info =>
          simp only
          by_cases hskip : (if info.isDirectory then skipDirectories else skipFiles) = true
          · rw [if_pos hskip, if_pos hskip]
            exact ih skipFiles skipDirectories
          · rw [if_neg hskip, if_neg hskip]
            refine (resumes_conduct _).bind fun action => ?_
            by_cases hdirectory : info.isDirectory = true
            · simp only [if_pos hdirectory]
              exact (resumes_directory hdescend info _).bind fun _ => ih _ _
            · simp only [if_neg hdirectory]
              exact (resumes_record false _).bind fun _ => ih _ _

/-- The step `enter` lists a directory alike, by induction on its budget. -/
theorem resumes_enter (budget : Nat) (path : RelativePath) :
    Resumes earlier (enter plan budget path) (enter (plan.resume earlier) budget path) := by
  induction budget generalizing path with
  | zero => exact resumes_pure ()
  | succ budget ih =>
      have hplace : RelativePath.below (plan.resume earlier).base path =
          RelativePath.below plan.base path := rfl
      rw [enter, enter, hplace]
      refine resumes_get_bind fun state => ?_
      have htree : (state.after earlier).tree = state.tree := rfl
      rw [htree]
      cases state.tree.list (RelativePath.below plan.base path) with
      | error error =>
          exact resumes_modify fun tally =>
            { tally with
              warnings := tally.warnings ++ [⟨RelativePath.text path,
                listingWarning (RelativePath.below plan.base path) error⟩] }
      | ok names => exact resumes_contents ih path names false false

/-- **A walk after earlier visits** goes as `root` does for a plan whose conductor goes on after
them. -/
theorem resumes_root (plan : ScanPlan) (earlier : List Visit) :
    Resumes earlier (root plan) (root (plan.resume earlier)) :=
  (resumes_conduct _).bind fun _ => (resumes_record true []).bind fun _ => resumes_enter _ []

end Walk

namespace Scanner

/-- **A new scanner that goes on** where another one is: `ofSettings` with the same settings and the
same `prune`, and a conductor that remembers what that one's has been shown. -/
def renewed (scanner : Scanner) : Scanner :=
  ofSettings scanner.settings (scanner.conductor?.map (·.resume scanner.visits)) scanner.prune

/-- A run of `renewed` tells and makes of the file tree what a run of the scanner itself does. -/
theorem run_renewed (scanner : Scanner) (tree : FileTree) (base : Path) :
    (scanner.renewed.run tree base).1 = (scanner.run tree base).1 ∧
      (scanner.renewed.run tree base).2.2 = (scanner.run tree base).2.2 := by
  have hplan : scanner.renewed.plan base = (scanner.plan base).resume scanner.visits := rfl
  have hvisits : scanner.renewed.visits = [] := rfl
  have hresumes := Walk.resumes_root (scanner.plan base) scanner.visits { tree }
  have hstart : WalkState.after { tree } scanner.visits = { tree, visits := scanner.visits } := by
    rw [WalkState.after, List.append_nil]
  rw [hstart] at hresumes
  rw [run, run, hplan, hvisits, hresumes]
  cases (Walk.root ((scanner.plan base).resume scanner.visits)).run { tree } with
  | mk ended state =>
      cases ended with
      | ok done => exact ⟨rfl, rfl⟩
      | error halt =>
          cases halt with
          | raised raise => cases raise <;> exact ⟨rfl, rfl⟩
          | _ => exact ⟨rfl, rfl⟩

/-- **What `scan` tells its caller and makes of the file tree** is the same for a scanner and for
`renewed`, on its first scan. -/
theorem scan_renewed (scanner : Scanner) (tree : FileTree) :
    (scanner.renewed.scan tree).1 = (scanner.scan tree).1 ∧
      (scanner.renewed.scan tree).2.2 = (scanner.scan tree).2.2 := by
  have hsettings : scanner.renewed.settings = scanner.settings := rfl
  rw [scan, scan, hsettings]
  cases scanner.settings.basedir with
  | none => exact ⟨rfl, rfl⟩
  | some base =>
      cases checkBasedir tree (some base) with
      | some problem => exact ⟨rfl, rfl⟩
      | none => exact run_renewed scanner tree base

end Scanner

end TreeSift
