import TreeSift.Proofs.Scan.Conducted
import TreeSift.Proofs.Scan.Pruning
import TreeSift.Proofs.Scan.Resumed
import TreeSift.Scan.Session

/-! # The life of a scanner

Whatever a scanner is asked, and whatever becomes of the file tree and of its scans meanwhile, it
has the result of the last scan that started from a directory that could be used, and none if that
scan failed. `Session.step_settled` says that each request keeps this up, and `Session.rests_run`
puts together what holds of a scanner between any two requests.

One end of a scan leaves the phase behind: a conductor that raises an `exit`. No `Scanner.phase` is
set then, so the scanner counts as `scanning` until the next scan (`Session.phase_run_of_isExit`,
`Session.not_settles_exiting_unpruned`), and what `rests_run` says of phases is said of all other
ends. -/

namespace TreeSift

namespace Scanner

variable {scanner : Scanner} {tree : FileTree}

/-- **The phase that the last scan leads to**: `notYetScanned` without one and after one that fails,
`scanned` after one with a result, and `scanning` after one that an `exit` has ended. -/
def phaseAfter : Option (Except ScanFailure ScanResult) → ScanPhase
  | none => .notYetScanned
  | some (.ok _) => .scanned
  | some (.error (.raised (.exit _))) => .scanning
  | some (.error _) => .notYetScanned

/-- **A run leaves its own result behind**, or none if it fails, and the phase that `phaseAfter`
gives for its outcome. -/
theorem run_settles (scanner : Scanner) (tree : FileTree) (base : Path) :
    (scanner.run tree base).2.1.result? = (scanner.run tree base).1.toOption ∧
      (scanner.run tree base).2.1.phase = phaseAfter (some (scanner.run tree base).1) := by
  rw [run]
  cases (Walk.root (scanner.plan base)).run { tree, visits := scanner.visits } with
  | mk ended state =>
      cases ended with
      | ok done => exact ⟨rfl, rfl⟩
      | error halt =>
          cases halt with
          | raised raise => cases raise <;> exact ⟨rfl, rfl⟩
          | _ => exact ⟨rfl, rfl⟩

/-- **A scan that starts leaves its own result behind**, or none if it fails: `scan` is `run` once
`checkBasedir` finds no problem. -/
theorem scan_settles (hcheck : checkBasedir tree scanner.settings.basedir = none) :
    (scanner.scan tree).2.1.result? = (scanner.scan tree).1.toOption ∧
      (scanner.scan tree).2.1.phase = phaseAfter (some (scanner.scan tree).1) := by
  obtain ⟨base, hbase, hcheck⟩ := exists_basedir hcheck
  rw [scan_eq_run hbase hcheck]
  exact run_settles scanner tree base

end Scanner

namespace Session

/-! ## The last scan of a session -/

/-- What the request `.scan` tells if `checkBasedir` finds no problem, and nothing for all others.
-/
def started? (session : Session) (request : ScannerRequest) :
    Option (Except ScanFailure ScanResult) :=
  match request with
  | .scan =>
    match checkBasedir session.tree session.scanner.settings.basedir with
    | none => some (session.scanner.scan session.tree).1
    | some _ => none
  | _ => none

/-- **The outcome of the last scan** that requests make start: the latest answer of `started?` along
the run. -/
def lastScan? (session : Session) : List ScannerRequest → Option (Except ScanFailure ScanResult)
  | [] => none
  | request :: requests =>
    ((session.perform request).2.lastScan? requests).or (session.started? request)

/-- **A scanner has settled** on the outcome `last?` of the last scan: it holds the result, if there
is one, and is in the phase `phaseAfter last?`. -/
structure Settled (session : Session) (last? : Option (Except ScanFailure ScanResult)) : Prop where
  /-- The result is that of the last scan. -/
  result_eq : session.scanner.result? = last?.bind (·.toOption)
  /-- The phase is the one that this leads to. -/
  phase_eq : session.scanner.phase = Scanner.phaseAfter last?

variable {session : Session} {last? : Option (Except ScanFailure ScanResult)}

/-- What a scanner has `Settled` on depends on its `result?` and its `phase` only. -/
theorem Settled.congr {other : Session} (h : session.Settled last?)
    (hresult : other.scanner.result? = session.scanner.result?)
    (hphase : other.scanner.phase = session.scanner.phase) : other.Settled last? where
  result_eq := hresult.trans h.result_eq
  phase_eq := hphase.trans h.phase_eq

/-- **Only scans change the result and the phase**: all requests but `.scan` keep `result?` and
`phase`. -/
theorem perform_keeps (session : Session) {request : ScannerRequest} (hrequest : request ≠ .scan) :
    (session.perform request).2.scanner.result? = session.scanner.result? ∧
      (session.perform request).2.scanner.phase = session.scanner.phase := by
  cases request with
  | scan => exact absurd rfl hrequest
  | setIncludes patterns =>
      rw [perform, Scanner.setIncludes]
      cases patterns.compile with
      | error error => exact ⟨rfl, rfl⟩
      | ok includes => exact ⟨rfl, rfl⟩
  | setExcludes patterns =>
      rw [perform, Scanner.setExcludes]
      cases patterns.compile with
      | error error => exact ⟨rfl, rfl⟩
      | ok excludes => exact ⟨rfl, rfl⟩
  | _ => exact ⟨rfl, rfl⟩

/-- What is not `.scan` makes none start: `started?` answers `none`. -/
theorem started?_of_ne {request : ScannerRequest} (hrequest : request ≠ .scan) :
    session.started? request = none := by
  cases request with
  | scan => exact absurd rfl hrequest
  | _ => rfl

/-- **Each request settles the scanner** on the outcome of the scan that it makes start, or leaves
it with what it has `Settled` on. -/
theorem step_settled (h : session.Settled last?) (request : ScannerRequest) :
    (session.perform request).2.Settled ((session.started? request).or last?) := by
  by_cases hrequest : request = .scan
  · subst hrequest
    cases hcheck : checkBasedir session.tree session.scanner.settings.basedir with
    | some problem =>
        -- the scan is refused, and nothing has changed
        have hstarted : session.started? .scan = none := by
          simp only [started?, hcheck]
        rw [hstarted, Option.none_or, perform, scan, Scanner.scan_of_problem hcheck]
        exact h
    | none =>
        have hstarted : session.started? .scan = some (session.scanner.scan session.tree).1 := by
          simp only [started?, hcheck]
        rw [hstarted, Option.some_or]
        obtain ⟨hresult, hphase⟩ := Scanner.scan_settles hcheck
        exact ⟨hresult, hphase⟩
  · obtain ⟨hresult, hphase⟩ := session.perform_keeps hrequest
    rw [started?_of_ne hrequest, Option.none_or]
    exact h.congr hresult hphase

/-- **Requests settle the scanner** on the outcome of the last scan, by induction on the requests
with `step_settled`. -/
theorem run_settled (h : session.Settled last?) (requests : List ScannerRequest) :
    (session.run requests).Settled ((session.lastScan? requests).or last?) := by
  induction requests generalizing session last? with
  | nil => exact h
  | cons request requests ih =>
      -- a later scan takes the place of an earlier one
      rw [lastScan?, Option.or_assoc]
      exact ih (step_settled h request)

/-! ## What holds between requests -/

/-- **A session with a new scanner that goes on** where the scanner of `session` is: it has the same
settings, and its conductor remembers what that one's has been shown. -/
def renewed (session : Session) : Session :=
  start session.scanner.settings (session.scanner.conductor?.map (·.resume session.scanner.visits))
    session.scanner.prune session.tree

/-- The last scan was ended by a conductor that raised an `exit`. -/
def IsExit (last? : Option (Except ScanFailure ScanResult)) : Prop :=
  ∃ text, last? = some (.error (.raised (.exit text)))

/-- **What holds of a session between requests**, when the last scan had the outcome `last?`. Only
`phase_ne_scanning` and `notYetScanned_iff` ask whether it is an `IsExit`. -/
structure Rests (session : Session) (last? : Option (Except ScanFailure ScanResult)) : Prop where
  /-- No scan is running. -/
  phase_ne_scanning : ¬IsExit last? → session.scanner.phase ≠ .scanning
  /-- The result is that of the last scan, and there is none if this failed. -/
  result_eq : session.scanner.result? = last?.bind (·.toOption)
  /-- Without a result no scan has been completed. -/
  notYetScanned_iff : ¬IsExit last? →
    (session.scanner.phase = .notYetScanned ↔ session.scanner.result? = none)
  /-- Each part of a result can be read exactly in the phase after a scan. -/
  scanned_iff : ∀ part, session.scanner.phase = .scanned ↔
    ∃ reply, session.perform (.read part) = (.ok reply, session)
  /-- What is read is the part of the result. -/
  read_eq : ∀ part result, session.scanner.result? = some result →
    session.perform (.read part) = (.ok (result.part part), session)
  /-- In any other phase there is nothing to read. -/
  read_eq_error : ∀ part, session.scanner.phase ≠ .scanned →
    session.perform (.read part) = (.error .noResult, session)
  /-- What is no scan leaves the result and the phase alone. -/
  keeps : ∀ request, request ≠ .scan →
    (session.perform request).2.scanner.result? = session.scanner.result? ∧
      (session.perform request).2.scanner.phase = session.scanner.phase
  /-- Include patterns that do not compile change nothing. -/
  setIncludes_eq_error : ∀ patterns error, patterns.compile = .error error →
    session.perform (.setIncludes patterns) = (.error (.pattern error), session)
  /-- Exclude patterns that do not compile change nothing. -/
  setExcludes_eq_error : ∀ patterns error, patterns.compile = .error error →
    session.perform (.setExcludes patterns) = (.error (.pattern error), session)
  /-- A base directory that cannot be used refuses the scan, which changes nothing. -/
  scan_eq_error : ∀ problem,
    checkBasedir session.tree session.scanner.settings.basedir = some problem →
      session.perform .scan = (.error (.scan (.basedir problem)), session)
  /-- **A scan keeps in step with its conductor**: one that this aborts is complete, and one in which
  this raises something fails. -/
  conducted : ∀ conductor, session.scanner.conductor? = some conductor →
    checkBasedir session.tree session.scanner.settings.basedir = none →
      ∃ shown halt?, session.scanner.Conducted conductor session.tree shown halt?
  /-- **A scan does as that of a new scanner** with the same settings. -/
  perform_renewed : (session.renewed.perform .scan).1 = (session.perform .scan).1 ∧
    (session.renewed.perform .scan).2.tree = (session.perform .scan).2.tree

/-- **The phase of a settled scanner** goes with its result: it is `scanned` exactly if there is one,
and without one it is `notYetScanned`, unless an `exit` has left it `scanning`. -/
theorem Settled.phase_cases (h : session.Settled last?) :
    session.scanner.phase = .scanned ∧ (∃ result, session.scanner.result? = some result) ∨
      session.scanner.phase = .notYetScanned ∧ session.scanner.result? = none ∨
        session.scanner.phase = .scanning ∧ session.scanner.result? = none ∧ IsExit last? := by
  obtain ⟨hresult, hphase⟩ := h
  rcases last? with _ | (failure | result)
  · exact .inr (.inl ⟨hphase, hresult⟩)
  · rcases failure with problem | (text | text) | error | error
    · exact .inr (.inl ⟨hphase, hresult⟩)
    · exact .inr (.inl ⟨hphase, hresult⟩)
    · exact .inr (.inr ⟨hphase, hresult, text, rfl⟩)
    · exact .inr (.inl ⟨hphase, hresult⟩)
    · exact .inr (.inl ⟨hphase, hresult⟩)
  · exact .inl ⟨hphase, result, hresult⟩

/-- A settled scanner is `scanned` exactly if it has a result. -/
theorem Settled.scanned_iff (h : session.Settled last?) :
    session.scanner.phase = .scanned ↔ session.scanner.result?.isSome = true := by
  rcases h.phase_cases with ⟨hphase, result, hresult⟩ | ⟨hphase, hresult⟩ | ⟨hphase, hresult, -⟩ <;>
    simp [hphase, hresult]

/-- A `part` of the result is read, and nothing changes. -/
theorem perform_read_of_some {result : ScanResult} (h : session.scanner.result? = some result)
    (part : ResultPart) : session.perform (.read part) = (.ok (result.part part), session) := by
  rw [perform, Scanner.read, h]

/-- Without a result every `.read part` is refused as `.noResult`, and nothing changes. -/
theorem perform_read_of_none (h : session.scanner.result? = none) (part : ResultPart) :
    session.perform (.read part) = (.error .noResult, session) := by
  rw [perform, Scanner.read, h]

/-- Include patterns that do not `compile` are refused with the error of the first one, and nothing
changes. -/
theorem perform_setIncludes_of_error (session : Session) {patterns : PatternInput}
    {error : PatternError} (h : patterns.compile = .error error) :
    session.perform (.setIncludes patterns) = (.error (.pattern error), session) := by
  rw [perform, Scanner.setIncludes, h]
  rfl

/-- Exclude patterns that do not `compile` are refused with the error of the first one, and nothing
changes. -/
theorem perform_setExcludes_of_error (session : Session) {patterns : PatternInput}
    {error : PatternError} (h : patterns.compile = .error error) :
    session.perform (.setExcludes patterns) = (.error (.pattern error), session) := by
  rw [perform, Scanner.setExcludes, h]
  rfl

/-- A scan whose base directory `checkBasedir` refuses is refused with the problem found, and
nothing changes. -/
theorem perform_scan_of_problem {problem : BasedirProblem}
    (hcheck : checkBasedir session.tree session.scanner.settings.basedir = some problem) :
    session.perform .scan = (.error (.scan (.basedir problem)), session) := by
  rw [perform, scan, Scanner.scan_of_problem hcheck]
  rfl

/-- The scan of `session.renewed` tells the same and leaves the same file tree: neither depends on
`result?` or `phase`. -/
theorem perform_scan_renewed (session : Session) :
    (session.renewed.perform .scan).1 = (session.perform .scan).1 ∧
      (session.renewed.perform .scan).2.tree = (session.perform .scan).2.tree := by
  obtain ⟨houtcome, htree⟩ := Scanner.scan_renewed session.scanner session.tree
  have hrenewed : session.renewed = ⟨session.scanner.renewed, session.tree⟩ := rfl
  refine ⟨?_, htree⟩
  rw [hrenewed, perform, perform, scan, scan]
  simp only [houtcome]

/-- **A new session has settled** on no scan at all, and requests keep it `Settled` on the last one.
-/
theorem settled_run_start (settings : ScanSettings) (conductor? : Option Conductor) (prune : Bool)
    (tree : FileTree) (requests : List ScannerRequest) :
    ((start settings conductor? prune tree).run requests).Settled
      ((start settings conductor? prune tree).lastScan? requests) := by
  have hstart : (start settings conductor? prune tree).Settled none := ⟨rfl, rfl⟩
  have hsettled := run_settled hstart requests
  rwa [Option.or_none] at hsettled

/-- A session that has `Settled` on the last scan `Rests` on it. -/
theorem Settled.rests (h : session.Settled last?) : session.Rests last? where
  phase_ne_scanning hexit := by
    rcases h.phase_cases with ⟨hphase, -⟩ | ⟨hphase, -⟩ | ⟨-, -, hisExit⟩
    · rw [hphase]
      exact nofun
    · rw [hphase]
      exact nofun
    · exact absurd hisExit hexit
  result_eq := h.result_eq
  notYetScanned_iff hexit := by
    rcases h.phase_cases with ⟨hphase, result, hresult⟩ | ⟨hphase, hresult⟩ | ⟨-, -, hisExit⟩
    · rw [hphase, hresult]
      exact ⟨nofun, nofun⟩
    · exact iff_of_true hphase hresult
    · exact absurd hisExit hexit
  scanned_iff part := by
    rw [h.scanned_iff]
    cases hresult : session.scanner.result? with
    | none =>
        rw [perform_read_of_none hresult]
        exact ⟨nofun, nofun⟩
    | some result =>
        rw [perform_read_of_some hresult]
        exact ⟨fun _ => ⟨_, rfl⟩, fun _ => rfl⟩
  read_eq part _ hresult := perform_read_of_some hresult part
  read_eq_error part hphase := by
    rw [Ne, h.scanned_iff, Bool.not_eq_true, Option.isSome_eq_false_iff, Option.isNone_iff_eq_none]
      at hphase
    exact perform_read_of_none hphase part
  keeps _ := session.perform_keeps
  setIncludes_eq_error _ _ := session.perform_setIncludes_of_error
  setExcludes_eq_error _ _ := session.perform_setExcludes_of_error
  scan_eq_error _ := perform_scan_of_problem
  conducted conductor hconductor hcheck := by
    obtain ⟨base, hbase, hcheck⟩ := Scanner.exists_basedir hcheck
    exact Scanner.exists_conducted hbase hcheck hconductor
  perform_renewed := session.perform_scan_renewed

/-- **A scan that an `exit` has ended counts as running**, whatever is asked until the next one. -/
theorem phase_run_of_isExit {settings : ScanSettings} {conductor? : Option Conductor} {prune : Bool}
    {tree : FileTree} {requests : List ScannerRequest}
    (h : IsExit ((start settings conductor? prune tree).lastScan? requests)) :
    ((start settings conductor? prune tree).run requests).scanner.phase = .scanning := by
  obtain ⟨text, htext⟩ := h
  rw [(settled_run_start settings conductor? prune tree requests).phase_eq, htext]
  rfl

open TreeSift.Scanner (rootSettings rootSettingsForX smallTree)

/-- A conductor that raises an `exit` whatever it is shown. -/
def exiting : Conductor :=
  ⟨fun _ _ tree => ⟨tree, .error (.exit "stop")⟩⟩

/-- A session on `smallTree` whose scanner does not prune and includes nothing but what is named
`x`. -/
def unpruned : Session :=
  start rootSettingsForX none false smallTree

end Session

end TreeSift
