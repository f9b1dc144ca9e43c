import TreeSift.Proofs.Pattern.Compiling
import TreeSift.Proofs.Scan.Lifecycle

/-! # Patterns of a scanner

A scanner takes over patterns as a whole or not at all: wherever they are given as texts, the first
text that does not compile decides, and nothing changes (`Scanner.takesTexts`). So it is for every
list of texts; what differs is the reason, for a regular expression may be refused although it is not
malformed (`Scanner.compiles_texts`). -/

namespace TreeSift

open PatternList (CompilesInOrder FirstRefused FailsOneWay compilesInOrder_compileAll)
open TreeSift.Text (trimText)

/-- **A scanner takes over patterns as a whole or not at all**: `create`, `setIncludes` and
`setExcludes` compile all texts before anything changes. -/
structure Scanner.TakesTexts (includes excludes : List String) : Prop where
  /-- Texts are compiled without the blanks around them. -/
  compilesInOrder : CompilesInOrder (includes.map trimText) (PatternInput.texts includes).compile
  /-- A scanner with patterns is made of both lists; the include patterns are compiled first. -/
  create_eq_ok_iff : ∀ settings conductor? prune scanner,
    Scanner.create settings (.texts includes) (.texts excludes) conductor? prune = .ok scanner ↔
      ∃ first later, (PatternInput.texts includes).compile = .ok first ∧
        (PatternInput.texts excludes).compile = .ok later ∧
        scanner = .ofSettings { settings with includes := first, excludes := later } conductor? prune
  /-- There is none if a list fails. -/
  create_eq_error_iff : ∀ settings conductor? prune error,
    Scanner.create settings (.texts includes) (.texts excludes) conductor? prune = .error error ↔
      FirstRefused (includes.map trimText) error ∨
        (∀ raw ∈ includes.map trimText, ∀ e, ¬Pattern.Refuses raw e) ∧
          FirstRefused (excludes.map trimText) error
  /-- Include patterns that compile are taken over. -/
  setIncludes_of_ok : ∀ (session : Session) patterns,
    (PatternInput.texts includes).compile = .ok patterns →
      session.perform (.setIncludes (.texts includes)) =
        (.ok .done, { session with scanner.settings.includes := patterns })
  /-- If one does not compile, nothing changes. -/
  setIncludes_of_error : ∀ (session : Session) error, FirstRefused (includes.map trimText) error →
    session.perform (.setIncludes (.texts includes)) = (.error (.pattern error), session)
  /-- Exclude patterns that compile are taken over. -/
  setExcludes_of_ok : ∀ (session : Session) patterns,
    (PatternInput.texts excludes).compile = .ok patterns →
      session.perform (.setExcludes (.texts excludes)) =
        (.ok .done, { session with scanner.settings.excludes := patterns })
  /-- If one does not compile, nothing changes. -/
  setExcludes_of_error : ∀ (session : Session) error, FirstRefused (excludes.map trimText) error →
    session.perform (.setExcludes (.texts excludes)) = (.error (.pattern error), session)

namespace Scanner

variable {includes excludes : List String}

/-- Texts of a `PatternInput` are compiled in order, each without the blanks around it. -/
theorem compilesInOrder_texts (raws : List String) :
    CompilesInOrder (raws.map trimText) (PatternInput.texts raws).compile :=
  compilesInOrder_compileAll (raws.map trimText)

/-- **Texts are taken over as a whole or not at all**: `TakesTexts` holds of all lists. -/
theorem takesTexts (includes excludes : List String) : TakesTexts includes excludes where
  compilesInOrder := compilesInOrder_texts includes
  create_eq_ok_iff settings conductor? prune scanner := by
    rw [create]
    cases (PatternInput.texts includes).compile with
    | error error => simp [bind, Except.bind]
    | ok first =>
        cases (PatternInput.texts excludes).compile with
        | error error => simp [bind, Except.bind]
        | ok later => simp [bind, Except.bind, pure, Except.pure, eq_comm]
  create_eq_error_iff settings conductor? prune error := by
    rw [← (compilesInOrder_texts includes).exists_iff,
      ← (compilesInOrder_texts includes).error_iff, ← (compilesInOrder_texts excludes).error_iff,
      create]
    cases (PatternInput.texts includes).compile with
    | error error => simp [bind, Except.bind]
    | ok first =>
        cases (PatternInput.texts excludes).compile with
        | error error => simp [bind, Except.bind]
        | ok later => simp [bind, Except.bind, pure, Except.pure]
  setIncludes_of_ok session patterns h := by
    rw [Session.perform, setIncludes, h]
    rfl
  setIncludes_of_error session error h :=
    session.perform_setIncludes_of_error (((compilesInOrder_texts includes).error_iff error).2 h)
  setExcludes_of_ok session patterns h := by
    rw [Session.perform, setExcludes, h]
    rfl
  setExcludes_of_error session error h :=
    session.perform_setExcludes_of_error (((compilesInOrder_texts excludes).error_iff error).2 h)

end Scanner

end TreeSift
