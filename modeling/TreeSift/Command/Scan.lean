import TreeSift.Command.Outcome
import TreeSift.Command.Request
import TreeSift.Config.Load
import TreeSift.Config.Logging
import TreeSift.Scan.Scanner

/-! # The command that scans

`scanSettings` decides every setting of a scan: what the command line tells comes before the
configuration. `showResult` lays out what a scan has found, and `runScan` is the whole command. What
is wrong with a configuration, an expression or the base directory is reported; anything else breaks
the command off. -/

namespace TreeSift.Command

open TreeSift.Config
open TreeSift.Document
open TreeSift.Screen (Extent Lines MarkupFault panel paragraph table)

/-! ## Settings -/

/-- The blanks of bytes for `trimBytes`: those of ASCII. -/
def isBlankByte (byte : UInt8) : Bool :=
  byte == 0x20 || (0x09 ≤ byte && byte ≤ 0x0d)

/-- Bytes without the blanks at both ends, as `isBlankByte` tells them. -/
def trimBytes (bytes : List UInt8) : List UInt8 :=
  ((bytes.dropWhile isBlankByte).reverse.dropWhile isBlankByte).reverse

/-- The pattern of a value, by `Pattern.compile` on the trimmed text. What is no text breaks the
command off. -/
def patternOf (value : Value) : Except Breakdown Pattern :=
  match value with
  | .scalar (.text text) => (Pattern.compile (Text.trimText text)).mapError .pattern
  | .scalar (.bytes bytes) => .error (.inBytes (trimBytes bytes).length)
  | other => .error (.notText other.kindName)

/-- The values that a value holds one after the other: a text holds its characters, bytes their
numbers, and a mapping its keys. What has no parts but `Scalar.null` gives no answer. -/
def itemsOf? : Value → Option (List Value)
  | .scalar .null => some []
  | .scalar (.text text) => some (text.toList.map fun c => .ofText (String.singleton c))
  | .scalar (.bytes bytes) => some (bytes.map fun byte => .scalar (.int byte.toNat))
  | .list items => some items
  | .pair first second => some [first, second]
  | .set members => some (members.map .scalar)
  | .mapping entries => some (entries.map fun entry => .scalar entry.1)
  | .scalar _ | .endless _ => none

/-- The patterns that a configuration has in a setting: those of its items by `patternOf`. -/
def patternsOf (value : Value) : Except Breakdown PatternList :=
  match itemsOf? value with
  | some items => items.mapM patternOf
  | none => .error (.notPatterns value.kindName)

/-- The patterns of the command line if there are any, and otherwise those of a configuration by
`patternsOf`. -/
def choosePatterns (told : List String) (configured : Value) :
    Except Breakdown PatternList :=
  if told.isEmpty then patternsOf configured
  else (PatternList.compileTrimmed told).mapError .pattern

/-- **The settings of a scan**: what the `ScanOptions` tell comes before the configuration. A switch
that the configuration decides counts by its `Value.truth`. -/
def scanSettings (base : Path) (options : ScanOptions) (configuration : Configuration) :
    Except Breakdown ScanSettings := do
  let includes ← choosePatterns options.includes (configuration.value .includes)
  let excludes ← choosePatterns options.excludes (configuration.value .excludes)
  return {
    basedir := some base, includes, excludes
    useDefaultExcludes :=
      options.useDefaultExcludes?.getD (configuration.value .useDefaultExcludes).truth
    caseSensitive := options.caseSensitive?.getD (configuration.value .caseSensitive).truth
    followLinks := options.followLinks?.getD (configuration.value .followLinks).truth }

/-! ## Results -/

/-- A table of paths. The base directory, whose relative path is empty, is shown as a dot, and
`table` reads all paths as markup. -/
def pathTable (screen : Extent) (title : String) (paths : List String) : Except MarkupFault Lines :=
  table screen title (paths.map fun path => if path.isEmpty then "." else path)

/-- The counts that `showResult` shows of a result; some of them only if they are not zero. -/
def resultCounts (result : ScanResult) : List (String × Nat) :=
  [("Included Files:", result.includedFiles.length),
      ("Included Directories:", result.includedDirectories.length),
      ("Excluded Files:", result.excludedFiles.length),
      ("Excluded Directories:", result.excludedDirectories.length)] ++
    [("Symlinks Not Followed:", result.notFollowedLinks.length),
      ("Warnings:", result.warnings.length)].filter fun entry => entry.2 ≠ 0

/-- **What is shown of a result**: the tables of `pathTable`, the panel of `resultCounts`, and the
warnings. -/
def showResult (screen : Extent) (result : ScanResult) (showExcluded : Bool) :
    List (Except MarkupFault Lines) :=
  [pathTable screen "Included files" result.includedFiles,
      pathTable screen "Included directories" result.includedDirectories] ++
    (if showExcluded then
      [pathTable screen "Excluded files" result.excludedFiles,
        pathTable screen "Excluded directories" result.excludedDirectories]
    else []) ++
    [.ok (panel "Scan Complete"
      ((resultCounts result).map fun entry => (entry.1, toString entry.2)))] ++
    result.warnings.map fun warning =>
      paragraph screen ("[yellow]Warning:[/yellow] " ++ warning.message)

/-! ## The command -/

/-- **What is reported of a breakdown**, if it is reported: an expression with `Refusal.malformed`,
or a bad base directory. -/
def Breakdown.report? : Breakdown → Option String
  | .pattern error =>
    match error.refusal with
    | .malformed _ => some error.message
    | _ => none
  | .scan (.basedir problem) => some problem.message
  | _ => none

/-- How a command ends after a breakdown: by `Outcome.failing` if there is something to report, and
otherwise it breaks off. -/
def endAfter (screen : Extent) (breakdown : Breakdown) : Except Breakdown Outcome :=
  match breakdown.report? with
  | some report => Outcome.failing screen report
  | none => .error breakdown

/-- The result of a scan with the settings of `scanSettings`, on a new scanner that prunes and has
no conductor. -/
def scanResult (tree : FileTree) (base : Path) (options : ScanOptions)
    (configuration : Configuration) : Except Breakdown ScanResult := do
  let settings ← scanSettings base options configuration
  ((Scanner.ofSettings settings none true).scan tree).1.mapError .scan

/-- **The command that scans a directory.** An error of `load` or `loggingFault?` is reported before
anything is scanned. -/
def runScan (sources : Sources) (base : Path) (options : ScanOptions) :
    Except Breakdown Outcome :=
  match load sources options.config? true with
  | .error error => Outcome.failing sources.screen error.message
  | .ok configuration =>
    match loggingFault? configuration with
    | some fault => Outcome.failing sources.screen fault.message
    | none =>
      match scanResult sources.tree base options configuration with
      | .ok result => Outcome.printing 0 (showResult sources.screen result options.showExcluded)
      | .error breakdown => endAfter sources.screen breakdown

end TreeSift.Command
