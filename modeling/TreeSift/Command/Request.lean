import TreeSift.Command.Options
import TreeSift.FileTree.Path

/-! # Requests

A command line asks for one of three commands or for help. `Request.ofArguments?` finds out for
which, and gives no answer if the command line cannot be used. -/

namespace TreeSift.Command

/-- **What a scan is told on the command line.** What is not told is left to the configuration by
`scanSettings`. -/
structure ScanOptions where
  /-- Include patterns. -/
  includes : List String := []
  /-- Exclude patterns. -/
  excludes : List String := []
  /-- Whether the default excludes are in use. -/
  useDefaultExcludes? : Option Bool := none
  /-- Whether patterns tell upper case from lower case. -/
  caseSensitive? : Option Bool := none
  /-- Whether directories behind links are entered. -/
  followLinks? : Option Bool := none
  /-- The configuration file. -/
  config? : Option Path := none
  /-- Whether excluded paths are shown too. -/
  showExcluded : Bool := false

/-- **What a listing is told on the command line.** No configuration counts for `runList`. -/
structure ListOptions where
  /-- Include patterns, separated by commas. -/
  includes : Option String := none
  /-- Exclude patterns, separated by commas. -/
  excludes : Option String := none
  /-- Whether directories are listed, and not files. -/
  directories : Bool := false
  /-- Whether the base directory is left off. -/
  relative : Bool := false
  /-- Whether patterns tell upper case from lower case. -/
  caseSensitive : Bool := true

/-- **What a command line asks for**, as `Request.ofArguments?` reads it. -/
inductive Request where
  /-- Help. -/
  | help
  /-- A scan of a directory. -/
  | scan (base : Path) (options : ScanOptions)
  /-- A listing of a directory. -/
  | list (base : Path) (options : ListOptions)
  /-- The default excludes. -/
  | defaults

/-- An option under several spellings, each with the same `Effect`. -/
def spelled {σ : Type} (spellings : List String) (effect : Effect σ) : Options σ :=
  spellings.map fun spelling => (spelling, effect)

/-- Two options that say yes and no: each an `Effect.switch`. -/
def yesNo {σ : Type} (yes no : String) (apply : Bool → σ → σ) : Options σ :=
  [(yes, .switch (apply true)), (no, .switch (apply false))]

/-- The option that asks for help, which every command has: `Effect.help`. -/
def helpOption {σ : Type} : Options σ :=
  [("--help", .help)]

/-- The options of a scan, which fill `ScanOptions`. Patterns add up; of the others the last one
counts. -/
def scanOptions : Options ScanOptions :=
  spelled ["--include", "-i"]
      (.argument fun text o => { o with includes := o.includes ++ [text] }) ++
    spelled ["--exclude", "-e"]
      (.argument fun text o => { o with excludes := o.excludes ++ [text] }) ++
    yesNo "--default-excludes" "--no-default-excludes"
      (fun b o => { o with useDefaultExcludes? := some b }) ++
    yesNo "--case-sensitive" "--case-insensitive"
      (fun b o => { o with caseSensitive? := some b }) ++
    yesNo "--follow-symlinks" "--no-follow-symlinks"
      (fun b o => { o with followLinks? := some b }) ++
    spelled ["--config", "-c"]
      (.argument fun text o => { o with config? := some (.ofText text) }) ++
    spelled ["--show-excluded"] (.switch fun o => { o with showExcluded := true }) ++
    helpOption

/-- The options of a listing, which fill `ListOptions`. The last one counts. -/
def listOptions : Options ListOptions :=
  spelled ["--includes"] (.argument fun text o => { o with includes := some text }) ++
    spelled ["--excludes"] (.argument fun text o => { o with excludes := some text }) ++
    spelled ["--directories", "-d"] (.switch fun o => { o with directories := true }) ++
    spelled ["--relative", "-r"] (.switch fun o => { o with relative := true }) ++
    yesNo "--case-sensitive" "--case-insensitive" (fun b o => { o with caseSensitive := b }) ++
    helpOption

namespace Request

/-- A request that names one directory by the only positional argument, unless the arguments ask for
`Request.help`. -/
def ofDirectory? {σ : Type} (request : Path → σ → Request) (arguments : Arguments σ) :
    Option Request :=
  if arguments.help then some .help
  else
    match arguments.positionals with
    | [base] => some (request (.ofText base) arguments.settings)
    | _ => none

/-- A request that names nothing: the default excludes, unless the arguments ask for `Request.help`.
-/
def ofNothing? (arguments : Arguments Unit) : Option Request :=
  if arguments.help then some .help
  else if arguments.positionals.isEmpty then some .defaults
  else none

/-- The request for a command with its arguments, read by `readArguments` with its own options. -/
def ofCommand? (command : String) (words : List String) : Option Request :=
  match command with
  | "scan" => (readArguments scanOptions { settings := {} } words).bind (ofDirectory? .scan)
  | "list" => (readArguments listOptions { settings := {} } words).bind (ofDirectory? .list)
  | "defaults" => (readArguments helpOption { settings := () } words).bind ofNothing?
  | _ => none

/-- Whether help is asked for in front of a command, and what follows the options there. Any other
option, as `holdsOptions` tells it, is out of place. -/
def leading? : List String → Option (Bool × List String)
  | [] => some (false, [])
  | word :: rest =>
    if word = "--" then some (false, rest)
    else if word = "--help" then (leading? rest).map fun found => (true, found.2)
    else if holdsOptions word then none
    else some (false, word :: rest)

/-- **The request on a command line.** Two dashes may stand in front of the command, whose words go
to `ofCommand?`. -/
def ofArguments? (words : List String) : Option Request := do
  let (asked, words) ← leading? words
  if asked then return .help
  match words with
  | [] => none
  | command :: rest =>
    if holdsOptions command then
      let (asked, _) ← leading? words
      if asked then return .help else none
    else ofCommand? command rest

end Request

end TreeSift.Command
