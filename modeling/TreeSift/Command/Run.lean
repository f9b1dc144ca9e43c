import TreeSift.Command.Scan
import TreeSift.Scan.Listing

/-! # Running a command line

`run` does what a command line asks for, on a file tree, with environment variables and for a screen
that are given as its `Sources`. -/

namespace TreeSift.Command

open TreeSift.Config (Sources)

/-- **The command that lists a directory**, one path on a line, by `listing`. -/
def runList (sources : Sources) (base : Path) (options : ListOptions) :
    Except Breakdown Outcome :=
  let request : ListingRequest :=
    { directory := base, shown := base.text, includes := options.includes,
      excludes := options.excludes, includeBasedir := !options.relative,
      caseSensitive := options.caseSensitive, files := !options.directories,
      directories := options.directories }
  match listing sources.tree request with
  | .ok names => .ok (.plain names)
  | .error (.pattern error) => endAfter sources.screen (.pattern error)
  | .error (.scan failure) => endAfter sources.screen (.scan failure)

/-- **Runs a command line**: what `Request.ofArguments?` makes of its words is carried out. -/
def run (sources : Sources) (words : List String) : Except Breakdown Outcome :=
  match Request.ofArguments? words with
  | none => .ok .unusable
  | some .help => .ok { exitCode := 0 }
  | some (.scan base options) => runScan sources base options
  | some (.list base options) => runList sources base options
  | some .defaults => .ok (.plain defaultExcludes)

end TreeSift.Command
