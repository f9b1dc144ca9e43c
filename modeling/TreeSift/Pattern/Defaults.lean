import TreeSift.Pattern.List

/-! # Default excludes

What version control systems, editors and desktops leave in a tree, and a scan leaves out unless
told otherwise. -/

namespace TreeSift

/-- **The default exclude patterns**, in their order; `ScanSettings.effectiveExcludes` puts them
behind the others. -/
def defaultExcludes : List String :=
  [ "**/*~", "**/#*#", "**/.#*", "**/%*%", "**/._*", "**/.repository/**",
    "**/CVS", "**/CVS/**", "**/.cvsignore",
    "**/RCS", "**/RCS/**",
    "**/SCCS", "**/SCCS/**",
    "**/vssver.scc",
    "**/project.pj",
    "**/.svn", "**/.svn/**",
    "**/.arch-ids", "**/.arch-ids/**",
    "**/.bzr", "**/.bzr/**",
    "**/.MySCMServerInfo",
    "**/.DS_Store",
    "**/.metadata", "**/.metadata/**",
    "**/.hg", "**/.hg/**",
    "**/.git", "**/.git/**", "**/.gitignore",
    "**/BitKeeper", "**/BitKeeper/**", "**/ChangeSet", "**/ChangeSet/**",
    "**/_darcs", "**/_darcs/**", "**/.darcsrepo", "**/.darcsrepo/**", "**/-darcs-backup*",
    "**/.darcs-temp-mail" ]

/-- The default excludes as a comma-separated text, which `splitList` takes apart again. -/
def defaultExcludesText : String :=
  ",".intercalate defaultExcludes

/-- The compiled default excludes: all of them are globs without a marker, so that `ofGlob` makes
them. -/
def defaultExcludePatterns : PatternList :=
  defaultExcludes.map fun raw => Pattern.ofGlob raw.toList

end TreeSift
