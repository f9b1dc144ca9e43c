import TreeSift.Command.Run
import TreeSift.Config.Load
import TreeSift.Config.Logging
import TreeSift.FileTree.Basedir
import TreeSift.FileTree.Description
import TreeSift.FileTree.Edit
import TreeSift.FileTree.Links
import TreeSift.Glob.Path
import TreeSift.Json.Reader
import TreeSift.Json.Writer
import TreeSift.Main
import TreeSift.Pattern.Defaults
import TreeSift.Pattern.List
import TreeSift.Proofs.FileTree.Listed
import TreeSift.Proofs.FileTree.Route
import TreeSift.Proofs.Scan.Reach
import TreeSift.Proofs.Scan.RelativePath
import TreeSift.Proofs.Scan.Selection
import TreeSift.Proofs.Scan.Survey
import TreeSift.Regex.Basic
import TreeSift.Scan.Listing
import TreeSift.Scan.Scanner
import TreeSift.Screen.Frame
import TreeSift.Text.LineEnds
import TreeSift.Yaml.Reader
import TreeSift.Yaml.Writer
import TreeSift.Proofs.Scan.Specification
import TreeSift.Proofs.Scan.Nested
import TreeSift.Proofs.Pattern.Start
import TreeSift.Proofs.Scan.Pruning
import TreeSift.Proofs.Scan.Links
import TreeSift.Scan.Session
import TreeSift.Proofs.Scan.Conducted
import TreeSift.Proofs.Scan.Resumed
import TreeSift.Proofs.Scan.Lifecycle
import TreeSift.Proofs.Scan.Correspondence
import TreeSift.Proofs.Scan.Tour
import TreeSift.Proofs.Scan.Answered
import TreeSift.Proofs.Scan.Steering
import TreeSift.Proofs.FileTree.Blanked
import TreeSift.Proofs.Scan.Isolation
import TreeSift.Proofs.Scan.Excluding
import TreeSift.Proofs.Scan.Ending
import TreeSift.Proofs.Pattern.Compiling
import TreeSift.Proofs.Scan.Inspection
import TreeSift.Proofs.Scan.Adoption
import TreeSift.Proofs.Screen.PlainText
import TreeSift.Proofs.Screen.Rows
import TreeSift.Proofs.Screen.Tables
import TreeSift.Proofs.Command.Showing
import TreeSift.Proofs.Regex.Refusing
import TreeSift.Proofs.Config.Accepting
import TreeSift.Proofs.Config.Stored
import TreeSift.Proofs.Scan.Subdirectory
import TreeSift.Proofs.Glob.Extension
import TreeSift.Proofs.Scan.Casing
import TreeSift.Proofs.Scan.Listing
import TreeSift.Proofs.Glob.LastStar
import TreeSift.Proofs.Pattern.Spelling
import TreeSift.Proofs.Pattern.Subtree
import TreeSift.Proofs.Glob.Corresponding
import TreeSift.Proofs.Text.Folding
import TreeSift.Proofs.Pattern.CaseVariants
import TreeSift.Proofs.Config.Layering
import TreeSift.Proofs.Command.Settling
