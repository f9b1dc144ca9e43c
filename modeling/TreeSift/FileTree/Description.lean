import TreeSift.FileTree.Edit
import TreeSift.Json.Reader

/-! # Descriptions of file trees

A file tree can be described by a JSON list. A text in it is a file, or a directory if it ends with
a slash; a mapping describes a file with its text, a link with its target, or a directory whose
listing fails with an error number. -/

namespace TreeSift.FileTree

open TreeSift.Document

/-- The text of a key in a mapping, by `lookupEntry`. -/
def textOf? (key : String) (entries : Entries) : Option String :=
  match lookupEntry (.text key) entries with
  | some (.scalar (.text text)) => some text
  | _ => none

/-- The number of a key in a mapping, by `lookupEntry`, if it is none below zero. -/
def numberOf? (key : String) (entries : Entries) : Option Nat :=
  match lookupEntry (.text key) entries with
  | some (.scalar (.int value)) => some value.toNat
  | _ => none

/-- The `Edit` that a mapping describes, by the keys it has. -/
def Edit.ofEntries? (entries : Entries) : Option Edit :=
  match textOf? "file" entries, textOf? "link" entries, textOf? "fail" entries with
  | some path, _, _ => some (.file (.ofText path) ((textOf? "text" entries).getD ""))
  | none, some path, _ => (textOf? "to" entries).map (.link (.ofText path))
  | none, none, some path => (numberOf? "errno" entries).map (.failing (.ofText path))
  | none, none, none => none

/-- **The change that a value describes**: an `Edit` from a path text alone, or from a mapping. -/
def Edit.ofValue? : Value → Option Edit
  | .scalar (.text path) =>
    some (if path.endsWith "/" then .directory (.ofText path) else .file (.ofText path) "")
  | .mapping entries => Edit.ofEntries? entries
  | _ => none

/-- **The file tree with a description**, if it is one: a JSON list of values that `Edit.ofValue?`
accepts. -/
def ofDescription? (text : String) : Option FileTree :=
  match Json.read text with
  | .ok (.list items) => do (ofEdits (← items.mapM Edit.ofValue?)).toOption
  | _ => none

end TreeSift.FileTree
