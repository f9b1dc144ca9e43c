import TreeSift.Text.Quoted

/-! # Errors of a file tree

An operation on a file tree fails with an error number; `FileError.message` words it together with
the path. -/

namespace TreeSift

/-- An error number of the operating system, `errno`. -/
abbrev Errno := Nat

namespace Errno

/-- The operation is not permitted: `EPERM`. -/
def notPermitted : Errno := 1

/-- There is no such entry: `ENOENT`. -/
def noEntry : Errno := 2

/-- A descriptor is bad: `EBADF`. -/
def badDescriptor : Errno := 9

/-- Access is denied: `EACCES`. -/
def accessDenied : Errno := 13

/-- The entry exists: `EEXIST`. -/
def entryExists : Errno := 17

/-- A directory is needed: `ENOTDIR`. -/
def notDirectory : Errno := 20

/-- The entry is a directory: `EISDIR`. -/
def isDirectory : Errno := 21

/-- A name or a path text is too long: `ENAMETOOLONG`. -/
def nameTooLong : Errno := 36

/-- Too many links have to be followed: `ELOOP`. -/
def tooManyLinks : Errno := 40

/-- The wordings of error numbers, as `strerror` has them. -/
def descriptions : List (Errno × String) :=
  [ (1, "Operation not permitted"), (2, "No such file or directory"), (3, "No such process"),
    (4, "Interrupted system call"), (5, "Input/output error"), (6, "No such device or address"),
    (7, "Argument list too long"), (8, "Exec format error"), (9, "Bad file descriptor"),
    (10, "No child processes"), (11, "Resource temporarily unavailable"),
    (12, "Cannot allocate memory"), (13, "Permission denied"), (14, "Bad address"),
    (15, "Block device required"), (16, "Device or resource busy"), (17, "File exists"),
    (18, "Invalid cross-device link"), (19, "No such device"), (20, "Not a directory"),
    (21, "Is a directory"), (22, "Invalid argument"), (23, "Too many open files in system"),
    (24, "Too many open files"), (25, "Inappropriate ioctl for device"), (26, "Text file busy"),
    (27, "File too large"), (28, "No space left on device"), (29, "Illegal seek"),
    (30, "Read-only file system"), (31, "Too many links"), (32, "Broken pipe"),
    (33, "Numerical argument out of domain"), (34, "Numerical result out of range"),
    (35, "Resource deadlock avoided"), (36, "File name too long"), (37, "No locks available"),
    (38, "Function not implemented"), (39, "Directory not empty"),
    (40, "Too many levels of symbolic links"), (61, "No data available"),
    (70, "Communication error on send"), (71, "Protocol error"), (74, "Bad message"),
    (75, "Value too large for defined data type"), (95, "Operation not supported"),
    (103, "Software caused connection abort"), (104, "Connection reset by peer"),
    (107, "Transport endpoint is not connected"), (110, "Connection timed out"),
    (111, "Connection refused"), (112, "Host is down"), (113, "No route to host"),
    (116, "Stale file handle"), (117, "Structure needs cleaning"), (121, "Remote I/O error"),
    (122, "Disk quota exceeded") ]

/-- The wording of an error number by `descriptions`, or its number if it has none. -/
def description (errno : Errno) : String :=
  (descriptions.lookup errno).getD ("Unknown error " ++ toString errno)

/-- The error number means that permission is missing: `notPermitted` or `accessDenied`. -/
def isPermission (errno : Errno) : Bool :=
  errno == notPermitted || errno == accessDenied

/-- The error number says that nothing can be reached at a path: `noEntry`, `notDirectory`,
`badDescriptor` or `tooManyLinks`. All others are raised. -/
def isUnreachable (errno : Errno) : Bool :=
  errno == noEntry || errno == notDirectory || errno == badDescriptor || errno == tooManyLinks

end Errno

/-- How an error shows the path that it is about, by `ShownPath.render`. -/
inductive ShownPath where
  /-- As quoted text. -/
  | text (path : String)
  /-- As a path value. -/
  | value (path : String)
  /-- As the quoted target and path of a link that is being made. -/
  | link (target path : String)
  deriving DecidableEq, Repr

/-- A path as an error message shows it: quoted, as a path value, or with the target of a link in
front. -/
def ShownPath.render : ShownPath → String
  | .text path => Text.quoted path
  | .value path => "PosixPath(" ++ Text.quoted path ++ ")"
  | .link target path => Text.quoted target ++ " -> " ++ Text.quoted path

/-- **Why an operation on a file tree failed**: an error of the system, or a NUL character in the
path. -/
inductive FileError where
  /-- The operating system reports an error number. -/
  | system (errno : Errno) (shown : ShownPath)
  /-- The path holds a NUL character. -/
  | nulCharacter
  deriving DecidableEq, Repr

/-- The wording of a failure, with its number, its description and the path by `ShownPath.render`.
-/
def FileError.message : FileError → String
  | .system errno shown =>
    "[Errno " ++ toString errno ++ "] " ++ errno.description ++ ": " ++ shown.render
  | .nulCharacter => "embedded null byte"

end TreeSift
