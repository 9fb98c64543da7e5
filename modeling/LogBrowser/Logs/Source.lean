/-!
# Log sources

Where a line came from, named two ways: a short name (the file name of a path) and the full
path. The file name is the last component of the path when that component is a name: empty
components and `.` are skipped, and a path that ends in `..`, a bare root or nothing at all has
no file name, in which case the short name is the full path.
-/

namespace LogBrowser

/-- The short and the full name of a source. -/
structure SourceName where
  short : String
  full : String
  deriving DecidableEq, Repr, Inhabited

namespace SourceName

/-- The name of standard input. -/
def stdin : SourceName := ⟨"stdin", "stdin"⟩

/-- The components of a path that name something: not empty and not `.`. -/
def namedParts (path : String) : List String :=
  ((path.toList.splitOn '/').map String.ofList).filter fun p => p != "" && p != "."

/-- The file name of a path, if its last component is a name. -/
def fileName? (path : String) : Option String :=
  match (namedParts path).getLast? with
  | some ".." => none
  | some p => some p
  | none => none

/-- The names of a file source. -/
def ofPath (path : String) : SourceName :=
  ⟨(fileName? path).getD path, path⟩

theorem ofPath_full (path : String) : (ofPath path).full = path := rfl

end SourceName

end LogBrowser
