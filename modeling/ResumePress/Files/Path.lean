import ResumePress.Fault

/-!
# Paths

A path is a list of names. Empty names and single dots say nothing and are dropped when a path is
read; double dots are names like others here and get their meaning when the path is walked.
-/
namespace ResumePress

/-- A path, from the root of the file system or from the working directory. -/
structure Path where
  rooted : Bool
  parts : List String
  deriving DecidableEq, Repr

namespace Path

def ofString (s : String) : Path where
  rooted := s.toList.head? == some '/'
  parts := (s.splitOn "/").filter (fun p => p != "" && p != ".")

def shown (p : Path) : String :=
  if p.rooted then "/" ++ "/".intercalate p.parts
  else if p.parts.isEmpty then "."
  else "/".intercalate p.parts

/-- The last name of a path, empty if it has none. -/
def name (p : Path) : String :=
  p.parts.getLast?.getD ""

def parent (p : Path) : Path :=
  { p with parts := p.parts.dropLast }

/-- The part of a name before its suffix. A suffix begins with the last dot, unless that is the
first or the last character of the name. -/
def stem (name : List Char) : List Char :=
  let reversed := name.reverse
  let suffix := reversed.takeWhile (· ≠ '.')
  let before := reversed.drop (suffix.length + 1)
  if suffix.isEmpty || before.isEmpty then name else before.reverse

/-- The path with another suffix; a path without a name has none to replace. -/
def withSuffix (p : Path) (suffix : String) : Except Fault Path :=
  match p.parts.getLast? with
  | none => .error (.files .noName)
  | some name =>
    .ok { p with parts := p.parts.dropLast ++ [String.ofList (stem name.toList) ++ suffix] }

end Path

end ResumePress
