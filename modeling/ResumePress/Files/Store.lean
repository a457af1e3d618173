import ResumePress.Files.Path

/-!
# Files

The files and directories that a run can reach, by their names from the working directory or from
the root. The working directory, those above it and the root are always there. A file holds a text,
or something that is none.
-/
namespace ResumePress

/-- What stands under a name. -/
inductive Entry
  | directory
  | text (s : String)
  | binary
  deriving DecidableEq, Repr

/-- The place of an entry: the names from the working directory on. A slash for the first name
stands for the root, and double dots lead to the directories above. -/
abbrev Spot := List String

structure Store where
  entries : List (Spot × Entry)

namespace Store

def empty : Store := ⟨[]⟩

/-- Whether a spot is there whatever the files are. -/
def isFixed (spot : Spot) : Bool :=
  spot == ["/"] || spot.all (· == "..")

def at? (s : Store) (spot : Spot) : Option Entry :=
  if isFixed spot then some .directory else s.entries.lookup spot

/-- The spot above another one. There is nothing above the root. -/
def above (spot : Spot) : Spot :=
  if spot == ["/"] then spot
  else if spot.all (· == "..") then ".." :: spot
  else spot.dropLast

def set (s : Store) (spot : Spot) (e : Entry) : Store :=
  ⟨(spot, e) :: s.entries.filter (fun f => f.1 != spot)⟩

/-- Goes on from a spot. Only a directory leads further. -/
def walkFrom (s : Store) (spot : Spot) : List String → Except FileFault Spot
  | [] => .ok spot
  | p :: ps =>
    match s.at? spot with
    | none => .error .notFound
    | some .directory =>
      s.walkFrom (if p = ".." then above spot else spot ++ [p]) ps
    | some _ => .error .belowFile

/-- The spot that a path leads to, whether there is anything or not. -/
def walk (s : Store) (p : Path) : Except FileFault Spot :=
  s.walkFrom (if p.rooted then ["/"] else []) p.parts

def entry? (s : Store) (p : Path) : Option Entry :=
  match s.walk p with
  | .ok spot => s.at? spot
  | .error _ => none

def contains (s : Store) (p : Path) : Bool :=
  (s.entry? p).isSome

def read (s : Store) (p : Path) : Except FileFault String :=
  match s.walk p with
  | .error e => .error e
  | .ok spot =>
    match s.at? spot with
    | none => .error .notFound
    | some .directory => .error .isDirectory
    | some .binary => .error .notText
    | some (.text t) => .ok t

/-- Puts contents into a file, whose directory has to be there. -/
def put (s : Store) (p : Path) (e : Entry) : Except FileFault Store :=
  match s.walk p with
  | .error e => .error e
  | .ok spot =>
    if s.at? spot = some .directory then .error .isDirectory
    else if s.at? (above spot) = some .directory then .ok (s.set spot e)
    else .error .notFound

def write (s : Store) (p : Path) (t : String) : Except FileFault Store :=
  s.put p (.text t)

/-- Makes one directory, unless it is there. -/
def makeDir (s : Store) (p : Path) : Except FileFault Store :=
  match s.walk p with
  | .error e => .error e
  | .ok spot =>
    match s.at? spot with
    | some .directory => .ok s
    | some _ => .error .blockedByFile
    | none =>
      match s.at? (above spot) with
      | some .directory => .ok (s.set spot .directory)
      | some _ => .error .belowFile
      | none => .error .notFound

/-- What a single change leaves: the changed files, or the files as they were if it is refused. -/
def left (s : Store) : Except FileFault Store → Store × Except FileFault Unit
  | .ok after => (after, .ok ())
  | .error e => (s, .error e)

/-- Makes a directory and those around it; the names come last first. Directories that are made stay
even if one after them is refused. -/
def makeDirsFrom (s : Store) (rooted : Bool) : List String → Store × Except FileFault Unit
  | [] => s.left (s.makeDir ⟨rooted, []⟩)
  | name :: outer =>
    let p : Path := ⟨rooted, (name :: outer).reverse⟩
    match s.makeDir p with
    | .error .notFound =>
      match s.makeDirsFrom rooted outer with
      | (around, .error e) => (around, .error e)
      | (around, .ok ()) => around.left (around.makeDir p)
    | r => s.left r

/-- What is left of making a directory and those around it. -/
def leaveDirs (s : Store) (p : Path) : Store × Except FileFault Unit :=
  s.makeDirsFrom p.rooted p.parts.reverse

def makeDirs (s : Store) (p : Path) : Except FileFault Store :=
  let (after, r) := s.leaveDirs p
  r.map (fun _ => after)

/-- The store without what a name stands for and what is below it, unless it is a file. -/
def removeTree (s : Store) (name : String) : Store :=
  match s.at? [name] with
  | some .directory => ⟨s.entries.filter (fun f => f.1.head? != some name)⟩
  | _ => s

def files (s : Store) : List String :=
  let paths := (s.entries.filter (fun f => f.2 != .directory)).map (fun f => "/".intercalate f.1)
  paths.mergeSort (fun a b => !decide (b.toList < a.toList))

end Store

end ResumePress
