import ResumePress.CommandLine

/-!
# The program

Reads what the arguments may name into a store, runs the command on it, and puts on the disk what
has changed. The journal goes to a file of its own; its records from information upwards are shown.
-/
namespace ResumePress.Program

def helpLines : List String :=
  ["Usage: resume-press [--help] COMMAND",
    "",
    "Render resume YAML files to themed HTML pages",
    "",
    "Commands:",
    "  render RESUME [-t THEME] [-o PATH] [--escape] [--themes-file PATH]",
    "  themes [--themes-file PATH]"]

def nameOnDisk : Spot → String
  | "/" :: names => "/" ++ "/".intercalate names
  | [] => "."
  | names => "/".intercalate names

def entryOnDisk (spot : Spot) : IO (Option Entry) := do
  let path := (← IO.currentDir) / nameOnDisk spot
  if ← path.isDir then return some .directory
  if !(← path.pathExists) then return none
  let bytes ← IO.FS.readBinFile path
  return some (match String.fromUTF8? bytes with
    | some s => .text s
    | none => .binary)

/-- The spots on the way to a path, itself included. -/
def spotsTo (p : Path) : List Spot :=
  let names := if p.rooted then "/" :: p.parts else p.parts
  (List.range names.length).map (fun n => names.take (n + 1))

/-- The paths that an argument may name: as it is, behind an equals sign, or behind a short option;
and the page next to a resume. -/
def pathsIn (arg : String) : List Path :=
  let cs := arg.toList
  let texts := [cs, (cs.dropWhile (· ≠ '=')).drop 1, cs.drop 2].filter (fun t => !t.isEmpty)
  let paths := texts.map (fun t => Path.ofString (String.ofList t))
  paths ++ paths.filterMap (fun p => (p.withSuffix ".html").toOption)

/-- The files that a run with the given arguments can reach. -/
def reachable (args : List String) : IO Store := do
  let spots := (CommandLine.journalDirectory :: args.flatMap pathsIn).flatMap spotsTo
  let mut entries := []
  for spot in spots.eraseDups do
    match ← entryOnDisk spot with
    | some e => entries := (spot, e) :: entries
    | none => pure ()
  return ⟨entries⟩

def putOnDisk (spot : Spot) (e : Entry) : IO Unit := do
  match e with
  | .directory => IO.FS.createDirAll (nameOnDisk spot)
  | .text t => IO.FS.writeFile (nameOnDisk spot) t
  | .binary => pure ()

def recordLine (r : LogRecord) : String :=
  r.level.name ++ " | " ++ r.message

end ResumePress.Program

open ResumePress ResumePress.Program in
/-- Runs the program; the exit code is 2 if the arguments are not understood. -/
def main (args : List String) : IO UInt32 := do
  let before ← reachable args
  let (after, report) := CommandLine.run before args
  let changed := after.entries.filter (fun e => before.entries.lookup e.1 != some e.2)
  for (spot, e) in changed.filter (fun e => e.2 == .directory) do
    putOnDisk spot e
  for (spot, e) in changed.filter (fun e => e.2 != .directory) do
    putOnDisk spot e
  if !report.journal.isEmpty then
    let file := CommandLine.journalDirectory.shown ++ "/render.log"
    IO.FS.writeFile file ("\n".intercalate (report.journal.map recordLine) ++ "\n")
  for r in report.journal.filter (fun r => r.level != .debug) do
    IO.println (recordLine r)
  for line in report.out do
    IO.println line
  for line in report.err do
    IO.eprintln line
  match CommandLine.Command.ofArguments? before args with
  | some .help => helpLines.forM IO.println
  | none => IO.eprintln "Usage: resume-press [--help] COMMAND"
  | _ => pure ()
  match report.fault with
  | some e => IO.eprintln ((e.message?).getD "The command ended with a fault.")
  | none => pure ()
  return UInt32.ofNat report.exit
