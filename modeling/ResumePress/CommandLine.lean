import ResumePress.Provenance
import ResumePress.Publish
import ResumePress.Text.Lines

/-!
# The command line

Two commands: `render` publishes a resume and `themes` lists the themes. Options may stand anywhere
behind the command, a value may be attached to its option, and two hyphens end the options. A
request for help is granted only if all options are understood.
-/
namespace ResumePress.CommandLine

inductive Flag
  | help | theme | output | escape | themesFile
  deriving DecidableEq, Repr

def Flag.takesValue : Flag → Bool
  | help => false
  | escape => false
  | _ => true

/-- The spellings of the options that a command knows. -/
structure Spellings where
  long : List (String × Flag)
  short : List (Char × Flag)

/-- The options before the command. -/
def programSpellings : Spellings :=
  ⟨[("--help", .help)], []⟩

def renderSpellings : Spellings where
  long := [("--theme", .theme), ("--output", .output), ("--escape", .escape),
    ("--themes-file", .themesFile), ("--help", .help)]
  short := [('t', .theme), ('o', .output)]

def themesSpellings : Spellings :=
  ⟨[("--themes-file", .themesFile), ("--help", .help)], []⟩

/-- Whether an argument is an option. A single hyphen is none. -/
def isOption (arg : String) : Bool :=
  match arg.toList with
  | '-' :: _ :: _ => true
  | _ => false

/-- What an argument that is an option says: options with their values, and perhaps a last one whose
value is the next argument. -/
structure Said where
  given : List (Flag × String)
  waiting : Option Flag

/-- An option in its long spelling, perhaps with a value behind an equals sign. -/
def readLong (sp : Spellings) (cs : List Char) : Option Said :=
  let name := String.ofList (cs.takeWhile (· ≠ '='))
  match sp.long.lookup name with
  | none => none
  | some f =>
    match f.takesValue, cs.dropWhile (· ≠ '=') with
    | false, [] => some ⟨[(f, "")], none⟩
    | false, _ => none
    | true, [] => some ⟨[], some f⟩
    | true, _ :: value => some ⟨[(f, String.ofList value)], none⟩

/-- Options in their short spelling, behind one hyphen. What follows an option that takes a value is
that value. -/
def readShort (sp : Spellings) : List Char → Option Said
  | [] => some ⟨[], none⟩
  | c :: cs =>
    match sp.short.lookup c with
    | none => none
    | some f =>
      if f.takesValue then
        match cs with
        | [] => some ⟨[], some f⟩
        | cs => some ⟨[(f, String.ofList cs)], none⟩
      else (readShort sp cs).map (fun s => ⟨(f, "") :: s.given, s.waiting⟩)

def readOption (sp : Spellings) (arg : String) : Option Said :=
  match arg.toList with
  | '-' :: '-' :: cs => readLong sp ('-' :: '-' :: cs)
  | '-' :: cs => readShort sp cs
  | _ => none

structure Arguments where
  given : List (Flag × String)
  others : List String

def readArguments (sp : Spellings) : List String → Option Arguments
  | [] => some ⟨[], []⟩
  | arg :: rest =>
    if arg = "--" then some ⟨[], rest⟩
    else if !isOption arg then
      (readArguments sp rest).map (fun a => ⟨a.given, arg :: a.others⟩)
    else
      match readOption sp arg with
      | none => none
      | some ⟨given, none⟩ =>
        (readArguments sp rest).map (fun a => ⟨given ++ a.given, a.others⟩)
      | some ⟨given, some f⟩ =>
        match rest with
        | [] => none
        | value :: rest =>
          (readArguments sp rest).map (fun a => ⟨given ++ (f, value) :: a.given, a.others⟩)

/-- Reads the options before the command; the command and its arguments are left. -/
def readProgramOptions : List String → Option Arguments
  | [] => some ⟨[], []⟩
  | arg :: rest =>
    if arg = "--" then some ⟨[], rest⟩
    else if !isOption arg then some ⟨[], arg :: rest⟩
    else
      match readOption programSpellings arg with
      | some ⟨given, none⟩ =>
        (readProgramOptions rest).map (fun a => ⟨given ++ a.given, a.others⟩)
      | _ => none

namespace Arguments

def has (a : Arguments) (f : Flag) : Bool :=
  a.given.any (fun g => g.1 = f)

/-- The value of an option, where the last one counts. -/
def value? (a : Arguments) (f : Flag) : Option String :=
  a.given.reverse.lookup f

def path? (a : Arguments) (f : Flag) : Option Path :=
  (a.value? f).map Path.ofString

end Arguments

inductive Command
  | help
  | render (r : Request)
  | themes (file : Option Path)

def isFile (s : Store) (p : Path) : Bool :=
  match s.entry? p with
  | some .directory => false
  | some _ => true
  | none => false

/-- The request that the arguments of `render` make. The resume has to be there. -/
def renderRequest (s : Store) (a : Arguments) : Option Command :=
  if a.has .help then some .help
  else match a.others with
    | [resume] =>
      let p := Path.ofString resume
      if resume ≠ "" && isFile s p then
        some (.render ⟨p, (a.value? .theme).getD "default", a.path? .output,
          if a.has .escape then .escape else .verbatim, a.path? .themesFile⟩)
      else none
    | _ => none

def themesRequest (a : Arguments) : Option Command :=
  if a.has .help then some .help
  else if a.others.isEmpty then some (.themes (a.path? .themesFile))
  else none

/-- What the arguments of the program ask for; `none` if they are not understood. -/
def Command.ofArguments? (s : Store) (args : List String) : Option Command :=
  match readProgramOptions args with
  | none => none
  | some program =>
    if program.has .help then some .help
    else match program.others with
      | [] => some .help
      | "render" :: rest => (readArguments renderSpellings rest).bind (renderRequest s)
      | "themes" :: rest => (readArguments themesSpellings rest).bind themesRequest
      | _ => none

/-- What a command shows and what it leaves in the journal. -/
structure Report where
  exit : Nat
  out : List String
  err : List String
  journal : List LogRecord
  fault : Option Fault

namespace Report

def silent (exit : Nat) : Report := ⟨exit, [], [], [], none⟩

def broken (journal : List LogRecord) (e : Fault) : Report := ⟨1, [], [], journal, some e⟩

end Report

def journalDirectory : Path := ⟨false, ["outs", "logs", "render"]⟩

def sessionHead (theme : String) : List LogRecord :=
  let extra := if theme.isEmpty then [] else [(Value.text "Theme", Value.text theme)]
  (Provenance.linesOf extra).map (fun l => ⟨.info, l⟩)

/-- Publishes a resume and says where the page is, or why there is none. -/
def runRender (s : Store) (r : Request) : Store × Report :=
  match s.makeDirs journalDirectory with
  | .error e => (s, .broken [] (.files e))
  | .ok s =>
    let (after, done) := r.publish s
    let journal := sessionHead r.theme ++ done.records
    match done.result with
    | .error e => (after, .broken journal e)
    | .ok (.failed message) => (after, ⟨1, [], Text.lines ("✗ " ++ message ++ "\n"), journal, none⟩)
    | .ok (.written p) =>
      (after, ⟨0, Text.lines ("✓ Wrote " ++ p.shown ++ "\n"), [], journal, none⟩)

/-- The lines of names, up to the first that cannot be spelled out, and the fault of that one. -/
def nameLines : List Value → List String × Option Fault
  | [] => ([], none)
  | n :: ns =>
    match n.spelled with
    | .error e => ([], some e)
    | .ok s => let (lines, fault) := nameLines ns; (Text.lines (s ++ "\n") ++ lines, fault)

def runThemes (s : Store) (file : Option Path) : Report :=
  match Catalog.load s file >>= Catalog.available with
  | .error e => .broken [] e
  | .ok names =>
    let (lines, fault) := nameLines names
    ⟨if fault.isSome then 1 else 0, lines, [], [], fault⟩

def run (s : Store) (args : List String) : Store × Report :=
  match Command.ofArguments? s args with
  | none => (s, .silent 2)
  | some .help => (s, .silent 0)
  | some (.render r) => runRender s r
  | some (.themes file) => (s, runThemes s file)

end ResumePress.CommandLine
