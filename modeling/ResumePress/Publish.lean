import ResumePress.Config.Load
import ResumePress.Files.Store
import ResumePress.Journal
import ResumePress.Page.Render
import ResumePress.Resume.Assembly
import ResumePress.Resume.Reading
import ResumePress.Theme.Catalog

/-!
# Publishing

From a resume file to a page file. Theme and resume are read, the resume is laid out and rendered,
and only then is anything written, so a failure leaves the files as they were, except that
directories made for a page stay. Failures that the reader of the resume can mend are reported as an
outcome; others end the run.
-/
namespace ResumePress

open Text (EscapePolicy)

def liftConfig {α : Type} : Except ConfigFault α → Except Fault α
  | .ok a => .ok a
  | .error e => .error (.config e)

def configOf (s : Store) (role : FileRole) (p : Path) : Except Fault Value :=
  if s.contains p then
    match s.read p with
    | .error e => .error (.files e)
    | .ok text => liftConfig (Config.ofText text)
  else .error (.missing role p.shown)

namespace Catalog

/-- The catalog in a themes file, with its references resolved, or the shipped one. -/
def load (s : Store) : Option Path → Except Fault Catalog
  | none => .ok shipped
  | some p =>
    match configOf s .themes p with
    | .error e => .error e
    | .ok config =>
      match Config.resolve config with
      | .error e => .error (.config e)
      | .ok (.mapping entries) => .ok ⟨entries⟩
      | .ok _ => .error (.theme (.notByName p.shown) .null)

def source : Option Path → String
  | none => "<builtin>"
  | some p => p.shown

def loadTheme (s : Store) (name : String) (themes : Option Path) : Logged PaletteTheme := do
  let catalog ← Logged.quietly (load s themes)
  let theme ← Logged.quietly (catalog.theme (.text name))
  Logged.say .debug
    (topic "theme" ("Loaded theme '" ++ name ++ "' from " ++ source themes))
  return theme

end Catalog

namespace Resume

/-- Loads a resume. Its texts are taken as they are, references in them included. -/
def load (s : Store) (p : Path) : Logged Resume := do
  let config ← Logged.quietly (configOf s .resume p)
  let r ← Logged.quietly (ofConfig config)
  Logged.say .info (topic "template" ("Loaded resume for " ++ r.fullName))
  Logged.say .debug (topic "template" ("Source: " ++ p.shown))
  return r

def outline (r : Resume) : String :=
  "Projecting " ++ r.fullName ++ ": " ++ toString r.skills.length ++ " skills, " ++
    toString r.education.length ++ " education entries, " ++ toString r.work.length ++
    " work entries"

end Resume

structure Request where
  resume : Path
  theme : String
  output : Option Path
  policy : EscapePolicy
  themes : Option Path

inductive Outcome
  | written (path : Path)
  | failed (message : String)
  deriving DecidableEq, Repr

namespace Fault

/-- The wording of a fault that is reported rather than raised. -/
def reported? : Fault → Option String
  | theme c n => message? (theme c n)
  | unknownTheme n a => message? (unknownTheme n a)
  | entry c => message? (entry c)
  | shape c => message? (shape c)
  | rendering c => message? (rendering c)
  | missing role p => message? (missing role p)
  | _ => none

end Fault

namespace Request

/-- Where the page goes: next to the resume unless something else is said. -/
def target (r : Request) : Except Fault Path :=
  match r.output with
  | some p => .ok p
  | none => r.resume.withSuffix ".html"

def page (s : Store) (r : Request) : Logged String := do
  let theme ← Catalog.loadTheme s r.theme r.themes
  let resume ← Resume.load s r.resume
  Logged.say .debug (topic "template" resume.outline)
  let document ← Logged.quietly (Assembly.document r.policy resume)
  Logged.say .debug (topic "render"
    ("Rendering document with theme '" ++ theme.name.printed ++ "' (1 top-level nodes)"))
  Logged.quietly (Page.renderNode theme.toTheme r.policy document)

def opening (r : Request) (target : Path) : List LogRecord :=
  [⟨.info, topic "render" ("Rendering " ++ r.resume.name ++ " with theme '" ++ r.theme ++ "'")⟩,
    ⟨.debug, topic "render" ("  Source: " ++ r.resume.shown)⟩,
    ⟨.debug, topic "render" ("  Output: " ++ target.shown)⟩]

/-- The records at the end. Times are left out. -/
def closing (r : Request) : Outcome → List LogRecord
  | .written p =>
    [⟨.success, topic "render" ("Rendered with theme '" ++ r.theme ++ "' (T)")⟩,
      ⟨.info, topic "render" ("  Output: " ++ p.shown)⟩]
  | .failed message =>
    [⟨.error, topic "render" "Render failed (T)"⟩,
      ⟨.error, topic "render" ("  Error: " ++ message)⟩]

/-- Writes a page, in a directory that is made for it. The directory stays even if the page cannot
be written. -/
def deliver (s : Store) (target : Path) (page : String) : Store × Except Fault Unit :=
  match s.leaveDirs target.parent with
  | (prepared, .error e) => (prepared, .error (.files e))
  | (prepared, .ok ()) =>
    match prepared.write target page with
    | .error e => (prepared, .error (.files e))
    | .ok after => (after, .ok ())

/-- Publishes a resume: what the files are afterwards, the records and the outcome. -/
def publish (s : Store) (r : Request) : Store × Logged Outcome :=
  match r.target with
  | .error e => (s, ⟨[], .error e⟩)
  | .ok target =>
    let p := r.page s
    let records := r.opening target ++ p.records
    match p.result with
    | .error e =>
      match e.reported? with
      | some message =>
        (s, ⟨records ++ r.closing (.failed message), .ok (.failed message)⟩)
      | none => (s, ⟨records, .error e⟩)
    | .ok page =>
      match deliver s target page with
      | (after, .error e) => (after, ⟨records, .error e⟩)
      | (after, .ok ()) =>
        (after, ⟨records ++ r.closing (.written target), .ok (.written target)⟩)

end Request

end ResumePress
