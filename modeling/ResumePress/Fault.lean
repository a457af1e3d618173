import ResumePress.Text.Template
import ResumePress.Value.Printing

/-!
# Faults

Everything that can go wrong, by its cause. The wording of a fault is a function of its cause;
faults without a wording are those that a reader of the page cannot mend in the resume or the theme.
-/
namespace ResumePress

inductive ThemeCause
  | unknownColor (name : Value)
  | notTriple (token : Option Color) (rgb : Value)
  | channelOutOfRange (token : Option Color) (rgb : Value)
  | missingColors (missing : List Color)
  | noPalette
  | notByName (path : String)

inductive NodeCause
  | notNode (value : Value)
  | percentNotWhole (value : Value)
  | percentOutOfRange (value : Value)
  | radiusNotWhole (value : Value)
  | radiusNegative (value : Value)
  | notColor (kind : String) (value : Value)

/-- What an entry of a resume violates. -/
inductive EntryCause
  | unknownProficiency (value : Value)
  | noSubject (kind : DegreeKind)
  | badYear (year entry : Value)
  | reversedYears (start finish : Whole) (entry : Value)

/-- The parts of a resume in which a field can be missing. -/
inductive Part
  | resume | degree | skill | education | work
  deriving DecidableEq, Repr

inductive ShapeCause
  | notMapping
  | missingField (field : String) (part : Part)
  | notList (field typeName : String)
  | notYear (field : String) (part : Part) (value : Value)
  | badDegree (value : Value)
  | unknownDegree (value : Value)
  | badSkill (value : Value)
  | badEducation (value : Value)
  | badWork (value : Value)
  | badContact (value : Value)
  | unknownContact (fields : List Value)

inductive RenderCause
  | fadeIn (direction : String)
  | notNode (typeName : String)

inductive FileRole
  | resume | themes
  deriving DecidableEq, Repr

/-- A value of the wrong kind where a caller had to pass a right one. -/
inductive Misuse
  /-- Values that have no common order were to be sorted. -/
  | noOrder
  /-- A single value stands where several are expected. -/
  | notSeveral
  /-- Something other than a mapping stands where a theme is expected. -/
  | notTheme
  /-- Something other than a mapping stands where a palette is expected. -/
  | notPalette
  /-- An alignment that there is no rule for. -/
  | noAlignment
  /-- A collection that can change, or a value that holds one, stands where an alignment is
  expected. -/
  | collectionAsAlignment
  /-- A direction that has no name of its own. -/
  | namelessDirection
  /-- A part was asked of a value that has no such part. -/
  | noPart
  /-- A value of a kind that the operation does not take. -/
  | wrongKind
  /-- A whole number has more digits than are spelled out. -/
  | unspellable
  deriving DecidableEq, Repr

inductive FileFault
  | isDirectory
  | blockedByFile
  | belowFile
  | notFound
  | notText
  | noName
  deriving DecidableEq, Repr

/-- What is wrong with a configuration file before its values are looked at. -/
inductive ConfigFault
  /-- The text is no document. -/
  | malformed
  /-- A number without digits. -/
  | emptyNumber
  /-- A decimal number with more digits than are read. -/
  | overlongNumber
  /-- An escape that denotes no character. -/
  | noCharacter
  /-- The document is a single number or truth value. -/
  | singleScalar
  /-- The document is a text that denotes a single number or truth value. -/
  | textOfScalar
  /-- A key is empty. -/
  | nullKey
  /-- A reference that is not closed or has no path. -/
  | badReference
  /-- A reference to what is not there, to itself, or to no plain value. -/
  | unresolved
  /-- The text is a configuration, but one with an anchor, an alias, a tag, a directive, a merging
  key, half of a surrogate pair, or a function that comes with references. None of these is read. -/
  | notCovered
  deriving DecidableEq, Repr

/-- Everything that can go wrong. -/
inductive Fault
  | theme (cause : ThemeCause) (theme : Value)
  | unknownTheme (name : Value) (available : List Value)
  | node (cause : NodeCause)
  | entry (cause : EntryCause)
  | shape (cause : ShapeCause)
  | rendering (cause : RenderCause)
  | missing (role : FileRole) (path : String)
  | config (cause : ConfigFault)
  | files (cause : FileFault)
  | misuse (cause : Misuse)
  | template (cause : Text.TemplateFault)

namespace ThemeCause

/-- " for red" if it is known which color was asked for. -/
def colorLabel : Option Color → String
  | none => ""
  | some c => " for " ++ c.token

def message : ThemeCause → String
  | unknownColor name =>
    "Unknown color '" ++ name.printed ++ "'. Valid colors: " ++
      textsLiteral (Color.all.map Color.token)
  | notTriple token rgb =>
    "Expected an (r, g, b) triple" ++ colorLabel token ++ ", got " ++ rgb.literal
  | channelOutOfRange token rgb =>
    "Color channel out of range" ++ colorLabel token ++ ": " ++ rgb.literal
  | missingColors missing =>
    "Palette does not define colors: " ++ textsLiteral (missing.map Color.token)
  | noPalette => "Theme config must contain a 'palette' mapping"
  | notByName path => "Themes config must be a mapping of theme names: " ++ path

end ThemeCause

namespace NodeCause

/-- The offending value is named unless there is none. -/
def valueLine (v : Value) : String :=
  match v with
  | .null => ""
  | v => "\nValue: " ++ v.literal

def message : NodeCause → String
  | notNode v => "Expected a DocumentNode or str" ++ valueLine v
  | percentNotWhole v => "Percent must be an integer\nNode: PercentBar" ++ valueLine v
  | percentOutOfRange v => "Percent must be within [0, 100]\nNode: PercentBar" ++ valueLine v
  | radiusNotWhole v => "Border radius must be an integer\nNode: Rectangle" ++ valueLine v
  | radiusNegative v => "Border radius must not be negative\nNode: Rectangle" ++ valueLine v
  | notColor kind v => "Color must be a ColorToken\nNode: " ++ kind ++ valueLine v

end NodeCause

namespace EntryCause

/-- The entry at fault, if it has a description. -/
def entryLabel (entry : Value) : String :=
  if entry.truthy then " (entry: " ++ entry.printed ++ ")" else ""

def message : EntryCause → String
  | unknownProficiency v =>
    "Unknown proficiency '" ++ v.printed ++ "'. Valid levels: " ++
      textsLiteral (Proficiency.all.map Proficiency.token)
  | noSubject kind => "Degree kind '" ++ kind.token ++ "' requires a subject"
  | badYear year entry =>
    "Years must be non-negative integers, got " ++ year.literal ++ entryLabel entry
  | reversedYears start finish entry =>
    "End year " ++ finish.printed ++ " is before start year " ++ start.printed ++ entryLabel entry

end EntryCause

def contactFields : List String :=
  ["email", "phone", "website", "github", "linkedin"]

def Part.words : Part → String
  | resume => "resume"
  | degree => "degree"
  | skill => "skill"
  | education => "education entry"
  | work => "work entry"

namespace ShapeCause

def message : ShapeCause → String
  | notMapping => "Resume YAML must be a mapping at root level"
  | missingField field part =>
    "Missing required field '" ++ field ++ "' in " ++ part.words
  | notList field typeName => "Field '" ++ field ++ "' must be a list, got " ++ typeName
  | notYear field part v =>
    "Field '" ++ field ++ "' in " ++ part.words ++ " must be an integer year, got " ++ v.literal
  | badDegree v => "Degree must be a string or mapping, got " ++ v.literal
  | unknownDegree v =>
    "Unknown degree kind '" ++ v.printed ++ "'. Valid kinds: " ++
      textsLiteral (DegreeKind.all.map DegreeKind.token)
  | badSkill v => "Skill must be a string or mapping, got " ++ v.literal
  | badEducation v => "Education entry must be a mapping, got " ++ v.literal
  | badWork v => "Work entry must be a mapping, got " ++ v.literal
  | badContact v => "contact_info must be a mapping, got " ++ v.literal
  | unknownContact fields =>
    "Unknown contact fields " ++ (Value.list fields).literal ++ ". Valid fields: " ++
      textsLiteral contactFields

end ShapeCause

namespace RenderCause

def message : RenderCause → String
  | fadeIn d =>
    "Fade-in transitions (" ++ d ++ ") have no rendering rule\nNode: FadeIn"
  | notNode typeName => "No rendering rule for this object\nNode: " ++ typeName

end RenderCause

namespace Fault

/-- The wording of a fault; `none` for those that have none of their own. -/
def message? : Fault → Option String
  | theme cause name =>
    some (cause.message ++ if name.truthy then " (theme: " ++ name.printed ++ ")" else "")
  | unknownTheme name available =>
    some ("Theme '" ++ name.printed ++ "' not found. Available themes: " ++
      (Value.list available).literal)
  | node cause => some cause.message
  | entry cause => some cause.message
  | shape cause => some cause.message
  | rendering cause => some cause.message
  | missing .resume path => some ("Resume file not found: " ++ path)
  | missing .themes path => some ("Themes config not found at " ++ path)
  | _ => none

end Fault

end ResumePress
