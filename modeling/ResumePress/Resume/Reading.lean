import ResumePress.Resume.Record
import ResumePress.Text.Blank
import ResumePress.Value.Equality
import ResumePress.Value.Order

/-!
# Reading resumes

A resume from its configuration. Everything but the two names may be left out or empty. Of several
faults the first in reading order is reported: the parts of a resume are read one after the other,
the fields of an entry in the order of its type, and what an entry means is looked at only when all
its fields are read. What becomes a text has to be spelled out for that.
-/
namespace ResumePress

abbrev ConfigEntries := List (Value × Value)

namespace ConfigEntries

/-- The value of a field, empty if the field is missing. -/
def optional (entries : ConfigEntries) (field : String) : Value :=
  (Value.field? field entries).getD .null

/-- The value of a field that must be there and not be empty. -/
def required (entries : ConfigEntries) (field : String) (part : Part) : Except Fault Value :=
  match entries.optional field with
  | .null => .error (.shape (.missingField field part))
  | v => .ok v

def requiredText (entries : ConfigEntries) (field : String) (part : Part) : Except Fault Value := do
  let v ← entries.required field part
  .ok (.text (← v.spelled))

/-- An optional field in words; there are none for what counts as false. -/
def optionalText (entries : ConfigEntries) (field : String) : Except Fault Value :=
  let v := entries.optional field
  if v.truthy then v.spelled.map .text else .ok (.text "")

def requiredYear (entries : ConfigEntries) (field : String) (part : Part) : Except Fault Value :=
  match entries.required field part with
  | .error e => .error e
  | .ok v => if v.whole?.isSome then .ok v else Fault.raise (.shape (.notYear field part v))

/-- The items of a field that is a list or missing. -/
def items (entries : ConfigEntries) (field : String) : Except Fault (List Value) :=
  match entries.optional field with
  | .null => .ok []
  | .list items => .ok items
  | v => .error (.shape (.notList field v.typeName))

end ConfigEntries

namespace Proficiency

/-- A level by itself, by its ordinal, or by its name in any case. -/
def ofValue (v : Value) : Except Fault Proficiency :=
  let found := match v with
    | .proficiency p => Option.some p
    | .int n => ofOrdinal? n
    | v => v.spelled.toOption.bind fun s => ofCapitals? (Text.upper (Text.trim s))
  match found with
  | Option.some p => .ok p
  | Option.none => Fault.raise (.entry (.unknownProficiency v))

end Proficiency

namespace DegreeKind

/-- The kind that a value names, in any case. -/
def ofValue (v : Value) : Except Fault DegreeKind :=
  match v.spelled.toOption.bind fun s => ofToken? (Text.lower (Text.trim s)) with
  | some k => .ok k
  | Option.none => Fault.raise (.shape (.unknownDegree v))

end DegreeKind

namespace Degree

/-- A degree is missing, named by its kind, or a mapping of kind and subject. -/
def ofConfig : Value → Except Fault Degree
  | .null => .ok absent
  | .mapping entries => do
    let kind ← ConfigEntries.required entries "kind" .degree
    make (← DegreeKind.ofValue kind) (ConfigEntries.optional entries "subject")
  | v => if v.isText then do make (← DegreeKind.ofValue v) .null
    else Fault.raise (.shape (.badDegree v))

end Degree

namespace Skill

/-- A skill is a label or a mapping of label and proficiency. -/
def ofConfig : Value → Except Fault Skill
  | .mapping entries => do
    let label ← ConfigEntries.requiredText entries "label" .skill
    match ConfigEntries.optional entries "proficiency" with
    | .null => .ok ⟨label, none⟩
    | v => .ok ⟨label, some (← Proficiency.ofValue v)⟩
  | v => if v.isText then .ok ⟨v, none⟩ else Fault.raise (.shape (.badSkill v))

end Skill

namespace Education

def ofConfig : Value → Except Fault Education
  | .mapping entries => do
    let start ← ConfigEntries.requiredYear entries "start_year" .education
    let finish ← ConfigEntries.requiredYear entries "end_year" .education
    let school ← ConfigEntries.requiredText entries "school" .education
    let field := ConfigEntries.optional entries "field_of_study"
    let degree ← Degree.ofConfig (ConfigEntries.optional entries "degree")
    .ok ⟨← Years.ofValues start finish school, school, field, degree⟩
  | v => Fault.raise (.shape (.badEducation v))

end Education

namespace Work

def ofConfig : Value → Except Fault Work
  | .mapping entries => do
    let start ← ConfigEntries.requiredYear entries "start_year" .work
    let finish ← ConfigEntries.requiredYear entries "end_year" .work
    let position ← ConfigEntries.requiredText entries "position" .work
    let company ← ConfigEntries.requiredText entries "company" .work
    let description ← ConfigEntries.optionalText entries "description"
    .ok ⟨← Years.ofValues start finish (entryName position company), position, company,
      description⟩
  | v => Fault.raise (.shape (.badWork v))

end Work

namespace Contact

/-- The keys that are no contact fields. -/
def unknownKeys (entries : ConfigEntries) : List Value :=
  (entries.map Prod.fst).filter (fun k => !contactFields.any (fun f => k.same (.text f)))

/-- A contact field in words, `none` if it is missing or empty. -/
def wordingOf (entries : ConfigEntries) (field : String) : Except Fault (Option Wording) :=
  match entries.optional field with
  | .null => .ok none
  | v => v.spelled.map fun s => some (.plain s)

/-- Contact details are missing or a mapping of contact fields only. -/
def ofConfig : Value → Except Fault Contact
  | .null => .ok absent
  | .mapping entries =>
    match Value.sorted? (unknownKeys entries) with
    | none => .error (.misuse .noOrder)
    | some [] => do
      .ok ⟨← wordingOf entries "email", ← wordingOf entries "phone",
        ← wordingOf entries "website", ← wordingOf entries "github",
        ← wordingOf entries "linkedin"⟩
    | some unknown => Fault.raise (.shape (.unknownContact unknown))
  | v => Fault.raise (.shape (.badContact v))

end Contact

namespace Resume

/-- A resume is a mapping. That both names are there is looked at first. -/
def ofConfig : Value → Except Fault Resume
  | .mapping entries => do
    let _ ← ConfigEntries.required entries "first_name" .resume
    let _ ← ConfigEntries.required entries "last_name" .resume
    let first ← ConfigEntries.requiredText entries "first_name" .resume
    let last ← ConfigEntries.requiredText entries "last_name" .resume
    let profession ← ConfigEntries.optionalText entries "profession"
    let description ← ConfigEntries.optionalText entries "description"
    let contact ← Contact.ofConfig (ConfigEntries.optional entries "contact_info")
    let skills ← (← ConfigEntries.items entries "skills").mapM Skill.ofConfig
    let education ← (← ConfigEntries.items entries "education").mapM Education.ofConfig
    let work ← (← ConfigEntries.items entries "work_experience").mapM Work.ofConfig
    .ok ⟨first, last, profession, description, contact, skills, education, work⟩
  | _ => .error (.shape .notMapping)

end Resume

end ResumePress
