import ResumePress.Document.Build
import ResumePress.Resume.Record

/-!
# Records by field

Records made of loose values, field by field, and the way back from a value to the record. A loose
record may hold anything that the checks of its kind let through, so not every record value is one
of the typed records; what the layout can show is exactly what comes back.
-/
namespace ResumePress

namespace Degree

/-- A degree with any value for a kind. A kind given by its name alone is no kind when it comes to
naming it in a fault. -/
def ofFields (kind subject : Value) : Except Fault Value :=
  match kind with
  | .degreeKind k => (make k subject).map toValue
  | .list _ => .error (.misuse .wrongKind)
  | .mapping _ => .error (.misuse .wrongKind)
  | v =>
    match v.content?.bind DegreeKind.ofToken? with
    | some k =>
      if k.needsSubject && !subject.truthy then .error (.misuse .noPart)
      else .ok (.record .degree [v, subject])
    | none => .ok (.record .degree [v, subject])

def ofValue? : Value → Option Degree
  | .record .degree [kind, subject] =>
    (kind.content?.bind DegreeKind.ofToken?).bind (fun k => (make k subject).toOption)
  | _ => none

theorem ofValue?_toValue (d : Degree) : ofValue? d.toValue = some d := by
  obtain ⟨k, s, h⟩ := d
  have hm : make k s = .ok ⟨k, s, h⟩ := dif_pos h
  simp [ofValue?, toValue, Value.content?, DegreeKind.ofToken?_token, hm, Except.toOption]

end Degree

namespace Education

def ofFields (start finish school field degree : Value) : Except Fault Value :=
  (Years.ofValues start finish school).map
    (fun _ => .record .education [start, finish, school, field, degree])

def ofValue? : Value → Option Education
  | .record .education [start, finish, school, field, degree] =>
    match (Years.ofValues start finish school).toOption, Degree.ofValue? degree with
    | some years, some degree => some ⟨years, school, field, degree⟩
    | _, _ => none
  | _ => none

end Education

namespace Work

def ofFields (start finish position company description : Value) : Except Fault Value := do
  let _ ← position.spelled
  let _ ← company.spelled
  let _ ← Years.ofValues start finish (entryName position company)
  .ok (.record .work [start, finish, position, company, description])

def ofValue? : Value → Option Work
  | .record .work [start, finish, position, company, description] =>
    (Years.ofValues start finish .null).toOption.map
      (fun years => ⟨years, position, company, description⟩)
  | _ => none

end Work

namespace Skill

def ofValue? : Value → Option Skill
  | .record .skill [label, .null] => some ⟨label, none⟩
  | .record .skill [label, .proficiency p] => some ⟨label, some p⟩
  | _ => none

theorem ofValue?_toValue (s : Skill) : ofValue? s.toValue = some s := by
  obtain ⟨label, level⟩ := s
  cases level <;> rfl

end Skill

namespace Contact

/-- The contact field that a value is. What counts as false is as good as absent. -/
def field? (v : Value) : Option (Option Wording) :=
  match Wording.ofValue? v with
  | some w => some (some w)
  | none => if v.truthy then none else some none

def ofValue? : Value → Option Contact
  | .record .contact [email, phone, website, github, linkedin] =>
    match field? email, field? phone, field? website, field? github, field? linkedin with
    | some email, some phone, some website, some github, some linkedin =>
      some ⟨email, phone, website, github, linkedin⟩
    | _, _, _, _, _ => none
  | _ => none

end Contact

namespace Resume

def ofFields (first last profession description contact skills education work : Value) :
    Except Fault Value :=
  match skills.several, education.several, work.several with
  | .ok skills, .ok education, .ok work =>
    .ok (.record .resume [first, last, profession, description, contact, .tuple skills,
      .tuple education, .tuple work])
  | _, _, _ => .error (.misuse .notSeveral)

def ofValue? : Value → Option Resume
  | .record .resume [first, last, profession, description, contact, .tuple skills,
      .tuple education, .tuple work] =>
    match Contact.ofValue? contact, skills.mapM Skill.ofValue?,
      education.mapM Education.ofValue?, work.mapM Work.ofValue? with
    | some contact, some skills, some education, some work =>
      some ⟨first, last, profession, description, contact, skills, education, work⟩
    | _, _, _, _ => none
  | _ => none

end Resume

namespace RecordKind

def all : List RecordKind := [degree, education, work, skill, contact, resume]

def ofName? (s : String) : Option RecordKind :=
  all.find? (fun k => k.name == s)

/-- What fields are set to if they are left out, for those that may be. -/
def defaults : RecordKind → List Value
  | degree => [.null]
  | education => [.null, Degree.absent.toValue]
  | work => [.text ""]
  | skill => [.null]
  | contact => [.null, .null, .null, .null, .null]
  | resume => [.text "", .text "", Contact.absent.toValue, .tuple [], .tuple [], .tuple []]

/-- Appends the defaults of the fields that are left out at the end. -/
def completed (kind : RecordKind) (fields : List Value) : List Value :=
  let optional := kind.defaults
  let required := kind.fieldNames.length - optional.length
  fields ++ optional.drop (fields.length - required)

end RecordKind

namespace Value

/-- The record of a kind with the given fields in order. -/
def ofFields (kind : RecordKind) (fields : List Value) : Except Fault Value :=
  match kind, kind.completed fields with
  | .degree, [k, s] => Degree.ofFields k s
  | .education, [a, b, school, field, degree] => Education.ofFields a b school field degree
  | .work, [a, b, position, company, description] =>
    Work.ofFields a b position company description
  | .skill, [label, level] => .ok (.record .skill [label, level])
  | .contact, [email, phone, website, github, linkedin] =>
    .ok (.record .contact [email, phone, website, github, linkedin])
  | .resume, [a, b, c, d, e, f, g, h] => Resume.ofFields a b c d e f g h
  | _, _ => .error (.misuse .wrongKind)

def buildDegree (builder : String) (args : List Value) : Except Fault Value :=
  match builder, args with
  | "associate", [s] => Degree.ofFields (.degreeKind .associate) s
  | "bachelor", [s] => Degree.ofFields (.degreeKind .bachelor) s
  | "master", [s] => Degree.ofFields (.degreeKind .master) s
  | "doctorate", [s] => Degree.ofFields (.degreeKind .doctorate) s
  | "other", [s] => Degree.ofFields (.degreeKind .other) s
  | "high_school", [] => .ok Degree.highSchool.toValue
  | "none", [] => .ok Degree.absent.toValue
  | _, _ => .error (.misuse .wrongKind)

end Value

end ResumePress
