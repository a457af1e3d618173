import ResumePress.Value.Spelling

/-!
# Resumes

The record that a page is made of. Years are in order, and a degree that needs a subject has one,
because nothing else can be put into the types. Free text is any value: configuration is untyped,
and a text may be trusted markup. A contact field is a wording or absent.
-/
namespace ResumePress

structure Years where
  start : Whole
  finish : Whole
  nonneg : 0 ≤ start.amount
  ordered : start.amount ≤ finish.amount

structure Degree where
  kind : DegreeKind
  subject : Value
  stated : kind.needsSubject = true → subject.truthy = true

structure Education where
  years : Years
  school : Value
  field : Value
  degree : Degree

structure Work where
  years : Years
  position : Value
  company : Value
  description : Value

/-- A skill and how well it is mastered, if that is said. -/
structure Skill where
  label : Value
  level : Option Proficiency

/-- A text, plain or trusted as markup. -/
inductive Wording
  | plain (s : String)
  | trusted (s : String)
  deriving DecidableEq, Repr

/-- How a person can be reached. -/
structure Contact where
  email : Option Wording
  phone : Option Wording
  website : Option Wording
  github : Option Wording
  linkedin : Option Wording
  deriving DecidableEq, Repr

structure Resume where
  firstName : Value
  lastName : Value
  profession : Value
  description : Value
  contact : Contact
  skills : List Skill
  education : List Education
  work : List Work

namespace Years

/-- The year that a value is; `entry` says whose year it is. -/
def year (v entry : Value) : Except Fault { w : Whole // 0 ≤ w.amount } :=
  match v.whole? with
  | none => Fault.raise (.entry (.badYear v entry))
  | some w => if h : 0 ≤ w.amount then .ok ⟨w, h⟩ else Fault.raise (.entry (.badYear v entry))

/-- The years that two values are. Both are looked at before their order is. -/
def ofValues (start finish entry : Value) : Except Fault Years :=
  match year start entry with
  | .error e => .error e
  | .ok s =>
    match year finish entry with
    | .error e => .error e
    | .ok f =>
      if h : s.1.amount ≤ f.1.amount then .ok ⟨s.1, f.1, s.2, h⟩
      else Fault.raise (.entry (.reversedYears s.1 f.1 entry))

end Years

namespace Degree

def make (kind : DegreeKind) (subject : Value) : Except Fault Degree :=
  if h : kind.needsSubject = true → subject.truthy = true then .ok ⟨kind, subject, h⟩
  else .error (.entry (.noSubject kind))

def absent : Degree where
  kind := .none
  subject := .null
  stated := by simp [DegreeKind.needsSubject]

def highSchool : Degree where
  kind := .highSchool
  subject := .null
  stated := by simp [DegreeKind.needsSubject]

def isPresent (d : Degree) : Bool :=
  d.kind != .none

def describe (d : Degree) : Value :=
  match d.kind.opening? with
  | some opening => .text (opening ++ " " ++ d.subject.printed)
  | none =>
    match d.kind with
    | .highSchool => .text "high school diploma"
    | .other => d.subject
    | _ => .text ""

/-- The degree in words, if the subject can be spelled out where it is. -/
def inWords (d : Degree) : Except Fault Value :=
  match d.kind.opening? with
  | some _ => d.subject.spelled.map fun _ => d.describe
  | none => .ok d.describe

def toValue (d : Degree) : Value :=
  .record .degree [.degreeKind d.kind, d.subject]

end Degree

namespace Education

def toValue (e : Education) : Value :=
  .record .education
    [e.years.start.toValue, e.years.finish.toValue, e.school, e.field, e.degree.toValue]

end Education

namespace Work

/-- What a work entry is called in messages. -/
def entryName (position company : Value) : Value :=
  .text (position.printed ++ " at " ++ company.printed)

def toValue (w : Work) : Value :=
  .record .work
    [w.years.start.toValue, w.years.finish.toValue, w.position, w.company, w.description]

end Work

namespace Skill

def toValue (s : Skill) : Value :=
  .record .skill [s.label, (s.level.map Value.proficiency).getD .null]

end Skill

namespace Wording

def content : Wording → String
  | plain s => s
  | trusted s => s

/-- The wording with other characters, as much trusted as before. -/
def map (f : String → String) : Wording → Wording
  | plain s => plain (f s)
  | trusted s => trusted (f s)

def toValue : Wording → Value
  | plain s => .text s
  | trusted s => .trusted s

def ofValue? : Value → Option Wording
  | .text s => some (plain s)
  | .trusted s => some (trusted s)
  | _ => none

end Wording

namespace Contact

/-- The fields of a contact in the order in which they are shown. -/
def fields (c : Contact) : List (Option Wording) :=
  [c.email, c.phone, c.website, c.github, c.linkedin]

def absent : Contact :=
  ⟨none, none, none, none, none⟩

def toValue (c : Contact) : Value :=
  .record .contact (c.fields.map (fun w => (w.map Wording.toValue).getD .null))

end Contact

namespace Resume

def fullName (r : Resume) : String :=
  r.firstName.printed ++ " " ++ r.lastName.printed

/-- First name and last name, if both can be spelled out. -/
def nameInWords (r : Resume) : Except Fault String := do
  let first ← r.firstName.spelled
  let last ← r.lastName.spelled
  .ok (first ++ " " ++ last)

def toValue (r : Resume) : Value :=
  .record .resume [r.firstName, r.lastName, r.profession, r.description, r.contact.toValue,
    .tuple (r.skills.map Skill.toValue), .tuple (r.education.map Education.toValue),
    .tuple (r.work.map Work.toValue)]

end Resume

end ResumePress
