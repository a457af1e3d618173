import ResumePress.Text.Letters

/-!
# Skill levels and degrees

The closed vocabularies of a resume.
-/
namespace ResumePress

/-- How well a skill is mastered. -/
inductive Proficiency
  | none | barely | some | strong | expert
  deriving DecidableEq, Repr

namespace Proficiency

def all : List Proficiency := [none, barely, some, strong, expert]

/-- Levels are ordered by their ordinal. -/
def ordinal : Proficiency → Nat
  | none => 0
  | barely => 1
  | some => 2
  | strong => 3
  | expert => 4

def token : Proficiency → String
  | none => "none"
  | barely => "barely"
  | some => "some"
  | strong => "strong"
  | expert => "expert"

def displayName : Proficiency → String
  | none => "None"
  | barely => "Barely"
  | some => "Some"
  | strong => "Strong"
  | expert => "Expert"

def highest : Proficiency := expert

def ofOrdinal? (n : Int) : Option Proficiency :=
  all.find? (fun p => (p.ordinal : Int) == n)

/-- The level whose name in capital letters is `s`. -/
def ofCapitals? (s : String) : Option Proficiency :=
  all.find? (fun p => Text.upper p.token == s)

end Proficiency

/-- The kinds of degree that a school awards; the last one says that there is none. -/
inductive DegreeKind
  | associate | bachelor | master | doctorate | highSchool | other | none
  deriving DecidableEq, Repr

namespace DegreeKind

def all : List DegreeKind := [associate, bachelor, master, doctorate, highSchool, other, none]

def token : DegreeKind → String
  | associate => "associate"
  | bachelor => "bachelor"
  | master => "master"
  | doctorate => "doctorate"
  | highSchool => "high_school"
  | other => "other"
  | none => "none"

/-- The words before the subject, for the kinds that read "so-and-so of a subject". -/
def opening? : DegreeKind → Option String
  | associate => some "Associates degree of"
  | bachelor => some "Bachelors degree of"
  | master => some "Masters degree of"
  | doctorate => some "PhD of"
  | _ => .none

/-- A high school diploma and the absence of a degree need no subject. -/
def needsSubject : DegreeKind → Bool
  | highSchool => false
  | none => false
  | _ => true

def ofToken? (s : String) : Option DegreeKind :=
  all.find? (fun k => k.token == s)

theorem ofToken?_token (k : DegreeKind) : ofToken? k.token = some k := by
  cases k <;> decide

end DegreeKind

end ResumePress
