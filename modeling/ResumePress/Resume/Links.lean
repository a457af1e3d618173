import ResumePress.Resume.Record
import ResumePress.Text.Escape
import ResumePress.Text.Occurs

/-!
# Contact links

A contact field is shown as it is given and links to an address made of it. Handles and bare names
are completed to full addresses; what already is one is left alone.
-/
namespace ResumePress

namespace Wording

/-- One wording after the other. If one of them is trusted the result is, so the plain one is
escaped. -/
def append : Wording → Wording → Wording
  | plain s, plain t => plain (s ++ t)
  | plain s, trusted t => trusted (Text.escape s ++ t)
  | trusted s, plain t => trusted (s ++ Text.escape t)
  | trusted s, trusted t => trusted (s ++ t)

/-- Puts `opening` in front of a wording that does not begin with it. -/
def prependOnce (opening w : Wording) : Wording :=
  if Text.beginsWith opening.content w.content then w else opening.append w

/-- The address that `opening` and a wording make, unless the wording names a protocol itself. -/
def completed (opening : String) (w : Wording) : Wording :=
  if Text.holds "://" w.content then w else prependOnce (plain opening) w

def withoutSpaces (w : Wording) : Wording :=
  w.map (fun s => String.ofList (s.toList.filter (· ≠ ' ')))

end Wording

/-- A label and the address behind it. -/
structure ContactLink where
  label : Wording
  address : Wording
  deriving DecidableEq, Repr

namespace Contact

def emailAddress (w : Wording) : Wording :=
  Wording.prependOnce (.plain "mailto:") w

def phoneAddress (w : Wording) : Wording :=
  Wording.prependOnce (.plain "tel:") w.withoutSpaces

def websiteAddress (w : Wording) : Wording :=
  Wording.completed "https://" w

def githubAddress (w : Wording) : Wording :=
  Wording.completed "https://github.com/" w

def linkedinAddress (w : Wording) : Wording :=
  Wording.completed "https://www.linkedin.com/in/" w

/-- The link of a field, if there is anything in it. -/
def link? (address : Wording → Wording) (field : Option Wording) : Option ContactLink :=
  match field with
  | none => none
  | some w => if w.content.isEmpty then none else some ⟨w, address w⟩

/-- The links of the fields that are not empty, in the order of the fields. -/
def links (c : Contact) : List ContactLink :=
  [link? emailAddress c.email, link? phoneAddress c.phone, link? websiteAddress c.website,
    link? githubAddress c.github, link? linkedinAddress c.linkedin].filterMap id

def isEmpty (c : Contact) : Bool :=
  c.links.isEmpty

end Contact

end ResumePress
