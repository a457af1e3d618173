import ResumePress.Document.Build
import ResumePress.Resume.Links
import ResumePress.Value.Markup

/-!
# The layout of a resume

The document that a resume becomes: a header and the skills side by side, the history below. Only
the contents depend on the resume. Sentences of the history hold markup of their own, so they are
composed here under the policy that the page is rendered with; every other text is left as it is
for the page to treat.
-/
namespace ResumePress

open Text (EscapePolicy)

namespace Layout

/-- Part of a bar that a level fills, in percent. Every level is a quarter of the highest. -/
def filledPart (level : Int) : Int :=
  (level * 100).fdiv Proficiency.highest.ordinal

def levelPercent (p : Proficiency) : Percent where
  whole := .int (filledPart p.ordinal)
  nonneg := by cases p <;> decide
  le := by cases p <;> decide

/-- A node in the middle of its line. -/
def centered (n : Node) : Node :=
  .aligned (.node n) (.horizontal .center) (.vertical .inherit)

def painted (c : Color) (n : Node) : Node :=
  .foreground (.node n) c

/-- A heading above a group. -/
def subheading (c : Color) (text : Value) : Node :=
  centered (painted c (.italics (.node (.sectionTitle text.asText))))

def textNode (v : Value) : Node :=
  .text v.asText

def nodes (ns : List Node) : List Value :=
  ns.map .node

def link (l : ContactLink) : Node :=
  .link (.node (textNode l.label.toValue)) l.address.toValue.asText

def contactLinks (c : Contact) : Node :=
  .row (nodes (c.links.map link))

/-- Name, profession, description, and the contact links if there are any. -/
def header (r : Resume) : Node :=
  .column (nodes (
    [centered (painted .defaultTitle (.title (.text r.fullName))),
      subheading .defaultSubtitle r.profession,
      textNode r.description] ++
    if r.contact.isEmpty then [] else [contactLinks r.contact]))

/-- A skill, with a bar if its level is known. -/
def skillItem (s : Skill) : Node :=
  match s.level with
  | none => textNode s.label
  | some p => .row (nodes [textNode s.label, .percentBar (levelPercent p) (.text p.displayName)])

def skills (ss : List Skill) : Node :=
  .column (nodes
    [subheading .defaultSubtitle (.text "Skills"),
      centered (.unorderedList (nodes (ss.map skillItem)))])

/-- From when to when, as a sentence says it. -/
def span (y : Years) : String :=
  " from <i>" ++ y.start.printed ++ "</i> to <i>" ++ y.finish.printed ++ "</i>"

/-- What was studied, where anything was. -/
def fieldClause (policy : EscapePolicy) (field : Value) : String :=
  if field.truthy then " studying " ++ field.embedded policy else ""

/-- What was achieved, where anything was. -/
def degreeClause (policy : EscapePolicy) (d : Degree) : String :=
  if d.isPresent then " and achieved " ++ d.describe.embedded policy else ""

def educationSentence (policy : EscapePolicy) (e : Education) : String :=
  "Attended <b>" ++ e.school.embedded policy ++ "</b>" ++ span e.years ++
    fieldClause policy e.field ++ degreeClause policy e.degree

def workSentence (policy : EscapePolicy) (w : Work) : String :=
  "<b>" ++ w.position.embedded policy ++ "</b> at " ++ w.company.embedded policy ++ span w.years

def educationItem (policy : EscapePolicy) (e : Education) : Node :=
  .text (Value.composed policy (educationSentence policy e))

def workItem (policy : EscapePolicy) (w : Work) : Node :=
  .text (Value.composed policy (workSentence policy w))

def historyHeading (text : String) : Node :=
  centered (painted .defaultSectionTitle (.sectionTitle (.text text)))

/-- Education in a numbered list, work in a plain one, each below its heading. -/
def history (policy : EscapePolicy) (education : List Education) (work : List Work) : Node :=
  .column (nodes
    [historyHeading "Education",
      .orderedList (nodes (education.map (educationItem policy))),
      historyHeading "Professional Experience",
      .unorderedList (nodes (work.map (workItem policy)))])

def document (policy : EscapePolicy) (r : Resume) : Node :=
  let top := Node.row (nodes [.card (.node (header r)), .card (.node (skills r.skills))])
  let bottom := Node.card (.node (history policy r.education r.work))
  .document (nodes [.container (nodes [.column (nodes [top, bottom])])])

end Layout

end ResumePress
