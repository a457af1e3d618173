import ResumePress.Resume.Layout

/-!
# Layouts by the builders

The layout of a resume as the builders of documents put it together, from loose values and step by
step. A builder may refuse a child, a color or a percentage, a template may have no argument for a
place, and a number may have too many digits to be spelled out, so every step has a fault to give
instead of a node.
-/
namespace ResumePress

open Text (EscapePolicy)

namespace Assembly

/-- Nodes as the one argument of a builder that takes several. -/
def together (ns : List Node) : Value :=
  .list (Layout.nodes ns)

def centered (n : Node) : Except Fault Node :=
  Node.build "aligned" [.node n, .horizontal .center, .vertical .inherit]

def painted (c : Color) (n : Node) : Except Fault Node :=
  Node.build "fg" [.node n, .color c]

def subheading (c : Color) (text : Value) : Except Fault Node := do
  let heading ← Node.build "section_title" [text]
  let slanted ← Node.build "italics" [.node heading]
  centered (← painted c slanted)

def link (l : ContactLink) : Except Fault Node := do
  let label ← Node.build "text" [l.label.toValue]
  Node.build "link" [.node label, l.address.toValue]

def contactLinks (c : Contact) : Except Fault Node := do
  let links ← c.links.mapM link
  Node.build "row" [together links]

def header (r : Resume) : Except Fault Node := do
  let title ← Node.build "title" [.text (← r.nameInWords)]
  let name ← centered (← painted .defaultTitle title)
  let profession ← subheading .defaultSubtitle r.profession
  let description ← Node.build "text" [r.description]
  let links ← if r.contact.isEmpty then .ok [] else (contactLinks r.contact).map (fun n => [n])
  Node.build "col" [together ([name, profession, description] ++ links)]

/-- The bar of a level, made from its percentage as any other bar. -/
def levelBar (p : Proficiency) : Except Fault Node :=
  Node.ofFields "PercentBar" [.int (Layout.filledPart p.ordinal), .text p.displayName]

def skillItem (s : Skill) : Except Fault Node :=
  match s.level with
  | none => Node.build "text" [s.label]
  | some p => do
    let label ← Node.build "text" [s.label]
    let bar ← levelBar p
    Node.build "row" [together [label, bar]]

def skills (ss : List Skill) : Except Fault Node := do
  let heading ← subheading .defaultSubtitle (.text "Skills")
  let items ← ss.mapM skillItem
  let list ← centered (← Node.build "ul" [together items])
  Node.build "col" [together [heading, list]]

/-- The template of the sentence about a time at school. It has a place for the field and one for
the degree where there are any. -/
def educationTemplate (e : Education) : String :=
  "Attended <b>\x7b\x7d</b> from <i>\x7b\x7d</i> to <i>\x7b\x7d</i>" ++
    (if e.field.truthy then " studying \x7b\x7d" else "") ++
    (if e.degree.isPresent then " and achieved \x7b\x7d" else "")

/-- What stands in the places of that template. -/
def educationArguments (e : Education) : Except Fault (List Value) := do
  let phrases ← if e.degree.isPresent then e.degree.inWords.map (fun v => [v]) else .ok []
  .ok ([e.school, e.years.start.toValue, e.years.finish.toValue] ++
    (if e.field.truthy then [e.field] else []) ++ phrases)

def educationItem (policy : EscapePolicy) (e : Education) : Except Fault Node := do
  let sentence ← Value.filled policy (.text (educationTemplate e)) (← educationArguments e)
  Node.build "text" [sentence]

def workTemplate : String :=
  "<b>\x7b\x7d</b> at \x7b\x7d from <i>\x7b\x7d</i> to <i>\x7b\x7d</i>"

def workItem (policy : EscapePolicy) (w : Work) : Except Fault Node := do
  let sentence ← Value.filled policy (.text workTemplate)
    [w.position, w.company, w.years.start.toValue, w.years.finish.toValue]
  Node.build "text" [sentence]

def historyHeading (text : String) : Except Fault Node := do
  let heading ← Node.build "section_title" [.text text]
  centered (← painted .defaultSectionTitle heading)

def history (policy : EscapePolicy) (education : List Education) (work : List Work) :
    Except Fault Node := do
  let educationHeading ← historyHeading "Education"
  let educationItems ← education.mapM (educationItem policy)
  let educationList ← Node.build "ol" [together educationItems]
  let workHeading ← historyHeading "Professional Experience"
  let workItems ← work.mapM (workItem policy)
  let workList ← Node.build "ul" [together workItems]
  Node.build "col" [together [educationHeading, educationList, workHeading, workList]]

/-- The whole document. The journal names the resume before anything is built. -/
def document (policy : EscapePolicy) (r : Resume) : Except Fault Node := do
  let _ ← r.nameInWords
  let headerCard ← Node.build "section" [.node (← header r)]
  let skillsCard ← Node.build "section" [.node (← skills r.skills)]
  let top ← Node.build "row" [together [headerCard, skillsCard]]
  let bottom ← Node.build "section" [.node (← history policy r.education r.work)]
  let column ← Node.build "col" [together [top, bottom]]
  let container ← Node.build "container" [together [column]]
  Node.build "html" [together [container]]

end Assembly

end ResumePress
