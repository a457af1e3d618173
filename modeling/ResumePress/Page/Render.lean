import ResumePress.Page.Frame
import ResumePress.Theme.Basic
import ResumePress.Value.Constant
import ResumePress.Value.Markup

/-!
# Rendering documents

The markup of a document under a theme. Every kind of node has one form; colors, the style sheet and
the chrome of cards are asked of the theme. Texts, labels and addresses are embedded under the
escape policy and nothing else is. An entrance has no form, and neither has what is no node.

Rendering stops at the first thing that fails. The style sheet and the radius of a panel are spelled
out last, when the children are rendered, everything else before them.
-/
namespace ResumePress

open Text (EscapePolicy)

/-- The style rule of a placement; the inherited one needs none. -/
def HorizontalAlignment.rule : HorizontalAlignment → String
  | left => "justify-content: left;"
  | right => "justify-content: right;"
  | center => "justify-content: center;"
  | inherit => ""

def VerticalAlignment.rule : VerticalAlignment → String
  | top => "align-items: flex-start;"
  | center => "align-items: center;"
  | bottom => "align-items: flex-end;"
  | inherit => ""

namespace Page

/-- The rule under a name, where a name that there is no rule for is a fault. -/
def placementRule (rule? : String → Option String) (v : Value) : Except Fault String :=
  match v.content?.bind rule? with
  | some rule => .ok rule
  | none => .error (.misuse (if v.isConstant then .noAlignment else .collectionAsAlignment))

def horizontalRule : Value → Except Fault String :=
  placementRule (fun s => (HorizontalAlignment.ofToken? s).map HorizontalAlignment.rule)

def verticalRule : Value → Except Fault String :=
  placementRule (fun s => (VerticalAlignment.ofToken? s).map VerticalAlignment.rule)

/-- The name of a member of a vocabulary. A mere text has none. -/
def memberToken? : Value → Option String
  | .color c => some c.token
  | .proficiency p => some (toString p.ordinal)
  | .degreeKind k => some k.token
  | .horizontal h => some h.token
  | .vertical v => some v.token
  | .direction d => some d.token
  | _ => none

/-- An entrance is declared but has no form. -/
def fadeInFault (direction : Value) : Fault :=
  match memberToken? direction with
  | some token => .rendering (.fadeIn token)
  | none => .misuse .namelessDirection

/-- Markup between an opening and a closing. -/
def within (opening closing content : String) : String :=
  opening ++ content ++ closing

/-- Markup on lines of its own. -/
def stacked (parts : List String) : String :=
  "\n".intercalate parts

def wrapped (opening closing : String) (parts : List String) : String :=
  stacked (parts.map (within opening closing))

def columnOpening : String := "<div class=\"col no-gutters\">"

def rowOpening : String := "<div class=\"row no-gutters\">"

def alignedOpening (rules : String) : String :=
  "<div style=\"height:100%; width:100%; display: flex; flex-grow: 1; " ++ rules ++ "\">"

def rectangleOpening (radius hex : String) : String :=
  "<div style=\"height:100%; border-radius: " ++ radius ++ "%; background-color:" ++ hex ++ "\">"

def barOpening (percent : String) : String :=
  "<div class=\"progress\"><div class=\"progress-bar\" role=\"progressbar\" style=\"width:" ++
    percent ++ "%\"  aria-valuenow=\"" ++ percent ++
    "\" aria-valuemin=\"0\" aria-valuemax=\"100\">"

mutual

/-- The markup of a value, which has to be a node. -/
def renderValue (theme : Theme) (policy : EscapePolicy) : Value → Except Fault String
  | .node n => renderNode theme policy n
  | v => .error (.rendering (.notNode v.typeName))

/-- The markup of a node. What the theme is asked for comes before the children. -/
def renderNode (theme : Theme) (policy : EscapePolicy) : Node → Except Fault String
  | .document children => do
    -- the journal names the theme
    let _ ← theme.name.spelled
    let css ← theme.css
    let foreground ← theme.hex (.color .defaultForeground)
    let background ← theme.hex (.color .defaultBackground)
    let parts ← renderAll theme policy children
    .ok (frame (← css.spelled) foreground background (stacked parts))
  | .container children => do
    let parts ← renderAll theme policy children
    .ok (within "<div class=\"container\">" "</div>" (stacked parts))
  | .aligned child h v => do
    let rule ← horizontalRule h
    let rule' ← verticalRule v
    let content ← renderValue theme policy child
    .ok (within (alignedOpening (rule ++ rule')) "</div>" content)
  | .row children => do
    let parts ← renderAll theme policy children
    .ok (within rowOpening "</div>" (wrapped columnOpening "</div>" parts))
  | .column children => do
    let parts ← renderAll theme policy children
    .ok (within columnOpening "</div>" (wrapped rowOpening "</div>" parts))
  | .text t => (t.shown policy).map (within "<p>" "</p>")
  | .title t => (t.shown policy).map (within "<h1>" "</h1>")
  | .sectionTitle t => (t.shown policy).map (within "<h4>" "</h4>")
  | .orderedList items => do
    let parts ← renderAll theme policy items
    .ok (within "<ol style=\"width:100%\">" "</ol>" (wrapped "<li>" "</li>" parts))
  | .unorderedList items => do
    let parts ← renderAll theme policy items
    .ok (within "<ul style=\"width:100%\">" "</ul>" (wrapped "<li>" "</li>" parts))
  | .percentBar percent label =>
    (label.shown policy).map (within (barOpening percent.whole.printed) "</div></div>")
  | .rectangle child radius color => do
    let hex ← theme.hex (.color color)
    let content ← renderValue theme policy child
    let percent ← radius.whole.toValue.spelled
    .ok (within (rectangleOpening percent hex) "</div>" content)
  | .card child => do
    let content ← renderValue theme policy child
    theme.card content
  | .italics child => do
    let content ← renderValue theme policy child
    .ok (within "<i>" "</i>" content)
  | .bold child => do
    let content ← renderValue theme policy child
    .ok (within "<b>" "</b>" content)
  | .link child url => do
    let address ← url.shown policy
    let content ← renderValue theme policy child
    .ok (within ("<a href=\"" ++ address ++ "\">") "</a>" content)
  | .foreground child color => do
    let hex ← theme.hex (.color color)
    let content ← renderValue theme policy child
    .ok (within ("<div style=\"color: " ++ hex ++ ";\">") "</div>" content)
  | .background child color => do
    let hex ← theme.hex (.color color)
    let content ← renderValue theme policy child
    .ok (within ("<div style=\"background-color: " ++ hex ++ ";\">") "</div>" content)
  | .fadeIn direction => .error (fadeInFault direction)

/-- The markup of several values, up to the first without. -/
def renderAll (theme : Theme) (policy : EscapePolicy) : List Value → Except Fault (List String)
  | [] => .ok []
  | v :: vs => do
    let part ← renderValue theme policy v
    let parts ← renderAll theme policy vs
    .ok (part :: parts)

end

/-- The names of node kinds without a form. -/
def missingForms (kinds : List String) : List String :=
  kinds.filter (fun k => !Node.kindNames.contains k)

end Page

end ResumePress
