import ResumePress.Value.Spelling

/-!
# Building documents

Nodes from loose values. A node keeps whatever child it is given; what it refuses is a percentage
or a radius out of range and a color that is not one. The builders are stricter about children and
kinder about texts: a child that is a text becomes a text node, any other child has to be a node,
and a heading made of something else shows it as a page does.
-/
namespace ResumePress

namespace Percent

def ofValue (v : Value) : Except Fault Percent :=
  match v.whole? with
  | none => Fault.raise (.node (.percentNotWhole v))
  | some w =>
    if h : 0 ≤ w.amount ∧ w.amount ≤ 100 then .ok ⟨w, h.1, h.2⟩
    else Fault.raise (.node (.percentOutOfRange v))

end Percent

namespace Radius

def ofValue (v : Value) : Except Fault Radius :=
  match v.whole? with
  | none => Fault.raise (.node (.radiusNotWhole v))
  | some w => if h : 0 ≤ w.amount then .ok ⟨w, h⟩ else Fault.raise (.node (.radiusNegative v))

end Radius

namespace Value

def several (v : Value) : Except Fault (List Value) :=
  match v.elements? with
  | some items => .ok items
  | none => .error (.misuse .notSeveral)

/-- A text as it is, every other value as a page shows it. -/
def asText (v : Value) : Value :=
  if v.isText then v else .text v.printed

/-- The value as a text, if it can be spelled out. -/
def inWords (v : Value) : Except Fault Value :=
  v.spelled.map fun _ => v.asText

theorem inWords_of_isSpellable {v : Value} (h : v.isSpellable = true) :
    v.inWords = .ok v.asText := by
  simp [inWords, spelled_of_isSpellable h, Except.map]

/-- A child for a node: a node as it is, a text as a text node. -/
def asChild (v : Value) : Except Fault Value :=
  match v with
  | .node n => .ok (.node n)
  | v => if v.isText then .ok (.node (.text v)) else Fault.raise (.node (.notNode v))

def asChildren (v : Value) : Except Fault (List Value) :=
  v.several >>= List.mapM asChild

def asColor (kind : String) : Value → Except Fault Color
  | .color c => .ok c
  | v => Fault.raise (.node (.notColor kind v))

end Value

namespace Node

def percentBarOf (percent label : Value) : Except Fault Node :=
  (Percent.ofValue percent).map (.percentBar · label)

/-- A colored panel. The radius is looked at before the color. -/
def rectangleOf (child radius color : Value) : Except Fault Node :=
  Radius.ofValue radius >>= fun r => (color.asColor "Rectangle").map (.rectangle child r ·)

def foregroundOf (child color : Value) : Except Fault Node :=
  (color.asColor "ColoredForeground").map (.foreground child ·)

def backgroundOf (child color : Value) : Except Fault Node :=
  (color.asColor "ColoredBackground").map (.background child ·)

/-- Where a child stands unless something else is said. -/
def unaligned (child : Value) : Node :=
  .aligned child (.horizontal .inherit) (.vertical .inherit)

/-- The node of a kind with the given fields in order, of which some may be left out at the end;
children are given as one value. -/
def ofFields (kind : String) (fields : List Value) : Except Fault Node :=
  let holding (make : List Value → Node) : Except Fault Node :=
    match fields with
    | [] => .ok (make [])
    | [v] => v.several.map make
    | _ => .error (.misuse .wrongKind)
  match kind, fields with
  | "Document", _ => holding .document
  | "Container", _ => holding .container
  | "Row", _ => holding .row
  | "Column", _ => holding .column
  | "OrderedList", _ => holding .orderedList
  | "UnorderedList", _ => holding .unorderedList
  | "Aligned", [child] => .ok (unaligned child)
  | "Aligned", [child, h] => .ok (.aligned child h (.vertical .inherit))
  | "Aligned", [child, h, v] => .ok (.aligned child h v)
  | "Text", [t] => .ok (.text t)
  | "Title", [t] => .ok (.title t)
  | "SectionTitle", [t] => .ok (.sectionTitle t)
  | "PercentBar", [percent, label] => percentBarOf percent label
  | "Rectangle", [child, radius, color] => rectangleOf child radius color
  | "Section", [child] => .ok (.card child)
  | "Italics", [child] => .ok (.italics child)
  | "Bold", [child] => .ok (.bold child)
  | "Link", [child, url] => .ok (.link child url)
  | "ColoredForeground", [child, color] => foregroundOf child color
  | "ColoredBackground", [child, color] => backgroundOf child color
  | "FadeIn", [direction] => .ok (.fadeIn direction)
  | _, _ => .error (.misuse .wrongKind)

/-- The node that a builder makes of its arguments. -/
def build (builder : String) (args : List Value) : Except Fault Node :=
  match builder, args with
  | "html", [v] => v.asChildren.map .document
  | "container", [v] => v.asChildren.map .container
  | "row", [v] => v.asChildren.map .row
  | "col", [v] => v.asChildren.map .column
  | "ol", [v] => v.asChildren.map .orderedList
  | "ul", [v] => v.asChildren.map .unorderedList
  | "aligned", [child] => child.asChild.map unaligned
  | "aligned", [child, h] => child.asChild.map (.aligned · h (.vertical .inherit))
  | "aligned", [child, h, v] => child.asChild.map (.aligned · h v)
  | "title", [v] => v.inWords.map .title
  | "section_title", [v] => v.inWords.map .sectionTitle
  | "text", [v] => v.inWords.map .text
  | "rect", [child, radius, color] => child.asChild >>= (rectangleOf · radius color)
  | "section", [child] => child.asChild.map .card
  | "italics", [child] => child.asChild.map .italics
  | "bold", [child] => child.asChild.map .bold
  | "link", [child, url] => child.asChild >>= fun c => url.inWords.map (.link c ·)
  | "fg", [child, color] => child.asChild >>= (foregroundOf · color)
  | "bg", [child, color] => child.asChild >>= (backgroundOf · color)
  | _, _ => .error (.misuse .wrongKind)

end Node

end ResumePress
