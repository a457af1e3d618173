import ResumePress.Color
import ResumePress.Document.Placement
import ResumePress.Number.Binary64
import ResumePress.Resume.Vocabulary

/-!
# Values

What a configuration file, a caller or a document can hold. Configuration is untyped, and documents
accept any child and most payloads, so nodes and values are defined together: a child is a value,
which may be a node. A text is either plain or `trusted`, which says that it is markup already and
must not be escaped again.

Records of a resume appear as values too, with their fields in declaration order. The typed records
that the layout works on are defined beside the resume.
-/
namespace ResumePress

/-- A whole number, written as such or as the skill level that stands for it. -/
inductive Whole
  | int (n : Int)
  | level (p : Proficiency)
  deriving DecidableEq, Repr

def Whole.amount : Whole → Int
  | .int n => n
  | .level p => p.ordinal

structure Percent where
  whole : Whole
  nonneg : 0 ≤ whole.amount
  le : whole.amount ≤ 100
  deriving DecidableEq, Repr

structure Radius where
  whole : Whole
  nonneg : 0 ≤ whole.amount
  deriving DecidableEq, Repr

inductive RecordKind
  | degree | education | work | skill | contact | resume
  deriving DecidableEq, Repr

mutual

/-- A value of any kind. -/
inductive Value
  | null
  | bool (b : Bool)
  | int (n : Int)
  | float (x : Binary64)
  | text (s : String)
  | trusted (s : String)
  | list (items : List Value)
  | tuple (items : List Value)
  | mapping (entries : List (Value × Value))
  | color (c : Color)
  | proficiency (p : Proficiency)
  | degreeKind (k : DegreeKind)
  | horizontal (h : HorizontalAlignment)
  | vertical (v : VerticalAlignment)
  | direction (d : Direction)
  | node (n : Node)
  | record (kind : RecordKind) (fields : List Value)

inductive Node
  | document (children : List Value)
  | container (children : List Value)
  | aligned (child horizontal vertical : Value)
  | row (children : List Value)
  | column (children : List Value)
  | text (text : Value)
  | title (text : Value)
  | sectionTitle (text : Value)
  | orderedList (items : List Value)
  | unorderedList (items : List Value)
  | percentBar (percent : Percent) (label : Value)
  | rectangle (child : Value) (radius : Radius) (color : Color)
  | card (child : Value)
  | italics (child : Value)
  | bold (child : Value)
  | link (child url : Value)
  | foreground (child : Value) (color : Color)
  | background (child : Value) (color : Color)
  | fadeIn (direction : Value)

end

instance : Inhabited Value := ⟨.null⟩

def Whole.toValue : Whole → Value
  | .int n => .int n
  | .level p => .proficiency p

namespace RecordKind

/-- The name of a record in listings and messages. -/
def name : RecordKind → String
  | degree => "Degree"
  | education => "Education"
  | work => "Work"
  | skill => "SkillEntry"
  | contact => "ContactInfo"
  | resume => "ResumeRecord"

def fieldNames : RecordKind → List String
  | degree => ["kind", "subject"]
  | education => ["start_year", "end_year", "school", "field_of_study", "degree"]
  | work => ["start_year", "end_year", "position", "company", "description"]
  | skill => ["label", "proficiency"]
  | contact => ["email", "phone", "website", "github", "linkedin"]
  | resume => ["first_name", "last_name", "profession", "description", "contact_info", "skills",
      "education", "work_experience"]

end RecordKind

namespace Node

/-- The name of a node's kind in listings and messages. -/
def kindName : Node → String
  | document _ => "Document"
  | container _ => "Container"
  | aligned _ _ _ => "Aligned"
  | row _ => "Row"
  | column _ => "Column"
  | text _ => "Text"
  | title _ => "Title"
  | sectionTitle _ => "SectionTitle"
  | orderedList _ => "OrderedList"
  | unorderedList _ => "UnorderedList"
  | percentBar _ _ => "PercentBar"
  | rectangle _ _ _ => "Rectangle"
  | card _ => "Section"
  | italics _ => "Italics"
  | bold _ => "Bold"
  | link _ _ => "Link"
  | foreground _ _ => "ColoredForeground"
  | background _ _ => "ColoredBackground"
  | fadeIn _ => "FadeIn"

def kindNames : List String :=
  ["Document", "Container", "Aligned", "Row", "Column", "Text", "Title", "SectionTitle",
    "OrderedList", "UnorderedList", "PercentBar", "Rectangle", "Section", "Italics", "Bold",
    "Link", "ColoredForeground", "ColoredBackground", "FadeIn"]

/-- The fields of a node by name, in declaration order; several children form a tuple. -/
def fields : Node → List (String × Value)
  | document children => [("children", .tuple children)]
  | container children => [("children", .tuple children)]
  | aligned child horizontal vertical =>
    [("child", child), ("horizontal", horizontal), ("vertical", vertical)]
  | row children => [("children", .tuple children)]
  | column children => [("children", .tuple children)]
  | text t => [("text", t)]
  | title t => [("text", t)]
  | sectionTitle t => [("text", t)]
  | orderedList items => [("items", .tuple items)]
  | unorderedList items => [("items", .tuple items)]
  | percentBar percent label => [("percent", percent.whole.toValue), ("label", label)]
  | rectangle child radius color =>
    [("child", child), ("border_radius", radius.whole.toValue), ("color", .color color)]
  | card child => [("child", child)]
  | italics child => [("child", child)]
  | bold child => [("child", child)]
  | link child url => [("child", child), ("url", url)]
  | foreground child color => [("child", child), ("color", .color color)]
  | background child color => [("child", child), ("color", .color color)]
  | fadeIn direction => [("direction", direction)]

end Node

namespace Value

def typeName : Value → String
  | null => "NoneType"
  | bool _ => "bool"
  | int _ => "int"
  | float _ => "float"
  | text _ => "str"
  | trusted _ => "Markup"
  | list _ => "list"
  | tuple _ => "tuple"
  | mapping _ => "dict"
  | color _ => "ColorToken"
  | proficiency _ => "Proficiency"
  | degreeKind _ => "DegreeKind"
  | horizontal _ => "HorizontalAlignment"
  | vertical _ => "VerticalAlignment"
  | direction _ => "Direction"
  | node n => n.kindName
  | record kind _ => kind.name

/-- The characters of a text. Colors, degree kinds and placements are texts by their names. -/
def content? : Value → Option String
  | text s => some s
  | trusted s => some s
  | color c => some c.token
  | degreeKind k => some k.token
  | horizontal h => some h.token
  | vertical v => some v.token
  | direction d => some d.token
  | _ => none

def isText (v : Value) : Bool :=
  v.content?.isSome

/-- The whole number that a value is. A truth value is none. -/
def whole? : Value → Option Whole
  | int n => some (.int n)
  | proficiency p => some (.level p)
  | _ => none

@[simp] theorem whole?_toValue (w : Whole) : w.toValue.whole? = some w := by
  cases w <;> rfl

/-- Nothing, zero and what is empty count as false, every other value as true. -/
def truthy : Value → Bool
  | null => false
  | bool b => b
  | int n => n != 0
  | float x => !x.isZero
  | text s => !s.isEmpty
  | trusted s => !s.isEmpty
  | list items => !items.isEmpty
  | tuple items => !items.isEmpty
  | mapping entries => !entries.isEmpty
  | proficiency p => p.ordinal != 0
  | _ => true

/-- The elements of what can be run through: a sequence, a text by characters, a mapping by keys. -/
def elements? : Value → Option (List Value)
  | list items => some items
  | tuple items => some items
  | mapping entries => some (entries.map Prod.fst)
  | v => v.content?.map (fun s => s.toList.map (fun c => text (String.singleton c)))

end Value

end ResumePress
