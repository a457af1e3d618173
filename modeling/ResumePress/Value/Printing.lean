import ResumePress.Number.Shortest
import ResumePress.Text.Quoted
import ResumePress.Value.Basic

/-!
# Values as text

A value has two texts. `printed` is what stands on a page: a text as it is, everything else as in a
listing. `literal` is what stands in a listing or a message: texts between quotes, named values with
their kind, nodes and records with their fields by name.

Both are only written if they can be: a whole number of more than 4300 digits is never spelled out,
and then nothing that it is a part of is.
-/
namespace ResumePress

/-- A member of a closed vocabulary, by its kind and its name in capitals. -/
def memberName (kind token : String) : String :=
  kind ++ "." ++ Text.upper token

/-- A member of a vocabulary in a listing, with what stands behind it. -/
def memberLiteral (kind token behind : String) : String :=
  "<" ++ memberName kind token ++ ": " ++ behind ++ ">"

/-- Texts between brackets, separated by commas. -/
def bracketed (opening closing : String) (items : List String) : String :=
  opening ++ ", ".intercalate items ++ closing

/-- A list of one element keeps a comma, so that it is not taken for a pair of brackets. -/
def tupleText : List String → String
  | [item] => "(" ++ item ++ ",)"
  | items => bracketed "(" ")" items

def fieldsText (kind : String) (names shown : List String) : String :=
  bracketed (kind ++ "(") ")" (List.zipWith (fun n s => n ++ "=" ++ s) names shown)

def Proficiency.literal (p : Proficiency) : String :=
  memberLiteral "Proficiency" p.token (toString p.ordinal)

def Color.literal (c : Color) : String :=
  memberLiteral "ColorToken" c.token (Text.quoted c.token)

def Whole.literal : Whole → String
  | .int n => toString n
  | .level p => p.literal

def Whole.printed (w : Whole) : String :=
  toString w.amount

mutual

/-- The value as it is shown in a listing or a message. -/
def Value.literal : Value → String
  | .null => "None"
  | .bool b => if b then "True" else "False"
  | .int n => toString n
  | .float x => x.shown
  | .text s => Text.quoted s
  | .trusted s => "Markup(" ++ Text.quoted s ++ ")"
  | .list items => bracketed "[" "]" (literals items)
  | .tuple items => tupleText (literals items)
  | .mapping entries => bracketed "\x7b" "\x7d" (entryLiterals entries)
  | .color c => c.literal
  | .proficiency p => p.literal
  | .degreeKind k => memberLiteral "DegreeKind" k.token (Text.quoted k.token)
  | .horizontal h => memberLiteral "HorizontalAlignment" h.token (Text.quoted h.token)
  | .vertical v => memberLiteral "VerticalAlignment" v.token (Text.quoted v.token)
  | .direction d => memberLiteral "Direction" d.token (Text.quoted d.token)
  | .node n => n.literal
  | .record kind fields => fieldsText kind.name kind.fieldNames (literals fields)

/-- The node by its kind and its fields. -/
def Node.literal : Node → String
  | .document children => fieldsText "Document" ["children"] [tupleText (literals children)]
  | .container children => fieldsText "Container" ["children"] [tupleText (literals children)]
  | .aligned child h v => fieldsText "Aligned" ["child", "horizontal", "vertical"]
      [child.literal, h.literal, v.literal]
  | .row children => fieldsText "Row" ["children"] [tupleText (literals children)]
  | .column children => fieldsText "Column" ["children"] [tupleText (literals children)]
  | .text t => fieldsText "Text" ["text"] [t.literal]
  | .title t => fieldsText "Title" ["text"] [t.literal]
  | .sectionTitle t => fieldsText "SectionTitle" ["text"] [t.literal]
  | .orderedList items => fieldsText "OrderedList" ["items"] [tupleText (literals items)]
  | .unorderedList items => fieldsText "UnorderedList" ["items"] [tupleText (literals items)]
  | .percentBar percent label => fieldsText "PercentBar" ["percent", "label"]
      [percent.whole.literal, label.literal]
  | .rectangle child radius color => fieldsText "Rectangle" ["child", "border_radius", "color"]
      [child.literal, radius.whole.literal, color.literal]
  | .card child => fieldsText "Section" ["child"] [child.literal]
  | .italics child => fieldsText "Italics" ["child"] [child.literal]
  | .bold child => fieldsText "Bold" ["child"] [child.literal]
  | .link child url => fieldsText "Link" ["child", "url"] [child.literal, url.literal]
  | .foreground child color => fieldsText "ColoredForeground" ["child", "color"]
      [child.literal, color.literal]
  | .background child color => fieldsText "ColoredBackground" ["child", "color"]
      [child.literal, color.literal]
  | .fadeIn d => fieldsText "FadeIn" ["direction"] [d.literal]

def literals : List Value → List String
  | [] => []
  | v :: vs => v.literal :: literals vs

def entryLiterals : List (Value × Value) → List String
  | [] => []
  | (k, v) :: es => (k.literal ++ ": " ++ v.literal) :: entryLiterals es

end

/-- The value as it stands on a page. -/
def Value.printed : Value → String
  | .text s => s
  | .trusted s => s
  | .proficiency p => toString p.ordinal
  | .color c => memberName "ColorToken" c.token
  | .degreeKind k => memberName "DegreeKind" k.token
  | .horizontal h => memberName "HorizontalAlignment" h.token
  | .vertical v => memberName "VerticalAlignment" v.token
  | .direction d => memberName "Direction" d.token
  | v => v.literal

@[simp] theorem Value.printed_text (s : String) : (Value.text s).printed = s := rfl

@[simp] theorem Value.printed_trusted (s : String) : (Value.trusted s).printed = s := rfl

/-- The least number that is not spelled out: a one with 4300 zeros behind it. -/
@[irreducible] def unspelled : Nat := Nat.pow (Nat.pow 10 100) 43

def Whole.isSpellable : Whole → Bool
  | .int n => n.natAbs < unspelled
  | .level _ => true

mutual

/-- Whether every number in the value can be spelled out. -/
def Value.isSpellable : Value → Bool
  | .int n => n.natAbs < unspelled
  | .list items => allSpellable items
  | .tuple items => allSpellable items
  | .mapping entries => entriesSpellable entries
  | .node n => n.isSpellable
  | .record _ fields => allSpellable fields
  | _ => true

def Node.isSpellable : Node → Bool
  | .document children => allSpellable children
  | .container children => allSpellable children
  | .aligned child horizontal vertical =>
    child.isSpellable && horizontal.isSpellable && vertical.isSpellable
  | .row children => allSpellable children
  | .column children => allSpellable children
  | .text t => t.isSpellable
  | .title t => t.isSpellable
  | .sectionTitle t => t.isSpellable
  | .orderedList items => allSpellable items
  | .unorderedList items => allSpellable items
  | .percentBar _ label => label.isSpellable
  | .rectangle child radius _ => child.isSpellable && radius.whole.isSpellable
  | .card child => child.isSpellable
  | .italics child => child.isSpellable
  | .bold child => child.isSpellable
  | .link child url => child.isSpellable && url.isSpellable
  | .foreground child _ => child.isSpellable
  | .background child _ => child.isSpellable
  | .fadeIn direction => direction.isSpellable

def allSpellable : List Value → Bool
  | [] => true
  | v :: vs => v.isSpellable && allSpellable vs

def entriesSpellable : List (Value × Value) → Bool
  | [] => true
  | (k, v) :: es => k.isSpellable && v.isSpellable && entriesSpellable es

end

@[simp] theorem Value.isSpellable_text (s : String) : (Value.text s).isSpellable = true := rfl

@[simp] theorem Value.isSpellable_trusted (s : String) : (Value.trusted s).isSpellable = true := rfl

@[simp] theorem Value.isSpellable_toValue (w : Whole) : w.toValue.isSpellable = w.isSpellable := by
  cases w <;> rfl

/-- A text of any kind can be spelled out. -/
theorem Value.isSpellable_of_isText {v : Value} (h : v.isText = true) : v.isSpellable = true := by
  cases v <;> first | rfl | cases h

@[simp] theorem allSpellable_iff {vs : List Value} :
    allSpellable vs = true ↔ ∀ v ∈ vs, v.isSpellable = true := by
  induction vs with
  | nil => simp [allSpellable]
  | cons v vs ih => simp [allSpellable, ih]

@[simp] theorem entriesSpellable_iff {es : List (Value × Value)} :
    entriesSpellable es = true ↔
      ∀ e ∈ es, e.1.isSpellable = true ∧ e.2.isSpellable = true := by
  induction es with
  | nil => simp [entriesSpellable]
  | cons e es ih => simp [entriesSpellable, ih]

/-- A list of texts as a message shows it. -/
def textsLiteral (ss : List String) : String :=
  bracketed "[" "]" (ss.map Text.quoted)

end ResumePress
