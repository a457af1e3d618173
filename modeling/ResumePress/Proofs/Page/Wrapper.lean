import Mathlib.Data.List.Forall2
import ResumePress.Page.Render
import ResumePress.Proofs.Theme.Dress

/-!
# The make of a node's markup

The markup of every node is an opening, what the node holds, and a closing. A node holds a payload,
or children that stand on lines of their own, each between the two ends of a cell. Opening, cell and
closing depend on the kind of the node, its attributes and the theme, never on what it holds, and
they are where a node may be refused before its children are looked at. What is spelled out for a
node is spelled out before its children or behind them.
-/
namespace ResumePress

open Text (EscapePolicy)

namespace Page

/-- What stands around the contents of a node and around each of its children. -/
structure Wrapper where
  opening : String
  cellOpening : String
  cellClosing : String
  closing : String

inductive Contents
  | payload (v : Value)
  | children (vs : List Value)

namespace Wrapper

/-- Children without cells. -/
def bare (opening closing : String) : Wrapper :=
  ⟨opening, "", "", closing⟩

def around (w : Wrapper) (content : String) : String :=
  within w.opening w.closing content

/-- The markup of a node around its children. -/
def filled (w : Wrapper) (parts : List String) : String :=
  w.around (wrapped w.cellOpening w.cellClosing parts)

end Wrapper

def frameOpening (css foreground background : String) : String :=
  preamble ++ sheetReference ++ scripts ++ style css foreground background ++ "</head><body>" ++
    blankLines

def frameClosing : String :=
  blankLines ++ "</body></html>"

end Page

namespace Node

open Page

/-- The payload or the children of a node. An entrance holds nothing. -/
def contents : Node → Contents
  | document cs => .children cs
  | container cs => .children cs
  | aligned c _ _ => .children [c]
  | row cs => .children cs
  | column cs => .children cs
  | text t => .payload t
  | title t => .payload t
  | sectionTitle t => .payload t
  | orderedList cs => .children cs
  | unorderedList cs => .children cs
  | percentBar _ l => .payload l
  | rectangle c _ _ => .children [c]
  | card c => .children [c]
  | italics c => .children [c]
  | bold c => .children [c]
  | link c _ => .children [c]
  | foreground c _ => .children [c]
  | background c _ => .children [c]
  | fadeIn _ => .children []

/-- What stands around the contents of a node, where the node has a form. -/
def wrapper (d : Dress) (policy : EscapePolicy) : Node → Except Fault Wrapper
  | document _ => .ok (.bare
      (frameOpening d.sheet (d.hex .defaultForeground) (d.hex .defaultBackground)) frameClosing)
  | container _ => .ok (.bare "<div class=\"container\">" "</div>")
  | aligned _ h v => do
    let rule ← horizontalRule h
    let rule' ← verticalRule v
    .ok (.bare (alignedOpening (rule ++ rule')) "</div>")
  | row _ => .ok ⟨rowOpening, columnOpening, "</div>", "</div>"⟩
  | column _ => .ok ⟨columnOpening, rowOpening, "</div>", "</div>"⟩
  | text _ => .ok (.bare "<p>" "</p>")
  | title _ => .ok (.bare "<h1>" "</h1>")
  | sectionTitle _ => .ok (.bare "<h4>" "</h4>")
  | orderedList _ => .ok ⟨"<ol style=\"width:100%\">", "<li>", "</li>", "</ol>"⟩
  | unorderedList _ => .ok ⟨"<ul style=\"width:100%\">", "<li>", "</li>", "</ul>"⟩
  | percentBar p _ => .ok (.bare (barOpening p.whole.printed) "</div></div>")
  | rectangle _ r c => .ok (.bare (rectangleOpening r.whole.printed (d.hex c)) "</div>")
  | card _ => .ok (.bare d.cardOpening d.cardClosing)
  | italics _ => .ok (.bare "<i>" "</i>")
  | bold _ => .ok (.bare "<b>" "</b>")
  | link _ url => .ok (.bare ("<a href=\"" ++ url.embedded policy ++ "\">") "</a>")
  | foreground _ c => .ok (.bare ("<div style=\"color: " ++ d.hex c ++ ";\">") "</div>")
  | background _ c => .ok (.bare ("<div style=\"background-color: " ++ d.hex c ++ ";\">") "</div>")
  | fadeIn direction => .error (fadeInFault direction)

/-- What is asked of the theme and spelled out before anything else: for a document the name of the
theme, which the journal gives, and for a link the address. -/
def begins (d : Dress) : Node → Except Fault Unit
  | document _ => do
    let _ ← d.name.spelled
    let _ ← d.css
    .ok ()
  | link _ url => url.spelled.map fun _ => ()
  | _ => .ok ()

/-- What is spelled out when the children are rendered. -/
def ends (d : Dress) : Node → Except Fault Unit
  | document _ => do
    let css ← d.css
    let _ ← css.spelled
    .ok ()
  | rectangle _ r _ => r.whole.toValue.spelled.map fun _ => ()
  | _ => .ok ()

/-- What is spelled out for a node in a theme, its children left aside. -/
def spelledIn (t : PaletteTheme) : Node → List Value
  | document _ => [t.name, t.sheet]
  | text v => [v]
  | title v => [v]
  | sectionTitle v => [v]
  | percentBar _ v => [v]
  | rectangle _ r _ => [r.whole.toValue]
  | link _ url => [url]
  | _ => []

def SpellsIn (t : PaletteTheme) (n : Node) : Prop :=
  ∀ v ∈ n.spelledIn t, v.isSpellable = true

end Node

namespace Page

theorem placementRule_eq_ok_iff {rule? : String → Option String} {v : Value} {rule : String} :
    placementRule rule? v = .ok rule ↔ v.content?.bind rule? = some rule := by
  unfold placementRule
  cases v.content?.bind rule? <;> simp

/-- A placement may be given by its name. -/
theorem horizontalRule_eq_ok_iff {v : Value} {rule : String} : horizontalRule v = .ok rule ↔
    ∃ h : HorizontalAlignment, v.content? = some h.token ∧ h.rule = rule := by
  rw [horizontalRule, placementRule_eq_ok_iff]
  simp [Option.bind_eq_some_iff, HorizontalAlignment.ofToken?_eq_some_iff]

theorem verticalRule_eq_ok_iff {v : Value} {rule : String} : verticalRule v = .ok rule ↔
    ∃ h : VerticalAlignment, v.content? = some h.token ∧ h.rule = rule := by
  rw [verticalRule, placementRule_eq_ok_iff]
  simp [Option.bind_eq_some_iff, VerticalAlignment.ofToken?_eq_some_iff]

theorem horizontalRule_horizontal (h : HorizontalAlignment) :
    horizontalRule (.horizontal h) = .ok h.rule :=
  horizontalRule_eq_ok_iff.mpr ⟨h, rfl, rfl⟩

theorem verticalRule_vertical (v : VerticalAlignment) :
    verticalRule (.vertical v) = .ok v.rule :=
  verticalRule_eq_ok_iff.mpr ⟨v, rfl, rfl⟩

theorem wrapper_aligned (d : Dress) (policy : EscapePolicy) (c : Value) (h : HorizontalAlignment)
    (v : VerticalAlignment) : (Node.aligned c (.horizontal h) (.vertical v)).wrapper d policy =
      .ok (.bare (alignedOpening (h.rule ++ v.rule)) "</div>") := by
  rw [Node.wrapper, horizontalRule_horizontal, verticalRule_vertical]
  rfl

/-! ## Children on lines of their own -/

theorem within_empty (s : String) : within "" "" s = s := by
  simp [within]

@[simp] theorem wrapped_empty (parts : List String) : wrapped "" "" parts = stacked parts := by
  rw [wrapped, funext within_empty, List.map_id']

@[simp] theorem stacked_singleton (s : String) : stacked [s] = s := by
  simp [stacked]

theorem stacked_cons_cons (s t : String) (l : List String) :
    stacked (s :: t :: l) = s ++ "\n" ++ stacked (t :: l) :=
  String.intercalate_cons_cons

/-! ## The markup of a node from its make -/

abbrev Rendered (t : Theme) (policy : EscapePolicy) : List Value → List String → Prop :=
  List.Forall₂ fun v s => renderValue t policy v = .ok s

theorem renderAll_eq_ok_iff {t : Theme} {policy : EscapePolicy} {vs : List Value}
    {ss : List String} : renderAll t policy vs = .ok ss ↔ Rendered t policy vs ss := by
  induction vs generalizing ss with
  | nil => cases ss <;> simp [renderAll]
  | cons v vs ih =>
    rw [renderAll]
    cases hv : renderValue t policy v with
    | error e => cases ss <;> simp [bind, Except.bind, hv]
    | ok s =>
      cases hvs : renderAll t policy vs with
      | error e => cases ss <;> simp [bind, Except.bind, ← ih, hvs, hv]
      | ok parts => cases ss <;> simp [bind, Except.bind, ← ih, hvs, hv]

/-- If every value has markup that stands in some relation to its partner, the values have such
markup together. -/
theorem exists_rendered {α : Type} {Q : String → α → Prop} {t : Theme} {policy : EscapePolicy}
    {vs : List Value} {xs : List α}
    (h : List.Forall₂ (fun v x => ∃ s, renderValue t policy v = .ok s ∧ Q s x) vs xs) :
    ∃ ss, Rendered t policy vs ss ∧ List.Forall₂ Q ss xs := by
  induction h with
  | nil => exact ⟨[], .nil, .nil⟩
  | cons hv _ ih =>
    obtain ⟨s, hs, hx⟩ := hv
    obtain ⟨ss, hss, hxs⟩ := ih
    exact ⟨s :: ss, .cons hs hss, .cons hx hxs⟩

/-- If every value has markup of some kind, the values have such markup together. -/
theorem exists_rendered_forall {Q : String → Prop} {t : Theme} {policy : EscapePolicy}
    {vs : List Value} (h : ∀ v ∈ vs, ∃ s, renderValue t policy v = .ok s ∧ Q s) :
    ∃ ss, Rendered t policy vs ss ∧ ∀ s ∈ ss, Q s := by
  induction vs with
  | nil => exact ⟨[], .nil, nofun⟩
  | cons v vs ih =>
    rw [List.forall_mem_cons] at h
    obtain ⟨⟨s, hs, hq⟩, hvs⟩ := h
    obtain ⟨ss, hss, hqs⟩ := ih hvs
    exact ⟨s :: ss, .cons hs hss, List.forall_mem_cons.mpr ⟨hq, hqs⟩⟩

theorem exists_rendered_of_forall {t : Theme} {policy : EscapePolicy} {vs : List Value}
    (h : ∀ v ∈ vs, ∃ s, renderValue t policy v = .ok s) : ∃ ss, Rendered t policy vs ss := by
  obtain ⟨ss, hss, -⟩ := exists_rendered_forall (Q := fun _ => True)
    fun v hv => (h v hv).imp fun _ hs => ⟨hs, trivial⟩
  exact ⟨ss, hss⟩

theorem Rendered.exists_markup {t : Theme} {policy : EscapePolicy} {vs : List Value}
    {ss : List String} (h : Rendered t policy vs ss) {v : Value} (hv : v ∈ vs) :
    ∃ s, renderValue t policy v = .ok s := by
  induction h with
  | nil => cases hv
  | cons hs _ ih =>
    rcases List.mem_cons.mp hv with rfl | hv
    · exact ⟨_, hs⟩
    · exact ih hv

theorem frame_eq_around (css foreground background contents : String) :
    frame css foreground background contents =
      (Wrapper.bare (frameOpening css foreground background) frameClosing).around contents := by
  simp only [frame, Wrapper.bare, Wrapper.around, within, frameOpening, frameClosing,
    String.append_assoc]

theorem filled_bare (opening closing : String) (parts : List String) :
    (Wrapper.bare opening closing).filled parts =
      (Wrapper.bare opening closing).around (stacked parts) := by
  rw [Wrapper.filled, Wrapper.bare, wrapped_empty]

/-- A single child needs no line of its own. -/
theorem bind_bare (r : Except Fault String) (opening closing : String) :
    (do let content ← r
        .ok (within opening closing content)) =
      (do let parts ← r.map (fun s => [s])
          .ok ((Wrapper.bare opening closing).filled parts) : Except Fault String) := by
  cases r with
  | error e => rfl
  | ok s =>
    change Except.ok _ = Except.ok _
    rw [filled_bare, stacked_singleton]
    rfl

theorem spelled_toValue (w : Whole) :
    w.toValue.spelled = w.toValue.spelled.map fun _ => w.printed := by
  unfold Value.spelled
  cases h : w.toValue.isSpellable
  · rfl
  · cases w <;> rfl

def renderContents (t : Theme) (policy : EscapePolicy) (d : Dress) (n : Node) (w : Wrapper) :
    Except Fault String :=
  match n.contents with
  | .payload v => (v.shown policy).map w.around
  | .children vs => do
    let parts ← renderAll t policy vs
    n.ends d
    .ok (w.filled parts)

variable {t : Theme} {d : Dress} (ht : t.Wears d) (policy : EscapePolicy)
include ht

/-- Every node is its wrapper around its payload or its children, and is refused for its wrapper
before it is refused for a child. -/
theorem renderNode_eq (n : Node) :
    renderNode t policy n = (do
      n.begins d
      let w ← n.wrapper d policy
      renderContents t policy d n w) := by
  cases n with
  | document cs =>
    simp only [renderNode, ht.hex, ht.css, ht.name, Node.begins, Node.wrapper, renderContents,
      Node.contents, Node.ends, Dress.sheet]
    cases d.name.spelled with
    | error e => rfl
    | ok name =>
      cases d.css with
      | error e => rfl
      | ok css =>
        cases renderAll t policy cs with
        | error e => rfl
        | ok parts =>
          cases hcss : css.spelled with
          | error e => simp [bind, Except.bind, hcss]
          | ok s =>
            obtain ⟨-, rfl⟩ := Value.spelled_eq_ok_iff.mp hcss
            simp [bind, Except.bind, hcss, frame_eq_around, filled_bare]
  | container cs =>
    change _ = (renderAll t policy cs >>= fun parts => .ok ((Wrapper.bare _ _).filled parts))
    simp only [filled_bare]
    rfl
  | aligned c h v =>
    rw [renderNode, Node.wrapper]
    cases horizontalRule h with
    | error e => rfl
    | ok rule =>
      cases verticalRule v with
      | error e => rfl
      | ok rule' => exact bind_bare _ _ _
  | card c =>
    simp only [renderNode, ht.card]
    exact bind_bare _ _ _
  | row cs => rfl
  | column cs => rfl
  | text v => rfl
  | title v => rfl
  | sectionTitle v => rfl
  | orderedList cs => rfl
  | unorderedList cs => rfl
  | percentBar p v => rfl
  | rectangle c r color =>
    simp only [renderNode, ht.hex, Node.begins, Node.wrapper, renderContents, Node.contents,
      Node.ends, renderAll]
    cases renderValue t policy c with
    | error e => rfl
    | ok content =>
      rw [spelled_toValue]
      cases r.whole.toValue.spelled with
      | error e => rfl
      | ok s =>
        change Except.ok _ = Except.ok _
        rw [filled_bare, stacked_singleton]
        rfl
  | italics c => exact bind_bare _ _ _
  | bold c => exact bind_bare _ _ _
  | link c url =>
    simp only [renderNode, Value.shown, Node.begins]
    cases url.spelled with
    | error e => rfl
    | ok s => exact bind_bare _ _ _
  | foreground c color =>
    rw [renderNode, ht.hex]
    exact bind_bare _ _ _
  | background c color =>
    rw [renderNode, ht.hex]
    exact bind_bare _ _ _
  | fadeIn direction => rfl

end Page

/-! ## Nodes in the theme of a palette -/

namespace Node

variable {t : PaletteTheme} {n : Node}

theorem spellsIn_iff : n.SpellsIn t ↔ n.begins t.dress = .ok () ∧ n.ends t.dress = .ok () ∧
    ∀ v, n.contents = .payload v → v.isSpellable = true := by
  have hmap : ∀ v : Value, (v.spelled.map fun _ => ()) = .ok () ↔ v.isSpellable = true := by
    intro v
    cases h : v.isSpellable <;> simp [Value.spelled, h, Except.map]
  cases n with
  | document cs =>
    cases hname : t.name.isSpellable <;> cases hsheet : t.sheet.isSpellable <;>
      simp [SpellsIn, spelledIn, begins, ends, contents, PaletteTheme.dress, Value.spelled, bind,
        Except.bind, hname, hsheet]
  | rectangle c r k => simp [SpellsIn, spelledIn, begins, ends, contents, hmap]
  | link c url => simp [SpellsIn, spelledIn, begins, ends, contents, hmap]
  | _ => simp [SpellsIn, spelledIn, begins, ends, contents]

theorem SpellsIn.of_eq_nil (hn : n.spelledIn t = []) : n.SpellsIn t := by
  intro v hv
  rw [hn] at hv
  cases hv

/-- A node that spells out a text and nothing else. -/
theorem SpellsIn.of_isText {v : Value} (hn : n.spelledIn t = [v]) (hv : v.isText = true) :
    n.SpellsIn t := by
  intro w hw
  rw [hn, List.mem_singleton] at hw
  rw [hw]
  exact Value.isSpellable_of_isText hv

theorem ends_of_payload {d : Dress} {v : Value} (hc : n.contents = .payload v) :
    n.ends d = .ok () := by
  cases n <;> first | rfl | cases hc

theorem SpellsIn.begins_eq (h : n.SpellsIn t) : n.begins t.dress = .ok () :=
  (spellsIn_iff.mp h).1

theorem SpellsIn.ends_eq (h : n.SpellsIn t) : n.ends t.dress = .ok () :=
  (spellsIn_iff.mp h).2.1

theorem SpellsIn.payload (h : n.SpellsIn t) {v : Value} (hc : n.contents = .payload v) :
    v.isSpellable = true :=
  (spellsIn_iff.mp h).2.2 v hc

end Node

namespace Page

variable {t : PaletteTheme} {policy : EscapePolicy} {n : Node} {w : Wrapper}
  (hs : n.SpellsIn t) (hw : n.wrapper t.dress policy = .ok w)
include hs hw

theorem renderNode_payload {v : Value} (hc : n.contents = .payload v) :
    renderValue t.toTheme policy (.node n) = .ok (w.around (v.embedded policy)) := by
  rw [renderValue, renderNode_eq t.wears_dress, hs.begins_eq, hw]
  simp [bind, Except.bind, renderContents, hc, Value.shown_of_isSpellable (hs.payload hc),
    Except.map]

theorem renderNode_children {vs : List Value} {ss : List String} (hc : n.contents = .children vs)
    (h : Rendered t.toTheme policy vs ss) :
    renderValue t.toTheme policy (.node n) = .ok (w.filled ss) := by
  rw [renderValue, renderNode_eq t.wears_dress, hs.begins_eq, hw]
  simp [bind, Except.bind, renderContents, hc, renderAll_eq_ok_iff.mpr h, hs.ends_eq]

end Page

end ResumePress
