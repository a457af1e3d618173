import ResumePress.Proofs.Page.Parts
import ResumePress.Proofs.Text.Entities

/-!
# Escaping beforehand

What a policy decides on are the texts in a document: what text nodes hold, the labels of bars and
the addresses of links. A document whose texts are escaped beforehand has without escaping the
markup that the document itself has with it, in every theme, and is refused for the same fault. So
escaping reaches every text once, and nothing else.
-/
namespace ResumePress

open Text (EscapePolicy)
open Page

/-- A text with entities for its markup characters. Trusted markup stays as it is, and anything else
is escaped as it is printed, if it can be. -/
def Value.asEntities : Value → Value
  | .trusted s => .trusted s
  | v => if v.isSpellable then .text (Text.withEntities v.printed) else v

mutual

def Value.preescaped : Value → Value
  | .node n => .node n.preescaped
  | v => v

/-- The node with its own texts and those below it escaped. -/
def Node.preescaped : Node → Node
  | .document children => .document (allPreescaped children)
  | .container children => .container (allPreescaped children)
  | .aligned child h v => .aligned child.preescaped h v
  | .row children => .row (allPreescaped children)
  | .column children => .column (allPreescaped children)
  | .text t => .text t.asEntities
  | .title t => .title t.asEntities
  | .sectionTitle t => .sectionTitle t.asEntities
  | .orderedList items => .orderedList (allPreescaped items)
  | .unorderedList items => .unorderedList (allPreescaped items)
  | .percentBar percent label => .percentBar percent label.asEntities
  | .rectangle child radius color => .rectangle child.preescaped radius color
  | .card child => .card child.preescaped
  | .italics child => .italics child.preescaped
  | .bold child => .bold child.preescaped
  | .link child url => .link child.preescaped url.asEntities
  | .foreground child color => .foreground child.preescaped color
  | .background child color => .background child.preescaped color
  | .fadeIn direction => .fadeIn direction

def allPreescaped : List Value → List Value
  | [] => []
  | v :: vs => v.preescaped :: allPreescaped vs

end

theorem Value.shown_asEntities (v : Value) : v.asEntities.shown .verbatim = v.shown .escape := by
  by_cases htrusted : ∃ s, v = trusted s
  · obtain ⟨s, rfl⟩ := htrusted
    rfl
  · have hplain : ∀ s, v = trusted s → False := not_exists.mp htrusted
    rw [asEntities]
    · cases hspells : v.isSpellable with
      | true =>
        rw [if_pos rfl, shown_of_isSpellable hspells, embedded, escaped,
          Text.withEntities_eq_escape]
        · rfl
        · exact hplain
      | false => simp [shown, spelled_of_not_isSpellable hspells, Except.map]
    · exact hplain

theorem Value.preescaped_of_not_node {v : Value} (h : ∀ n, v ≠ node n) : v.preescaped = v := by
  cases v with
  | node n => exact absurd rfl (h n)
  | _ => rfl

namespace Page

variable {t : Theme}

theorem renderAll_preescaped {vs : List Value}
    (h : ∀ v ∈ vs, renderValue t .escape v = renderValue t .verbatim v.preescaped) :
    renderAll t .escape vs = renderAll t .verbatim (allPreescaped vs) := by
  induction vs with
  | nil => rfl
  | cons v vs ih =>
    rw [List.forall_mem_cons] at h
    rw [allPreescaped, renderAll, renderAll, h.1, ih h.2]

/-- A node is rendered alike under both policies if its children are. -/
theorem renderNode_preescaped {n : Node}
    (h : ∀ v ∈ n.children, renderValue t .escape v = renderValue t .verbatim v.preescaped) :
    renderNode t .escape n = renderNode t .verbatim n.preescaped := by
  cases n with
  | document vs | container vs | row vs | column vs | orderedList vs | unorderedList vs =>
    have hvs : renderAll t .escape vs = renderAll t .verbatim (allPreescaped vs) :=
      renderAll_preescaped h
    rw [Node.preescaped, renderNode, renderNode, hvs]
  | text | title | sectionTitle | percentBar =>
    rw [Node.preescaped, renderNode, renderNode, Value.shown_asEntities]
  | aligned | rectangle | card | italics | bold | foreground | background =>
    rw [Node.preescaped, renderNode, renderNode, h _ (List.mem_singleton_self _)]
  | link =>
    rw [Node.preescaped, renderNode, renderNode, h _ (List.mem_singleton_self _),
      Value.shown_asEntities]
  | fadeIn => rfl

/-- Rendering with escaping is rendering without it what is escaped beforehand. -/
theorem markup_escape_eq_preescaped (t : Theme) (v : Value) :
    renderValue t .escape v = renderValue t .verbatim v.preescaped := by
  induction v using Value.parts.induct with
  | case1 n ih =>
    rw [Value.preescaped, renderValue, renderValue]
    exact renderNode_preescaped ih
  | case2 v hv =>
    rw [Value.preescaped_of_not_node hv]
    cases v with
    | node n => exact absurd rfl (hv n)
    | _ => rfl

end Page

end ResumePress
