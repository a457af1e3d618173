import ResumePress.Proofs.Page.Forms

/-!
# The parts of a document

A document is run through from the top down and from left to right: every node comes before its
children, and all that is below one child comes before the next child. What is no node has no parts
but itself, whatever it holds.
-/
namespace ResumePress

open Text (EscapePolicy)
open Page

/-- The children of a node. A node with a payload has none. -/
def Node.children (n : Node) : List Value :=
  match n.contents with
  | .payload _ => []
  | .children vs => vs

theorem Node.contents_eq_children {n : Node} {v : Value} {vs ws : List Value}
    (h : n.children = vs ++ v :: ws) : n.contents = .children (vs ++ v :: ws) := by
  unfold children at h
  split at h
  next => simp at h
  next hc => rw [hc, h]

theorem Node.sizeOf_lt_of_mem_children {n : Node} {v : Value} (h : v ∈ n.children) :
    sizeOf v < sizeOf n := by
  unfold children at h
  split at h
  next => cases h
  next hc => exact sizeOf_lt_of_contents hc h

theorem Node.spellsIn_of_isSpellable {t : PaletteTheme} (ht : t.IsSpellable) {n : Node}
    (h : n.isSpellable = true) : n.SpellsIn t := by
  have hname := ht.name
  have hsheet := ht.sheet
  cases n <;> simp_all [SpellsIn, spelledIn, Node.isSpellable]

theorem Node.isSpellable_of_mem_children {n : Node} (h : n.isSpellable = true) {v : Value}
    (hv : v ∈ n.children) : v.isSpellable = true := by
  cases n <;> simp_all [children, contents, Node.isSpellable]

/-- The value and everything below it, in the order in which a document is run through. -/
def Value.parts : Value → List Value
  | .node n => .node n :: n.children.attach.flatMap fun ⟨v, _⟩ => v.parts
  | v => [v]
termination_by v => sizeOf v
decreasing_by
  have hlt := Node.sizeOf_lt_of_mem_children ‹_›
  rw [Value.node.sizeOf_spec]
  omega

namespace Value

theorem parts_node (n : Node) : (node n).parts = node n :: n.children.flatMap parts := by
  rw [parts, List.flatMap_subtype fun v _ => rfl, List.unattach_attach]

theorem parts_of_not_node {v : Value} (h : ∀ n, v ≠ node n) : v.parts = [v] := by
  cases v with
  | node n => exact absurd rfl (h n)
  | _ => rw [parts]; exact h

/-- What is asked of a node and of everything below it. -/
theorem forall_parts_node_iff {P : Value → Prop} {n : Node} :
    (∀ x ∈ (node n).parts, P x) ↔ P (node n) ∧ ∀ v ∈ n.children, ∀ x ∈ v.parts, P x := by
  rw [parts_node, List.forall_mem_cons]
  simp only [List.forall_mem_flatMap]

theorem self_mem_parts (v : Value) : v ∈ v.parts := by
  cases v with
  | node n => simp [parts_node]
  | _ => simp [parts]

variable {t : PaletteTheme}

theorem hasForm_node_iff {n : Node} :
    (node n).HasForm t ↔ (n.HasForm ∧ n.SpellsIn t) ∧ ∀ v ∈ n.children, v.HasForm t := by
  constructor
  · intro h
    cases h with
    | leaf hn hs hc => exact ⟨⟨hn, hs⟩, by simp [Node.children, hc]⟩
    | branch hn hs hc hvs => exact ⟨⟨hn, hs⟩, by simpa [Node.children, hc] using hvs⟩
  · rintro ⟨⟨hn, hs⟩, hvs⟩
    cases hc : n.contents with
    | payload v => exact .leaf hn hs hc
    | children vs => exact .branch hn hs hc (by simpa [Node.children, hc] using hvs)

/-- A document has a form if all its parts are nodes that have one and can be spelled out. -/
theorem hasForm_iff_parts (v : Value) :
    v.HasForm t ↔ ∀ x ∈ v.parts, ∃ n, x = node n ∧ n.HasForm ∧ n.SpellsIn t := by
  induction v using parts.induct with
  | case1 n ih =>
    rw [hasForm_node_iff, forall_parts_node_iff]
    have hbelow : (∀ v ∈ n.children, v.HasForm t) ↔
        ∀ v ∈ n.children, ∀ x ∈ v.parts, ∃ n, x = node n ∧ n.HasForm ∧ n.SpellsIn t :=
      forall₂_congr ih
    rw [hbelow]
    simp
  | case2 v hv =>
    constructor
    · intro h
      cases h with
      | leaf => exact (hv _ rfl).elim
      | branch => exact (hv _ rfl).elim
    · intro h
      obtain ⟨n, hn, -⟩ := h v (self_mem_parts v)
      exact (hv n hn).elim

/-! ## Spelling documents out -/

def SpellsIn (t : PaletteTheme) (v : Value) : Prop :=
  ∀ x ∈ v.parts, ∀ n, x = node n → n.SpellsIn t

theorem spellsIn_node_iff {n : Node} :
    (node n).SpellsIn t ↔ n.SpellsIn t ∧ ∀ v ∈ n.children, v.SpellsIn t := by
  rw [SpellsIn, forall_parts_node_iff]
  simp [SpellsIn]

/-- What has a form is what is made of nodes that have one, if it can be spelled out. -/
theorem hasForm_iff (v : Value) :
    v.HasForm t ↔ (∀ x ∈ v.parts, ∃ n, x = node n ∧ n.HasForm) ∧ v.SpellsIn t := by
  rw [hasForm_iff_parts]
  constructor
  · intro h
    refine ⟨fun x hx => ?_, fun x hx n hn => ?_⟩
    · obtain ⟨n, rfl, hn, -⟩ := h x hx
      exact ⟨n, rfl, hn⟩
    · obtain ⟨m, rfl, -, hm⟩ := h x hx
      cases hn
      exact hm
  · rintro ⟨hform, hspells⟩ x hx
    obtain ⟨n, rfl, hn⟩ := hform x hx
    exact ⟨n, rfl, hn, hspells _ hx n rfl⟩

theorem spellsIn_of_isSpellable (ht : t.IsSpellable) {v : Value} (h : v.isSpellable = true) :
    v.SpellsIn t := by
  induction v using parts.induct with
  | case1 n ih =>
    exact spellsIn_node_iff.mpr ⟨Node.spellsIn_of_isSpellable ht h,
      fun v hv => ih v hv (Node.isSpellable_of_mem_children h hv)⟩
  | case2 v hv =>
    rw [SpellsIn, parts_of_not_node hv]
    simpa using fun n hn => absurd hn (hv n)

end Value

namespace Page

/-- No node is rendered without its children, whatever the theme is. -/
theorem exists_rendered_children {t : Theme} {policy : EscapePolicy} {n : Node} {s : String}
    (h : renderNode t policy n = .ok s) :
    (∀ d, n ≠ .fadeIn d) ∧ ∃ ss, Rendered t policy n.children ss := by
  have only : ∀ {c : Value} {s}, renderValue t policy c = .ok s →
      ∃ ss, Rendered t policy [c] ss := fun hc => ⟨[_], .cons hc .nil⟩
  cases n with
  | fadeIn d => cases h
  | document vs =>
    -- name, style sheet and two colors come first
    iterate 4 obtain ⟨_, -, h⟩ := bind_eq_ok.mp h
    obtain ⟨ss, hss, -⟩ := bind_eq_ok.mp h
    exact ⟨nofun, ss, renderAll_eq_ok_iff.mp hss⟩
  | aligned c x y =>
    obtain ⟨_, -, h⟩ := bind_eq_ok.mp h
    obtain ⟨_, -, h⟩ := bind_eq_ok.mp h
    obtain ⟨_, hc, -⟩ := bind_eq_ok.mp h
    exact ⟨nofun, only hc⟩
  | text | title | sectionTitle | percentBar => exact ⟨nofun, [], .nil⟩
  | container | row | column | orderedList | unorderedList =>
    obtain ⟨ss, hss, -⟩ := bind_eq_ok.mp h
    exact ⟨nofun, ss, renderAll_eq_ok_iff.mp hss⟩
  | card | italics | bold =>
    obtain ⟨_, hc, -⟩ := bind_eq_ok.mp h
    exact ⟨nofun, only hc⟩
  | rectangle | link | foreground | background =>
    obtain ⟨_, -, h⟩ := bind_eq_ok.mp h
    obtain ⟨_, hc, -⟩ := bind_eq_ok.mp h
    exact ⟨nofun, only hc⟩

end Page

end ResumePress
