import ResumePress.Proofs.Page.Wrapper
import ResumePress.Proofs.Steps

/-!
# Documents that have a page

A node has a form unless it is an entrance or an alignment that there is no rule for, and a document
is rendered exactly if all its nodes have one and everything that is spelled out for them can be.
What stands in the texts, the colors of the theme and the policy do not matter.
-/
namespace ResumePress

open Text (EscapePolicy)
open Page

/-- There is a form for the node, whatever it holds. -/
def Node.HasForm : Node → Prop
  | .aligned _ h v => (∃ rule, horizontalRule h = .ok rule) ∧ ∃ rule, verticalRule v = .ok rule
  | .fadeIn _ => False
  | _ => True

/-- A document in which all nodes have a form and are spelled out in the theme. -/
inductive Value.HasForm (t : PaletteTheme) : Value → Prop
  | leaf {n : Node} {v : Value} (hn : n.HasForm) (hs : n.SpellsIn t)
    (hc : n.contents = .payload v) : HasForm t (.node n)
  | branch {n : Node} {vs : List Value} (hn : n.HasForm) (hs : n.SpellsIn t)
    (hc : n.contents = .children vs) (hvs : ∀ v ∈ vs, v.HasForm t) : HasForm t (.node n)

theorem Node.sizeOf_lt_of_contents {n : Node} {vs : List Value} (hc : n.contents = .children vs)
    {v : Value} (hv : v ∈ vs) : sizeOf v < sizeOf n := by
  have hlt := List.sizeOf_lt_of_mem hv
  cases n <;> cases hc <;> simp_all <;> omega

namespace Page

theorem exists_wrapper_iff (n : Node) (d : Dress) (policy : EscapePolicy) :
    (∃ u, n.wrapper d policy = .ok u) ↔ n.HasForm := by
  cases n with
  | aligned c h v =>
    rw [Node.wrapper, Node.HasForm]
    cases horizontalRule h <;> cases verticalRule v <;> simp [bind_eq_ok]
  | fadeIn direction => simp [Node.wrapper, Node.HasForm]
  | _ => simp [Node.wrapper, Node.HasForm]

variable {t : PaletteTheme} {policy : EscapePolicy}

theorem exists_markup_of_hasForm {v : Value} (h : v.HasForm t) (policy : EscapePolicy) :
    ∃ s, renderValue t.toTheme policy v = .ok s := by
  induction h with
  | leaf hn hs hc =>
    obtain ⟨u, hu⟩ := (exists_wrapper_iff _ t.dress policy).mpr hn
    exact ⟨_, renderNode_payload hs hu hc⟩
  | branch hn hs hc _ ih =>
    obtain ⟨u, hu⟩ := (exists_wrapper_iff _ t.dress policy).mpr hn
    obtain ⟨ss, hss⟩ := exists_rendered_of_forall ih
    exact ⟨_, renderNode_children hs hu hc hss⟩

theorem hasForm_of_markup {v : Value} {s : String}
    (h : renderValue t.toTheme policy v = .ok s) : v.HasForm t := by
  -- by induction on the size, since the children of a node stand in a list
  cases v with
  | node n =>
    rw [renderValue, renderNode_eq t.wears_dress] at h
    obtain ⟨⟨⟩, hbegins, h⟩ := bind_eq_ok.mp h
    obtain ⟨u, hu, h⟩ := bind_eq_ok.mp h
    have hn := (exists_wrapper_iff n t.dress policy).mp ⟨u, hu⟩
    rw [renderContents] at h
    cases hc : n.contents with
    | payload v =>
      rw [hc] at h
      obtain ⟨text, htext, -⟩ := map_eq_ok.mp h
      obtain ⟨_, hspelled, -⟩ := map_eq_ok.mp htext
      refine .leaf hn (Node.spellsIn_iff.mpr ⟨hbegins, Node.ends_of_payload hc, ?_⟩) hc
      rintro w hw
      cases hc.symm.trans hw
      exact (Value.spelled_eq_ok_iff.mp hspelled).1
    | children vs =>
      rw [hc] at h
      obtain ⟨ss, hss, h⟩ := bind_eq_ok.mp h
      obtain ⟨⟨⟩, hends, -⟩ := bind_eq_ok.mp h
      refine .branch hn (Node.spellsIn_iff.mpr ⟨hbegins, hends, ?_⟩) hc fun v hv => ?_
      · rintro w hw
        cases hc.symm.trans hw
      · have hsize := Node.sizeOf_lt_of_contents hc hv
        obtain ⟨s', hs'⟩ := Rendered.exists_markup (renderAll_eq_ok_iff.mp hss) hv
        exact hasForm_of_markup hs'
  | _ => cases h
termination_by sizeOf v
decreasing_by
  subst_vars
  rw [Value.node.sizeOf_spec]
  omega

/-- A document is refused for its nodes alone. -/
theorem exists_markup_iff (v : Value) (t : PaletteTheme) (policy : EscapePolicy) :
    (∃ s, renderValue t.toTheme policy v = .ok s) ↔ v.HasForm t :=
  ⟨fun ⟨_, hs⟩ => hasForm_of_markup hs, fun h => exists_markup_of_hasForm h policy⟩

end Page

end ResumePress
