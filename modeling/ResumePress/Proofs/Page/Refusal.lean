import ResumePress.Proofs.Page.Parts

/-!
# Documents that are refused

Two kinds of value have no rendering, wherever they sit in a document: an entrance, and what is no
node at all. They are the only ones, as long as placements and directions are members of their
vocabularies, and the first of them is what the refusal is about. No theme can make up for one.

A document can still fail without them: numbers of too many digits are accepted as a radius or as
the style sheet of a theme, and cannot be spelled out on a page.
-/
namespace ResumePress

open Text (EscapePolicy)
open Page

/-- Whether there is a rendering for values of this kind. -/
def Value.isSupported : Value → Bool
  | .node (.fadeIn _) => false
  | .node _ => true
  | _ => false

def Value.renderCause : Value → RenderCause
  | .node (.fadeIn (.direction d)) => .fadeIn d.token
  | v => .notNode v.typeName

/-- The kind of object that a refusal names. -/
def RenderCause.kindName : RenderCause → String
  | .fadeIn _ => "FadeIn"
  | .notNode typeName => typeName

theorem RenderCause.exists_message_eq (c : RenderCause) :
    ∃ reason, c.message = reason ++ "\nNode: " ++ c.kindName := by
  cases c with
  | fadeIn d =>
    have hend : ") have no rendering rule\nNode: FadeIn" =
        ") have no rendering rule" ++ "\nNode: " ++ "FadeIn" := by decide +kernel
    refine ⟨"Fade-in transitions (" ++ d ++ ") have no rendering rule", ?_⟩
    change "Fade-in transitions (" ++ d ++ ") have no rendering rule\nNode: FadeIn" =
      "Fade-in transitions (" ++ d ++ ") have no rendering rule" ++ "\nNode: " ++ "FadeIn"
    rw [hend, String.append_assoc, String.append_assoc, String.append_assoc, String.append_assoc,
      String.append_assoc]
  | notNode typeName =>
    have hstart : "No rendering rule for this object\nNode: " =
        "No rendering rule for this object" ++ "\nNode: " := by decide +kernel
    refine ⟨"No rendering rule for this object", ?_⟩
    change "No rendering rule for this object\nNode: " ++ typeName =
      "No rendering rule for this object" ++ "\nNode: " ++ typeName
    rw [hstart]

theorem Value.kindName_renderCause (v : Value) : v.renderCause.kindName = v.typeName := by
  unfold renderCause
  split <;> rfl

def Node.HasMembers : Node → Prop
  | .aligned _ h v => (∃ a, h = .horizontal a) ∧ ∃ b, v = .vertical b
  | .fadeIn d => ∃ a, d = .direction a
  | _ => True

/-- All nodes of the document have members for placements and directions. -/
def Value.HasMembers (v : Value) : Prop :=
  ∀ n, .node n ∈ v.parts → n.HasMembers

theorem Value.hasMembers_node_iff {n : Node} :
    (node n).HasMembers ↔ n.HasMembers ∧ ∀ v ∈ n.children, v.HasMembers := by
  simp only [HasMembers, parts_node, List.mem_cons, List.mem_flatMap, Value.node.injEq]
  grind

theorem Value.isSupported_node {n : Node} (h : ∀ d, n ≠ .fadeIn d) :
    (node n).isSupported = true := by
  cases n with
  | fadeIn d => exact absurd rfl (h d)
  | _ => rfl

theorem Node.HasMembers.hasForm {n : Node} (h : n.HasMembers) (hn : ∀ d, n ≠ .fadeIn d) :
    n.HasForm := by
  cases n with
  | aligned c x y =>
    obtain ⟨⟨a, rfl⟩, b, rfl⟩ := h
    exact ⟨⟨_, horizontalRule_horizontal a⟩, _, verticalRule_vertical b⟩
  | fadeIn d => exact absurd rfl (hn d)
  | _ => trivial

namespace Page

def firstUnsupported? (vs : List Value) : Option Value :=
  vs.find? fun x => !x.isSupported

def AllSpell (t : PaletteTheme) (vs : List Value) : Prop :=
  ∀ x ∈ vs, ∀ n, x = .node n → n.SpellsIn t

/-- The outcome of a run through the values: a result if all of them are supported, the refusal of
the first that is not, or the failure of one that cannot be spelled out. -/
inductive IsOutcome {α : Type} (t : PaletteTheme) (vs : List Value) : Except Fault α → Prop
  | rendered (a : α) (h : firstUnsupported? vs = none) : IsOutcome t vs (.ok a)
  | refused {x : Value} (h : firstUnsupported? vs = some x) :
    IsOutcome t vs (.error (.rendering x.renderCause))
  | unspelled (h : ¬ AllSpell t vs) : IsOutcome t vs (.error (.misuse .unspellable))

/-- What is spelled out on the way: it succeeds, or one of the values cannot be spelled out. -/
def Spells (t : PaletteTheme) (vs : List Value) {α : Type} (x : Except Fault α) : Prop :=
  (∃ a, x = .ok a) ∨ x = .error (.misuse .unspellable) ∧ ¬ AllSpell t vs

variable {α β γ : Type} {t : PaletteTheme} {vs ws : List Value} {r : Except Fault α}
  {q : Except Fault β}

theorem allSpell_append_iff : AllSpell t (vs ++ ws) ↔ AllSpell t vs ∧ AllSpell t ws :=
  List.forall_mem_append

theorem firstUnsupported?_append_of_none (h : firstUnsupported? vs = none) (ws : List Value) :
    firstUnsupported? (vs ++ ws) = firstUnsupported? ws := by
  unfold firstUnsupported? at h ⊢
  rw [List.find?_append, h, Option.none_or]

namespace IsOutcome

theorem cons {x : Value} (hx : x.isSupported = true) (h : IsOutcome t vs r) :
    IsOutcome t (x :: vs) r := by
  have hfirst : firstUnsupported? (x :: vs) = firstUnsupported? vs := by
    simp [firstUnsupported?, hx]
  cases h with
  | rendered a h => exact .rendered a (hfirst.trans h)
  | refused h => exact .refused (hfirst.trans h)
  | unspelled h => exact .unspelled fun hall => h (List.forall_mem_cons.mp hall).2

theorem unsupported {x : Value} (hx : x.isSupported = false) :
    IsOutcome t (x :: vs) (.error (.rendering x.renderCause) : Except Fault α) :=
  .refused (by simp [firstUnsupported?, hx])

theorem map (h : IsOutcome t vs r) (f : α → β) : IsOutcome t vs (r >>= fun a => .ok (f a)) := by
  cases h with
  | rendered a h => exact .rendered (f a) h
  | refused h => exact .refused h
  | unspelled h => exact .unspelled h

/-- Of two runs after each other, the second counts only if the first is through. -/
theorem append (hr : IsOutcome t vs r) (hq : IsOutcome t ws q) (f : α → β → γ) :
    IsOutcome t (vs ++ ws) (do
      let a ← r
      let b ← q
      .ok (f a b)) := by
  cases hr with
  | rendered a hvs =>
    have hfirst := firstUnsupported?_append_of_none hvs ws
    cases hq with
    | rendered b hws => exact .rendered (f a b) (hfirst.trans hws)
    | refused hws => exact .refused (hfirst.trans hws)
    | unspelled hws => exact .unspelled fun hall => hws (allSpell_append_iff.mp hall).2
  | refused hvs =>
    refine .refused ?_
    unfold firstUnsupported? at hvs ⊢
    rw [List.find?_append, hvs, Option.some_or]
  | unspelled hvs => exact .unspelled fun hall => hvs (allSpell_append_iff.mp hall).1

theorem after {x : Except Fault β} (hx : Spells t vs x) {f : β → Except Fault α}
    (h : ∀ b, IsOutcome t vs (f b)) : IsOutcome t vs (x >>= f) := by
  rcases hx with ⟨b, rfl⟩ | ⟨rfl, hx⟩
  · exact h b
  · exact .unspelled hx

theorem before {x : Except Fault β} (h : IsOutcome t vs r) (hx : Spells t vs x) (f : α → γ) :
    IsOutcome t vs (do
      let a ← r
      let _ ← x
      .ok (f a)) := by
  cases h with
  | rendered a h => exact after hx fun _ => .rendered (f a) h
  | refused h => exact .refused h
  | unspelled h => exact .unspelled h

theorem of_spells (h : firstUnsupported? vs = none) (hx : Spells t vs r) : IsOutcome t vs r := by
  rcases hx with ⟨a, rfl⟩ | ⟨rfl, hx⟩
  · exact .rendered a h
  · exact .unspelled hx

end IsOutcome

theorem isOutcome_renderAll {policy : EscapePolicy}
    (h : ∀ v ∈ vs, IsOutcome t v.parts (renderValue t.toTheme policy v)) :
    IsOutcome t (vs.flatMap Value.parts) (renderAll t.toTheme policy vs) := by
  induction vs with
  | nil => exact .rendered [] rfl
  | cons v vs ih =>
    rw [List.forall_mem_cons] at h
    exact h.1.append (ih h.2) List.cons

/-! ## What a node spells out -/

variable {n : Node}

/-- What is one of the things that the node spells out. -/
theorem spells_spelled {v : Value} (hv : v ∈ n.spelledIn t) (hn : .node n ∈ vs) :
    Spells t vs v.spelled := by
  cases h : v.isSpellable with
  | true => exact .inl ⟨_, Value.spelled_of_isSpellable h⟩
  | false =>
    refine .inr ⟨Value.spelled_of_not_isSpellable h, fun hall => ?_⟩
    rw [hall _ hn n rfl v hv] at h
    cases h

theorem Spells.map {x : Except Fault α} (hx : Spells t vs x) (f : α → β) :
    Spells t vs (x.map f) := by
  rcases hx with ⟨a, rfl⟩ | ⟨rfl, hx⟩
  · exact .inl ⟨f a, rfl⟩
  · exact .inr ⟨rfl, hx⟩

theorem Spells.bind {x : Except Fault α} (hx : Spells t vs x) {f : α → Except Fault β}
    (hf : ∀ a, Spells t vs (f a)) : Spells t vs (x >>= f) := by
  rcases hx with ⟨a, rfl⟩ | ⟨rfl, hx⟩
  · exact hf a
  · exact .inr ⟨rfl, hx⟩

theorem Spells.ok (a : α) : Spells t vs (.ok a : Except Fault α) :=
  .inl ⟨a, rfl⟩

theorem spells_begins (hn : .node n ∈ vs) : Spells t vs (n.begins t.dress) := by
  cases n with
  | document cs =>
    exact (spells_spelled (v := t.name) (by simp [Node.spelledIn]) hn).bind fun _ =>
      (Spells.ok t.sheet).bind fun _ => .ok ()
  | link c url => exact (spells_spelled (v := url) (by simp [Node.spelledIn]) hn).map _
  | _ => exact .ok ()

theorem spells_ends (hn : .node n ∈ vs) : Spells t vs (n.ends t.dress) := by
  cases n with
  | document cs =>
    change Spells t vs (t.sheet.spelled >>= fun _ => .ok ())
    exact (spells_spelled (v := t.sheet) (by simp [Node.spelledIn]) hn).bind fun _ => .ok ()
  | rectangle c r k =>
    exact (spells_spelled (v := r.whole.toValue) (by simp [Node.spelledIn]) hn).map _
  | _ => exact .ok ()

theorem spells_payload {v : Value} (hc : n.contents = .payload v) (hn : .node n ∈ vs)
    (policy : EscapePolicy) : Spells t vs (v.shown policy) := by
  have hv : v ∈ n.spelledIn t := by cases n <;> cases hc <;> simp [Node.spelledIn]
  exact (spells_spelled hv hn).map _

/-- Rendering runs through the parts of a document in order. -/
theorem isOutcome_renderValue {v : Value} (h : v.HasMembers) (t : PaletteTheme)
    (policy : EscapePolicy) : IsOutcome t v.parts (renderValue t.toTheme policy v) := by
  induction v using Value.parts.induct with
  | case1 n ih =>
    obtain ⟨hn, hbelow⟩ := Value.hasMembers_node_iff.mp h
    rw [Value.parts_node, renderValue]
    by_cases hfade : ∃ d, n = .fadeIn d
    · obtain ⟨d, rfl⟩ := hfade
      obtain ⟨a, rfl⟩ := hn
      exact .unsupported rfl
    · have hfade' : ∀ d, n ≠ .fadeIn d := fun d hd => hfade ⟨d, hd⟩
      have hself : Value.node n ∈ Value.node n :: n.children.flatMap Value.parts := by simp
      obtain ⟨u, hu⟩ := (exists_wrapper_iff n t.dress policy).mpr (hn.hasForm hfade')
      rw [renderNode_eq t.wears_dress]
      refine .after (spells_begins hself) fun _ => ?_
      rw [hu]
      change IsOutcome t _ (renderContents t.toTheme policy t.dress n u)
      have hsupported := Value.isSupported_node hfade'
      unfold renderContents
      cases hc : n.contents with
      | payload p =>
        have hnone : n.children = [] := by rw [Node.children, hc]
        have hfirst : firstUnsupported? [Value.node n] = none := by
          simp [firstUnsupported?, hsupported]
        rw [hnone]
        exact .of_spells hfirst ((spells_payload hc (by simp) policy).map u.around)
      | children vs =>
        have hvs : n.children = vs := by rw [Node.children, hc]
        rw [hvs] at ih hbelow hself ⊢
        have hrun := isOutcome_renderAll fun v hv => ih v hv (hbelow v hv)
        exact (hrun.cons hsupported).before (spells_ends hself) u.filled
  | case2 v hv =>
    rw [Value.parts_of_not_node hv]
    cases v with
    | node n => exact (hv n rfl).elim
    | _ => exact .unsupported rfl

/-! ## Any theme -/

theorem isSupported_of_markup {t : Theme} {policy : EscapePolicy} {v : Value} {s : String}
    (h : renderValue t policy v = .ok s) : ∀ x ∈ v.parts, x.isSupported = true := by
  induction v using Value.parts.induct generalizing s with
  | case1 n ih =>
    rw [renderValue] at h
    obtain ⟨hn, ss, hss⟩ := exists_rendered_children h
    refine Value.forall_parts_node_iff.mpr ⟨Value.isSupported_node hn, fun v hv => ?_⟩
    obtain ⟨s', hs'⟩ := hss.exists_markup hv
    exact ih v hv hs'
  | case2 v hv =>
    cases v with
    | node n => exact (hv n rfl).elim
    | _ => cases h

theorem firstUnsupported?_eq_none_iff :
    firstUnsupported? vs = none ↔ ∀ x ∈ vs, x.isSupported = true := by
  simp [firstUnsupported?]

/-- A document with members for placements and directions is rendered if it has no entrance and
nothing but nodes, and if its numbers can be spelled out. Otherwise it is refused for the first part
that has no rendering, by the name of its kind, or it fails because there is a number that cannot be
spelled out. With a part that has no rendering no document is rendered in any theme. -/
theorem markup_or_first_unsupported (v : Value) :
    (v.HasMembers → ∀ (t : PaletteTheme) (policy : EscapePolicy),
      ((∃ s, renderValue t.toTheme policy v = .ok s) ↔
        (∀ x ∈ v.parts, x.isSupported = true) ∧ v.SpellsIn t) ∧
      ∀ e, renderValue t.toTheme policy v = .error e →
        (∃ x, firstUnsupported? v.parts = some x ∧ e = .rendering x.renderCause ∧
          ∃ reason, x.renderCause.message = reason ++ "\nNode: " ++ x.typeName) ∨
        e = .misuse .unspellable ∧ ¬ v.SpellsIn t) ∧
    ((∃ x ∈ v.parts, x.isSupported = false) →
      ∀ (t : Theme) (policy : EscapePolicy) (s : String), renderValue t policy v ≠ .ok s) := by
  refine ⟨fun h t policy => ⟨⟨?_, ?_⟩, ?_⟩, ?_⟩
  · rintro ⟨s, hs⟩
    exact ⟨isSupported_of_markup hs, ((Value.hasForm_iff v).mp (hasForm_of_markup hs)).2⟩
  · rintro ⟨hall, hspells⟩
    have hnone := firstUnsupported?_eq_none_iff.mpr hall
    have hrun := isOutcome_renderValue h t policy
    generalize renderValue t.toTheme policy v = r at hrun ⊢
    cases hrun with
    | rendered s => exact ⟨s, rfl⟩
    | refused hx =>
      rw [hnone] at hx
      cases hx
    | unspelled hx => exact absurd hspells hx
  · intro e he
    have hrun := isOutcome_renderValue h t policy
    rw [he] at hrun
    cases hrun with
    | @refused x hx =>
      have hreason := x.renderCause.exists_message_eq
      rw [x.kindName_renderCause] at hreason
      exact .inl ⟨x, hx, rfl, hreason⟩
    | unspelled hx => exact .inr ⟨rfl, hx⟩
  · rintro ⟨x, hx, hunsupported⟩ t policy s hs
    rw [isSupported_of_markup hs x hx] at hunsupported
    cases hunsupported

/-- A row in which a number stands where a node should, in front of an entrance. -/
def mixedRow : Value :=
  .node (.row [.node (.text (.text "Ada")), .node (.bold (.int 7)),
    .node (.italics (.node (.fadeIn (.direction .up))))])

theorem parts_mixedRow : mixedRow.parts = [mixedRow, .node (.text (.text "Ada")),
    .node (.bold (.int 7)), .int 7, .node (.italics (.node (.fadeIn (.direction .up)))),
    .node (.fadeIn (.direction .up))] := by
  simp [mixedRow, Value.parts_node, Value.parts_of_not_node, Node.children, Node.contents]

theorem hasMembers_mixedRow : mixedRow.HasMembers := by
  intro n hn
  rw [parts_mixedRow] at hn
  simp only [mixedRow, List.mem_cons, List.not_mem_nil, or_false, Value.node.injEq, reduceCtorEq,
    false_or] at hn
  rcases hn with rfl | rfl | rfl | rfl | rfl
  all_goals simp [Node.HasMembers]

/-- The number is what the row is refused for, and no theme shows the row. -/
theorem markup_or_first_unsupported_mixedRow :
    renderValue (PaletteTheme.monochrome .dark).toTheme .escape mixedRow =
        .error (.rendering (.notNode "int")) ∧
      ∀ (t : Theme) (policy : EscapePolicy) (s : String),
        renderValue t policy mixedRow ≠ .ok s := by
  have hfirst : firstUnsupported? mixedRow.parts = some (.int 7) := by
    rw [parts_mixedRow]
    rfl
  have hmem : Value.int 7 ∈ mixedRow.parts := List.mem_of_find?_eq_some hfirst
  have hspells : mixedRow.SpellsIn (PaletteTheme.monochrome .dark) :=
    Value.spellsIn_of_isSpellable (PaletteTheme.isSpellable_monochrome _) (by decide +kernel)
  obtain ⟨houtcome, hnever⟩ := markup_or_first_unsupported mixedRow
  have hnever := hnever ⟨_, hmem, rfl⟩
  refine ⟨?_, hnever⟩
  cases hr : renderValue (PaletteTheme.monochrome .dark).toTheme .escape mixedRow with
  | ok s => exact absurd hr (hnever _ _ s)
  | error e =>
    rcases (houtcome hasMembers_mixedRow _ .escape).2 e hr with ⟨x, hx, rfl, -⟩ | ⟨-, hx⟩
    · cases hfirst.symm.trans hx
      rfl
    · exact absurd hspells hx

def numbered : PaletteTheme :=
  { PaletteTheme.monochrome .dark with css := .int unspelled }

/-- A document without contents has nothing that is unsupported, and it is not rendered if the style
sheet cannot be spelled out. -/
theorem not_forall_markup_of_isSupported :
    ¬ ∀ (v : Value) (t : PaletteTheme) (policy : EscapePolicy), v.HasMembers →
      (∀ x ∈ v.parts, x.isSupported = true) → ∃ s, renderValue t.toTheme policy v = .ok s := by
  intro h
  have hparts : (Value.node (.document [])).parts = [.node (.document [])] := by
    simp [Value.parts_node, Node.children, Node.contents]
  have hmembers : (Value.node (.document [])).HasMembers := by
    intro n hn
    rw [hparts, List.mem_singleton] at hn
    cases hn
    trivial
  obtain ⟨s, hs⟩ := h _ numbered .verbatim hmembers (by simp [hparts, Value.isSupported])
  obtain ⟨-, hspells⟩ := (Value.hasForm_iff _).mp (hasForm_of_markup hs)
  have hsheet := hspells _ (Value.self_mem_parts _) _ rfl numbered.sheet (by simp [Node.spelledIn])
  simp [numbered, PaletteTheme.sheet, Value.isSpellable] at hsheet

end Page

end ResumePress
