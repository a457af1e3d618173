import ResumePress.Proofs.Page.Correspondence
import ResumePress.Proofs.Page.Parts
import ResumePress.Proofs.Text.Recoloring

/-!
# Changing the palette

Two palettes with one style sheet give pages that differ in the digits of colors and in nothing
else, and they give a page to the same documents. Colors stand in the frame of a page and in the
openings of three kinds of node; every other node has the same wrapper under both.
-/
namespace ResumePress

open Text (EscapePolicy Recolored)

/-- Two computations with related results, or with the same fault. -/
inductive Agree {ε α β : Type} (S : α → β → Prop) : Except ε α → Except ε β → Prop
  | ok {a : α} {b : β} (h : S a b) : Agree S (.ok a) (.ok b)
  | error (e : ε) : Agree S (.error e) (.error e)

namespace Agree

variable {ε α β γ δ : Type} {S : α → β → Prop} {S' : γ → δ → Prop} {x : Except ε α}
  {y : Except ε β}

theorem refl {S : α → α → Prop} (h : ∀ a, S a a) (x : Except ε α) : Agree S x x := by
  cases x with
  | ok a => exact .ok (h a)
  | error e => exact .error e

theorem bind {f : α → Except ε γ} {g : β → Except ε δ} (h : Agree S x y)
    (hfg : ∀ a b, S a b → Agree S' (f a) (g b)) : Agree S' (x >>= f) (y >>= g) := by
  cases h with
  | ok h => exact hfg _ _ h
  | error e => exact .error e

end Agree

def Rgb.bright : Rgb :=
  let on : Channel := ⟨.int 255, by decide, by decide⟩
  ⟨on, on, on⟩

namespace Text

/-- The texts differ in nothing but the digits of colors. -/
def Alike (s s' : String) : Prop :=
  Recolored s.toList s'.toList

theorem alike_additive : Additive Alike where
  refl s := Recolored.refl _
  append h h' := by
    rw [Alike, String.toList_append, String.toList_append]
    exact h.append h'

theorem alike_hex (c d : Rgb) : Alike c.hex d.hex := by
  have h := Recolored.color (areColorDigits_channels c) (areColorDigits_channels d) .nil
  rw [List.append_nil, List.append_nil] at h
  rwa [Alike, Rgb.toList_hex, Rgb.toList_hex]

end Text

namespace Page

open Text (Alike alike_additive alike_hex)

/-- Wrappers that differ in the colors of the opening. -/
structure Wrapper.Alike (w w' : Wrapper) : Prop where
  opening : Text.Alike w.opening w'.opening
  cellOpening : w.cellOpening = w'.cellOpening
  cellClosing : w.cellClosing = w'.cellClosing
  closing : w.closing = w'.closing

theorem Wrapper.Alike.refl (w : Wrapper) : w.Alike w :=
  ⟨alike_additive.refl _, rfl, rfl, rfl⟩

theorem Wrapper.alike_bare {opening opening' : String} (h : Text.Alike opening opening')
    (closing : String) : (bare opening closing).Alike (bare opening' closing) :=
  ⟨h, rfl, rfl, rfl⟩

theorem Wrapper.Alike.around {w w' : Wrapper} (h : w.Alike w') {s s' : String}
    (hs : Text.Alike s s') : Text.Alike (w.around s) (w'.around s') := by
  rw [Wrapper.around, Wrapper.around, ← h.closing]
  exact within_related alike_additive h.opening hs _

theorem Wrapper.Alike.filled {w w' : Wrapper} (h : w.Alike w') {ss ss' : List String}
    (hs : List.Forall₂ Text.Alike ss ss') : Text.Alike (w.filled ss) (w'.filled ss') := by
  rw [Wrapper.filled, Wrapper.filled, ← h.cellOpening, ← h.cellClosing]
  exact h.around (wrapped_related alike_additive _ _ hs)

/-- A color between two texts may be any other color. -/
theorem alike_colored (before : String) (c d : Rgb) (after : String) :
    Alike (before ++ c.hex ++ after) (before ++ d.hex ++ after) :=
  within_related alike_additive (alike_additive.refl before) (alike_hex c d) after

theorem style_alike (css : String) (foreground background foreground' background' : Rgb) :
    Alike (style css foreground.hex background.hex)
      (style css foreground'.hex background'.hex) := by
  have hbody := alike_colored ("<style>" ++ css ++ "\nbody, div \x7b color: ") foreground
    foreground' "; background-color: "
  exact within_related alike_additive hbody (alike_hex _ _) _

theorem frameOpening_alike (css : String) (foreground background foreground' background' : Rgb) :
    Alike (frameOpening css foreground.hex background.hex)
      (frameOpening css foreground'.hex background'.hex) := by
  have hstyle := style_alike css foreground background foreground' background'
  unfold frameOpening
  refine alike_additive.append (within_related alike_additive ?_ hstyle _) ?_
  all_goals exact alike_additive.refl _

/-- The themes show one style sheet, and either both names can be spelled out or neither can. -/
structure SameSheet (t t' : PaletteTheme) : Prop where
  sheet : t.sheet.spelled = t'.sheet.spelled
  name : t.name.isSpellable = t'.name.isSpellable

variable {t t' : PaletteTheme} {policy : EscapePolicy}

namespace SameSheet

theorem begins_eq (h : SameSheet t t') (n : Node) : n.begins t.dress = n.begins t'.dress := by
  cases n with
  | document vs =>
    change (t.name.spelled >>= fun _ => .ok ()) = (t'.name.spelled >>= fun _ => .ok ())
    rw [Value.spelled, Value.spelled, h.name]
    cases t'.name.isSpellable <;> rfl
  | _ => rfl

theorem ends_eq (h : SameSheet t t') (n : Node) : n.ends t.dress = n.ends t'.dress := by
  cases n with
  | document vs =>
    change (t.sheet.spelled >>= fun _ => .ok ()) = (t'.sheet.spelled >>= fun _ => .ok ())
    rw [h.sheet]
  | _ => rfl

/-- Where a page is framed by its style sheet, the two are written alike. -/
theorem printed_eq (h : SameSheet t t') {vs : List Value}
    (hends : (Node.document vs).ends t.dress = .ok ()) : t.sheet.printed = t'.sheet.printed := by
  change (t.sheet.spelled >>= fun _ => .ok ()) = .ok () at hends
  obtain ⟨css, hcss, -⟩ := bind_eq_ok.mp hends
  obtain ⟨-, rfl⟩ := Value.spelled_eq_ok_iff.mp hcss
  exact (Value.spelled_eq_ok_iff.mp (h.sheet.symm.trans hcss)).2.symm

end SameSheet

/-- Two palettes with one style sheet refuse a node alike, and otherwise put it in wrappers that are
alike, unless the style sheet cannot be spelled out. -/
theorem wrapper_agree (h : SameSheet t t') (policy : EscapePolicy) (n : Node) :
    Agree (fun w w' => n.ends t.dress = .ok () → Wrapper.Alike w w') (n.wrapper t.dress policy)
      (n.wrapper t'.dress policy) := by
  cases n with
  | document vs =>
    refine .ok fun hends => ?_
    have hsheet : t.dress.sheet = t'.dress.sheet := h.printed_eq hends
    rw [hsheet]
    exact Wrapper.alike_bare (frameOpening_alike _ _ _ _ _) _
  | rectangle | foreground | background =>
    exact .ok fun _ => Wrapper.alike_bare (alike_colored _ _ _ _) _
  | _ => exact Agree.refl (fun w _ => Wrapper.Alike.refl w) _

/-- Values whose markup agrees one by one agree together. -/
theorem renderAll_agree {vs : List Value} (h : ∀ v ∈ vs, Agree Alike
    (renderValue t.toTheme policy v) (renderValue t'.toTheme policy v)) :
    Agree (List.Forall₂ Alike) (renderAll t.toTheme policy vs)
      (renderAll t'.toTheme policy vs) := by
  induction vs with
  | nil => exact .ok .nil
  | cons v vs ih =>
    rw [List.forall_mem_cons] at h
    rw [renderAll, renderAll]
    refine h.1.bind fun s s' hs => ?_
    refine (ih h.2).bind fun ss ss' hss => ?_
    exact .ok (.cons hs hss)

/-- A node agrees under two palettes with one style sheet if its children do. -/
theorem renderNode_agree (hsame : SameSheet t t') {n : Node}
    (h : ∀ v ∈ n.children, Agree Alike (renderValue t.toTheme policy v)
      (renderValue t'.toTheme policy v)) :
    Agree Alike (renderNode t.toTheme policy n) (renderNode t'.toTheme policy n) := by
  rw [renderNode_eq t.wears_dress, renderNode_eq t'.wears_dress, hsame.begins_eq]
  refine (Agree.refl (S := Eq) (fun _ => rfl) _).bind fun _ _ _ => ?_
  refine (wrapper_agree hsame policy n).bind fun w w' hw => ?_
  rw [renderContents, renderContents, ← hsame.ends_eq]
  unfold Node.children at h
  cases hn : n.contents with
  | payload v =>
    dsimp only
    cases v.shown policy with
    | error e => exact .error e
    | ok s => exact .ok ((hw (Node.ends_of_payload hn)).around (alike_additive.refl s))
  | children vs =>
    rw [hn] at h
    refine (renderAll_agree h).bind fun ss ss' hss => ?_
    cases hends : n.ends t.dress with
    | error e => exact .error e
    | ok => exact .ok ((hw hends).filled hss)

/-- Every document agrees under two palettes with one style sheet. -/
theorem renderValue_agree (hsame : SameSheet t t') (policy : EscapePolicy) (v : Value) :
    Agree Alike (renderValue t.toTheme policy v) (renderValue t'.toTheme policy v) := by
  induction v using Value.parts.induct with
  | case1 n ih =>
    rw [renderValue, renderValue]
    exact renderNode_agree hsame ih
  | case2 v hv =>
    cases v with
    | node n => exact absurd rfl (hv n)
    | _ => exact .error _

def lookalike : Value :=
  .node (.foreground (.node (.text (.text "#00ff00 #12"))) .blue)

/-- Another palette with the same style sheet changes the digits of colors: the same documents are
refused for the same faults, and pages have the same length and are the same once the digits of
colors are left out. -/
theorem markup_eq_up_to_colors {t t' : PaletteTheme} (hsame : SameSheet t t')
    (policy : EscapePolicy) (v : Value) :
    (∃ s s', renderValue t.toTheme policy v = .ok s ∧ renderValue t'.toTheme policy v = .ok s' ∧
      s.length = s'.length ∧ Text.bleached s.toList = Text.bleached s'.toList) ∨
    (∃ e, renderValue t.toTheme policy v = .error e ∧
        renderValue t'.toTheme policy v = .error e) := by
  have h := renderValue_agree hsame policy v
  generalize renderValue t.toTheme policy v = x at h ⊢
  generalize renderValue t'.toTheme policy v = y at h ⊢
  cases h with
  | error e => exact .inr ⟨e, rfl, rfl⟩
  | ok h =>
    refine .inl ⟨_, _, rfl, rfl, ?_, h.bleached_eq⟩
    rw [← String.length_toList, ← String.length_toList]
    exact h.length_eq

/-- Between a palette of black and one of white, a text that looks like a color stays as it is. -/
theorem markup_eq_up_to_colors_blackWhite :
    ∃ s s', renderValue (PaletteTheme.monochrome .dark).toTheme .escape lookalike = .ok s ∧
      renderValue (PaletteTheme.monochrome .bright).toTheme .escape lookalike = .ok s' ∧
      s.length = s'.length ∧ Text.bleached s.toList = Text.bleached s'.toList := by
  have hsame : SameSheet (PaletteTheme.monochrome .dark) (PaletteTheme.monochrome .bright) :=
    ⟨rfl, rfl⟩
  have h := markup_eq_up_to_colors hsame .escape lookalike
  refine h.resolve_right ?_
  rintro ⟨e, he, -⟩
  cases he

end Page

end ResumePress
