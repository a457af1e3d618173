import ResumePress.Proofs.Page.Correspondence
import ResumePress.Proofs.Page.Forms
import ResumePress.Proofs.Resume.Typing

/-!
# Every resume has a page

Every node of a layout has a form, so what can be read as a resume can be rendered, whatever the
policies of layout and page are. The numbers on the page have to be such as can be spelled out.
-/
namespace ResumePress

/-- A layout can be rendered under its own policy, as the comparison of a resume with itself shows.
That tells that all its nodes have a form, which is the same under every policy. -/
theorem Layout.hasForm_document {t : PaletteTheme} (ht : t.IsSpellable)
    (policy : Text.EscapePolicy) (r : Resume) : (Value.node (document policy r)).HasForm t := by
  let any : String → String → Prop := fun _ _ => True
  have hadditive : Text.Additive any := ⟨fun _ => trivial, fun _ _ => trivial⟩
  have hlevel : ∀ level, Option.Rel (Proficiency.Matches any policy policy) level level := by
    intro level
    cases level with
    | none => exact .none
    | some p => exact .some ⟨trivial, trivial⟩
  have hmatches : r.Matches any policy policy r :=
    { fullName := trivial
      profession := trivial
      description := trivial
      links := List.forall₂_same.mpr fun _ _ => ⟨trivial, trivial⟩
      skills := List.forall₂_same.mpr fun s _ => ⟨trivial, hlevel s.level⟩
      education := List.forall₂_same.mpr fun _ _ => trivial
      work := List.forall₂_same.mpr fun _ _ => trivial }
  obtain ⟨s, _, hs, -, -⟩ := corresponds_document hadditive t ht hmatches
  exact (Page.exists_markup_iff _ _ _).mp ⟨s, hs⟩

namespace Page

theorem exists_ofResume {t : PaletteTheme} (ht : t.IsSpellable) {r : Resume} (hr : r.IsSpellable)
    (p q : Text.EscapePolicy) : ∃ page, ofResume t p q r = .ok page := by
  rw [ofResume_eq t p q hr]
  exact (exists_markup_iff _ t q).mpr (Layout.hasForm_document ht p r)

end Page

/-- What can be read as a resume has a page in every theme, whatever the two policies are, and
nothing else has. -/
theorem exists_page_iff {t : PaletteTheme} (ht : t.IsSpellable) {v : Value}
    (hv : ∀ r, Resume.ofConfig v = .ok r → r.IsSpellable) (p q : Text.EscapePolicy) :
    (∃ page, (do
      let r ← Resume.ofConfig v
      Page.ofResume t p q r) = Except.ok page) ↔ ∃ r, Resume.ofConfig v = .ok r := by
  cases hread : Resume.ofConfig v with
  | error e => simp [bind, Except.bind]
  | ok r =>
    obtain ⟨page, hpage⟩ := Page.exists_ofResume ht (hv r hread) p q
    simp [bind, Except.bind, hpage]

theorem Resume.isSpellable_schooled {field : Value} (h : field.isSpellable = true) :
    (schooled field).IsSpellable where
  firstName := rfl
  lastName := rfl
  profession := rfl
  description := rfl
  skills := nofun
  education := List.forall_mem_singleton.mpr
    ⟨Years.isSpellable_of_le (y := ⟨.int 2001, .int 2005, _, _⟩) (by decide), rfl, h, nofun⟩
  work := nofun

/-- A list as field of study, which is kept as it is, laid out and rendered under two policies. -/
theorem exists_page_iff_schooled :
    ∃ page, (do
      let r ← Resume.ofConfig (.mapping (Resume.schooledConfig (.list [.text "<i>", .bool true])))
      Page.ofResume (PaletteTheme.monochrome .dark) .escape .verbatim r) = Except.ok page := by
  have hread := Resume.ofConfig_eq_ok_iff.mpr
    (Resume.readsAs_schooledConfig (.list [.text "<i>", .bool true]))
  refine (exists_page_iff (PaletteTheme.isSpellable_monochrome .dark) (fun r hr => ?_) .escape
    .verbatim).mpr ⟨_, hread⟩
  cases hread.symm.trans hr
  exact Resume.isSpellable_schooled rfl

end ResumePress
