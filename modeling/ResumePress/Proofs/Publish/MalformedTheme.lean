import ResumePress.Proofs.Publish.Source
import ResumePress.Proofs.Theme.Configured

/-!
# Malformed themes

Under a name of a catalog anything may stand. It makes a theme that has every color, or the fault
says what is wrong with the theme and is reported; except for a configuration of the wrong kind and
for one whose fault has a number in it that cannot be spelled out, on which loading the theme and
publishing in it both break off. Themes files with anchors, aliases, tags, directives, merging keys
or the functions of references do not load here at all, so nothing is said about them.
-/
namespace ResumePress

open PaletteTheme (IsMisshapen IsMute IsSettled IsWellFormed)

variable {s : Store} {file : Option Path} {c : Catalog} {name config : Value} {e : Fault}
  {r : Request}

namespace Request

variable (ht : ∃ target, r.target = .ok target) (hload : Catalog.load s r.themes = .ok c)
include ht hload

theorem result_publish_of_isThemed (htheme : c.theme (.text r.theme) = .error e) (he : e.IsThemed) :
    ∃ message, e.message? = some message ∧ (r.publish s).2.result = .ok (.failed message) := by
  obtain ⟨cause, n, rfl⟩ := he
  refine ⟨_, rfl, ?_⟩
  rw [result_publish_of_theme_error ht hload htheme]
  rfl

theorem result_publish_of_misuse {m : Misuse}
    (htheme : c.theme (.text r.theme) = .error (.misuse m)) :
    (r.publish s).2.result = .error (.misuse m) := by
  rw [result_publish_of_theme_error ht hload htheme]
  rfl

end Request

namespace Catalog

/-- A resume, and a themes file with a theme that has nothing yet and one with an empty palette. -/
def drafts : Store :=
  ⟨[(["ada.yaml"], .text "first_name: Ada\nlast_name: Lovelace\n"),
    (["themes.yaml"], .text "ink:\npaper:\n  palette: \x7b\x7d\n")]⟩

def drafted : Catalog :=
  ⟨[(.text "ink", .null), (.text "paper", .mapping [(.text "palette", .mapping [])])]⟩

def isDrafted : Except Fault Catalog → Bool
  | .ok ⟨[(.text a, .null), (.text b, .mapping [(.text p, .mapping [])])]⟩ =>
    a == "ink" && b == "paper" && p == "palette"
  | _ => false

theorem eq_of_isDrafted {x : Except Fault Catalog} (h : isDrafted x = true) : x = .ok drafted := by
  unfold isDrafted at h
  split at h
  · simp only [Bool.and_eq_true, beq_iff_eq] at h
    obtain ⟨⟨rfl, rfl⟩, rfl⟩ := h
    rfl
  · cases h

theorem load_drafts : load drafts (some ⟨false, ["themes.yaml"]⟩) = .ok drafted :=
  eq_of_isDrafted (by decide +kernel)

def inDraft (theme : String) : Request :=
  ⟨⟨false, ["ada.yaml"]⟩, theme, none, .verbatim, some ⟨false, ["themes.yaml"]⟩⟩

theorem find?_ink : Value.find? (.text "ink") drafted.entries = some .null := by
  simp [drafted, Value.find?, Value.same, Value.sameAtom, Value.content?]

theorem find?_paper : Value.find? (.text "paper") drafted.entries =
    some (.mapping [(.text "palette", .mapping [])]) := by
  simp [drafted, Value.find?, Value.same, Value.sameAtom, Value.content?]

theorem field?_palette (colors : List (Value × Value)) :
    Value.field? "palette" [(.text "palette", .mapping colors)] = some (.mapping colors) := by
  simp [Value.field?, Value.find?, Value.same, Value.sameAtom, Value.content?]

theorem not_isMisshapen_of_palette {colors : List (Value × Value)} {m : Misuse} :
    ¬ IsMisshapen (.mapping [(.text "palette", .mapping colors)]) m := by
  rintro (hv | - | - | ⟨hv, -⟩ | ⟨hp, -, hmapping⟩)
  · cases hv
  · cases hv
  · rw [field?_palette] at hp
    cases hp
    exact hmapping _ rfl

theorem theme_paper : drafted.theme (.text "paper") =
    .error (.theme (.missingColors Color.all) (.text "paper")) := by
  rw [theme_of_find? find?_paper]
  simp only [PaletteTheme.ofConfig, field?_palette, PaletteTheme.make, Palette.ofValue,
    Palette.ofEntries, PaletteEntries.read]
  rfl

end Catalog

end ResumePress
