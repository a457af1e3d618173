import ResumePress.Proofs.Text.Numbering
import ResumePress.Value.Markup

/-!
# Trusted and plain templates

Where values are escaped, a template is filled as trusted markup, and where they are not as plain
text. The two ways number the places of a template differently. Filling with escaping is
nevertheless filling without it what is escaped beforehand, down to the kind of fault if there is
one: no letter of the template is escaped, and every use of a value is escaped once.
-/
namespace ResumePress

open Text (IsFilling IsSimpleTemplate)

namespace Value

variable {template : String} {args : List Value}

theorem filled_escape_text (template : String) (args : List Value) :
    filled .escape (.text template) args =
      ofFilling trusted (Text.fill .counted (inPlace .escape) args template) := rfl

theorem filled_verbatim_text (template : String) (args : List Value) :
    filled .verbatim (.text template) args =
      ofFilling text (Text.fill .stated (inPlace .verbatim) args template) := rfl

/-- What is escaped beforehand is shown as it stands. -/
theorem fill_underPolicy (hargs : ∀ v ∈ args, v.isSpellable = true) (template : String) :
    Text.fill .stated (inPlace .verbatim) (args.map (underPolicy .escape)) template =
      Text.fill .stated (inPlace .escape) args template := by
  refine (Text.fillPieces_map (underPolicy .escape) args _ _).trans (Text.fillPieces_congr ?_ _ _)
  intro v hv
  exact (inPlace_of_isSpellable (hargs v hv) .escape).symm

/-- With escaping, a template is filled to the text to which it is filled without escaping if the
arguments are escaped beforehand, and otherwise both fail for faults of one kind. The arguments are
taken to be ones that can be spelled out, since no other can be escaped. -/
theorem filled_escape_eq_filled_verbatim (h : IsSimpleTemplate template)
    (hargs : ∀ v ∈ args, v.isSpellable = true) :
    match filled .escape (.text template) args,
      filled .verbatim (.text template) (args.map (underPolicy .escape)) with
    | .ok v, .ok w => ∃ s, v = .trusted s ∧ w = .text s ∧
        IsFilling escaped args 0 (Text.pieces template) s
    | .error e, .error f => ∃ d d', e = .template d ∧ f = .template d' ∧ d.kind = d'.kind
    | _, _ => False := by
  have hparallel : Text.Parallel Eq (Text.fill .stated (inPlace .escape) args template)
      (Text.fill .counted (inPlace .escape) args template) := Text.parallel_fill h
  have hfilling : ∀ s, Text.fill .counted (inPlace .escape) args template = .ok s →
      IsFilling escaped args 0 (Text.pieces template) s :=
    fun s hs => Text.isFilling_of_fill
      (fun v hv => inPlace_of_isSpellable (hargs v hv) .escape) h hs
  rw [filled_escape_text, filled_verbatim_text, fill_underPolicy hargs]
  generalize Text.fill .stated (inPlace .escape) args template = x,
    Text.fill .counted (inPlace .escape) args template = y at hparallel hfilling
  cases hparallel with
  | ok hs =>
    cases hs
    exact ⟨_, rfl, rfl, hfilling _ rfl⟩
  | error hkind => exact ⟨_, _, rfl, rfl, hkind.symm⟩

def braced : String :=
  "\x7b1\x7d<b>\x7b\x7b\x7b0\x7d\x7d\x7d</b>\x7b1\x7d"

def bracedArguments : List Value :=
  [.text "R&D \x7b1\x7d", .trusted "<i>"]

theorem filled_escape_eq_filled_verbatim_braced : IsSimpleTemplate braced ∧
    (∀ v ∈ bracedArguments, v.isSpellable = true) ∧ filled .escape (.text braced) bracedArguments =
      .ok (.trusted "<i><b>\x7bR&amp;D \x7b1\x7d\x7d</b><i>") := by
  have hsimple : IsSimpleTemplate braced := by decide +kernel
  have hargs : ∀ v ∈ bracedArguments, v.isSpellable = true := by simp [bracedArguments]
  have hverbatim : filled .verbatim (.text braced) (bracedArguments.map (underPolicy .escape)) =
      .ok (.text "<i><b>\x7bR&amp;D \x7b1\x7d\x7d</b><i>") := by
    have hfill : Text.fill .stated (inPlace .verbatim) (bracedArguments.map (underPolicy .escape))
        braced = .ok "<i><b>\x7bR&amp;D \x7b1\x7d\x7d</b><i>" := by decide +kernel
    rw [filled_verbatim_text, hfill]
    rfl
  have h := @filled_escape_eq_filled_verbatim braced bracedArguments hsimple hargs
  generalize filled .escape (.text braced) bracedArguments = x,
    filled .verbatim (.text braced) (bracedArguments.map (underPolicy .escape)) = y at h hverbatim
  refine ⟨hsimple, hargs, ?_⟩
  subst hverbatim
  cases x with
  | ok v =>
    obtain ⟨s, rfl, hs, -⟩ := h
    cases hs
    rfl
  | error e => exact h.elim

end Value

end ResumePress
