import Mathlib.Data.List.Infix
import ResumePress.Text.Occurs

/-!
# Absolute addresses

An address is absolute if it begins with a scheme, a colon and two slashes. A text that holds a
colon and two slashes further on is not absolute for that, as what comes before may hold characters
that no scheme has.
-/
namespace ResumePress.Text

/-- A character that may stand in a scheme, except at its beginning. -/
def isSchemeChar (c : Char) : Bool :=
  c.isAlphanum || c == '+' || c == '-' || c == '.'

/-- A letter and then letters, digits, plus signs, hyphens and dots. -/
def IsScheme : List Char → Prop
  | [] => False
  | c :: cs => c.isAlpha = true ∧ ∀ d ∈ cs, isSchemeChar d = true

-- decided on the list, as there is also a decision that runs through all characters
instance : ∀ cs : List Char, Decidable (IsScheme cs)
  | [] => .isFalse id
  | c :: cs => decidable_of_iff (c.isAlpha = true ∧ cs.all isSchemeChar = true) (by
      rw [List.all_eq_true]
      rfl)

/-- The text begins with a scheme, a colon and two slashes. -/
def IsAbsolute (s : String) : Prop :=
  ∃ scheme, IsScheme scheme ∧ scheme ++ [':', '/', '/'] <+: s.toList

theorem IsScheme.forall_isSchemeChar {cs : List Char} (h : IsScheme cs) :
    ∀ c ∈ cs, isSchemeChar c = true := by
  cases cs with
  | nil => exact h.elim
  | cons c cs =>
    refine List.forall_mem_cons.mpr ⟨?_, h.2⟩
    simp [isSchemeChar, Char.isAlphanum, h.1]

/-- The scheme of an address is what comes before the first character that cannot stand in one. -/
theorem isAbsolute_iff {s : String} : IsAbsolute s ↔ IsScheme (s.toList.takeWhile isSchemeChar) ∧
    [':', '/', '/'] <+: s.toList.dropWhile isSchemeChar := by
  constructor
  · rintro ⟨scheme, hscheme, rest, hrest⟩
    have hall := hscheme.forall_isSchemeChar
    have hcolon : isSchemeChar ':' = false := by decide
    rw [← hrest, List.append_assoc, List.takeWhile_append_of_pos hall,
      List.dropWhile_append_of_pos hall]
    simp only [List.cons_append, List.nil_append, List.takeWhile_cons, List.dropWhile_cons, hcolon]
    simpa using hscheme
  · rintro ⟨hscheme, rest, hrest⟩
    refine ⟨_, hscheme, rest, ?_⟩
    rw [List.append_assoc, hrest, List.takeWhile_append_dropWhile]

instance (s : String) : Decidable (IsAbsolute s) :=
  decidable_of_iff _ isAbsolute_iff.symm

theorem IsAbsolute.holds {s : String} (h : IsAbsolute s) : holds "://" s = true := by
  obtain ⟨scheme, -, hprefix⟩ := h
  exact holds_iff.mpr ((List.suffix_append _ _).isInfix.trans hprefix.isInfix)

theorem IsAbsolute.append {s : String} (h : IsAbsolute s) (t : String) : IsAbsolute (s ++ t) := by
  obtain ⟨scheme, hscheme, hprefix⟩ := h
  refine ⟨scheme, hscheme, ?_⟩
  rw [String.toList_append]
  exact hprefix.trans (List.prefix_append _ _)

theorem holds_append {part s : String} (h : holds part s = true) (t : String) :
    holds part (s ++ t) = true := by
  rw [holds_iff, String.toList_append]
  exact (holds_iff.mp h).trans (List.prefix_append _ _).isInfix

theorem beginsWith_append (opening s : String) : beginsWith opening (opening ++ s) = true := by
  rw [beginsWith_iff, String.toList_append]
  exact List.prefix_append _ _

end ResumePress.Text
