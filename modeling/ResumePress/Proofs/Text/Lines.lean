import Mathlib.Data.List.Basic
import ResumePress.Text.Lines

/-!
# How a text with given lines begins

The first line of a text is what stands before its first line end, so texts with the same lines
begin alike.
-/
namespace ResumePress.Text

variable {line a cs l : List Char} {ls : List (List Char)}

theorem isPrefix_of_linesFrom (h : linesFrom line cs = l :: ls) : l <+: line.reverse ++ cs := by
  fun_induction linesFrom line cs generalizing l ls with
  | case1 line hempty => cases h
  | case2 line hempty =>
    cases h
    exact List.prefix_append _ _
  | case3 line cs ih =>
    cases h
    exact List.prefix_append _ _
  | case4 line c cs hc hend ih =>
    cases h
    exact List.prefix_append _ _
  | case5 line c cs hc hend ih => simpa using ih h

/-- Characters that end no line go on with the current one. -/
theorem linesFrom_append (ha : ∀ c ∈ a, isLineEnd c = false) (line cs : List Char) :
    linesFrom line (a ++ cs) = linesFrom (a.reverse ++ line) cs := by
  induction a generalizing line with
  | nil => rfl
  | cons c a ih =>
    rw [List.forall_mem_cons] at ha
    have hc : c ≠ '\r' := by
      rintro rfl
      exact absurd ha.1 (by decide)
    rw [List.cons_append, linesFrom, ha.1, if_neg Bool.false_ne_true, ih ha.2, List.reverse_cons,
      List.append_assoc, List.singleton_append]
    rintro rest rfl
    exact absurd rfl hc

theorem exists_first_line (h : line ≠ []) (cs : List Char) :
    ∃ l ls, linesFrom line cs = (line.reverse ++ l) :: ls := by
  fun_induction linesFrom line cs with
  | case1 line hempty => exact absurd (List.isEmpty_iff.mp hempty) h
  | case2 line hempty => exact ⟨[], [], by simp⟩
  | case3 line cs ih => exact ⟨[], linesFrom [] cs, by simp⟩
  | case4 line c cs hc hend ih => exact ⟨[], linesFrom [] cs, by simp⟩
  | case5 line c cs hc hend ih =>
    obtain ⟨l, ls, hl⟩ := ih (List.cons_ne_nil _ _)
    exact ⟨c :: l, ls, by rw [hl, List.reverse_cons, List.append_assoc, List.singleton_append]⟩

/-- Texts with the same lines begin alike, up to the first line end. -/
theorem isPrefix_of_lines_eq {s t : String} (hne : a ≠ []) (ha : ∀ c ∈ a, isLineEnd c = false)
    (h : lines s = lines t) (ht : a <+: t.toList) : a <+: s.toList := by
  obtain ⟨rest, hrest⟩ := ht
  have hbegun : a.reverse ≠ [] := by simpa using hne
  obtain ⟨l, ls, hl⟩ := exists_first_line hbegun rest
  have hlines : linesFrom [] s.toList = (a ++ l) :: ls := by
    have hst := List.map_injective_iff.mpr (fun _ _ => String.ofList_injective) h
    rw [hst, ← hrest, linesFrom_append ha, List.append_nil, hl, List.reverse_reverse]
  have hfirst := isPrefix_of_linesFrom hlines
  exact (List.prefix_append a l).trans hfirst

end ResumePress.Text
