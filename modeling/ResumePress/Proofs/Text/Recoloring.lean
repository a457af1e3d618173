import ResumePress.Proofs.Theme.Dress

/-!
# Texts with other colors

A color stands in a text as a number sign with six hexadecimal digits behind it. Two texts that
differ only in such digits are the same text once the digits are left out, whatever stands around
them: what looks like a color elsewhere is left out of both, and nothing can reach into a color or
out of it, because a number sign is no digit.
-/
namespace ResumePress.Text

def AreColorDigits (ds : List Char) : Prop :=
  ds.length = 6 ∧ ∀ d ∈ ds, d ∈ hexDigits

instance : DecidablePred AreColorDigits :=
  fun ds => inferInstanceAs (Decidable (ds.length = 6 ∧ ∀ d ∈ ds, d ∈ hexDigits))

/-- The characters without the digits of colors: of a number sign with six digits behind it, the
number sign stays. -/
def bleached : List Char → List Char
  | [] => []
  | c :: cs =>
    if c = '#' ∧ AreColorDigits (cs.take 6) then c :: bleached (cs.drop 6) else c :: bleached cs
termination_by cs => cs.length
decreasing_by
  · rw [List.length_drop, List.length_cons]
    omega
  · exact Nat.lt_succ_self _

/-- Two texts that differ in nothing but the digits of colors. -/
inductive Recolored : List Char → List Char → Prop
  | nil : Recolored [] []
  | same (c : Char) {cs ds : List Char} (h : Recolored cs ds) : Recolored (c :: cs) (c :: ds)
  | color {a b cs ds : List Char} (ha : AreColorDigits a) (hb : AreColorDigits b)
    (h : Recolored cs ds) : Recolored ('#' :: (a ++ cs)) ('#' :: (b ++ ds))

/-! ## Digits -/

theorem numberSign_notMem_hexDigits : '#' ∉ hexDigits := by
  decide

theorem AreColorDigits.ne_numberSign {ds : List Char} (h : AreColorDigits ds) :
    ∀ d ∈ ds, d ≠ '#' := by
  rintro d hd rfl
  exact numberSign_notMem_hexDigits (h.2 _ hd)

theorem AreColorDigits.take_append {a : List Char} (h : AreColorDigits a) (cs : List Char) :
    (a ++ cs).take 6 = a := by
  rw [← h.1, List.take_left]

theorem areColorDigits_channels (c : Rgb) :
    AreColorDigits (c.red.hex ++ c.green.hex ++ c.blue.hex) := by
  constructor
  · simp [Channel.hex]
  · intro d hd
    rw [List.mem_append, List.mem_append] at hd
    rcases hd with (hd | hd) | hd
    all_goals exact mem_hexFixed hd

theorem bleached_color {a : List Char} (h : AreColorDigits a) (cs : List Char) :
    bleached ('#' :: (a ++ cs)) = '#' :: bleached cs := by
  have hdrop : (a ++ cs).drop 6 = cs := by rw [← h.1, List.drop_left]
  rw [bleached, h.take_append, hdrop, if_pos ⟨rfl, h⟩]

theorem bleached_cons {c : Char} {cs : List Char} (h : ¬ (c = '#' ∧ AreColorDigits (cs.take 6))) :
    bleached (c :: cs) = c :: bleached cs := by
  rw [bleached, if_neg h]

/-- What holds no number sign stays as it is, whatever follows. -/
theorem bleached_append {a : List Char} (h : ∀ c ∈ a, c ≠ '#') (cs : List Char) :
    bleached (a ++ cs) = a ++ bleached cs := by
  induction a with
  | nil => rfl
  | cons c a ih =>
    rw [List.forall_mem_cons] at h
    rw [List.cons_append, bleached_cons (fun hc => h.1 hc.1), ih h.2, List.cons_append]

namespace Recolored

variable {a cs ds es fs : List Char}

theorem refl (cs : List Char) : Recolored cs cs := by
  induction cs with
  | nil => exact .nil
  | cons c cs ih => exact .same c ih

theorem symm (h : Recolored cs ds) : Recolored ds cs := by
  induction h with
  | nil => exact .nil
  | same c _ ih => exact .same c ih
  | color ha hb _ ih => exact .color hb ha ih

theorem append (h : Recolored cs ds) (h' : Recolored es fs) :
    Recolored (cs ++ es) (ds ++ fs) := by
  induction h with
  | nil => exact h'
  | same c _ ih => exact .same c ih
  | color ha hb _ ih =>
    simp only [List.cons_append, List.append_assoc]
    exact .color ha hb ih

theorem length_eq (h : Recolored cs ds) : cs.length = ds.length := by
  induction h with
  | nil => rfl
  | same c _ ih => rw [List.length_cons, List.length_cons, ih]
  | color ha hb _ ih => simp [ha.1, hb.1, ih]

/-- What holds no number sign is the same on both sides. -/
theorem exists_of_append (ha : ∀ c ∈ a, c ≠ '#') (h : Recolored (a ++ cs) ds) :
    ∃ es, ds = a ++ es ∧ Recolored cs es := by
  induction a generalizing ds with
  | nil => exact ⟨ds, rfl, h⟩
  | cons c a ih =>
    rw [List.forall_mem_cons] at ha
    generalize hl : c :: a ++ cs = l at h
    cases h with
    | nil => cases hl
    | same d h =>
      obtain ⟨rfl, rfl⟩ := List.cons.inj hl
      obtain ⟨es, rfl, hes⟩ := ih ha.2 h
      exact ⟨es, rfl, hes⟩
    | color _ _ _ => exact absurd (List.cons.inj hl).1 ha.1

/-- Digits behind a place of the one text are there in the other one. -/
theorem areColorDigits (h : Recolored cs ds) (hcs : AreColorDigits (cs.take 6)) :
    AreColorDigits (ds.take 6) := by
  rw [← List.take_append_drop 6 cs] at h
  obtain ⟨es, rfl, -⟩ := h.exists_of_append hcs.ne_numberSign
  rwa [hcs.take_append]

theorem bleached_eq (h : Recolored cs ds) : bleached cs = bleached ds := by
  induction h with
  | nil => rfl
  | color ha hb _ ih => rw [bleached_color ha, bleached_color hb, ih]
  | @same c cs ds h ih =>
    by_cases hc : c = '#' ∧ AreColorDigits (cs.take 6)
    · -- a color of the text itself: the same six digits are left out on both sides
      obtain ⟨rfl, hdigits⟩ := hc
      rw [← List.take_append_drop 6 cs] at h ih ⊢
      obtain ⟨es, rfl, -⟩ := h.exists_of_append hdigits.ne_numberSign
      rw [bleached_append hdigits.ne_numberSign, bleached_append hdigits.ne_numberSign] at ih
      rw [bleached_color hdigits, bleached_color hdigits, List.append_cancel_left ih]
    · have hd : ¬ (c = '#' ∧ AreColorDigits (ds.take 6)) :=
        fun hd => hc ⟨hd.1, h.symm.areColorDigits hd.2⟩
      rw [bleached_cons hc, bleached_cons hd, ih]

end Recolored

end ResumePress.Text
