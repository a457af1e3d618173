import Mathlib.Data.List.Basic
import ResumePress.Text.Escape
import ResumePress.Text.Occurs

/-!
# Entities and the characters they stand for

Escaped text holds none of the characters that open, close or quote anything in markup, and reading
its entities from left to right gives the text back. Escaping also commutes with what is asked of a
text elsewhere: whether it is empty, how it begins, and what it holds.
-/
namespace ResumePress.Text

/-! ## The table -/

/-- The five characters that mean something to markup, and their entities. -/
def entityTable : List (Char × String) :=
  [('&', "&amp;"), ('<', "&lt;"), ('>', "&gt;"), ('\x27', "&#39;"), ('\x22', "&#34;")]

/-- The text with its characters replaced as the table says. -/
def withEntities (s : String) : String :=
  String.ofList
    (s.toList.flatMap fun c => ((entityTable.lookup c).getD (String.singleton c)).toList)

/-- Escaping replaces what is in the table and nothing else. -/
@[simp] theorem withEntities_eq_escape (s : String) : withEntities s = escape s := by
  have hentity : ∀ c, ((entityTable.lookup c).getD (String.singleton c)).toList = entity c := by
    intro c
    unfold entity
    split_ifs with hamp hlt hgt happ hquote
    · rw [hamp]; decide
    · rw [hlt]; decide
    · rw [hgt]; decide
    · rw [happ]; decide
    · rw [hquote]; decide
    · simp [entityTable, List.lookup_cons, beq_eq_false_iff_ne.mpr hamp,
        beq_eq_false_iff_ne.mpr hlt, beq_eq_false_iff_ne.mpr hgt, beq_eq_false_iff_ne.mpr happ,
        beq_eq_false_iff_ne.mpr hquote]
  rw [withEntities, escape, funext hentity]

/-! ## Marks -/

/-- A character that opens or closes a tag or a quoted attribute. -/
def isMark (c : Char) : Bool :=
  c = '<' || c = '>' || c = '\x22' || c = '\x27'

def marks (s : String) : List Char :=
  s.toList.filter isMark

def IsUnmarked (cs : List Char) : Prop :=
  ∀ c ∈ cs, isMark c = false

/-- Each of the characters stands for itself in escaped text. -/
def IsBland (cs : List Char) : Prop :=
  ∀ c ∈ cs, entity c = [c]

instance (cs : List Char) : Decidable (IsUnmarked cs) :=
  decidable_of_iff (cs.all fun c => !isMark c) (by simp [IsUnmarked])

instance (cs : List Char) : Decidable (IsBland cs) :=
  decidable_of_iff (cs.all fun c => entity c == [c]) (by simp [IsBland])

/-- The characters that entities stand for. What begins no entity stays. -/
def decoded : List Char → List Char
  | '&' :: 'a' :: 'm' :: 'p' :: ';' :: cs => '&' :: decoded cs
  | '&' :: 'l' :: 't' :: ';' :: cs => '<' :: decoded cs
  | '&' :: 'g' :: 't' :: ';' :: cs => '>' :: decoded cs
  | '&' :: '#' :: '3' :: '9' :: ';' :: cs => '\x27' :: decoded cs
  | '&' :: '#' :: '3' :: '4' :: ';' :: cs => '\x22' :: decoded cs
  | c :: cs => c :: decoded cs
  | [] => []

/-! ## One character -/

theorem entity_of_isDigit {c : Char} (h : c.isDigit = true) : entity c = [c] := by
  unfold entity
  split_ifs with h1 h2 h3 h4 h5
  · subst h1; revert h; decide
  · subst h2; revert h; decide
  · subst h3; revert h; decide
  · subst h4; revert h; decide
  · subst h5; revert h; decide
  · rfl

/-- An entity begins with an ampersand; only a character that has none stands for itself. -/
theorem entity_eq_cons (c : Char) : entity c = [c] ∨ ∃ r, entity c = '&' :: r := by
  unfold entity
  split_ifs <;> simp

theorem isUnmarked_entity (c : Char) : IsUnmarked (entity c) := by
  unfold entity
  split_ifs with h1 h2 h3 h4 h5
  · decide
  · decide
  · decide
  · decide
  · decide
  · intro d hd
    rw [List.mem_singleton.mp hd]
    simp [isMark, h2, h3, h4, h5]

theorem isMark_of_isDigit {c : Char} (h : c.isDigit = true) : isMark c = false := by
  apply isUnmarked_entity c
  rw [entity_of_isDigit h]
  exact List.mem_singleton_self c

theorem decoded_entity_append (c : Char) (rest : List Char) :
    decoded (entity c ++ rest) = c :: decoded rest := by
  unfold entity
  split_ifs with h1 h2 h3 h4 h5
  · subst h1; rfl
  · subst h2; rfl
  · subst h3; rfl
  · subst h4; rfl
  · subst h5; rfl
  · rw [List.singleton_append, decoded] <;> simp [h1]

/-! ## Escaped texts -/

theorem isUnmarked_escape (s : String) : IsUnmarked (escape s).toList := by
  intro c h
  rw [toList_escape, List.mem_flatMap] at h
  obtain ⟨d, -, hc⟩ := h
  exact isUnmarked_entity d c hc

theorem notMem_escape {c : Char} (hc : isMark c = true) (s : String) :
    c ∉ (escape s).toList := by
  intro h
  rw [isUnmarked_escape s c h] at hc
  cases hc

theorem marks_of_isUnmarked {s : String} (h : IsUnmarked s.toList) : marks s = [] := by
  rw [marks, List.filter_eq_nil_iff]
  intro c hc
  simp [h c hc]

theorem decoded_escape_append (s : String) (rest : List Char) :
    decoded ((escape s).toList ++ rest) = s.toList ++ decoded rest := by
  rw [toList_escape]
  induction s.toList with
  | nil => rfl
  | cons c cs ih => rw [List.flatMap_cons, List.append_assoc, decoded_entity_append, ih]; rfl

theorem escape_injective {s t : String} (h : escape s = escape t) : s = t := by
  have hs := decoded_escape_append s []
  rw [h, decoded_escape_append t [], decoded, List.append_nil, List.append_nil] at hs
  exact String.toList_inj.mp hs.symm

theorem flatMap_entity_eq_self {cs : List Char} (h : IsBland cs) : cs.flatMap entity = cs := by
  induction cs with
  | nil => rfl
  | cons c cs ih =>
    rw [List.flatMap_cons, h c (by simp), ih (fun d hd => h d (by simp [hd])),
      List.singleton_append]

theorem escape_eq_self {s : String} (h : IsBland s.toList) : escape s = s := by
  apply String.toList_inj.mp
  rw [toList_escape, flatMap_entity_eq_self h]

theorem escape_eq_empty_iff {s : String} : escape s = "" ↔ s = "" := by
  constructor
  · intro h
    exact escape_injective (h.trans escape_empty.symm)
  · rintro rfl
    rfl

theorem isEmpty_escape (s : String) : (escape s).isEmpty = s.isEmpty := by
  rw [Bool.eq_iff_iff, String.isEmpty_iff, String.isEmpty_iff, escape_eq_empty_iff]

/-! ## How a text begins and what it holds -/

theorem isPrefixOf_flatMap_entity {opening : List Char} (h : IsBland opening) (cs : List Char) :
    opening.isPrefixOf (cs.flatMap entity) = opening.isPrefixOf cs := by
  induction opening generalizing cs with
  | nil => simp
  | cons o os ih =>
    cases cs with
    | nil => rfl
    | cons c cs =>
      have ho := h o (by simp)
      rcases entity_eq_cons c with hc | ⟨r, hc⟩
      · rw [List.flatMap_cons, hc, List.singleton_append, List.isPrefixOf_cons_cons,
          List.isPrefixOf_cons_cons, ih (fun d hd => h d (by simp [hd]))]
      · -- an entity was put in place of `c`, and `opening` begins with neither
        have hamp : o ≠ '&' := by rintro rfl; exact absurd ho (by decide)
        have hne : o ≠ c := by
          rintro rfl
          rw [ho] at hc
          exact hamp (List.cons.inj hc).1
        rw [List.flatMap_cons, hc, List.cons_append, List.isPrefixOf_cons_cons,
          List.isPrefixOf_cons_cons, beq_false_of_ne hamp, beq_false_of_ne hne]
        rfl

theorem beginsWith_escape {opening : String} (h : IsBland opening.toList) (s : String) :
    beginsWith opening (escape s) = beginsWith opening s := by
  rw [beginsWith, beginsWith, toList_escape, isPrefixOf_flatMap_entity h]

theorem occursIn_append_of_notMem {p : Char} {ps cs : List Char} (h : p ∉ cs) (rest : List Char) :
    occursIn (p :: ps) (cs ++ rest) = occursIn (p :: ps) rest := by
  induction cs with
  | nil => rfl
  | cons c cs ih =>
    rw [List.mem_cons, not_or] at h
    rw [List.cons_append, occursIn, List.isPrefixOf_cons_cons, beq_false_of_ne h.1, ih h.2]
    rfl

theorem occursIn_flatMap_entity {p : Char} {ps : List Char} (hp : ∀ d, p ∈ entity d → d = p)
    (h : IsBland (p :: ps)) (cs : List Char) :
    occursIn (p :: ps) (cs.flatMap entity) = occursIn (p :: ps) cs := by
  induction cs with
  | nil => rfl
  | cons c cs ih =>
    by_cases hc : c = p
    · have he : entity c = [c] := h c (by simp [hc])
      rw [occursIn, ← ih, ← isPrefixOf_flatMap_entity h (c :: cs), List.flatMap_cons, he,
        List.singleton_append, occursIn]
    · have hn : p ∉ entity c := fun hm => hc (hp c hm)
      rw [List.flatMap_cons, occursIn_append_of_notMem hn, ih, occursIn, List.isPrefixOf_cons_cons,
        beq_false_of_ne (Ne.symm hc)]
      rfl

theorem eq_of_colon_mem_entity (c : Char) (h : ':' ∈ entity c) : c = ':' := by
  unfold entity at h
  split_ifs at h <;> simp at h
  exact h.symm

theorem holds_scheme_escape (s : String) : holds "://" (escape s) = holds "://" s := by
  rw [holds, holds, toList_escape]
  exact occursIn_flatMap_entity eq_of_colon_mem_entity (by decide) s.toList

theorem filter_flatMap_entity (cs : List Char) :
    (cs.flatMap entity).filter (· ≠ ' ') = (cs.filter (· ≠ ' ')).flatMap entity := by
  induction cs with
  | nil => rfl
  | cons c cs ih =>
    rw [List.flatMap_cons, List.filter_append, ih]
    by_cases hc : c = ' '
    · subst hc
      rfl
    · have he : (entity c).filter (· ≠ ' ') = entity c := by
        unfold entity
        split_ifs <;> simp_all
      rw [he, List.filter_cons_of_pos (by simpa using hc), List.flatMap_cons]

end ResumePress.Text
