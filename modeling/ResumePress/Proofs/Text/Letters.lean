import Mathlib.Data.List.Basic
import Mathlib.Data.List.TakeWhile
import ResumePress.Text.Blank
import ResumePress.Text.Letters

/-!
# Words in any letters

A word of small ASCII letters may be written with any of them in capitals. It has no blanks to trim,
and in capital letters it is the same word again.
-/
namespace ResumePress.Text

def IsSmallLetter (c : Char) : Prop :=
  'a' ≤ c ∧ c ≤ 'z'

instance : DecidablePred IsSmallLetter :=
  fun c => inferInstanceAs (Decidable ('a' ≤ c ∧ c ≤ 'z'))

variable {c : Char}

/-- Only the ASCII capitals have another small form, 32 places behind them. -/
theorem toLower_cases (c : Char) :
    c.toLower = c ∨ 65 ≤ c.toNat ∧ c.toNat ≤ 90 ∧ c.toLower.toNat = c.toNat + 32 := by
  unfold Char.toLower
  split
  · next hc =>
    obtain ⟨hlow, hhigh⟩ := hc
    right
    have hlow' : 65 ≤ c.toNat := UInt32.le_iff_toNat_le.mp hlow
    have hhigh' : c.toNat ≤ 90 := UInt32.le_iff_toNat_le.mp hhigh
    refine ⟨hlow', hhigh', ?_⟩
    change (c.val + 32).toNat = c.val.toNat + 32
    rw [UInt32.toNat_add]
    apply Nat.mod_eq_of_lt
    have h32 : UInt32.toNat 32 = 32 := rfl
    have hval : c.val.toNat = c.toNat := rfl
    omega
  · exact .inl rfl

theorem IsSmallLetter.toNat (h : IsSmallLetter c) : 97 ≤ c.toNat ∧ c.toNat ≤ 122 :=
  ⟨UInt32.le_iff_toNat_le.mp h.1, UInt32.le_iff_toNat_le.mp h.2⟩

theorem capital_of_isSmallLetter (h : IsSmallLetter c) : capital c = [Char.ofNat (c.toNat - 32)] :=
  if_pos h

theorem capital_of_isCapital (hlow : 65 ≤ c.toNat) (hhigh : c.toNat ≤ 90) : capital c = [c] := by
  have hsmall : ¬ ('a' ≤ c ∧ c ≤ 'z') := by
    intro h
    have hc := IsSmallLetter.toNat h
    omega
  unfold capital
  rw [if_neg hsmall]
  split <;> first | rfl | exact absurd hhigh (by decide)

theorem capital_toLower (h : IsSmallLetter c.toLower) : capital c.toLower = capital c := by
  rcases toLower_cases c with heq | ⟨hlow, hhigh, hnat⟩
  · rw [heq]
  · rw [capital_of_isSmallLetter h, capital_of_isCapital hlow hhigh, hnat, Nat.add_sub_cancel,
      Char.ofNat_toNat]

theorem isBlank_eq_false (h : IsSmallLetter c.toLower) : isBlank c = false := by
  have hnat : 65 ≤ c.toNat ∧ c.toNat ≤ 122 := by
    rcases toLower_cases c with heq | ⟨hlow, hhigh, -⟩
    · have hc := (heq ▸ h : IsSmallLetter c).toNat
      omega
    · omega
  simp [isBlank]
  omega

theorem trimChars_eq_self {cs : List Char} (h : ∀ c ∈ cs, isBlank c = false) :
    trimChars cs = cs := by
  have hdrop : ∀ ds : List Char, (∀ c ∈ ds, isBlank c = false) → ds.dropWhile isBlank = ds := by
    intro ds hds
    rw [List.dropWhile_eq_self_iff]
    intro hl
    simp [hds ds[0] (List.getElem_mem hl)]
  rw [trimChars, hdrop cs h, hdrop, List.reverse_reverse]
  intro c hc
  exact h c (List.mem_reverse.mp hc)

/-- A word with some of its letters in capitals is the word again when it is trimmed and put into
capitals. -/
theorem upper_trim_eq {s word : String} (hword : ∀ c ∈ word.toList, IsSmallLetter c)
    (h : s.toLower = word) : upper (trim s) = upper word := by
  have hmap : s.toList.map Char.toLower = word.toList := by
    rw [← h]
    exact String.toList_map.symm
  have hletter : ∀ c ∈ s.toList, IsSmallLetter c.toLower := by
    intro c hc
    apply hword
    rw [← hmap]
    exact List.mem_map_of_mem hc
  have htrim : trimChars s.toList = s.toList :=
    trimChars_eq_self fun c hc => isBlank_eq_false (hletter c hc)
  apply String.toList_inj.mp
  rw [toList_upper, toList_upper, toList_trim, htrim, ← hmap, List.flatMap_map]
  exact List.flatMap_congr fun c hc => (capital_toLower (hletter c hc)).symm

end ResumePress.Text
