import Mathlib.Data.List.Pairwise
import ResumePress.Proofs.Steps
import ResumePress.Proofs.Theme.Notation

/-!
# Palettes by their entries

The entries of a palette come in any order, and a color may be named in any of its spellings and
more than once. A theme comes of them exactly if each is a name with a color and no color is without
an entry. What the theme answers for a color is the last entry for it, whatever the color is called
then. If there is one entry for each color only, their order does not matter.
-/
namespace ResumePress

theorem Rgb.IsGivenBy.unique {c d : Rgb} {v : Value} (hc : c.IsGivenBy v) (hd : d.IsGivenBy v) :
    c = d := by
  have hcheck : check v none .null = .ok c := check_eq_ok_iff.mpr hc
  exact Except.ok.inj (hcheck.symm.trans (check_eq_ok_iff.mpr hd))

namespace Palette

variable {c : Color} {given given' : List (Value × Value)} {v v' : Value}

/-- The last entry for the color has this value. -/
def IsLastFor (c : Color) (v : Value) (given : List (Value × Value)) : Prop :=
  ∃ before key after, given = before ++ (key, v) :: after ∧ c.IsNamedBy key ∧
    ∀ e ∈ after, ¬ c.IsNamedBy e.1

def Apart (e e' : Value × Value) : Prop :=
  ∀ c : Color, ¬ (c.IsNamedBy e.1 ∧ c.IsNamedBy e'.1)

instance : Std.Symm Apart :=
  ⟨fun _ _ h c hc => h c hc.symm⟩

def AreDistinct (given : List (Value × Value)) : Prop :=
  given.Pairwise Apart

end Palette

/-! ## Reading entry by entry -/

namespace PaletteEntries

variable {name key v : Value} {c : Color} {given before after : List (Value × Value)}
  {rows done entries : PaletteEntries}

theorem read_append : read name (before ++ after) done =
    read name before done >>= read name after := by
  induction before generalizing done with
  | nil => rfl
  | cons e before ih =>
    rw [List.cons_append, read, read]
    split
    · rfl
    · split
      · rfl
      · exact ih

/-- One entry puts its color in front. -/
theorem exists_of_read_cons (h : read name ((key, v) :: after) done = .ok entries) :
    ∃ (k : Color) (rgb : Rgb), k.IsNamedBy key ∧ rgb.IsGivenBy v ∧
      read name after ((k, rgb) :: done) = .ok entries := by
  rw [read] at h
  split at h
  · cases h
  · next k hcolor =>
    split at h
    · cases h
    · next rgb hcheck =>
      exact ⟨k, rgb, Color.ofValue?_eq_ok_iff.mp hcolor, Rgb.check_eq_ok_iff.mp hcheck, h⟩

theorem find?_of_read (h : read name given done = .ok entries)
    (hc : ∀ e ∈ given, ¬ c.IsNamedBy e.1) : find? c entries = find? c done := by
  induction given generalizing done with
  | nil =>
    cases h
    rfl
  | cons e given ih =>
    obtain ⟨k, rgb, hk, -, hrest⟩ := exists_of_read_cons h
    rw [List.forall_mem_cons] at hc
    have hne : c ≠ k := fun hck => hc.1 (hck ▸ hk)
    rw [ih hrest hc.2, find?, List.lookup_cons, beq_false_of_ne hne]
    rfl

/-- The last entry for a color gives it its value, whatever was read before. -/
theorem find?_of_read_last (h : read name given done = .ok entries)
    (hlast : Palette.IsLastFor c v given) :
    ∃ rgb : Rgb, find? c entries = some rgb ∧ rgb.IsGivenBy v := by
  obtain ⟨before, key, after, rfl, hkey, hafter⟩ := hlast
  -- What is read before the entry stays below it, and nothing after it covers it again.
  rw [read_append] at h
  obtain ⟨middle, -, hentry⟩ := bind_eq_ok.mp h
  obtain ⟨k, rgb, hk, hrgb, hrest⟩ := exists_of_read_cons hentry
  cases hk.unique hkey
  refine ⟨rgb, ?_, hrgb⟩
  rw [find?_of_read hrest hafter, find?, List.lookup_cons_self]

end PaletteEntries

namespace Palette

variable {name v v' : Value} {c : Color} {given given' : List (Value × Value)} {p p' : Palette}

theorem IsComplete.perm (h : IsComplete given) (hperm : given.Perm given') :
    IsComplete given' where
  named e he := h.named e (hperm.mem_iff.mpr he)
  triple e he := h.triple e (hperm.mem_iff.mpr he)
  total c := by
    obtain ⟨e, he, hc⟩ := h.total c
    exact ⟨e, hperm.mem_iff.mp he, hc⟩

/-! ## The last entry -/

theorem exists_isLastFor (h : ∃ e ∈ given, c.IsNamedBy e.1) : ∃ v, IsLastFor c v given := by
  induction given with
  | nil => simp at h
  | cons e given ih =>
    -- The first entry is the last for the color only if no later one is for it.
    by_cases hlater : ∃ e ∈ given, c.IsNamedBy e.1
    · obtain ⟨v, before, key, after, rfl, hkey, hafter⟩ := ih hlater
      exact ⟨v, e :: before, key, after, rfl, hkey, hafter⟩
    · have hhead : c.IsNamedBy e.1 := by simpa [hlater] using h
      have hnone : ∀ e' ∈ given, ¬ c.IsNamedBy e'.1 := fun e' he' hc => hlater ⟨e', he', hc⟩
      exact ⟨e.2, [], e.1, given, rfl, hhead, hnone⟩

theorem IsLastFor.exists_mem (h : IsLastFor c v given) :
    ∃ key, (key, v) ∈ given ∧ c.IsNamedBy key := by
  obtain ⟨before, key, after, rfl, hkey, -⟩ := h
  exact ⟨key, by simp, hkey⟩

theorem AreDistinct.value_eq {key key' : Value} (h : AreDistinct given) (hmem : (key, v) ∈ given)
    (hmem' : (key', v') ∈ given) (hkey : c.IsNamedBy key) (hkey' : c.IsNamedBy key') : v = v' := by
  by_contra hne
  have hdiff : (key, v) ≠ (key', v') := fun heq => hne (congrArg Prod.snd heq)
  exact h.forall hmem hmem' hdiff c ⟨hkey, hkey'⟩

theorem isGivenBy_rgb (h : ofEntries name given = .ok p) (hlast : IsLastFor c v given) :
    (p.rgb c).IsGivenBy v := by
  unfold ofEntries at h
  split at h
  · cases h
  · next entries hread =>
    split_ifs at h
    · cases h
      obtain ⟨rgb, hfind, hrgb⟩ := PaletteEntries.find?_of_read_last hread hlast
      simpa only [Palette.rgb, hfind, Option.get_some] using hrgb
    · exact absurd h Fault.raise_ne_ok

theorem rgb_eq_of_perm (h : ofEntries name given = .ok p) (h' : ofEntries name given' = .ok p')
    (hdistinct : AreDistinct given) (hperm : given.Perm given') (c : Color) :
    p'.rgb c = p.rgb c := by
  have hcomplete := isComplete_iff.mpr (exists_ofEntries_iff.mp ⟨p, h⟩)
  obtain ⟨v, hv⟩ := exists_isLastFor (hcomplete.total c)
  obtain ⟨v', hv'⟩ := exists_isLastFor ((hcomplete.perm hperm).total c)
  obtain ⟨key, hmem, hkey⟩ := hv.exists_mem
  obtain ⟨key', hmem', hkey'⟩ := hv'.exists_mem
  have hsame : v = v' := hdistinct.value_eq hmem (hperm.mem_iff.mpr hmem') hkey hkey'
  subst hsame
  exact (isGivenBy_rgb h' hv').unique (isGivenBy_rgb h hv)

end Palette

namespace PaletteTheme

variable {name css : Value} {given given' : List (Value × Value)} {t t' : PaletteTheme}

/-- The theme answers for every color, in every spelling, what the last entry for it holds. -/
def Answers (t : PaletteTheme) (given : List (Value × Value)) : Prop :=
  ∀ (c : Color) (spelling : Value), c.IsNamedBy spelling →
    ∃ v x y z, Palette.IsLastFor c v given ∧ v.IsThree x y z ∧
      t.toTheme.rgb spelling = .ok (.tuple [x, y, z])

theorem exists_make_iff : (∃ t, make name (.mapping given) css = .ok t) ↔
    Palette.IsComplete given := by
  have hpalette : (∃ p, Palette.ofEntries name given = .ok p) ↔ Palette.IsGivenBy given :=
    Palette.exists_ofEntries_iff
  rw [Palette.isComplete_iff, ← hpalette]
  simp [make_eq_ok_iff]

theorem tells_of_make {e : Fault} (h : make name (.mapping given) css = .error e) :
    e.Tells (¬ Palette.IsMute name given) :=
  Palette.tells_of_ofEntries (make_eq_error_iff.mp h)

theorem rgb_of_isNamedBy (t : PaletteTheme) {c : Color} {spelling : Value}
    (h : c.IsNamedBy spelling) :
    t.toTheme.rgb spelling = .ok (t.palette.rgb c).toValue := by
  simp only [toTheme, Color.ofValue?_eq_ok_iff.mpr h]

theorem answers_of_make (h : make name (.mapping given) css = .ok t) : t.Answers given := by
  intro c spelling hc
  have hcomplete := exists_make_iff.mp ⟨t, h⟩
  obtain ⟨v, hv⟩ := Palette.exists_isLastFor (hcomplete.total c)
  obtain ⟨p, hp, rfl⟩ := make_eq_ok_iff.mp h
  have hthree := Rgb.isGivenBy_iff.mp (Palette.isGivenBy_rgb hp hv)
  exact ⟨v, _, _, _, hv, hthree, rgb_of_isNamedBy _ hc⟩

theorem toTheme_congr {p p' : Palette} (h : ∀ c, p'.rgb c = p.rgb c) :
    toTheme ⟨name, p', css⟩ = toTheme ⟨name, p, css⟩ := by
  simp only [toTheme, sheet, h]

theorem exists_make_of_perm (h : make name (.mapping given) css = .ok t)
    (hdistinct : Palette.AreDistinct given) (hperm : given.Perm given') :
    ∃ t', make name (.mapping given') css = .ok t' ∧ t'.toTheme = t.toTheme := by
  have hcomplete := (exists_make_iff.mp ⟨t, h⟩).perm hperm
  obtain ⟨t', h'⟩ := exists_make_iff.mpr hcomplete
  refine ⟨t', h', ?_⟩
  obtain ⟨p, hp, rfl⟩ := make_eq_ok_iff.mp h
  obtain ⟨p', hp', rfl⟩ := make_eq_ok_iff.mp h'
  exact toTheme_congr (Palette.rgb_eq_of_perm hp hp' hdistinct hperm)

/-- A theme comes of the entries of a palette if and only if they are complete. What is wrong with
them otherwise is a fault of the theme, unless a number in it has too many digits to be told. The
theme answers what the last entry for a color holds, and as long as no two entries are for the same
color, their order does not matter to it. -/
theorem make_exact (name css : Value) (given : List (Value × Value)) :
    ((∃ t, make name (.mapping given) css = .ok t) ↔ Palette.IsComplete given) ∧
      (∀ e, make name (.mapping given) css = .error e → e.Tells (¬ Palette.IsMute name given)) ∧
      ∀ t, make name (.mapping given) css = .ok t → t.Answers given ∧
        (Palette.AreDistinct given → ∀ given', given.Perm given' →
          ∃ t', make name (.mapping given') css = .ok t' ∧ t'.toTheme = t.toTheme) :=
  ⟨exists_make_iff, fun _ => tells_of_make, fun _ h =>
    ⟨answers_of_make h, fun hdistinct _ hperm => exists_make_of_perm h hdistinct hperm⟩⟩

theorem isMute_dim_unspelled (name : Value) :
    Palette.IsMute name [(.color .red, Theme.dim (.int unspelled))] :=
  have hlarge : (Theme.dim (.int unspelled)).isSpellable = false := by
    simp [Theme.dim, Value.isSpellable, allSpellable]
  .entry (.value ⟨.red, .itself⟩ Theme.not_isTriple_dim_unspelled (by simp [hlarge]))

/-- Not all that is wrong with the entries of a palette can be told. -/
theorem not_forall_isThemed_of_make : ¬ ∀ (name css : Value) (given : List (Value × Value))
    (e : Fault), make name (.mapping given) css = .error e → e.IsThemed := by
  intro h
  have hpalette := Palette.ofEntries_eq_unspellable_iff.mpr (isMute_dim_unspelled (.text "ink"))
  obtain ⟨cause, name, he⟩ := h _ .null _ _ (make_eq_error_iff.mpr hpalette)
  cases he

end PaletteTheme

end ResumePress
