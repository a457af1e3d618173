import Mathlib.Data.List.Forall2
import ResumePress.Proofs.Steps
import ResumePress.Proofs.Theme.Dress

/-!
# Themes of configurations

A theme is made of a value that may be anything, and so may be what stands in it for a palette, a
color or a channel. A theme comes of it exactly if there is a palette whose entries are right and
give every color a value. Whatever is wrong with the entries is told as a fault of the theme, unless
there is a number in it that cannot be spelled out. The two values around them are not looked at
before they are used: a configuration that is no mapping is asked for a palette if it seems to hold
one or cannot be searched at all, and a palette that is no mapping is asked for its entries.
-/
namespace ResumePress

/-! ## Faults that can be told -/

namespace Fault

def IsThemed (e : Fault) : Prop :=
  ∃ cause name, e = .theme cause name

/-- The fault says what is wrong with a theme if this can be told, and otherwise that a number in it
cannot be spelled out. -/
def Tells (e : Fault) (told : Prop) : Prop :=
  e.IsThemed ∧ told ∨ e = .misuse .unspellable ∧ ¬ told

variable {e : Fault} {p q : Prop}

theorem Tells.congr (h : e.Tells p) (hpq : p ↔ q) : e.Tells q := by
  rwa [Tells, ← hpq]

theorem Tells.isThemed (h : e.Tells p) (hp : p) : e.IsThemed :=
  h.elim And.left fun ⟨_, hnot⟩ => absurd hp hnot

theorem Tells.eq_unspellable_iff (h : e.Tells p) : e = .misuse .unspellable ↔ ¬ p := by
  constructor
  · rintro rfl
    obtain ⟨⟨_, _, he⟩, -⟩ | ⟨-, hnot⟩ := h
    · cases he
    · exact hnot
  · intro hnot
    obtain ⟨-, hp⟩ | ⟨he, -⟩ := h
    · exact absurd hp hnot
    · exact he

/-- What cannot be spelled out is reported exactly where it is what is wrong. -/
theorem eq_unspellable_iff_of_tells {α : Type} {x : Except Fault α} {mute : Prop}
    (herror : ∀ e, x = .error e → e.Tells (¬ mute)) (hok : ∀ a, x = .ok a → ¬ mute) :
    x = .error (.misuse .unspellable) ↔ mute := by
  cases x with
  | error e => rw [Except.error.injEq, (herror e rfl).eq_unspellable_iff, not_not]
  | ok a => simpa using hok a rfl

theorem tells_of_raise {α : Type} {cause : ThemeCause} {name : Value}
    (h : (raise (.theme cause name) : Except Fault α) = .error e) :
    e.Tells (cause.isSpellable = true ∧ name.isSpellable = true) := by
  rw [raise_eq_error_iff] at h
  have hspells : (theme cause name).isSpellable = (cause.isSpellable && name.isSpellable) := rfl
  rw [← Bool.and_eq_true, ← hspells]
  cases hs : (theme cause name).isSpellable with
  | true =>
    rw [told_of_isSpellable hs] at h
    exact .inl ⟨⟨cause, name, h.symm⟩, rfl⟩
  | false =>
    rw [told_of_not_isSpellable hs] at h
    exact .inr ⟨h.symm, Bool.false_ne_true⟩

end Fault

/-! ## Names of colors -/

namespace Color

variable {c k : Color} {v : Value}

/-- A value that names the color: the color itself, or its name in any letters, between any blanks
and with hyphens for underscores. -/
inductive IsNamedBy (c : Color) : Value → Prop
  | itself : IsNamedBy c (.color c)
  | spelling {v : Value} (hv : ∀ k, v ≠ .color k) (hspells : v.isSpellable = true)
    (h : (Text.lower (Text.trim v.printed)).toList.map (fun x => if x = '-' then '_' else x) =
      c.token.toList) : IsNamedBy c v

theorem normalized_eq_iff {s t : String} : normalized s = t ↔
    (Text.lower (Text.trim s)).toList.map (fun x => if x = '-' then '_' else x) = t.toList := by
  rw [← String.toList_inj, normalized, underscored, String.toList_ofList]

theorem ofToken?_eq_some_iff {s : String} : ofToken? s = some c ↔ c.token = s := by
  constructor
  · intro h
    simpa using List.find?_some h
  · rintro rfl
    exact ofToken?_token c

theorem ofValue?_eq_ok_iff : ofValue? v = .ok c ↔ c.IsNamedBy v := by
  constructor
  · intro h
    unfold ofValue? at h
    split at h
    · cases h
      exact .itself
    · next hv =>
      obtain ⟨s, hs, h⟩ := bind_eq_ok.mp h
      obtain ⟨hspells, rfl⟩ := Value.spelled_eq_ok_iff.mp hs
      split at h
      · next hfound =>
        cases h
        exact .spelling hv hspells (normalized_eq_iff.mp (ofToken?_eq_some_iff.mp hfound).symm)
      · cases h
  · rintro (_ | ⟨hv, hspells, h⟩)
    · rfl
    · unfold ofValue?
      split
      · exact absurd rfl (hv _)
      · refine bind_eq_ok.mpr ⟨v.printed, Value.spelled_of_isSpellable hspells, ?_⟩
        rw [normalized_eq_iff.mpr h, ofToken?_token]

theorem IsNamedBy.isSpellable (h : c.IsNamedBy v) : v.isSpellable = true := by
  rcases h with _ | ⟨-, hspells, -⟩
  · rfl
  · exact hspells

theorem IsNamedBy.unique (hc : c.IsNamedBy v) (hk : k.IsNamedBy v) : c = k :=
  Except.ok.inj ((ofValue?_eq_ok_iff.mpr hc).symm.trans (ofValue?_eq_ok_iff.mpr hk))

theorem not_isNamedBy_of_ofValue? {e : Fault} (h : ofValue? v = .error e) (c : Color) :
    ¬ c.IsNamedBy v := by
  intro hc
  rw [ofValue?_eq_ok_iff.mpr hc] at h
  cases h

theorem tells_of_ofValue? {e : Fault} (h : ofValue? v = .error e) :
    e.Tells (v.isSpellable = true) := by
  unfold ofValue? at h
  split at h
  · cases h
  · rcases bind_eq_error.mp h with hs | ⟨s, hs, h⟩
    · obtain ⟨hspells, rfl⟩ := Value.spelled_eq_error_iff.mp hs
      exact .inr ⟨rfl, Bool.eq_false_iff.mp hspells⟩
    · split at h
      · cases h
      · cases h
        exact .inl ⟨⟨_, _, rfl⟩, (Value.spelled_eq_ok_iff.mp hs).1⟩

example : defaultTitle.IsNamedBy (.text " Default-Title ") := .spelling nofun rfl (by decide)

end Color

/-! ## Triples -/

namespace Value

inductive IsThree : Value → Value → Value → Value → Prop
  | list (x y z : Value) : IsThree (.list [x, y, z]) x y z
  | tuple (x y z : Value) : IsThree (.tuple [x, y, z]) x y z

/-- A whole number that a channel can have. A truth value is none. -/
def IsByte (v : Value) (n : Nat) : Prop :=
  n ≤ 255 ∧ ∃ w : Whole, v = w.toValue ∧ w.amount = n

/-- A sequence of three such numbers. -/
def IsTriple (v : Value) (bytes : Nat × Nat × Nat) : Prop :=
  ∃ x y z, v.IsThree x y z ∧ x.IsByte bytes.1 ∧ y.IsByte bytes.2.1 ∧ z.IsByte bytes.2.2

end Value

namespace Channel

theorem ofValue?_eq_some_iff {v : Value} {c : Channel} :
    ofValue? v = some c ↔ v = c.whole.toValue := by
  constructor
  · intro h
    unfold ofValue? at h
    split at h
    · cases h
    · next w hw =>
      split_ifs at h
      cases h
      cases v with
      | int | proficiency =>
        cases hw
        rfl
      | _ => cases hw
  · rintro rfl
    exact ofValue?_toValue c

theorem isByte_iff {v : Value} {n : Nat} :
    v.IsByte n ↔ ∃ c : Channel, v = c.whole.toValue ∧ c.byte = n := by
  constructor
  · rintro ⟨hle, w, rfl, hn⟩
    exact ⟨⟨w, by omega, by omega⟩, rfl, by rw [byte, hn, Int.toNat_natCast]⟩
  · rintro ⟨c, rfl, rfl⟩
    exact ⟨c.byte_le, c.whole, rfl, c.amount_eq_byte⟩

end Channel

namespace Rgb

def bytes (c : Rgb) : Nat × Nat × Nat :=
  (c.red.byte, c.green.byte, c.blue.byte)

def IsGivenBy (c : Rgb) (v : Value) : Prop :=
  triple? v = some (c.red.whole.toValue, c.green.whole.toValue, c.blue.whole.toValue)

theorem triple?_eq_some_iff {v x y z : Value} : triple? v = some (x, y, z) ↔ v.IsThree x y z := by
  constructor
  · intro h
    unfold triple? at h
    split at h
    · cases h
      exact .list x y z
    · cases h
      exact .tuple x y z
    · cases h
  · rintro (_ | _) <;> rfl

theorem isGivenBy_iff {c : Rgb} {v : Value} : c.IsGivenBy v ↔
    v.IsThree c.red.whole.toValue c.green.whole.toValue c.blue.whole.toValue :=
  triple?_eq_some_iff

theorem isTriple_iff {v : Value} {bytes : Nat × Nat × Nat} :
    v.IsTriple bytes ↔ ∃ c : Rgb, c.IsGivenBy v ∧ c.bytes = bytes := by
  constructor
  · rintro ⟨x, y, z, hv, hx, hy, hz⟩
    obtain ⟨red, rfl, hred⟩ := Channel.isByte_iff.mp hx
    obtain ⟨green, rfl, hgreen⟩ := Channel.isByte_iff.mp hy
    obtain ⟨blue, rfl, hblue⟩ := Channel.isByte_iff.mp hz
    exact ⟨⟨red, green, blue⟩, isGivenBy_iff.mpr hv, by rw [Rgb.bytes, hred, hgreen, hblue]⟩
  · rintro ⟨c, hc, rfl⟩
    exact ⟨_, _, _, isGivenBy_iff.mp hc, Channel.isByte_iff.mpr ⟨_, rfl, rfl⟩,
      Channel.isByte_iff.mpr ⟨_, rfl, rfl⟩, Channel.isByte_iff.mpr ⟨_, rfl, rfl⟩⟩

theorem check_eq_ok_iff {v name : Value} {token : Option Color} {c : Rgb} :
    check v token name = .ok c ↔ c.IsGivenBy v := by
  constructor
  · intro h
    unfold check at h
    split at h
    · exact absurd h Fault.raise_ne_ok
    · next r g b htriple =>
      split at h
      · next hr hg hb =>
        cases h
        rw [Channel.ofValue?_eq_some_iff] at hr hg hb
        rw [IsGivenBy, htriple, hr, hg, hb]
      · exact absurd h Fault.raise_ne_ok
  · intro htriple
    rw [IsGivenBy] at htriple
    simp only [check, htriple, Channel.ofValue?_toValue]

theorem not_isTriple_of_check {v name : Value} {token : Option Color} {e : Fault}
    (h : check v token name = .error e) (bytes : Nat × Nat × Nat) : ¬ v.IsTriple bytes := by
  intro hv
  obtain ⟨rgb, hrgb, -⟩ := isTriple_iff.mp hv
  rw [check_eq_ok_iff.mpr hrgb] at h
  cases h

theorem tells_of_check {v name : Value} {token : Option Color} {e : Fault}
    (h : check v token name = .error e) :
    e.Tells (v.isSpellable = true ∧ name.isSpellable = true) := by
  unfold check at h
  split at h
  · exact Fault.tells_of_raise h
  · split at h
    · cases h
    · exact Fault.tells_of_raise h

end Rgb

/-! ## Palettes -/

namespace PaletteEntries

variable {name : Value} {given : List (Value × Value)} {done entries : PaletteEntries}

/-- The row is what the entry says: a color by its name, and its value. -/
def IsRow (entry : Value × Value) (row : Color × Rgb) : Prop :=
  Color.ofValue? entry.1 = .ok row.1 ∧ row.2.IsGivenBy entry.2

theorem exists_isRow_iff {e : Value × Value} :
    (∃ row, IsRow e row) ↔ (∃ c : Color, c.IsNamedBy e.1) ∧ ∃ bytes, e.2.IsTriple bytes := by
  simp only [IsRow, Color.ofValue?_eq_ok_iff, Rgb.isTriple_iff, Prod.exists]
  constructor
  · rintro ⟨c, rgb, hc, hrgb⟩
    exact ⟨⟨c, hc⟩, _, _, _, rgb, hrgb, rfl⟩
  · rintro ⟨⟨c, hc⟩, _, _, _, rgb, hrgb, _⟩
    exact ⟨c, rgb, hc, hrgb⟩

theorem mem_rows_iff {rows : PaletteEntries} {c : Color} (h : List.Forall₂ IsRow given rows) :
    c ∈ rows.map Prod.fst ↔ ∃ e ∈ given, c.IsNamedBy e.1 := by
  induction h with
  | nil => simp
  | @cons e row given rows hrow _ ih =>
    have hname := Color.ofValue?_eq_ok_iff.mp hrow.1
    have hhead : c = row.1 ↔ c.IsNamedBy e.1 :=
      ⟨fun hc => hc ▸ hname, fun hc => hc.unique hname⟩
    rw [List.map_cons, List.mem_cons, ih, hhead, List.exists_mem_cons_iff]

theorem read_eq_ok_iff : read name given done = .ok entries ↔
    ∃ rows, List.Forall₂ IsRow given rows ∧ entries = rows.reverse ++ done := by
  induction given generalizing done with
  | nil =>
    simp only [read, List.forall₂_nil_left_iff, exists_eq_left, List.reverse_nil, List.nil_append,
      Except.ok.injEq]
    exact eq_comm
  | cons e given ih =>
    obtain ⟨n, v⟩ := e
    simp only [List.forall₂_cons_left_iff]
    constructor
    · intro h
      rw [read] at h
      split at h
      · cases h
      · next k hcolor =>
        split at h
        · cases h
        · next c hcheck =>
          obtain ⟨rows, hrows, rfl⟩ := ih.mp h
          have hrow : IsRow (n, v) (k, c) := ⟨hcolor, Rgb.check_eq_ok_iff.mp hcheck⟩
          exact ⟨(k, c) :: rows, ⟨(k, c), rows, hrow, hrows, rfl⟩, by simp⟩
    · rintro ⟨_, ⟨⟨k, c⟩, rows, ⟨hcolor, hrgb⟩, hrows, rfl⟩, rfl⟩
      simp only [read, hcolor, Rgb.check_eq_ok_iff.mpr hrgb]
      exact ih.mpr ⟨rows, hrows, by simp⟩

theorem missing_eq_nil_iff : missing entries = [] ↔ ∀ k, k ∈ entries.map Prod.fst := by
  have hnone (k : Color) : (find? k entries).isNone = false ↔ k ∈ entries.map Prod.fst := by
    rw [find?, Option.isNone_eq_false_iff, List.lookup_isSome_iff, List.mem_map]
    simp only [beq_iff_eq, eq_comm (a := k)]
  simp only [missing, List.filter_eq_nil_iff, Bool.not_eq_true, hnone]
  exact ⟨fun h k => h k (Color.mem_all k), fun h k _ => h k⟩

/-- The first entry that is wrong holds a number that cannot be spelled out: in its name, or behind
the name of a color. Then the name of the theme is spelled out too. -/
inductive IsMute (name : Value) : List (Value × Value) → Prop
  | name {n v : Value} {rest : List (Value × Value)} (hn : n.isSpellable = false) :
    IsMute name ((n, v) :: rest)
  | value {n v : Value} {rest : List (Value × Value)} (hn : ∃ c : Color, c.IsNamedBy n)
    (hv : ∀ bytes, ¬ v.IsTriple bytes)
    (hmute : ¬ (v.isSpellable = true ∧ name.isSpellable = true)) :
    IsMute name ((n, v) :: rest)
  | later {n v : Value} {rest : List (Value × Value)} (hn : ∃ c : Color, c.IsNamedBy n)
    (hv : ∃ bytes, v.IsTriple bytes) (h : IsMute name rest) : IsMute name ((n, v) :: rest)

theorem not_isMute_of_right (hnamed : ∀ e ∈ given, ∃ c : Color, c.IsNamedBy e.1)
    (htriple : ∀ e ∈ given, ∃ bytes, e.2.IsTriple bytes) : ¬ IsMute name given := by
  intro h
  induction h with
  | name hn =>
    obtain ⟨c, hc⟩ := hnamed _ List.mem_cons_self
    simp [hc.isSpellable] at hn
  | value hn hv =>
    obtain ⟨bytes, hbytes⟩ := htriple _ List.mem_cons_self
    exact hv bytes hbytes
  | later hn hv h ih =>
    exact ih (fun e he => hnamed e (List.mem_cons_of_mem _ he))
      fun e he => htriple e (List.mem_cons_of_mem _ he)

theorem tells_of_read {e : Fault} (h : read name given done = .error e) :
    e.Tells (¬ IsMute name given) := by
  induction given generalizing done with
  | nil => cases h
  | cons entry given ih =>
    obtain ⟨n, v⟩ := entry
    rw [read] at h
    split at h
    · next e' hcolor =>
      cases h
      have hnot := Color.not_isNamedBy_of_ofValue? hcolor
      refine (Color.tells_of_ofValue? hcolor).congr ⟨fun hn hmute => ?_, fun hmute => ?_⟩
      · cases hmute with
        | name hmute => exact absurd hn (by simp [hmute])
        | value hc => exact hc.elim hnot
        | later hc => exact hc.elim hnot
      · exact Bool.of_not_eq_false fun hn => hmute (.name hn)
    · next c hcolor =>
      have hnamed := Color.ofValue?_eq_ok_iff.mp hcolor
      have hspells := hnamed.isSpellable
      split at h
      · next e' hcheck =>
        cases h
        have hnot := Rgb.not_isTriple_of_check hcheck
        refine (Rgb.tells_of_check hcheck).congr ⟨fun hv hmute => ?_, fun hmute => ?_⟩
        · cases hmute with
          | name hmute => exact absurd hspells (by simp [hmute])
          | value hc hv' hmute => exact hmute hv
          | later hc hv' => exact hv'.elim hnot
        · exact not_not.mp fun hv => hmute (.value ⟨c, hnamed⟩ hnot hv)
      · next rgb hcheck =>
        have htriple := Rgb.isTriple_iff.mpr ⟨rgb, Rgb.check_eq_ok_iff.mp hcheck, rfl⟩
        refine (ih h).congr (not_congr ⟨fun hmute => .later ⟨c, hnamed⟩ ⟨_, htriple⟩ hmute, ?_⟩)
        rintro (hmute | ⟨-, hv, -⟩ | ⟨-, -, hmute⟩)
        · exact absurd hspells (by simp [hmute])
        · exact absurd htriple (hv _)
        · exact hmute

end PaletteEntries

namespace Palette

variable {name : Value} {given : List (Value × Value)} {e : Fault}

/-- The entries give every color a value. Where they name a color more than once each time has to be
right. -/
def IsGivenBy (given : List (Value × Value)) : Prop :=
  ∃ rows, List.Forall₂ PaletteEntries.IsRow given rows ∧ ∀ k, k ∈ rows.map Prod.fst

/-- Each entry is a name with a color, and no color is without an entry. -/
structure IsComplete (given : List (Value × Value)) : Prop where
  named : ∀ e ∈ given, ∃ c : Color, c.IsNamedBy e.1
  triple : ∀ e ∈ given, ∃ bytes, e.2.IsTriple bytes
  total : ∀ c : Color, ∃ e ∈ given, c.IsNamedBy e.1

theorem isComplete_iff : IsComplete given ↔ IsGivenBy given := by
  constructor
  · rintro ⟨hnamed, htriple, htotal⟩
    obtain ⟨rows, hrows⟩ := exists_forall₂_iff.mpr fun e he =>
      PaletteEntries.exists_isRow_iff.mpr ⟨hnamed e he, htriple e he⟩
    exact ⟨rows, hrows, fun c => (PaletteEntries.mem_rows_iff hrows).mpr (htotal c)⟩
  · rintro ⟨rows, hrows, hall⟩
    have hentry := fun e he =>
      PaletteEntries.exists_isRow_iff.mp (exists_forall₂_iff.mp ⟨rows, hrows⟩ e he)
    exact ⟨fun e he => (hentry e he).1, fun e he => (hentry e he).2,
      fun c => (PaletteEntries.mem_rows_iff hrows).mp (hall c)⟩

theorem exists_ofEntries_iff : (∃ p, ofEntries name given = .ok p) ↔ IsGivenBy given := by
  constructor
  · rintro ⟨p, h⟩
    unfold ofEntries at h
    split at h
    · cases h
    · next entries hread =>
      split_ifs at h with hnone
      · obtain ⟨rows, hrows, rfl⟩ := PaletteEntries.read_eq_ok_iff.mp hread
        refine ⟨rows, hrows, fun k => ?_⟩
        simpa using PaletteEntries.missing_eq_nil_iff.mp hnone k
      · exact absurd h Fault.raise_ne_ok
  · rintro ⟨rows, hrows, hall⟩
    have hread : PaletteEntries.read name given [] = .ok (rows.reverse ++ []) :=
      PaletteEntries.read_eq_ok_iff.mpr ⟨rows, hrows, rfl⟩
    have hnone : PaletteEntries.missing (rows.reverse ++ []) = [] :=
      PaletteEntries.missing_eq_nil_iff.mpr fun k => by simpa using hall k
    unfold ofEntries
    rw [hread]
    exact ⟨_, dif_pos hnone⟩

/-- What is wrong with the entries cannot be spelled out: the first that is wrong is mute, or they
are right but for a missing color, and the name of the theme is such a number. -/
inductive IsMute (name : Value) (given : List (Value × Value)) : Prop
  | entry (h : PaletteEntries.IsMute name given)
  | missing (hnamed : ∀ e ∈ given, ∃ c : Color, c.IsNamedBy e.1)
    (htriple : ∀ e ∈ given, ∃ bytes, e.2.IsTriple bytes)
    (hmissing : ∃ c : Color, ∀ e ∈ given, ¬ c.IsNamedBy e.1) (hname : name.isSpellable = false)

theorem IsComplete.not_isMute (h : IsComplete given) : ¬ IsMute name given := by
  rintro (hentry | ⟨-, -, ⟨c, hc⟩, -⟩)
  · exact PaletteEntries.not_isMute_of_right h.named h.triple hentry
  · obtain ⟨e, he, hnamed⟩ := h.total c
    exact hc e he hnamed

theorem tells_of_ofEntries (h : ofEntries name given = .error e) :
    e.Tells (¬ IsMute name given) := by
  unfold ofEntries at h
  split at h
  · next e' hread =>
    cases h
    refine (PaletteEntries.tells_of_read hread).congr (not_congr ⟨.entry, ?_⟩)
    rintro (hentry | ⟨hnamed, htriple, -, -⟩)
    · exact hentry
    · obtain ⟨rows, hrows⟩ := exists_forall₂_iff.mpr fun e he =>
        PaletteEntries.exists_isRow_iff.mpr ⟨hnamed e he, htriple e he⟩
      rw [PaletteEntries.read_eq_ok_iff.mpr ⟨rows, hrows, rfl⟩] at hread
      cases hread
  · next entries hread =>
    split_ifs at h with hnone
    obtain ⟨rows, hrows, rfl⟩ := PaletteEntries.read_eq_ok_iff.mp hread
    have hentry := fun e he =>
      PaletteEntries.exists_isRow_iff.mp (exists_forall₂_iff.mp ⟨rows, hrows⟩ e he)
    rw [PaletteEntries.missing_eq_nil_iff, not_forall] at hnone
    obtain ⟨c, hc⟩ := hnone
    have hmissing : ∀ e ∈ given, ¬ c.IsNamedBy e.1 := by
      intro e he hnamed
      have hmem := (PaletteEntries.mem_rows_iff hrows).mpr ⟨e, he, hnamed⟩
      exact hc (by simpa using hmem)
    refine (Fault.tells_of_raise h).congr ⟨fun hname hmute => ?_, fun hmute => ⟨rfl, ?_⟩⟩
    · rcases hmute with hmute | ⟨-, -, -, hmute⟩
      · exact PaletteEntries.not_isMute_of_right (fun e he => (hentry e he).1)
          (fun e he => (hentry e he).2) hmute
      · exact absurd hname.2 (by simp [hmute])
    · exact Bool.of_not_eq_false fun hname => hmute (.missing (fun e he => (hentry e he).1)
        (fun e he => (hentry e he).2) ⟨c, hmissing⟩ hname)

theorem ofEntries_eq_unspellable_iff :
    ofEntries name given = .error (.misuse .unspellable) ↔ IsMute name given :=
  Fault.eq_unspellable_iff_of_tells (fun _ => tells_of_ofEntries) fun p hp =>
    (isComplete_iff.mpr (exists_ofEntries_iff.mp ⟨p, hp⟩)).not_isMute

end Palette

namespace PaletteTheme

/-! ## Configurations of the wrong kind -/

/-- A configuration that is used as what it is not, and what it is mistaken for. -/
inductive IsMisshapen : Value → Misuse → Prop
  /-- Nothing can be looked for in a single value. -/
  | single {v : Value} (hv : v.elements? = none) : IsMisshapen v .notTheme
  /-- Items have no names, not even if one of them is the word itself. -/
  | list {items : List Value} (h : ∃ v ∈ items, Value.same (.text "palette") v = true) :
    IsMisshapen (.list items) .notTheme
  | tuple {items : List Value} (h : ∃ v ∈ items, Value.same (.text "palette") v = true) :
    IsMisshapen (.tuple items) .notTheme
  /-- The word occurs in a text as a part of it. -/
  | text {v : Value} {s : String} (hv : v.content? = some s)
    (h : "palette".toList <:+: s.toList) : IsMisshapen v .notTheme
  /-- A palette is there, but no mapping. -/
  | palette {entries : List (Value × Value)} {p : Value}
    (hp : Value.field? "palette" entries = some p) (hnull : p ≠ .null)
    (hmapping : ∀ colors, p ≠ .mapping colors) : IsMisshapen (.mapping entries) .notPalette

/-- A configuration that can be searched for a palette and has none. -/
inductive LacksPalette : Value → Prop
  | absent {entries : List (Value × Value)} (hp : Value.field? "palette" entries = none) :
    LacksPalette (.mapping entries)
  | null {entries : List (Value × Value)} (hp : Value.field? "palette" entries = some .null) :
    LacksPalette (.mapping entries)
  | list {items : List Value} (h : ¬ ∃ v ∈ items, Value.same (.text "palette") v = true) :
    LacksPalette (.list items)
  | tuple {items : List Value} (h : ¬ ∃ v ∈ items, Value.same (.text "palette") v = true) :
    LacksPalette (.tuple items)
  | text {v : Value} {s : String} (hv : v.content? = some s)
    (h : ¬ "palette".toList <:+: s.toList) : LacksPalette v

/-- What is wrong with the configuration cannot be spelled out. -/
inductive IsMute (name : Value) : Value → Prop
  | palette {entries colors : List (Value × Value)}
    (hp : Value.field? "palette" entries = some (.mapping colors))
    (hmute : Palette.IsMute name colors) : IsMute name (.mapping entries)
  | without {config : Value} (h : LacksPalette config) (hname : name.isSpellable = false) :
    IsMute name config

variable {name config : Value} {m : Misuse} {e : Fault}

theorem IsMisshapen.ofConfig_eq (h : IsMisshapen config m) (name : Value) :
    ofConfig name config = .error (.misuse m) := by
  cases h with
  | single hv =>
    cases config with
    | null | bool | int | float | proficiency | node | record => rfl
    | _ => cases hv
  | list h | tuple h => exact if_pos (List.any_eq_true.mpr h)
  | text hv h =>
    have hholds := Text.holds_iff.mpr h
    cases config with
    | text | trusted | color | degreeKind | horizontal | vertical | direction =>
      cases hv
      exact if_pos hholds
    | _ => cases hv
  | @palette entries p hp hnull hmapping =>
    simp only [ofConfig, hp]
    cases p with
    | null => exact absurd rfl hnull
    | mapping colors => exact absurd rfl (hmapping colors)
    | _ => rfl

theorem LacksPalette.ofConfig_eq (h : LacksPalette config) (name : Value) :
    ofConfig name config = Fault.raise (.theme .noPalette name) := by
  cases h with
  | absent hp | null hp => simp only [ofConfig, hp]
  | list h | tuple h => exact if_neg (mt List.any_eq_true.mp h)
  | text hv h =>
    have hholds := mt Text.holds_iff.mp h
    cases config with
    | text | trusted | color | degreeKind | horizontal | vertical | direction =>
      cases hv
      exact if_neg hholds
    | _ => cases hv

theorem ofConfig_palette {entries colors : List (Value × Value)}
    (hp : Value.field? "palette" entries = some (.mapping colors)) (name : Value) :
    ofConfig name (.mapping entries) =
      make name (.mapping colors) ((Value.field? "document_css" entries).getD .null) := by
  simp only [ofConfig, hp]

theorem isMisshapen_or_lacksPalette_or_palette (config : Value) :
    (∃ m, IsMisshapen config m) ∨ LacksPalette config ∨ ∃ entries colors,
      config = .mapping entries ∧ Value.field? "palette" entries = some (.mapping colors) := by
  cases config with
  | mapping entries =>
    cases hp : Value.field? "palette" entries with
    | none => exact .inr (.inl (.absent hp))
    | some p =>
      cases p with
      | null => exact .inr (.inl (.null hp))
      | mapping colors => exact .inr (.inr ⟨entries, colors, rfl, hp⟩)
      | _ => exact .inl ⟨_, .palette hp nofun nofun⟩
  | list items =>
    by_cases hword : ∃ v ∈ items, Value.same (.text "palette") v = true
    · exact .inl ⟨_, .list hword⟩
    · exact .inr (.inl (.list hword))
  | tuple items =>
    by_cases hword : ∃ v ∈ items, Value.same (.text "palette") v = true
    · exact .inl ⟨_, .tuple hword⟩
    · exact .inr (.inl (.tuple hword))
  | null | bool | int | float | proficiency | node | record => exact .inl ⟨_, .single rfl⟩
  | text s | trusted s =>
    by_cases hword : "palette".toList <:+: s.toList
    · exact .inl ⟨_, .text rfl hword⟩
    · exact .inr (.inl (.text rfl hword))
  | color x | degreeKind x | horizontal x | vertical x | direction x =>
    by_cases hword : "palette".toList <:+: x.token.toList
    · exact .inl ⟨_, .text rfl hword⟩
    · exact .inr (.inl (.text rfl hword))

theorem make_eq_ok_iff {css : Value} {given : List (Value × Value)} {t : PaletteTheme} :
    make name (.mapping given) css = .ok t ↔
      ∃ p, Palette.ofEntries name given = .ok p ∧ t = ⟨name, p, css⟩ := by
  unfold make Palette.ofValue
  dsimp only
  split
  · next hp => simp [hp]
  · next p hp => simp [hp, eq_comm]

theorem make_eq_error_iff {css : Value} {given : List (Value × Value)} :
    make name (.mapping given) css = .error e ↔ Palette.ofEntries name given = .error e := by
  unfold make Palette.ofValue
  dsimp only
  split
  · next hp => simp [hp]
  · next p hp => simp [hp]

theorem lacksPalette_ne {entries : List (Value × Value)} {p : Value}
    (h : LacksPalette (.mapping entries)) (hp : Value.field? "palette" entries = some p) :
    p = .null := by
  cases h with
  | absent hnone => cases hnone.symm.trans hp
  | null hnull =>
    cases hnull.symm.trans hp
    rfl
  | text hv => cases hv

/-- What goes wrong with a configuration of the right kind is told as a fault of the theme, if it
can be spelled out. -/
theorem tells_of_ofConfig (hkind : ∀ m, ¬ IsMisshapen config m)
    (h : ofConfig name config = .error e) : e.Tells (¬ IsMute name config) := by
  obtain ⟨m, hbad⟩ | hlacks | ⟨entries, colors, rfl, hp⟩ :=
    isMisshapen_or_lacksPalette_or_palette config
  · exact absurd hbad (hkind m)
  · rw [hlacks.ofConfig_eq] at h
    refine (Fault.tells_of_raise h).congr ⟨fun hname hmute => ?_, fun hmute => ⟨rfl, ?_⟩⟩
    · rcases hmute with ⟨hp, -⟩ | ⟨-, hmute⟩
      · cases lacksPalette_ne hlacks hp
      · exact absurd hname.2 (by simp [hmute])
    · exact Bool.of_not_eq_false fun hname => hmute (.without hlacks hname)
  · rw [ofConfig_palette hp, make_eq_error_iff] at h
    refine (Palette.tells_of_ofEntries h).congr (not_congr ⟨.palette hp, ?_⟩)
    rintro (⟨hp', hmute⟩ | ⟨hlacks, -⟩)
    · cases hp.symm.trans hp'
      exact hmute
    · cases lacksPalette_ne hlacks hp

/-- The configuration has a palette, and the palette is complete. -/
inductive IsWellFormed : Value → Prop
  | palette {entries colors : List (Value × Value)}
    (hp : Value.field? "palette" entries = some (.mapping colors))
    (hcolors : Palette.IsGivenBy colors) : IsWellFormed (.mapping entries)

theorem exists_ofConfig_iff : (∃ t, ofConfig name config = .ok t) ↔ IsWellFormed config := by
  constructor
  · rintro ⟨t, h⟩
    obtain ⟨m, hbad⟩ | hlacks | ⟨entries, colors, rfl, hp⟩ :=
      isMisshapen_or_lacksPalette_or_palette config
    · rw [hbad.ofConfig_eq] at h
      cases h
    · rw [hlacks.ofConfig_eq] at h
      exact absurd h Fault.raise_ne_ok
    · rw [ofConfig_palette hp, make_eq_ok_iff] at h
      obtain ⟨palette, hpalette, -⟩ := h
      exact .palette hp (Palette.exists_ofEntries_iff.mp ⟨_, hpalette⟩)
  · rintro ⟨hp, hcolors⟩
    obtain ⟨palette, hpalette⟩ := Palette.exists_ofEntries_iff.mpr hcolors
    exact ⟨_, (ofConfig_palette hp name).trans (make_eq_ok_iff.mpr ⟨palette, hpalette, rfl⟩)⟩

theorem not_isMute_of_ofConfig {t : PaletteTheme} (h : ofConfig name config = .ok t) :
    ¬ IsMute name config := by
  obtain ⟨hp, hcolors⟩ := exists_ofConfig_iff.mp ⟨t, h⟩
  rintro (⟨hp', hmute⟩ | ⟨hlacks, -⟩)
  · cases hp.symm.trans hp'
    exact (Palette.isComplete_iff.mpr hcolors).not_isMute hmute
  · cases lacksPalette_ne hlacks hp

theorem IsMute.not_isMisshapen (h : IsMute name config) : ¬ IsMisshapen config m := by
  intro hbad
  rcases h with ⟨hp, -⟩ | ⟨hlacks, -⟩
  · rcases hbad with hv | - | - | ⟨hv, -⟩ | ⟨hp', -, hmapping⟩
    · cases hv
    · cases hv
    · cases hp.symm.trans hp'
      exact hmapping _ rfl
  · have hsame := hbad.ofConfig_eq .null
    rw [hlacks.ofConfig_eq] at hsame
    cases hsame

/-- Loading breaks off at a configuration of the wrong kind, and where what is wrong cannot be
spelled out. -/
theorem ofConfig_eq_misuse_iff : ofConfig name config = .error (.misuse m) ↔
    IsMisshapen config m ∨ m = .unspellable ∧ IsMute name config := by
  by_cases hkind : ∀ m, ¬ IsMisshapen config m
  · have hmute : ofConfig name config = .error (.misuse .unspellable) ↔ IsMute name config :=
      Fault.eq_unspellable_iff_of_tells (fun _ => tells_of_ofConfig hkind)
        fun _ => not_isMute_of_ofConfig
    rw [← hmute, or_iff_right (hkind m)]
    constructor
    · intro h
      obtain ⟨⟨_, _, he⟩, -⟩ | ⟨he, -⟩ := tells_of_ofConfig hkind h
      · cases he
      · cases he
        exact ⟨rfl, h⟩
    · rintro ⟨rfl, h⟩
      exact h
  · obtain ⟨m', hbad⟩ := not_forall_not.mp hkind
    rw [or_iff_left fun hmute => hmute.2.not_isMisshapen hbad]
    constructor
    · intro h
      rw [hbad.ofConfig_eq] at h
      cases h
      exact hbad
    · intro h
      exact h.ofConfig_eq name

def IsUsable (t : PaletteTheme) : Prop :=
  ∀ k : Color, ∃ hex, t.toTheme.hex (.color k) = .ok hex

/-- The outcome is a theme with all its colors, or a fault that says what is wrong with it. -/
inductive IsSettled : Except Fault PaletteTheme → Prop
  | usable {t : PaletteTheme} (h : t.IsUsable) : IsSettled (.ok t)
  | refused {e : Fault} (h : e.IsThemed) : IsSettled (.error e)

theorem isSettled_ofConfig_iff : IsSettled (ofConfig name config) ↔
    (∀ m, ¬ IsMisshapen config m) ∧ ¬ IsMute name config := by
  have not_settled : ∀ m, ofConfig name config = .error (.misuse m) →
      ¬ IsSettled (ofConfig name config) := by
    rintro m hm h
    rw [hm] at h
    obtain - | ⟨_, _, he⟩ := h
    cases he
  constructor
  · intro h
    have hkind : ∀ m, ¬ IsMisshapen config m := fun m hbad =>
      not_settled m (hbad.ofConfig_eq name) h
    exact ⟨hkind, fun hmute =>
      not_settled _ (ofConfig_eq_misuse_iff.mpr (.inr ⟨rfl, hmute⟩)) h⟩
  · rintro ⟨hkind, hmute⟩
    cases hconfig : ofConfig name config with
    | ok t => exact .usable fun k => ⟨_, t.hex_color k⟩
    | error e => exact .refused ((tells_of_ofConfig hkind hconfig).isThemed hmute)

end PaletteTheme

end ResumePress
