import ResumePress.Proofs.Steps
import ResumePress.Resume.Reading

/-!
# Fields of a configuration

What the fields of a mapping give: words, years, items, and the names of levels and of kinds of
degrees. Each reader of a field has a result in the cases stated here and in no other.

What becomes a text has to be spelled out. Which values can be is left open here (`spells`): the
reader spells out those that are spellable, and the grammar that resumes are meant to have takes it
that every value is.
-/
namespace ResumePress

theorem Value.whole?_eq_some_iff {v : Value} {w : Whole} : v.whole? = some w ↔ v = w.toValue := by
  constructor
  · intro h
    cases v <;> cases h <;> rfl
  · rintro rfl
    exact whole?_toValue w

/-! ## Fields -/

namespace ConfigEntries

def Has (entries : ConfigEntries) (field : String) : Prop :=
  entries.optional field ≠ .null

/-- The field is there and can be put into words. -/
def HasWords (spells : Value → Bool) (entries : ConfigEntries) (field : String) : Prop :=
  entries.Has field ∧ spells (entries.optional field) = true

/-- The words that a field gives, which has to be there. -/
def Words (spells : Value → Bool) (entries : ConfigEntries) (field : String) (v : Value) : Prop :=
  entries.HasWords spells field ∧ v = .text (entries.optional field).printed

/-- The field can be put into words, unless it counts as false. -/
def MayHaveWords (spells : Value → Bool) (entries : ConfigEntries) (field : String) : Prop :=
  (entries.optional field).truthy = true → spells (entries.optional field) = true

/-- The words that a field gives, or none. -/
def OptionalWords (spells : Value → Bool) (entries : ConfigEntries) (field : String) (v : Value) :
    Prop :=
  entries.MayHaveWords spells field ∧
    v = .text (if (entries.optional field).truthy then (entries.optional field).printed else "")

/-- There are two years, whole numbers that are not negative and stand in order. -/
def HasYears (entries : ConfigEntries) : Prop :=
  ∃ start finish : Whole, entries.optional "start_year" = start.toValue ∧
    entries.optional "end_year" = finish.toValue ∧ 0 ≤ start.amount ∧ start.amount ≤ finish.amount

/-- The years that the entries give. -/
structure Spans (entries : ConfigEntries) (y : Years) : Prop where
  start : entries.optional "start_year" = y.start.toValue
  finish : entries.optional "end_year" = y.finish.toValue

variable {entries : ConfigEntries} {field : String} {part : Part} {v : Value}

theorem required_eq_ok_iff :
    entries.required field part = .ok v ↔ entries.Has field ∧ v = entries.optional field := by
  unfold required Has
  split
  · next hnull => simp [hnull]
  · next hnull =>
    constructor
    · intro h
      cases h
      exact ⟨hnull, rfl⟩
    · rintro ⟨-, rfl⟩
      rfl

theorem requiredText_eq_ok_iff :
    entries.requiredText field part = .ok v ↔ entries.Words Value.isSpellable field v := by
  unfold requiredText
  constructor
  · intro h
    obtain ⟨w, hw, h⟩ := bind_eq_ok.mp h
    obtain ⟨s, hs, h⟩ := bind_eq_ok.mp h
    obtain ⟨hhas, rfl⟩ := required_eq_ok_iff.mp hw
    obtain ⟨hspells, rfl⟩ := Value.spelled_eq_ok_iff.mp hs
    cases h
    exact ⟨⟨hhas, hspells⟩, rfl⟩
  · rintro ⟨⟨hhas, hspells⟩, rfl⟩
    exact bind_eq_ok.mpr ⟨_, required_eq_ok_iff.mpr ⟨hhas, rfl⟩,
      bind_eq_ok.mpr ⟨_, Value.spelled_of_isSpellable hspells, rfl⟩⟩

theorem optionalText_eq_ok_iff :
    entries.optionalText field = .ok v ↔ entries.OptionalWords Value.isSpellable field v := by
  unfold optionalText OptionalWords MayHaveWords
  generalize entries.optional field = w
  cases htruthy : w.truthy
  · simp [htruthy, eq_comm (a := v)]
  · cases hspells : w.isSpellable
    · simp [htruthy, Value.spelled_of_not_isSpellable hspells, Except.map]
    · simp [htruthy, Value.spelled_of_isSpellable hspells, Except.map, eq_comm (a := v)]

theorem words_text {s : String} (h : entries.optional field = .text s) :
    entries.Words Value.isSpellable field (.text s) := by
  simp [Words, HasWords, Has, h]

theorem optionalWords_text {s : String} (h : entries.optional field = .text s) :
    entries.OptionalWords Value.isSpellable field (.text s) := by
  by_cases hs : s = "" <;> simp [OptionalWords, MayHaveWords, h, Value.truthy, hs]

theorem optionalWords_null (h : entries.optional field = .null) :
    entries.OptionalWords Value.isSpellable field (.text "") := by
  simp [OptionalWords, MayHaveWords, h, Value.truthy]

theorem requiredYear_eq_ok_iff : entries.requiredYear field part = .ok v ↔
    v = entries.optional field ∧ ∃ w : Whole, v = w.toValue := by
  unfold requiredYear
  constructor
  · intro h
    cases hr : entries.required field part with
    | error e => simp [hr] at h
    | ok a =>
      obtain ⟨-, rfl⟩ := required_eq_ok_iff.mp hr
      rw [hr] at h
      dsimp only at h
      split at h
      · next hw =>
        cases h
        obtain ⟨w, hw⟩ := Option.isSome_iff_exists.mp hw
        exact ⟨rfl, w, Value.whole?_eq_some_iff.mp hw⟩
      · cases h
  · rintro ⟨rfl, w, hw⟩
    have hhas : entries.Has field := by
      intro hnull
      rw [hnull] at hw
      cases w <;> cases hw
    rw [required_eq_ok_iff.mpr ⟨hhas, rfl⟩]
    simp [hw]

/-- A list that may be left out, with what each of its items says in its place. -/
inductive ItemsReadAs {α : Type} (R : Value → α → Prop) : Value → List α → Prop
  | nothing : ItemsReadAs R .null []
  | list {items : List Value} {as : List α} (h : List.Forall₂ R items as) :
    ItemsReadAs R (.list items) as

/-- A list of things of one kind that may be left out. -/
inductive AreItems (P : Value → Prop) : Value → Prop
  | nothing : AreItems P .null
  | list {items : List Value} (h : ∀ v ∈ items, P v) : AreItems P (.list items)

theorem exists_items_iff {α : Type} {f : Value → Except Fault α} {R : Value → α → Prop}
    (hf : ∀ {v a}, f v = .ok a ↔ R v a) {as : List α} :
    (∃ vs, entries.items field = .ok vs ∧ vs.mapM f = .ok as) ↔
      ItemsReadAs R (entries.optional field) as := by
  have hmap : ∀ vs : List Value, vs.mapM f = .ok as ↔ List.Forall₂ R vs as := by
    intro vs
    simp only [mapM_eq_ok_iff, hf]
  unfold items
  split
  · next hnull =>
    rw [hnull]
    constructor
    · rintro ⟨vs, hvs, has⟩
      cases hvs
      cases (hmap []).mp has
      exact .nothing
    · rintro ⟨⟩
      exact ⟨[], rfl, rfl⟩
  · next vs hlist =>
    rw [hlist]
    constructor
    · rintro ⟨vs, hvs, has⟩
      cases hvs
      exact .list ((hmap _).mp has)
    · rintro (_ | h)
      exact ⟨vs, rfl, (hmap vs).mpr h⟩
  · next hnull hlist =>
    constructor
    · rintro ⟨vs, hvs, -⟩
      cases hvs
    · intro h
      generalize entries.optional field = v at h hnull hlist
      cases h with
      | nothing => exact absurd rfl hnull
      | list => exact absurd rfl (hlist _)

theorem exists_itemsReadAs_iff {α : Type} {R : Value → α → Prop} {P : Value → Prop}
    (h : ∀ {v}, (∃ a, R v a) ↔ P v) {v : Value} : (∃ as, ItemsReadAs R v as) ↔ AreItems P v := by
  constructor
  · rintro ⟨as, _ | has⟩
    · exact .nothing
    · refine .list fun item hitem => h.mp ?_
      exact exists_forall₂_iff.mp ⟨as, has⟩ item hitem
  · rintro (_ | hitems)
    · exact ⟨_, .nothing⟩
    · obtain ⟨as, has⟩ := exists_forall₂_iff.mpr fun item hitem => h.mpr (hitems item hitem)
      exact ⟨as, .list has⟩

def named (fields : List (String × Value)) : ConfigEntries :=
  fields.map fun f => (.text f.1, f.2)

@[simp] theorem optional_named (fields : List (String × Value)) (name : String) :
    (named fields).optional name = (fields.lookup name).getD .null := by
  unfold optional Value.field?
  congr 1
  induction fields with
  | nil => rfl
  | cons f fields ih =>
    have hsame : (Value.text name).same (.text f.1) = (name == f.1) := by
      simp [Value.same, Value.sameAtom, Value.content?]
    rw [named, List.map_cons, Value.find?, hsame, List.lookup_cons]
    split
    · next h => rw [h]
    · next h =>
      rw [Bool.not_eq_true] at h
      rw [h]
      exact ih

end ConfigEntries

/-! ## Vocabularies -/

namespace Proficiency

theorem ofOrdinal?_eq_some_iff {n : Int} {p : Proficiency} :
    ofOrdinal? n = Option.some p ↔ (p.ordinal : Int) = n := by
  constructor
  · intro h
    simpa using List.find?_some h
  · rintro rfl
    cases p <;> decide

theorem ofCapitals?_eq_some_iff {s : String} {p : Proficiency} :
    ofCapitals? s = Option.some p ↔ Text.upper p.token = s := by
  constructor
  · intro h
    simpa using List.find?_some h
  · rintro rfl
    cases p <;> decide

/-- A value that stands for a level: the level itself, its ordinal, or its name in any letters and
between any blanks. -/
inductive IsNamedBy (spells : Value → Bool) (p : Proficiency) : Value → Prop
  | itself : IsNamedBy spells p (.proficiency p)
  | ordinal : IsNamedBy spells p (.int p.ordinal)
  | name {v : Value} (hw : v.whole? = Option.none) (hspells : spells v = true)
    (h : Text.upper (Text.trim v.printed) = Text.upper p.token) : IsNamedBy spells p v

theorem ofValue_eq_ok_iff {v : Value} {p : Proficiency} :
    ofValue v = .ok p ↔ p.IsNamedBy Value.isSpellable v := by
  unfold ofValue
  constructor
  · intro h
    dsimp only at h
    split at h
    · next hfound =>
      cases h
      split at hfound
      · cases hfound
        exact .itself
      · rw [← ofOrdinal?_eq_some_iff.mp hfound]
        exact .ordinal
      · next hlevel hint =>
        have hwhole : v.whole? = Option.none := by
          cases v <;> first | rfl | exact (hlevel _ rfl).elim | exact (hint _ rfl).elim
        obtain ⟨s, hs, hname⟩ := Option.bind_eq_some_iff.mp hfound
        obtain ⟨hspells, rfl⟩ := Value.spelled_eq_ok_iff.mp (toOption_eq_some_iff.mp hs)
        exact .name hwhole hspells (ofCapitals?_eq_some_iff.mp hname).symm
    · cases h
  · intro h
    cases h with
    | itself => rfl
    | ordinal =>
      dsimp only
      rw [ofOrdinal?_eq_some_iff.mpr rfl]
    | name hw hspells h =>
      have hname : (v.spelled.toOption.bind fun s => ofCapitals? (Text.upper (Text.trim s))) =
          Option.some p := by
        rw [Value.toOption_spelled_of_isSpellable hspells, Option.bind_some]
        exact ofCapitals?_eq_some_iff.mpr h.symm
      cases v <;> first | cases hw; done | (dsimp only; rw [hname])

/-- A value that stands for some level, or for none: nothing, a level, a whole number up to four, or
the name of a level. -/
def IsConfig (spells : Value → Bool) (v : Value) : Prop :=
  v = .null ∨ (∃ p, v = .proficiency p) ∨ (∃ n, v = .int n ∧ 0 ≤ n ∧ n ≤ 4) ∨
    (v.whole? = Option.none ∧ spells v = true ∧
      Text.upper (Text.trim v.printed) ∈ ["NONE", "BARELY", "SOME", "STRONG", "EXPERT"])

theorem exists_upper_token_iff {s : String} :
    (∃ p : Proficiency, s = Text.upper p.token) ↔
      s ∈ ["NONE", "BARELY", "SOME", "STRONG", "EXPERT"] := by
  have hnames : all.map (fun p => Text.upper p.token) =
      ["NONE", "BARELY", "SOME", "STRONG", "EXPERT"] := by decide
  rw [← hnames, List.mem_map]
  constructor
  · rintro ⟨p, rfl⟩
    exact ⟨p, by cases p <;> decide, rfl⟩
  · rintro ⟨p, -, rfl⟩
    exact ⟨p, rfl⟩

theorem exists_ordinal_iff {n : Int} :
    (∃ p : Proficiency, (p.ordinal : Int) = n) ↔ 0 ≤ n ∧ n ≤ 4 := by
  constructor
  · rintro ⟨p, rfl⟩
    cases p <;> decide
  · rintro ⟨hlow, hhigh⟩
    have hn : n = 0 ∨ n = 1 ∨ n = 2 ∨ n = 3 ∨ n = 4 := by omega
    rcases hn with rfl | rfl | rfl | rfl | rfl
    · exact ⟨none, rfl⟩
    · exact ⟨barely, rfl⟩
    · exact ⟨some, rfl⟩
    · exact ⟨strong, rfl⟩
    · exact ⟨expert, rfl⟩

/-- A level that may be left out. -/
inductive ReadsAs (spells : Value → Bool) : Value → Option Proficiency → Prop
  | nothing : ReadsAs spells .null Option.none
  | level {v : Value} {p : Proficiency} (hv : v ≠ .null) (h : p.IsNamedBy spells v) :
    ReadsAs spells v (Option.some p)

theorem exists_readsAs_iff {spells : Value → Bool} {v : Value} :
    (∃ level, ReadsAs spells v level) ↔ IsConfig spells v := by
  constructor
  · rintro ⟨level, _ | ⟨-, h⟩⟩
    · exact .inl rfl
    · cases h with
      | itself => exact .inr (.inl ⟨_, rfl⟩)
      | ordinal => exact .inr (.inr (.inl ⟨_, rfl, exists_ordinal_iff.mp ⟨_, rfl⟩⟩))
      | name hw hspells h =>
        exact .inr (.inr (.inr ⟨hw, hspells, exists_upper_token_iff.mp ⟨_, h⟩⟩))
  · rintro (rfl | ⟨p, rfl⟩ | ⟨n, rfl, hn⟩ | ⟨hw, hspells, hname⟩)
    · exact ⟨_, .nothing⟩
    · exact ⟨_, .level (by simp) .itself⟩
    · obtain ⟨p, rfl⟩ := exists_ordinal_iff.mpr hn
      exact ⟨_, .level (by simp) .ordinal⟩
    · by_cases hv : v = .null
      · exact ⟨Option.none, hv ▸ ReadsAs.nothing⟩
      · obtain ⟨p, hp⟩ := exists_upper_token_iff.mpr hname
        exact ⟨_, .level hv (.name hw hspells hp)⟩

end Proficiency

namespace DegreeKind

theorem ofToken?_eq_some_iff {s : String} {k : DegreeKind} : ofToken? s = some k ↔ k.token = s := by
  constructor
  · intro h
    simpa using List.find?_some h
  · rintro rfl
    exact ofToken?_token k

/-- The value is the name of a kind in any letters and between any blanks. -/
def IsNamedBy (spells : Value → Bool) (k : DegreeKind) (v : Value) : Prop :=
  spells v = true ∧ Text.lower (Text.trim v.printed) = k.token

theorem ofValue_eq_ok_iff {v : Value} {k : DegreeKind} :
    ofValue v = .ok k ↔ k.IsNamedBy Value.isSpellable v := by
  unfold ofValue IsNamedBy
  rw [eq_comm (b := k.token), ← ofToken?_eq_some_iff]
  cases hspells : v.isSpellable with
  | false => simp [Value.spelled_of_not_isSpellable hspells, Except.toOption]
  | true =>
    rw [Value.spelled_of_isSpellable hspells]
    cases h : ofToken? (Text.lower (Text.trim v.printed)) <;> simp [Except.toOption, h]

end DegreeKind

/-! ## Years -/

namespace Years

variable {start finish entry : Value}

theorem year_eq_ok_iff {v : Value} {w : { w : Whole // 0 ≤ w.amount }} :
    year v entry = .ok w ↔ v = w.1.toValue := by
  rw [← Value.whole?_eq_some_iff]
  unfold year
  constructor
  · intro h
    split at h
    · cases h
    · next hw =>
      split at h
      · cases h
        exact hw
      · cases h
  · intro h
    rw [h]
    exact dif_pos w.2

theorem ofValues_eq_ok_iff {y : Years} : ofValues start finish entry = .ok y ↔
    start = y.start.toValue ∧ finish = y.finish.toValue := by
  unfold ofValues
  constructor
  · intro h
    split at h
    · cases h
    · next s hs =>
      split at h
      · cases h
      · next f hf =>
        split at h
        · cases h
          exact ⟨year_eq_ok_iff.mp hs, year_eq_ok_iff.mp hf⟩
        · cases h
  · rintro ⟨hs, hf⟩
    have hfirst : year start entry = .ok (⟨y.start, y.nonneg⟩ : { w : Whole // 0 ≤ w.amount }) :=
      year_eq_ok_iff.mpr hs
    have hlast : year finish entry =
        .ok (⟨y.finish, Int.le_trans y.nonneg y.ordered⟩ : { w : Whole // 0 ≤ w.amount }) :=
      year_eq_ok_iff.mpr hf
    rw [hfirst, hlast]
    exact dif_pos y.ordered

end Years

namespace ConfigEntries

variable {entries : ConfigEntries}

theorem exists_spans_iff : (∃ y, entries.Spans y) ↔ entries.HasYears := by
  constructor
  · rintro ⟨y, hstart, hfinish⟩
    exact ⟨y.start, y.finish, hstart, hfinish, y.nonneg, y.ordered⟩
  · rintro ⟨start, finish, hstart, hfinish, hnonneg, hordered⟩
    exact ⟨⟨start, finish, hnonneg, hordered⟩, hstart, hfinish⟩

/-- Years that are read one after the other are those that the entries give. -/
theorem spans_iff {part : Part} {start finish entry : Value} {y : Years} :
    entries.requiredYear "start_year" part = .ok start ∧
      entries.requiredYear "end_year" part = .ok finish ∧
        Years.ofValues start finish entry = .ok y ↔
    entries.Spans y ∧ start = y.start.toValue ∧ finish = y.finish.toValue := by
  simp only [requiredYear_eq_ok_iff, Years.ofValues_eq_ok_iff]
  constructor
  · rintro ⟨⟨hs, -⟩, ⟨hf, -⟩, rfl, rfl⟩
    exact ⟨⟨hs.symm, hf.symm⟩, rfl, rfl⟩
  · rintro ⟨⟨hs, hf⟩, rfl, rfl⟩
    exact ⟨⟨hs.symm, _, rfl⟩, ⟨hf.symm, _, rfl⟩, rfl, rfl⟩

end ConfigEntries

end ResumePress
