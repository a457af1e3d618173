import ResumePress.Proofs.Resume.Fields
import ResumePress.Publish

/-!
# How reading a resume can fail

A reader of a resume whose numbers can all be spelled out either returns what it reads or says what
is wrong with the resume. There is one exception: contact fields that nobody knows are sorted before
they are reported, and keys of several kinds have no order.
-/
namespace ResumePress

/-- A fault that tells what is wrong with a resume: in its shape, or in what an entry means. -/
def Fault.IsOfResume : Fault → Prop
  | entry _ => True
  | shape _ => True
  | _ => False

theorem Fault.IsOfResume.reported? {e : Fault} (h : e.IsOfResume) : e.reported?.isSome = true := by
  cases e <;> first | rfl | exact h.elim

/-- There is a result, or a fault of the given kind. -/
def FailsIn (P : Fault → Prop) {α : Type} (x : Except Fault α) : Prop :=
  ∀ e, x = .error e → P e

/-- What is spelled out can be, or it is a fault of the given kind that it cannot. -/
def Covers (P : Fault → Prop) (spellable : Bool) : Prop :=
  P (.misuse .unspellable) ∨ spellable = true

/-- All faults that tell what is wrong with a resume are of the given kind. -/
def CoversResumes (P : Fault → Prop) : Prop :=
  ∀ e : Fault, e.IsOfResume → P e

theorem Covers.mono {P : Fault → Prop} {a b : Bool} (h : Covers P a)
    (hab : a = true → b = true) : Covers P b :=
  h.imp_right hab

variable {P : Fault → Prop}

namespace FailsIn

variable {α β : Type} {x : Except Fault α}

theorem ok (a : α) : FailsIn P (.ok a : Except Fault α) := by
  intro e h
  cases h

theorem error {e : Fault} (h : P e) : FailsIn P (.error e : Except Fault α) := by
  intro e' he
  cases he
  exact h

theorem raise (hP : CoversResumes P) {e : Fault} (h : e.IsOfResume)
    (hs : Covers P e.isSpellable) : FailsIn P (Fault.raise e : Except Fault α) := by
  refine error ?_
  cases hspells : e.isSpellable with
  | true =>
    rw [Fault.told_of_isSpellable hspells]
    exact hP e h
  | false =>
    rw [Fault.told_of_not_isSpellable hspells]
    simpa [Covers, hspells] using hs

theorem bind {f : α → Except Fault β} (hx : FailsIn P x)
    (hf : ∀ a, x = .ok a → FailsIn P (f a)) : FailsIn P (x >>= f) := by
  cases x with
  | error e => exact error (hx e rfl)
  | ok a => exact hf a rfl

theorem map (f : α → β) (hx : FailsIn P x) : FailsIn P (x.map f) := by
  cases x with
  | error e => exact error (hx e rfl)
  | ok a => exact ok (f a)

theorem mapM {f : α → Except Fault β} {as : List α} (hf : ∀ a ∈ as, FailsIn P (f a)) :
    FailsIn P (as.mapM f) := by
  induction as with
  | nil => exact ok []
  | cons a as ih =>
    rw [List.forall_mem_cons] at hf
    rw [List.mapM_cons]
    exact hf.1.bind fun b _ => (ih hf.2).bind fun bs _ => ok (b :: bs)

end FailsIn

theorem Value.spelled_failsIn {v : Value} (h : Covers P v.isSpellable) : FailsIn P v.spelled := by
  intro e he
  obtain ⟨hs, rfl⟩ := spelled_eq_error_iff.mp he
  simpa [Covers, hs] using h

/-! ## Fields -/

theorem Value.isSpellable_of_find? {key v : Value} {entries : List (Value × Value)}
    (h : Value.find? key entries = some v) (hs : entriesSpellable entries = true) :
    v.isSpellable = true := by
  induction entries with
  | nil => cases h
  | cons e entries ih =>
    obtain ⟨k, w⟩ := e
    rw [entriesSpellable, Bool.and_eq_true, Bool.and_eq_true] at hs
    rw [find?] at h
    split at h
    · cases h
      exact hs.1.2
    · exact ih h hs.2

namespace ConfigEntries

variable {entries : ConfigEntries} {field : String} {part : Part} {v : Value}

theorem isSpellable_optional (field : String) (hs : entriesSpellable entries = true) :
    (entries.optional field).isSpellable = true := by
  unfold optional
  cases h : Value.field? field entries with
  | none => rfl
  | some v => exact Value.isSpellable_of_find? h hs

theorem isSpellable_of_required (h : entries.required field part = .ok v)
    (hs : entriesSpellable entries = true) : v.isSpellable = true := by
  rw [(required_eq_ok_iff.mp h).2]
  exact isSpellable_optional field hs

theorem isSpellable_of_requiredText (h : entries.requiredText field part = .ok v) :
    v.isSpellable = true := by
  rw [(requiredText_eq_ok_iff.mp h).2]
  rfl

theorem isSpellable_of_requiredYear (h : entries.requiredYear field part = .ok v)
    (hs : entriesSpellable entries = true) : v.isSpellable = true := by
  rw [(requiredYear_eq_ok_iff.mp h).1]
  exact isSpellable_optional field hs

theorem isSpellable_of_items {vs : List Value} (h : entries.items field = .ok vs)
    (hv : v ∈ vs) (hs : entriesSpellable entries = true) : v.isSpellable = true := by
  have hfield := isSpellable_optional field hs
  unfold items at h
  split at h
  · cases h
    simp at hv
  · next hlist =>
    cases h
    rw [hlist] at hfield
    exact allSpellable_iff.mp hfield v hv
  · cases h

variable (hP : CoversResumes P) (hs : Covers P (entriesSpellable entries))
include hP

theorem required_failsIn (entries : ConfigEntries) (field : String) (part : Part) :
    FailsIn P (entries.required field part) := by
  unfold required
  split
  · exact .error (hP _ trivial)
  · exact .ok _

theorem items_failsIn (entries : ConfigEntries) (field : String) :
    FailsIn P (entries.items field) := by
  unfold items
  split
  · exact .ok []
  · exact .ok _
  · exact .error (hP _ trivial)

include hs

theorem requiredText_failsIn (field : String) (part : Part) :
    FailsIn P (entries.requiredText field part) :=
  (required_failsIn hP entries field part).bind fun _ hv =>
    (Value.spelled_failsIn (hs.mono (isSpellable_of_required hv))).bind fun _ _ => .ok _

theorem requiredYear_failsIn (field : String) (part : Part) :
    FailsIn P (entries.requiredYear field part) := by
  unfold requiredYear
  have hfield := required_failsIn hP entries field part
  cases hv : entries.required field part with
  | error e => exact .error (hfield e hv)
  | ok v =>
    dsimp only
    split
    · exact .ok v
    · exact .raise hP trivial (hs.mono (isSpellable_of_required hv))

omit hP in
theorem optionalText_failsIn (field : String) : FailsIn P (entries.optionalText field) := by
  unfold optionalText
  dsimp only
  split
  · exact (Value.spelled_failsIn (hs.mono (isSpellable_optional field))).map _
  · exact .ok _

omit hP in
theorem mapM_items_failsIn {α : Type} {f : Value → Except Fault α}
    (hf : ∀ v : Value, Covers P v.isSpellable → FailsIn P (f v)) {vs : List Value}
    (h : entries.items field = .ok vs) : FailsIn P (vs.mapM f) :=
  .mapM fun v hv => hf v (hs.mono (isSpellable_of_items h hv))

end ConfigEntries

section

variable (hP : CoversResumes P) {v : Value} (hv : Covers P v.isSpellable)
include hP hv

theorem Proficiency.ofValue_failsIn : FailsIn P (ofValue v) := by
  unfold ofValue
  dsimp only
  split
  · exact .ok _
  · exact .raise hP trivial hv

theorem DegreeKind.ofValue_failsIn : FailsIn P (ofValue v) := by
  unfold ofValue
  split
  · exact .ok _
  · exact .raise hP trivial hv

end

/-! ## Entries -/

namespace Years

variable {start finish entry v : Value}

theorem isSpellable_badYear (hentry : entry.isSpellable = true) (hv : v.isSpellable = true) :
    (Fault.entry (.badYear v entry)).isSpellable = true :=
  Bool.and_eq_true_iff.mpr ⟨hv, hentry⟩

variable (hP : CoversResumes P) (hentry : entry.isSpellable = true)
include hP hentry

theorem year_failsIn (hv : Covers P v.isSpellable) : FailsIn P (year v entry) := by
  unfold year
  split
  · exact .raise hP trivial (hv.mono (isSpellable_badYear hentry))
  · split
    · exact .ok _
    · exact .raise hP trivial (hv.mono (isSpellable_badYear hentry))

theorem ofValues_failsIn (hstart : Covers P start.isSpellable)
    (hfinish : Covers P finish.isSpellable) : FailsIn P (ofValues start finish entry) := by
  unfold ofValues
  have hfirst := year_failsIn hP hentry hstart
  have hlast := year_failsIn hP hentry hfinish
  cases hs : year start entry with
  | error e => exact .error (hfirst e hs)
  | ok s =>
    cases hf : year finish entry with
    | error e => exact .error (hlast e hf)
    | ok f =>
      dsimp only
      split
      · exact .ok _
      · rw [year_eq_ok_iff.mp hs, Value.isSpellable_toValue] at hstart
        rw [year_eq_ok_iff.mp hf, Value.isSpellable_toValue] at hfinish
        refine .raise hP trivial ?_
        rcases hstart with hunspellable | hstart
        · exact .inl hunspellable
        · refine hfinish.mono fun hfinish => ?_
          simp [Fault.isSpellable, EntryCause.isSpellable, hstart, hfinish, hentry]

end Years

section

variable (hP : CoversResumes P)
include hP

theorem Degree.make_failsIn (kind : DegreeKind) (subject : Value) :
    FailsIn P (make kind subject) := by
  unfold make
  split
  · exact .ok _
  · exact .error (hP _ trivial)

variable {v : Value} (hv : Covers P v.isSpellable)
include hv

theorem Degree.ofConfig_failsIn : FailsIn P (ofConfig v) := by
  unfold ofConfig
  split
  · exact .ok _
  · exact (ConfigEntries.required_failsIn hP _ _ _).bind fun kind hkind =>
      (DegreeKind.ofValue_failsIn hP (hv.mono (ConfigEntries.isSpellable_of_required hkind))).bind
        fun k _ => make_failsIn hP k _
  · split
    · exact (DegreeKind.ofValue_failsIn hP hv).bind fun k _ => make_failsIn hP k _
    · exact .raise hP trivial hv

theorem Skill.ofConfig_failsIn : FailsIn P (ofConfig v) := by
  unfold ofConfig
  split
  · apply (ConfigEntries.requiredText_failsIn hP hv _ _).bind
    intro label _
    split
    · exact .ok _
    · exact (Proficiency.ofValue_failsIn hP
        (hv.mono (ConfigEntries.isSpellable_optional _))).bind fun _ _ => .ok _
  · split
    · exact .ok _
    · exact .raise hP trivial hv

theorem Education.ofConfig_failsIn : FailsIn P (ofConfig v) := by
  unfold ofConfig
  split
  · exact (ConfigEntries.requiredYear_failsIn hP hv _ _).bind fun start hstart =>
      (ConfigEntries.requiredYear_failsIn hP hv _ _).bind fun finish hfinish =>
      (ConfigEntries.requiredText_failsIn hP hv _ _).bind fun school hschool =>
      (Degree.ofConfig_failsIn hP (hv.mono (ConfigEntries.isSpellable_optional _))).bind
        fun degree _ =>
      (Years.ofValues_failsIn hP (ConfigEntries.isSpellable_of_requiredText hschool)
        (hv.mono (ConfigEntries.isSpellable_of_requiredYear hstart))
        (hv.mono (ConfigEntries.isSpellable_of_requiredYear hfinish))).bind fun _ _ => .ok _
  · exact .raise hP trivial hv

theorem Work.ofConfig_failsIn : FailsIn P (ofConfig v) := by
  unfold ofConfig
  split
  · exact (ConfigEntries.requiredYear_failsIn hP hv _ _).bind fun start hstart =>
      (ConfigEntries.requiredYear_failsIn hP hv _ _).bind fun finish hfinish =>
      (ConfigEntries.requiredText_failsIn hP hv _ _).bind fun position _ =>
      (ConfigEntries.requiredText_failsIn hP hv _ _).bind fun company _ =>
      (ConfigEntries.optionalText_failsIn hv _).bind fun description _ =>
      (Years.ofValues_failsIn hP rfl
        (hv.mono (ConfigEntries.isSpellable_of_requiredYear hstart))
        (hv.mono (ConfigEntries.isSpellable_of_requiredYear hfinish))).bind fun _ _ => .ok _
  · exact .raise hP trivial hv

end

/-! ## Contact details -/

namespace Contact

/-- The keys that are no contact fields have no common order. -/
def HasUnorderedKeys (v : Value) : Prop :=
  ∃ fields, v = .mapping fields ∧ Value.sortable (unknownKeys fields) = false

theorem ofConfig_of_hasUnorderedKeys {v : Value} (h : HasUnorderedKeys v) :
    ofConfig v = .error (.misuse .noOrder) := by
  obtain ⟨fields, rfl, hkeys⟩ := h
  simp [ofConfig, Value.sorted?, hkeys]

theorem wordingOf_failsIn {entries : ConfigEntries} (hs : Covers P (entriesSpellable entries))
    (field : String) : FailsIn P (wordingOf entries field) := by
  unfold wordingOf
  split
  · exact .ok _
  · exact (Value.spelled_failsIn (hs.mono (ConfigEntries.isSpellable_optional field))).map _

theorem allSpellable_mergeSort_unknownKeys {entries : ConfigEntries}
    (hs : entriesSpellable entries = true) :
    allSpellable ((unknownKeys entries).mergeSort Value.notAfter) = true := by
  rw [entriesSpellable_iff] at hs
  rw [allSpellable_iff]
  intro k hk
  rw [List.mem_mergeSort] at hk
  obtain ⟨e, he, rfl⟩ := List.mem_map.mp (List.mem_of_mem_filter hk)
  exact (hs e he).1

theorem ofConfig_failsIn (hP : CoversResumes P) {v : Value} (hv : Covers P v.isSpellable)
    (h : HasUnorderedKeys v → P (.misuse .noOrder)) : FailsIn P (ofConfig v) := by
  unfold ofConfig
  split
  · exact .ok _
  · next fields =>
    cases hkeys : Value.sortable (unknownKeys fields) with
    | false =>
      rw [Value.sorted?, if_neg (by simp [hkeys])]
      exact .error (h ⟨fields, rfl, hkeys⟩)
    | true =>
      have hsorted := hv.mono allSpellable_mergeSort_unknownKeys
      rw [Value.sorted?, if_pos hkeys]
      split
      · next hnone => cases hnone
      · exact (wordingOf_failsIn hv _).bind fun _ _ => (wordingOf_failsIn hv _).bind fun _ _ =>
          (wordingOf_failsIn hv _).bind fun _ _ => (wordingOf_failsIn hv _).bind fun _ _ =>
          (wordingOf_failsIn hv _).bind fun _ _ => .ok _
      · next hunknown =>
        refine .raise hP trivial ?_
        rw [Option.some.inj hunknown] at hsorted
        exact hsorted
  · exact .raise hP trivial hv

end Contact

/-! ## Whole resumes -/

namespace Resume

/-- Both names are given, and among the contact details are keys that nobody knows and that have no
common order. -/
def HasUnorderedContact (v : Value) : Prop :=
  ∃ entries : ConfigEntries, v = .mapping entries ∧ entries.Has "first_name" ∧
    entries.Has "last_name" ∧ Contact.HasUnorderedKeys (entries.optional "contact_info")

theorem exists_optionalText {entries : ConfigEntries} (field : String)
    (hs : entriesSpellable entries = true) : ∃ v, entries.optionalText field = .ok v :=
  ⟨_, ConfigEntries.optionalText_eq_ok_iff.mpr
    ⟨fun _ => ConfigEntries.isSpellable_optional field hs, rfl⟩⟩

theorem ofConfig_of_hasUnorderedContact {v : Value} (hv : v.isSpellable = true)
    (h : HasUnorderedContact v) : ofConfig v = .error (.misuse .noOrder) := by
  obtain ⟨entries, rfl, hfirst, hlast, hcontact⟩ := h
  obtain ⟨profession, hprofession⟩ := exists_optionalText "profession" hv
  obtain ⟨description, hdescription⟩ := exists_optionalText "description" hv
  have hfirstText : entries.requiredText "first_name" .resume = .ok _ :=
    ConfigEntries.requiredText_eq_ok_iff.mpr
      ⟨⟨hfirst, ConfigEntries.isSpellable_optional _ hv⟩, rfl⟩
  have hlastText : entries.requiredText "last_name" .resume = .ok _ :=
    ConfigEntries.requiredText_eq_ok_iff.mpr
      ⟨⟨hlast, ConfigEntries.isSpellable_optional _ hv⟩, rfl⟩
  have hfirst : entries.required "first_name" .resume = .ok _ :=
    ConfigEntries.required_eq_ok_iff.mpr ⟨hfirst, rfl⟩
  have hlast : entries.required "last_name" .resume = .ok _ :=
    ConfigEntries.required_eq_ok_iff.mpr ⟨hlast, rfl⟩
  simp only [ofConfig, hfirst, hlast, hfirstText, hlastText, hprofession, hdescription,
    Contact.ofConfig_of_hasUnorderedKeys hcontact, bind, Except.bind]

/-- The parts are read one after the other. The contact details come after the names, so their keys
matter only where both names are given. -/
theorem ofConfig_failsIn (hP : CoversResumes P) {v : Value} (hv : Covers P v.isSpellable)
    (h : HasUnorderedContact v → P (.misuse .noOrder)) : FailsIn P (ofConfig v) := by
  unfold ofConfig
  split
  · next entries =>
    apply (ConfigEntries.required_failsIn hP entries _ _).bind
    intro first hfirst
    apply (ConfigEntries.required_failsIn hP entries _ _).bind
    intro last hlast
    have hcontact : Contact.HasUnorderedKeys (ConfigEntries.optional entries "contact_info") →
        P (.misuse .noOrder) := by
      intro hkeys
      exact h ⟨entries, rfl, (ConfigEntries.required_eq_ok_iff.mp hfirst).1,
        (ConfigEntries.required_eq_ok_iff.mp hlast).1, hkeys⟩
    exact (ConfigEntries.requiredText_failsIn hP hv _ _).bind fun _ _ =>
      (ConfigEntries.requiredText_failsIn hP hv _ _).bind fun _ _ =>
      (ConfigEntries.optionalText_failsIn hv _).bind fun _ _ =>
      (ConfigEntries.optionalText_failsIn hv _).bind fun _ _ =>
      (Contact.ofConfig_failsIn hP (hv.mono (ConfigEntries.isSpellable_optional _)) hcontact).bind
        fun _ _ =>
      (ConfigEntries.items_failsIn hP entries _).bind fun skills hskills =>
      (ConfigEntries.mapM_items_failsIn hv (fun _ => Skill.ofConfig_failsIn hP) hskills).bind
        fun _ _ =>
      (ConfigEntries.items_failsIn hP entries _).bind fun education heducation =>
      (ConfigEntries.mapM_items_failsIn hv (fun _ => Education.ofConfig_failsIn hP)
        heducation).bind fun _ _ =>
      (ConfigEntries.items_failsIn hP entries _).bind fun work hwork =>
      (ConfigEntries.mapM_items_failsIn hv (fun _ => Work.ofConfig_failsIn hP) hwork).bind
        fun _ _ => .ok _
  · exact .error (hP _ trivial)

/-- Only files and not values have faults of configurations. -/
theorem ofConfig_ne_config (v : Value) (c : ConfigFault) : ofConfig v ≠ .error (.config c) := by
  have hfails : FailsIn (· ≠ .config c) (ofConfig v) := by
    refine ofConfig_failsIn ?_ (.inl nofun) (fun _ => nofun)
    rintro e he rfl
    exact he
  exact fun h => hfails _ h rfl

/-- Where all numbers can be spelled out, reading fails in the ways that are reported, but for the
keys of contact details. -/
theorem ofConfig_reported_iff {v : Value} (hv : v.isSpellable = true) :
    (∀ e, ofConfig v = .error e → e.IsOfResume ∧ e.reported?.isSome = true) ↔
      ¬ HasUnorderedContact v := by
  constructor
  · intro h hcontact
    exact (h _ (ofConfig_of_hasUnorderedContact hv hcontact)).1
  · intro h e he
    have hresume : e.IsOfResume :=
      ofConfig_failsIn (fun _ => id) (.inr hv) (fun hcontact => absurd hcontact h) e he
    exact ⟨hresume, hresume.reported?⟩

def withFields (fields : ConfigEntries) : Value :=
  .mapping (ConfigEntries.named [("first_name", .text "Ada"), ("last_name", .text "Lovelace"),
    ("contact_info", .mapping fields)])

theorem hasUnorderedContact_withFields_iff {fields : ConfigEntries} :
    HasUnorderedContact (withFields fields) ↔
      Value.sortable (Contact.unknownKeys fields) = false := by
  constructor
  · rintro ⟨entries, hentries, -, -, found, hfound, hkeys⟩
    cases hentries
    simp only [ConfigEntries.optional_named, List.lookup_cons] at hfound
    cases hfound
    exact hkeys
  · intro hkeys
    refine ⟨_, rfl, ?_, ?_, fields, ?_, hkeys⟩ <;>
      simp [ConfigEntries.Has, List.lookup_cons]

/-- An unknown field that is a text is reported, and one that is a number beside it is not. -/
theorem ofConfig_reported_iff_fax :
    (∀ e, ofConfig (withFields [(.text "fax", .text "y")]) = .error e →
      e.IsOfResume ∧ e.reported?.isSome = true) ∧
    ¬ ∀ e, ofConfig (withFields [(.int 1, .text "x"), (.text "fax", .text "y")]) = .error e →
      e.IsOfResume ∧ e.reported?.isSome = true := by
  constructor
  · rw [ofConfig_reported_iff rfl, hasUnorderedContact_withFields_iff]
    decide +kernel
  · rw [ofConfig_reported_iff (by decide +kernel), hasUnorderedContact_withFields_iff]
    decide +kernel

theorem not_forall_isOfResume : ¬ ∀ v e, ofConfig v = .error e → e.IsOfResume := by
  intro h
  have hcontact :
      HasUnorderedContact (withFields [(.int 1, .text "x"), (.text "fax", .text "y")]) :=
    hasUnorderedContact_withFields_iff.mpr (by decide +kernel)
  exact h _ _ (ofConfig_of_hasUnorderedContact (by decide +kernel) hcontact)

end Resume

end ResumePress
