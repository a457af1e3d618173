import ResumePress.Proofs.Resume.Fields

/-!
# The grammar of resumes

Which values are resumes, and what each of them says. Both are stated without the reader: a value is
the configuration of a resume if its parts have the shapes below, and it reads as a record whose
entries are what the items in the same places say. The reader accepts the configurations of resumes
whose words can be spelled out and nothing else, and its result is the record that the configuration
reads as. A name, a school or a label that is a number of too many digits is refused, although it
has its shape.
-/
namespace ResumePress

variable {spells : Value → Bool}

/-! ## Degrees -/

namespace Degree

theorem make_eq_ok_iff {k : DegreeKind} {subject : Value} {d : Degree} :
    make k subject = .ok d ↔ d.kind = k ∧ d.subject = subject := by
  unfold make
  constructor
  · intro h
    split at h
    · cases h
      exact ⟨rfl, rfl⟩
    · cases h
  · rintro ⟨rfl, rfl⟩
    exact dif_pos d.stated

/-- What a value says about a degree. -/
inductive ReadsAs (spells : Value → Bool) : Value → Degree → Prop
  | nothing : ReadsAs spells .null absent
  | kind {v : Value} {d : Degree} (h : v.isText = true) (hk : d.kind.IsNamedBy spells v)
    (hs : d.subject = .null) : ReadsAs spells v d
  | mapping {entries : ConfigEntries} {d : Degree} (h : entries.Has "kind")
    (hk : d.kind.IsNamedBy spells (entries.optional "kind"))
    (hs : d.subject = entries.optional "subject") : ReadsAs spells (.mapping entries) d

inductive IsConfig (spells : Value → Bool) : Value → Prop
  | nothing : IsConfig spells .null
  | kind {v : Value} {k : DegreeKind} (h : v.isText = true) (hk : k.IsNamedBy spells v)
    (hs : k.needsSubject = false) : IsConfig spells v
  | mapping {entries : ConfigEntries} {k : DegreeKind} (h : entries.Has "kind")
    (hk : k.IsNamedBy spells (entries.optional "kind"))
    (hs : k.needsSubject = true → (entries.optional "subject").truthy = true) :
    IsConfig spells (.mapping entries)

theorem ofConfig_eq_ok_iff {v : Value} {d : Degree} :
    ofConfig v = .ok d ↔ ReadsAs Value.isSpellable v d := by
  constructor
  · intro h
    unfold ofConfig at h
    split at h
    · cases h
      exact .nothing
    · obtain ⟨kind, hkind, hdegree⟩ := bind_eq_ok.mp h
      obtain ⟨k, hk, hmake⟩ := bind_eq_ok.mp hdegree
      obtain ⟨hhas, rfl⟩ := ConfigEntries.required_eq_ok_iff.mp hkind
      obtain ⟨rfl, hs⟩ := make_eq_ok_iff.mp hmake
      exact .mapping hhas (DegreeKind.ofValue_eq_ok_iff.mp hk) hs
    · split at h
      · next htext =>
        obtain ⟨k, hk, hmake⟩ := bind_eq_ok.mp h
        obtain ⟨rfl, hs⟩ := make_eq_ok_iff.mp hmake
        exact .kind htext (DegreeKind.ofValue_eq_ok_iff.mp hk) hs
      · cases h
  · intro h
    cases h with
    | nothing => rfl
    | kind htext hk hs =>
      have hmake : (do make (← DegreeKind.ofValue v) .null) = .ok d :=
        bind_eq_ok.mpr ⟨_, DegreeKind.ofValue_eq_ok_iff.mpr hk, make_eq_ok_iff.mpr ⟨rfl, hs⟩⟩
      unfold ofConfig
      split
      · cases htext
      · cases htext
      · rw [if_pos htext]
        exact hmake
    | mapping h hk hs =>
      exact bind_eq_ok.mpr ⟨_, ConfigEntries.required_eq_ok_iff.mpr ⟨h, rfl⟩, bind_eq_ok.mpr
        ⟨_, DegreeKind.ofValue_eq_ok_iff.mpr hk, make_eq_ok_iff.mpr ⟨rfl, hs⟩⟩⟩

theorem exists_readsAs_iff {v : Value} : (∃ d, ReadsAs spells v d) ↔ IsConfig spells v := by
  constructor
  · rintro ⟨d, _ | ⟨htext, hk, hs⟩ | ⟨hhas, hk, hs⟩⟩
    · exact .nothing
    · have hneeds : d.kind.needsSubject = false := by
        by_contra hn
        have htruthy := d.stated (by simpa using hn)
        rw [hs] at htruthy
        cases htruthy
      exact .kind htext hk hneeds
    · exact .mapping hhas hk (hs ▸ d.stated)
  · rintro (_ | @⟨_, k, htext, hk, hs⟩ | @⟨entries, k, hhas, hk, hs⟩)
    · exact ⟨_, .nothing⟩
    · exact ⟨⟨k, .null, by simp [hs]⟩, .kind htext hk rfl⟩
    · exact ⟨⟨k, _, hs⟩, .mapping hhas hk rfl⟩

end Degree

/-! ## Skills -/

namespace Skill

/-- What a value says about a skill: a label, or a mapping of a label and a level. -/
inductive ReadsAs (spells : Value → Bool) : Value → Skill → Prop
  | label {v : Value} (h : v.isText = true) : ReadsAs spells v ⟨v, none⟩
  | mapping {entries : ConfigEntries} {s : Skill} (hlabel : entries.Words spells "label" s.label)
    (hlevel : Proficiency.ReadsAs spells (entries.optional "proficiency") s.level) :
    ReadsAs spells (.mapping entries) s

inductive IsConfig (spells : Value → Bool) : Value → Prop
  | label {v : Value} (h : v.isText = true) : IsConfig spells v
  | mapping {entries : ConfigEntries} (hlabel : entries.HasWords spells "label")
    (hlevel : Proficiency.IsConfig spells (entries.optional "proficiency")) :
    IsConfig spells (.mapping entries)

theorem ofConfig_eq_ok_iff {v : Value} {s : Skill} :
    ofConfig v = .ok s ↔ ReadsAs Value.isSpellable v s := by
  unfold ofConfig
  constructor
  · intro h
    split at h
    · obtain ⟨label, hlabel, hrest⟩ := bind_eq_ok.mp h
      have hwords := ConfigEntries.requiredText_eq_ok_iff.mp hlabel
      split at hrest
      · next hnull =>
        cases hrest
        exact .mapping hwords (hnull ▸ .nothing)
      · next hnull =>
        obtain ⟨p, hp, hs⟩ := bind_eq_ok.mp hrest
        cases hs
        exact .mapping hwords (.level hnull (Proficiency.ofValue_eq_ok_iff.mp hp))
    · split at h
      · next htext =>
        cases h
        exact .label htext
      · cases h
  · intro h
    cases h with
    | label htext =>
      split
      · cases htext
      · rw [if_pos htext]
    | @mapping entries s hlabel hlevel =>
      obtain ⟨label, level⟩ := s
      dsimp only
      rw [ConfigEntries.requiredText_eq_ok_iff.mpr hlabel]
      generalize entries.optional "proficiency" = v at hlevel
      cases hlevel with
      | nothing => rfl
      | level hv hp =>
        dsimp only [bind, Except.bind]
        split
        · exact absurd rfl hv
        · rw [Proficiency.ofValue_eq_ok_iff.mpr hp]

theorem exists_readsAs_iff {v : Value} : (∃ s, ReadsAs spells v s) ↔ IsConfig spells v := by
  constructor
  · rintro ⟨s, htext | ⟨hlabel, hlevel⟩⟩
    · exact .label htext
    · exact .mapping hlabel.1 (Proficiency.exists_readsAs_iff.mp ⟨_, hlevel⟩)
  · rintro (htext | ⟨hlabel, hlevel⟩)
    · exact ⟨_, .label htext⟩
    · obtain ⟨level, hlevel⟩ := Proficiency.exists_readsAs_iff.mpr hlevel
      exact ⟨⟨_, level⟩, .mapping ⟨hlabel, rfl⟩ hlevel⟩

end Skill

/-! ## Education and work -/

namespace Education

/-- What a value says about a time at school. The field is taken as it stands. -/
inductive ReadsAs (spells : Value → Bool) : Value → Education → Prop
  | mapping {entries : ConfigEntries} {e : Education} (years : entries.Spans e.years)
    (school : entries.Words spells "school" e.school)
    (field : e.field = entries.optional "field_of_study")
    (degree : Degree.ReadsAs spells (entries.optional "degree") e.degree) :
    ReadsAs spells (.mapping entries) e

inductive IsConfig (spells : Value → Bool) : Value → Prop
  | mapping {entries : ConfigEntries} (years : entries.HasYears)
    (school : entries.HasWords spells "school")
    (degree : Degree.IsConfig spells (entries.optional "degree")) :
    IsConfig spells (.mapping entries)

theorem ofConfig_eq_ok_iff {v : Value} {e : Education} :
    ofConfig v = .ok e ↔ ReadsAs Value.isSpellable v e := by
  constructor
  · intro h
    unfold ofConfig at h
    split at h
    · obtain ⟨start, hstart, h⟩ := bind_eq_ok.mp h
      obtain ⟨finish, hfinish, h⟩ := bind_eq_ok.mp h
      obtain ⟨school, hschool, h⟩ := bind_eq_ok.mp h
      obtain ⟨degree, hdegree, h⟩ := bind_eq_ok.mp h
      obtain ⟨years, hyears, h⟩ := bind_eq_ok.mp h
      cases h
      exact .mapping (ConfigEntries.spans_iff.mp ⟨hstart, hfinish, hyears⟩).1
        (ConfigEntries.requiredText_eq_ok_iff.mp hschool) rfl (Degree.ofConfig_eq_ok_iff.mp hdegree)
    · cases h
  · rintro ⟨hyears, hschool, hfield, hdegree⟩
    obtain ⟨years, school, field, degree⟩ := e
    obtain ⟨hstart, hfinish, hyears⟩ := ConfigEntries.spans_iff.mpr ⟨hyears, rfl, rfl⟩
    cases hfield
    exact bind_eq_ok.mpr ⟨_, hstart, bind_eq_ok.mpr ⟨_, hfinish,
      bind_eq_ok.mpr ⟨_, ConfigEntries.requiredText_eq_ok_iff.mpr hschool,
      bind_eq_ok.mpr ⟨_, Degree.ofConfig_eq_ok_iff.mpr hdegree,
      bind_eq_ok.mpr ⟨_, hyears, rfl⟩⟩⟩⟩⟩

theorem exists_readsAs_iff {v : Value} : (∃ e, ReadsAs spells v e) ↔ IsConfig spells v := by
  constructor
  · rintro ⟨e, hyears, hschool, -, hdegree⟩
    exact .mapping (ConfigEntries.exists_spans_iff.mp ⟨_, hyears⟩) hschool.1
      (Degree.exists_readsAs_iff.mp ⟨_, hdegree⟩)
  · rintro ⟨hyears, hschool, hdegree⟩
    obtain ⟨years, hyears⟩ := ConfigEntries.exists_spans_iff.mpr hyears
    obtain ⟨degree, hdegree⟩ := Degree.exists_readsAs_iff.mpr hdegree
    exact ⟨⟨years, _, _, degree⟩, .mapping hyears ⟨hschool, rfl⟩ rfl hdegree⟩

end Education

namespace Work

/-- What a value says about a time at work. -/
inductive ReadsAs (spells : Value → Bool) : Value → Work → Prop
  | mapping {entries : ConfigEntries} {w : Work} (years : entries.Spans w.years)
    (position : entries.Words spells "position" w.position)
    (company : entries.Words spells "company" w.company)
    (description : entries.OptionalWords spells "description" w.description) :
    ReadsAs spells (.mapping entries) w

inductive IsConfig (spells : Value → Bool) : Value → Prop
  | mapping {entries : ConfigEntries} (years : entries.HasYears)
    (position : entries.HasWords spells "position") (company : entries.HasWords spells "company")
    (description : entries.MayHaveWords spells "description") : IsConfig spells (.mapping entries)

theorem ofConfig_eq_ok_iff {v : Value} {w : Work} :
    ofConfig v = .ok w ↔ ReadsAs Value.isSpellable v w := by
  constructor
  · intro h
    unfold ofConfig at h
    split at h
    · obtain ⟨start, hstart, h⟩ := bind_eq_ok.mp h
      obtain ⟨finish, hfinish, h⟩ := bind_eq_ok.mp h
      obtain ⟨position, hposition, h⟩ := bind_eq_ok.mp h
      obtain ⟨company, hcompany, h⟩ := bind_eq_ok.mp h
      obtain ⟨description, hdescription, h⟩ := bind_eq_ok.mp h
      obtain ⟨years, hyears, h⟩ := bind_eq_ok.mp h
      cases h
      exact .mapping (ConfigEntries.spans_iff.mp ⟨hstart, hfinish, hyears⟩).1
        (ConfigEntries.requiredText_eq_ok_iff.mp hposition)
        (ConfigEntries.requiredText_eq_ok_iff.mp hcompany)
        (ConfigEntries.optionalText_eq_ok_iff.mp hdescription)
    · cases h
  · rintro ⟨hyears, hposition, hcompany, hdescription⟩
    obtain ⟨years, position, company, description⟩ := w
    obtain ⟨hstart, hfinish, hyears⟩ := ConfigEntries.spans_iff.mpr ⟨hyears, rfl, rfl⟩
    exact bind_eq_ok.mpr ⟨_, hstart, bind_eq_ok.mpr ⟨_, hfinish,
      bind_eq_ok.mpr ⟨_, ConfigEntries.requiredText_eq_ok_iff.mpr hposition,
      bind_eq_ok.mpr ⟨_, ConfigEntries.requiredText_eq_ok_iff.mpr hcompany,
      bind_eq_ok.mpr ⟨_, ConfigEntries.optionalText_eq_ok_iff.mpr hdescription,
      bind_eq_ok.mpr ⟨_, hyears, rfl⟩⟩⟩⟩⟩⟩

theorem exists_readsAs_iff {v : Value} : (∃ w, ReadsAs spells v w) ↔ IsConfig spells v := by
  constructor
  · rintro ⟨w, hyears, hposition, hcompany, hdescription⟩
    exact .mapping (ConfigEntries.exists_spans_iff.mp ⟨_, hyears⟩) hposition.1 hcompany.1
      hdescription.1
  · rintro ⟨hyears, hposition, hcompany, hdescription⟩
    obtain ⟨years, hyears⟩ := ConfigEntries.exists_spans_iff.mpr hyears
    exact ⟨⟨years, _, _, _⟩,
      .mapping hyears ⟨hposition, rfl⟩ ⟨hcompany, rfl⟩ ⟨hdescription, rfl⟩⟩

end Work

/-! ## Contact details -/

namespace Contact

/-- A contact field in words, unless there is nothing in it. -/
inductive FieldReadsAs (spells : Value → Bool) : Value → Option Wording → Prop
  | nothing : FieldReadsAs spells .null none
  | words {v : Value} (hv : v ≠ .null) (hs : spells v = true) :
    FieldReadsAs spells v (some (.plain v.printed))

/-- What a value says about contact details. Nothing but contact fields is in them. -/
inductive ReadsAs (spells : Value → Bool) : Value → Contact → Prop
  | nothing : ReadsAs spells .null absent
  | mapping {entries : ConfigEntries} {c : Contact}
    (hknown : ∀ e ∈ entries, ∃ f ∈ contactFields, e.1.same (.text f) = true)
    (hfields : List.Forall₂ (fun f w => FieldReadsAs spells (entries.optional f) w) contactFields
      c.fields) : ReadsAs spells (.mapping entries) c

inductive IsConfig (spells : Value → Bool) : Value → Prop
  | nothing : IsConfig spells .null
  | mapping {entries : ConfigEntries}
    (hknown : ∀ e ∈ entries, ∃ f ∈ contactFields, e.1.same (.text f) = true)
    (hfields : ∀ f ∈ contactFields, entries.Has f → spells (entries.optional f) = true) :
    IsConfig spells (.mapping entries)

theorem exists_fieldReadsAs_iff {v : Value} :
    (∃ w, FieldReadsAs spells v w) ↔ (v ≠ .null → spells v = true) := by
  constructor
  · rintro ⟨w, _ | ⟨-, hs⟩⟩ hv
    · exact absurd rfl hv
    · exact hs
  · intro h
    by_cases hv : v = .null
    · exact ⟨none, hv ▸ .nothing⟩
    · exact ⟨_, .words hv (h hv)⟩

theorem wordingOf_eq_ok_iff {entries : ConfigEntries} {f : String} {w : Option Wording} :
    wordingOf entries f = .ok w ↔ FieldReadsAs Value.isSpellable (entries.optional f) w := by
  unfold wordingOf
  constructor
  · intro h
    split at h
    · next hnull =>
      cases h
      exact hnull ▸ .nothing
    · next hnull =>
      obtain ⟨s, hs, rfl⟩ := map_eq_ok.mp h
      obtain ⟨hspells, rfl⟩ := Value.spelled_eq_ok_iff.mp hs
      exact .words hnull hspells
  · intro h
    generalize entries.optional f = v at h
    cases h with
    | nothing => rfl
    | words hv hs =>
      split
      · exact absurd rfl hv
      · rw [Value.spelled_of_isSpellable hs]
        rfl

theorem unknownKeys_eq_nil_iff {entries : ConfigEntries} : unknownKeys entries = [] ↔
    ∀ e ∈ entries, ∃ f ∈ contactFields, e.1.same (.text f) = true := by
  simp [unknownKeys, List.filter_eq_nil_iff]

theorem sorted?_eq_some_nil_iff {vs : List Value} : Value.sorted? vs = some [] ↔ vs = [] := by
  unfold Value.sorted?
  constructor
  · intro h
    split at h
    · have hlength : (vs.mergeSort Value.notAfter).length = vs.length := List.length_mergeSort vs
      rw [Option.some.inj h] at hlength
      exact List.length_eq_zero_iff.mp hlength.symm
    · cases h
  · rintro rfl
    simp [Value.sortable]

def ofFieldsIn (entries : ConfigEntries) : Except Fault Contact := do
  .ok ⟨← wordingOf entries "email", ← wordingOf entries "phone", ← wordingOf entries "website",
    ← wordingOf entries "github", ← wordingOf entries "linkedin"⟩

theorem ofFieldsIn_eq_ok_iff {entries : ConfigEntries} {c : Contact} :
    ofFieldsIn entries = .ok c ↔
      List.Forall₂ (fun f w => FieldReadsAs Value.isSpellable (entries.optional f) w) contactFields
        c.fields := by
  obtain ⟨email, phone, website, github, linkedin⟩ := c
  simp only [ofFieldsIn, bind_eq_ok, contactFields, fields, List.forall₂_cons,
    ← wordingOf_eq_ok_iff]
  simp

theorem ofConfig_eq_ok_iff {v : Value} {c : Contact} :
    ofConfig v = .ok c ↔ ReadsAs Value.isSpellable v c := by
  unfold ofConfig
  constructor
  · intro h
    split at h
    · cases h
      exact .nothing
    · split at h
      · cases h
      · next hsorted =>
        have hunknown := sorted?_eq_some_nil_iff.mp hsorted
        exact .mapping (unknownKeys_eq_nil_iff.mp hunknown) (ofFieldsIn_eq_ok_iff.mp h)
      · cases h
    · cases h
  · intro h
    cases h with
    | nothing => rfl
    | mapping hknown hfields =>
      dsimp only
      rw [unknownKeys_eq_nil_iff.mpr hknown, sorted?_eq_some_nil_iff.mpr rfl]
      exact ofFieldsIn_eq_ok_iff.mpr hfields

theorem exists_readsAs_iff {v : Value} : (∃ c, ReadsAs spells v c) ↔ IsConfig spells v := by
  constructor
  · rintro ⟨c, _ | ⟨hknown, hfields⟩⟩
    · exact .nothing
    · refine .mapping hknown fun f hf => exists_fieldReadsAs_iff.mp ?_
      exact exists_forall₂_iff.mp ⟨_, hfields⟩ f hf
  · rintro (_ | ⟨hknown, hfields⟩)
    · exact ⟨_, .nothing⟩
    · obtain ⟨ws, hws⟩ := exists_forall₂_iff.mpr fun f hf =>
        exists_fieldReadsAs_iff.mpr (hfields f hf)
      simp only [contactFields, List.forall₂_cons_left_iff, List.forall₂_nil_left_iff] at hws
      obtain ⟨email, _, hemail, ⟨phone, _, hphone, ⟨website, _, hwebsite, ⟨github, _, hgithub,
        ⟨linkedin, _, hlinkedin, rfl, rfl⟩, rfl⟩, rfl⟩, rfl⟩, rfl⟩ := hws
      exact ⟨⟨email, phone, website, github, linkedin⟩, .mapping hknown
        (.cons hemail (.cons hphone (.cons hwebsite (.cons hgithub (.cons hlinkedin .nil)))))⟩

end Contact

/-! ## Whole resumes -/

namespace Resume

/-- What a value says about a resume. Every entry of the record is what the item in its place
says. -/
inductive ReadsAs (spells : Value → Bool) : Value → Resume → Prop
  | mapping {entries : ConfigEntries} {r : Resume}
    (firstName : entries.Words spells "first_name" r.firstName)
    (lastName : entries.Words spells "last_name" r.lastName)
    (profession : entries.OptionalWords spells "profession" r.profession)
    (description : entries.OptionalWords spells "description" r.description)
    (contact : Contact.ReadsAs spells (entries.optional "contact_info") r.contact)
    (skills : ConfigEntries.ItemsReadAs (Skill.ReadsAs spells) (entries.optional "skills") r.skills)
    (education : ConfigEntries.ItemsReadAs (Education.ReadsAs spells)
      (entries.optional "education") r.education)
    (work : ConfigEntries.ItemsReadAs (Work.ReadsAs spells) (entries.optional "work_experience")
      r.work) :
    ReadsAs spells (.mapping entries) r

inductive IsConfig (spells : Value → Bool) : Value → Prop
  | mapping {entries : ConfigEntries} (firstName : entries.HasWords spells "first_name")
    (lastName : entries.HasWords spells "last_name")
    (profession : entries.MayHaveWords spells "profession")
    (description : entries.MayHaveWords spells "description")
    (contact : Contact.IsConfig spells (entries.optional "contact_info"))
    (skills : ConfigEntries.AreItems (Skill.IsConfig spells) (entries.optional "skills"))
    (education : ConfigEntries.AreItems (Education.IsConfig spells) (entries.optional "education"))
    (work : ConfigEntries.AreItems (Work.IsConfig spells) (entries.optional "work_experience")) :
    IsConfig spells (.mapping entries)

theorem ofConfig_eq_ok_iff {v : Value} {r : Resume} :
    ofConfig v = .ok r ↔ ReadsAs Value.isSpellable v r := by
  constructor
  · intro h
    unfold ofConfig at h
    split at h
    · obtain ⟨-, -, h⟩ := bind_eq_ok.mp h
      obtain ⟨-, -, h⟩ := bind_eq_ok.mp h
      obtain ⟨first, hfirst, h⟩ := bind_eq_ok.mp h
      obtain ⟨last, hlast, h⟩ := bind_eq_ok.mp h
      obtain ⟨profession, hprofession, h⟩ := bind_eq_ok.mp h
      obtain ⟨description, hdescription, h⟩ := bind_eq_ok.mp h
      obtain ⟨contact, hcontact, h⟩ := bind_eq_ok.mp h
      obtain ⟨skillItems, hskillItems, h⟩ := bind_eq_ok.mp h
      obtain ⟨skills, hskills, h⟩ := bind_eq_ok.mp h
      obtain ⟨educationItems, heducationItems, h⟩ := bind_eq_ok.mp h
      obtain ⟨education, heducation, h⟩ := bind_eq_ok.mp h
      obtain ⟨workItems, hworkItems, h⟩ := bind_eq_ok.mp h
      obtain ⟨work, hwork, h⟩ := bind_eq_ok.mp h
      cases h
      exact .mapping (ConfigEntries.requiredText_eq_ok_iff.mp hfirst)
        (ConfigEntries.requiredText_eq_ok_iff.mp hlast)
        (ConfigEntries.optionalText_eq_ok_iff.mp hprofession)
        (ConfigEntries.optionalText_eq_ok_iff.mp hdescription)
        (Contact.ofConfig_eq_ok_iff.mp hcontact)
        ((ConfigEntries.exists_items_iff Skill.ofConfig_eq_ok_iff).mp ⟨_, hskillItems, hskills⟩)
        ((ConfigEntries.exists_items_iff Education.ofConfig_eq_ok_iff).mp
          ⟨_, heducationItems, heducation⟩)
        ((ConfigEntries.exists_items_iff Work.ofConfig_eq_ok_iff).mp ⟨_, hworkItems, hwork⟩)
    · cases h
  · rintro ⟨hfirst, hlast, hprofession, hdescription, hcontact, hskills, heducation, hwork⟩
    rename_i entries
    obtain ⟨skillItems, hskillItems, hskills⟩ :=
      (ConfigEntries.exists_items_iff Skill.ofConfig_eq_ok_iff).mpr hskills
    obtain ⟨educationItems, heducationItems, heducation⟩ :=
      (ConfigEntries.exists_items_iff Education.ofConfig_eq_ok_iff).mpr heducation
    obtain ⟨workItems, hworkItems, hwork⟩ :=
      (ConfigEntries.exists_items_iff Work.ofConfig_eq_ok_iff).mpr hwork
    obtain ⟨first, last, profession, description, contact, skills, education, work⟩ := r
    exact bind_eq_ok.mpr ⟨_, ConfigEntries.required_eq_ok_iff.mpr ⟨hfirst.1.1, rfl⟩,
      bind_eq_ok.mpr ⟨_, ConfigEntries.required_eq_ok_iff.mpr ⟨hlast.1.1, rfl⟩,
      bind_eq_ok.mpr ⟨_, ConfigEntries.requiredText_eq_ok_iff.mpr hfirst,
      bind_eq_ok.mpr ⟨_, ConfigEntries.requiredText_eq_ok_iff.mpr hlast,
      bind_eq_ok.mpr ⟨_, ConfigEntries.optionalText_eq_ok_iff.mpr hprofession,
      bind_eq_ok.mpr ⟨_, ConfigEntries.optionalText_eq_ok_iff.mpr hdescription,
      bind_eq_ok.mpr ⟨_, Contact.ofConfig_eq_ok_iff.mpr hcontact,
      bind_eq_ok.mpr ⟨_, hskillItems, bind_eq_ok.mpr ⟨_, hskills,
      bind_eq_ok.mpr ⟨_, heducationItems, bind_eq_ok.mpr ⟨_, heducation,
      bind_eq_ok.mpr ⟨_, hworkItems, bind_eq_ok.mpr ⟨_, hwork, rfl⟩⟩⟩⟩⟩⟩⟩⟩⟩⟩⟩⟩⟩

theorem exists_readsAs_iff {v : Value} : (∃ r, ReadsAs spells v r) ↔ IsConfig spells v := by
  constructor
  · rintro ⟨r, hfirst, hlast, hprofession, hdescription, hcontact, hskills, heducation, hwork⟩
    exact .mapping hfirst.1 hlast.1 hprofession.1 hdescription.1
      (Contact.exists_readsAs_iff.mp ⟨_, hcontact⟩)
      ((ConfigEntries.exists_itemsReadAs_iff Skill.exists_readsAs_iff).mp ⟨_, hskills⟩)
      ((ConfigEntries.exists_itemsReadAs_iff Education.exists_readsAs_iff).mp ⟨_, heducation⟩)
      ((ConfigEntries.exists_itemsReadAs_iff Work.exists_readsAs_iff).mp ⟨_, hwork⟩)
  · rintro ⟨hfirst, hlast, hprofession, hdescription, hcontact, hskills, heducation, hwork⟩
    obtain ⟨contact, hcontact⟩ := Contact.exists_readsAs_iff.mpr hcontact
    obtain ⟨skills, hskills⟩ :=
      (ConfigEntries.exists_itemsReadAs_iff Skill.exists_readsAs_iff).mpr hskills
    obtain ⟨education, heducation⟩ :=
      (ConfigEntries.exists_itemsReadAs_iff Education.exists_readsAs_iff).mpr heducation
    obtain ⟨work, hwork⟩ :=
      (ConfigEntries.exists_itemsReadAs_iff Work.exists_readsAs_iff).mpr hwork
    exact ⟨⟨_, _, _, _, contact, skills, education, work⟩,
      .mapping ⟨hfirst, rfl⟩ ⟨hlast, rfl⟩ ⟨hprofession, rfl⟩ ⟨hdescription, rfl⟩ hcontact hskills
        heducation hwork⟩

/-- Reading accepts the configurations of resumes whose words can be spelled out and nothing else,
and it gives the record that the configuration reads as, entry by entry in the places of the
items. -/
theorem ofConfig_grammar (v : Value) :
    ((∃ r, ofConfig v = .ok r) ↔ IsConfig Value.isSpellable v) ∧
      ∀ r, ofConfig v = .ok r ↔ ReadsAs Value.isSpellable v r := by
  constructor
  · rw [← exists_readsAs_iff]
    simp only [ofConfig_eq_ok_iff]
  · intro r
    exact ofConfig_eq_ok_iff

def numbered (n : Int) : Value :=
  .mapping (ConfigEntries.named [("first_name", .int n), ("last_name", .text "Lovelace")])

theorem isConfig_numbered_iff {n : Int} :
    IsConfig spells (numbered n) ↔ spells (.int n) = true ∧ spells (.text "Lovelace") = true := by
  constructor
  · rintro ⟨hfirst, hlast, -⟩
    simpa [ConfigEntries.HasWords, List.lookup_cons] using And.intro hfirst.2 hlast.2
  · rintro ⟨hfirst, hlast⟩
    refine .mapping ⟨?_, ?_⟩ ⟨?_, ?_⟩ ?_ ?_ ?_ ?_ ?_ ?_ <;>
      simp [ConfigEntries.Has, ConfigEntries.MayHaveWords, List.lookup_cons, Value.truthy, hfirst,
        hlast]
    · exact .nothing
    · exact .nothing
    · exact .nothing
    · exact .nothing

/-- A first name that is a number has the shape of one, however many digits there are in it. With
too many of them the resume is refused. -/
theorem not_forall_exists_ofConfig :
    ¬ ∀ v, (∃ r, ofConfig v = .ok r) ↔ IsConfig (fun _ => true) v := by
  intro h
  have hread := (h (numbered unspelled)).mpr (isConfig_numbered_iff.mpr ⟨rfl, rfl⟩)
  have hspells := (isConfig_numbered_iff.mp ((ofConfig_grammar _).1.mp hread)).1
  simp [Value.isSpellable] at hspells

end Resume

end ResumePress
