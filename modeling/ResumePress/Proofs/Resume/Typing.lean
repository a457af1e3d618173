import ResumePress.Proofs.Resume.Grammar

/-!
# Types of fields

Every field of a record is declared to hold values of one type, and reading turns what a
configuration gives into such values: words are printed, years, levels and kinds are checked. Two
texts are taken as they stand, the field of study and the subject of a degree. So a record that is
read has the declared types unless one of these is given by something else than a text.
-/
namespace ResumePress

/-- What a field is declared to hold. -/
inductive FieldType
  | text | optionalText | year | optionalLevel | degreeKind
  | record (kind : RecordKind)
  | records (kind : RecordKind)

/-- The declared types of a record's fields in their order. -/
def RecordKind.fieldTypes : RecordKind → List FieldType
  | degree => [.degreeKind, .optionalText]
  | education => [.year, .year, .text, .optionalText, .record .degree]
  | work => [.year, .year, .text, .text, .text]
  | skill => [.text, .optionalLevel]
  | contact => [.optionalText, .optionalText, .optionalText, .optionalText, .optionalText]
  | resume => [.text, .text, .text, .text, .record .contact, .records .skill, .records .education,
      .records .work]

def Value.IsTextOrNull (v : Value) : Prop :=
  v = .null ∨ v.isText = true

/-- The value is one that a field of the type is declared to hold. -/
inductive HasType : Value → FieldType → Prop
  | text {v : Value} (h : v.isText = true) : HasType v .text
  | optionalText {v : Value} (h : v.IsTextOrNull) : HasType v .optionalText
  | year {v : Value} {w : Whole} (h : v = w.toValue) : HasType v .year
  | noLevel : HasType .null .optionalLevel
  | level (p : Proficiency) : HasType (.proficiency p) .optionalLevel
  | degreeKind (k : DegreeKind) : HasType (.degreeKind k) .degreeKind
  | record {kind : RecordKind} {fields : List Value}
    (h : List.Forall₂ HasType fields kind.fieldTypes) :
    HasType (.record kind fields) (.record kind)
  | records {kind : RecordKind} {vs : List Value} (h : ∀ v ∈ vs, HasType v (.record kind)) :
    HasType (.tuple vs) (.records kind)

namespace HasType

variable {v : Value} {kind : RecordKind}

@[simp] theorem text_iff : HasType v .text ↔ v.isText = true := by
  constructor
  · rintro ⟨h⟩
    exact h
  · exact .text

@[simp] theorem optionalText_iff : HasType v .optionalText ↔ v.IsTextOrNull := by
  constructor
  · rintro (_ | h)
    exact h
  · exact .optionalText

@[simp] theorem record_iff {fields : List Value} :
    HasType (.record kind fields) (.record kind) ↔ List.Forall₂ HasType fields kind.fieldTypes := by
  constructor
  · intro h
    cases h with
    | record h => exact h
  · exact .record

@[simp] theorem records_iff {vs : List Value} :
    HasType (.tuple vs) (.records kind) ↔ ∀ v ∈ vs, HasType v (.record kind) := by
  constructor
  · intro h
    cases h with
    | records h => exact h
  · exact .records

@[simp] theorem year_toValue (w : Whole) : HasType w.toValue .year :=
  .year rfl

attribute [simp] HasType.degreeKind

end HasType

variable {spells : Value → Bool} {v : Value}

theorem ConfigEntries.Words.isText {entries : ConfigEntries} {field : String}
    (h : entries.Words spells field v) : v.isText = true := by
  rw [h.2]
  rfl

theorem ConfigEntries.OptionalWords.isText {entries : ConfigEntries} {field : String}
    (h : entries.OptionalWords spells field v) : v.isText = true := by
  rw [h.2]
  rfl

/-! ## Records that are read -/

theorem Skill.ReadsAs.hasType {s : Skill} (h : ReadsAs spells v s) :
    HasType s.toValue (.record .skill) := by
  have hlabel : s.label.isText = true := by
    cases h with
    | label htext => exact htext
    | mapping hwords => exact hwords.isText
  have hlevel : HasType ((s.level.map Value.proficiency).getD .null) .optionalLevel := by
    cases s.level with
    | none => exact .noLevel
    | some p => exact .level p
  simp [toValue, RecordKind.fieldTypes, hlabel, hlevel]

theorem Work.ReadsAs.hasType {w : Work} (h : ReadsAs spells v w) :
    HasType w.toValue (.record .work) := by
  obtain ⟨-, hposition, hcompany, hdescription⟩ := h
  simp [toValue, RecordKind.fieldTypes, hposition.isText, hcompany.isText, hdescription.isText]

theorem Contact.hasType (c : Contact) : HasType c.toValue (.record .contact) := by
  have hfield : ∀ w : Option Wording, ((w.map Wording.toValue).getD .null).IsTextOrNull := by
    rintro (_ | s | s)
    · exact .inl rfl
    · exact .inr rfl
    · exact .inr rfl
  simp [toValue, fields, RecordKind.fieldTypes, hfield]

theorem Degree.hasType_toValue_iff (d : Degree) :
    HasType d.toValue (.record .degree) ↔ d.subject.IsTextOrNull := by
  simp [toValue, RecordKind.fieldTypes]

/-! ## Texts that are taken as they stand -/

def Degree.looseText : Value → Value
  | .mapping entries => ConfigEntries.optional entries "subject"
  | _ => .null

def Education.looseTexts : Value → List Value
  | .mapping entries => [ConfigEntries.optional entries "field_of_study",
      Degree.looseText (ConfigEntries.optional entries "degree")]
  | _ => []

/-- The texts of a resume that are not put into words. -/
def Resume.looseTexts : Value → List Value
  | .mapping entries =>
    match ConfigEntries.optional entries "education" with
    | .list items => items.flatMap Education.looseTexts
    | _ => []
  | _ => []

theorem Degree.ReadsAs.subject_eq {d : Degree} (h : ReadsAs spells v d) :
    d.subject = looseText v := by
  cases h with
  | nothing => rfl
  | kind htext _ hs =>
    rw [hs]
    cases v <;> first | rfl | cases htext
  | mapping _ _ hs => exact hs

namespace Education

def keptTexts (e : Education) : List Value :=
  [e.field, e.degree.subject]

theorem ReadsAs.looseTexts_eq {e : Education} (h : ReadsAs spells v e) :
    looseTexts v = e.keptTexts := by
  obtain ⟨-, -, hfield, hdegree⟩ := h
  rw [keptTexts, hfield, hdegree.subject_eq]
  rfl

theorem looseTexts_eq_of_forall₂ {items : List Value} {es : List Education}
    (h : List.Forall₂ (ReadsAs spells) items es) :
    items.flatMap looseTexts = es.flatMap keptTexts := by
  induction h with
  | nil => rfl
  | cons h _ ih => rw [List.flatMap_cons, List.flatMap_cons, h.looseTexts_eq, ih]

theorem ReadsAs.hasType_iff {e : Education} (h : ReadsAs spells v e) :
    HasType e.toValue (.record .education) ↔ ∀ w ∈ e.keptTexts, w.IsTextOrNull := by
  have hschool : e.school.isText = true := by
    obtain ⟨-, hwords, -, -⟩ := h
    exact hwords.isText
  simp [toValue, keptTexts, RecordKind.fieldTypes, hschool, Degree.hasType_toValue_iff]

end Education

namespace ConfigEntries

theorem ItemsReadAs.forall_mem {α : Type} {R : Value → α → Prop} {P : α → Prop} {v : Value}
    {as : List α} (h : ItemsReadAs R v as) (hP : ∀ v a, R v a → P a) : ∀ a ∈ as, P a := by
  cases h with
  | nothing => simp
  | list h =>
    induction h with
    | nil => simp
    | cons ha _ ih => exact List.forall_mem_cons.mpr ⟨hP _ _ ha, ih⟩

end ConfigEntries

namespace Resume

open ConfigEntries (named)

def keptTexts (r : Resume) : List Value :=
  r.education.flatMap Education.keptTexts

theorem ReadsAs.looseTexts_eq {r : Resume} (h : ReadsAs spells v r) :
    looseTexts v = r.keptTexts := by
  obtain ⟨-, -, -, -, -, -, heducation, -⟩ := h
  rw [looseTexts, keptTexts]
  generalize ConfigEntries.optional _ "education" = items at heducation ⊢
  generalize r.education = es at heducation ⊢
  cases heducation with
  | nothing => rfl
  | list h => exact Education.looseTexts_eq_of_forall₂ h

theorem ReadsAs.hasType_iff {r : Resume} (h : ReadsAs spells v r) :
    HasType r.toValue (.record .resume) ↔ ∀ w ∈ r.keptTexts, w.IsTextOrNull := by
  obtain ⟨hfirst, hlast, hprofession, hdescription, -, hskills, heducation, hwork⟩ := h
  have hskills : ∀ s ∈ r.skills, HasType s.toValue (.record .skill) :=
    hskills.forall_mem fun _ _ h => h.hasType
  have hwork : ∀ w ∈ r.work, HasType w.toValue (.record .work) :=
    hwork.forall_mem fun _ _ h => h.hasType
  have heducation : (∀ e ∈ r.education, HasType e.toValue (.record .education)) ↔
      ∀ w ∈ r.keptTexts, w.IsTextOrNull := by
    rw [keptTexts, List.forall_mem_flatMap]
    exact forall₂_congr (heducation.forall_mem fun _ _ h => h.hasType_iff)
  simp only [toValue, RecordKind.fieldTypes, HasType.record_iff, HasType.records_iff,
    HasType.text_iff, List.forall₂_cons, List.Forall₂.nil, and_true, List.forall_mem_map]
  simp only [hfirst.isText, hlast.isText, hprofession.isText, hdescription.isText,
    Contact.hasType, true_and, heducation]
  exact ⟨fun h => h.2.1, fun h => ⟨hskills, h, hwork⟩⟩

/-- Fields of study and subjects of degrees are kept as they are given. A record that is read has
the declared types if these are texts or left out, and only then. -/
theorem hasType_iff_of_ofConfig {v : Value} {r : Resume} (h : ofConfig v = .ok r) :
    r.keptTexts = looseTexts v ∧
      (HasType r.toValue (.record .resume) ↔ ∀ w ∈ looseTexts v, w.IsTextOrNull) := by
  have hread := ofConfig_eq_ok_iff.mp h
  rw [hread.looseTexts_eq]
  exact ⟨rfl, hread.hasType_iff⟩

def schooled (field : Value) : Resume where
  firstName := .text "Ada"
  lastName := .text "Lovelace"
  profession := .text ""
  description := .text ""
  contact := .absent
  skills := []
  education := [⟨⟨.int 2001, .int 2005, by decide, by decide⟩, .text "MIT", field, .absent⟩]
  work := []

def schoolConfig (field : Value) : ConfigEntries :=
  named [("school", .text "MIT"), ("start_year", .int 2001), ("end_year", .int 2005),
    ("field_of_study", field)]

def schooledConfig (field : Value) : ConfigEntries :=
  named [("first_name", .text "Ada"), ("last_name", .text "Lovelace"),
    ("education", .list [.mapping (schoolConfig field)])]

theorem looseTexts_schooledConfig (field : Value) :
    looseTexts (.mapping (schooledConfig field)) = [field, .null] := by
  simp [looseTexts, schooledConfig, schoolConfig, List.lookup_cons, Education.looseTexts,
    Degree.looseText]

theorem readsAs_schooledConfig (field : Value) :
    ReadsAs Value.isSpellable (.mapping (schooledConfig field)) (schooled field) := by
  have hschool : Education.ReadsAs Value.isSpellable (.mapping (schoolConfig field))
      ⟨⟨.int 2001, .int 2005, by decide, by decide⟩, .text "MIT", field, .absent⟩ := by
    refine .mapping ⟨?_, ?_⟩ (ConfigEntries.words_text ?_) ?_ ?_ <;>
      simp [schoolConfig, List.lookup_cons, Whole.toValue]
    exact .nothing
  refine .mapping (ConfigEntries.words_text ?_) (ConfigEntries.words_text ?_)
    (ConfigEntries.optionalWords_null ?_) (ConfigEntries.optionalWords_null ?_) ?_ ?_ ?_ ?_ <;>
    simp [schooledConfig, schooled, List.lookup_cons]
  · exact .nothing
  · exact .nothing
  · exact .list (.cons hschool .nil)
  · exact .nothing

theorem hasType_iff_of_ofConfig_schooled :
    ofConfig (.mapping (schooledConfig (.text "Mathematics"))) =
        .ok (schooled (.text "Mathematics")) ∧
      HasType (schooled (.text "Mathematics")).toValue (.record .resume) := by
  have hread := ofConfig_eq_ok_iff.mpr (readsAs_schooledConfig (.text "Mathematics"))
  refine ⟨hread, (hasType_iff_of_ofConfig hread).2.mpr ?_⟩
  simp [looseTexts_schooledConfig, Value.IsTextOrNull, Value.isText, Value.content?]

theorem not_forall_hasType_of_ofConfig :
    ¬ ∀ v r, ofConfig v = .ok r → HasType r.toValue (.record .resume) := by
  intro h
  have hread := readsAs_schooledConfig (.int 7)
  have htexts := hread.hasType_iff.mp (h _ _ (ofConfig_eq_ok_iff.mpr hread))
  simp [keptTexts, schooled, Education.keptTexts, Value.IsTextOrNull, Value.isText,
    Value.content?] at htexts

end Resume

end ResumePress
